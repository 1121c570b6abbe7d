import TextProtocol.Text.CharacterName.Aliases
import TextProtocol.Text.CharacterName.From0000
import TextProtocol.Text.CharacterName.From1700
import TextProtocol.Text.CharacterName.From2200
import TextProtocol.Text.CharacterName.From2C00
import TextProtocol.Text.CharacterName.FromFB00
import TextProtocol.Text.CharacterName.From13200
import TextProtocol.Text.CharacterName.From1F000
import TextProtocol.Text.CharacterName.Phrases
import TextProtocol.Text.CodeSet
import TextProtocol.Text.Hex

/-!
# Character names

The character that a Unicode name stands for, in Unicode 14. The names of Hangul syllables are put
together from the names of their parts, and those of unified ideographs from their code points; both
are recognized in capitals only. All other names are in tables and are recognized in any case.

In a table the names follow one another in the order of their characters, each told by what is
different from the name before it. A small letter tells how many characters are dropped from the end
of that name, none for `a` and all for `z`, and what follows the letter is put in their place. In
front of the letter, `@` and a code point tell where the characters go on. Phrases that many names
have in common, or several names in a row, are written as two characters. A hash at the end stands
for the character's own code point. Line breaks and the blanks after them mean nothing.
-/

namespace TextProtocol.Text.CharacterName

def tables : List String :=
  [from0000, from1700, from2200, from2C00, fromFB00, from13200, from1F000]

/-- The digits of a code point as names spell them, at least four. -/
def codeDigits (n : Nat) : List Char :=
  let digits := (Nat.toDigits 16 n).map Char.toUpper
  List.replicate (4 - digits.length) '0' ++ digits

def joined (text : String) : List Char :=
  (text.splitOn "\n").flatMap fun line ↦ line.toList.dropWhile (· == ' ')

def entriesOf (text : String) : List String :=
  (String.ofList (joined text)).splitOn "|"

def firstMarks : List Char := "!$%&()*+,.:;<=>?[]^_~".toList

def secondMarks : List Char :=
  "ABCDEFGHIJKLMNOPQRSTUVWXYZabcdefghijklmnopqrstuvwxyz0123456789".toList ++ firstMarks ++ ['-']

def writtenOutWith (known : Array (List Char)) : List Char → List Char
  | c :: d :: rest =>
    match firstMarks.idxOf? c, secondMarks.idxOf? d with
    | some i, some j => known.getD (secondMarks.length * i + j) [] ++ writtenOutWith known rest
    | _, _ => c :: writtenOutWith known (d :: rest)
  | text => text

def phrases : Array (List Char) :=
  (entriesOf phraseTable).foldl
    (fun known phrase ↦ known.push (writtenOutWith known phrase.toList)) #[]

def writtenOut (text : List Char) : List Char :=
  writtenOutWith phrases text

/-- What stands before the first small letter, and every small letter with what follows it. -/
def pieces (text : List Char) : List Char × List (Char × List Char) :=
  text.foldr (fun c p ↦ if c.isLower then ([], (c, p.1) :: p.2) else (c :: p.1, p.2)) ([], [])

def splitCode (text : List Char) : List Char × Option Nat :=
  match text.dropWhile (· != '@') with
  | [] => (text, none)
  | _ :: digits => (text.takeWhile (· != '@'), readHex? digits)

/-- What is left of a name when as many characters are dropped as a letter tells. -/
def kept (letter : Char) (name : List Char) : List Char :=
  if letter == 'z' then [] else name.take (name.length - (letter.toNat - 97))

def spell (code : Nat) (name : List Char) : List Char :=
  if name.getLast? == some '#' then name.dropLast ++ codeDigits code else name

/-- The code point of a name among those of a table, of which the next has the code point `code` and
comes after the name `last`. -/
def findIn (name : List Char) (code : Nat) (last : List Char) :
    List (Char × List Char) → Option Nat
  | [] => none
  | (letter, text) :: rest =>
    let (added, next) := splitCode text
    let spelled := kept letter last ++ added
    if spell code spelled == name then some code
    else findIn name (next.getD (code + 1)) spelled rest

def findInTable (name : List Char) (table : String) : Option Nat :=
  let (start, rest) := pieces (writtenOut (joined table))
  findIn name ((splitCode start).2.getD 0) [] rest

def findAlias (name : List Char) : Option Nat :=
  (entriesOf aliases).findSome? fun text ↦
    let entry := writtenOut text.toList
    if entry.takeWhile (· != '@') == name then readHex? ((entry.dropWhile (· != '@')).drop 1)
    else none

def leadingParts : List String :=
  ["G", "GG", "N", "D", "DD", "R", "M", "B", "BB", "S", "SS", "", "J", "JJ", "C", "K", "T", "P",
    "H"]

def vowelParts : List String :=
  ["A", "AE", "YA", "YAE", "EO", "E", "YEO", "YE", "O", "WA", "WAE", "OE", "YO", "U", "WEO", "WE",
    "WI", "YU", "EU", "YI", "I"]

def trailingParts : List String :=
  ["", "G", "GG", "GS", "N", "NJ", "NH", "D", "L", "LG", "LM", "LB", "LS", "LT", "LP", "LH", "M",
    "B", "BS", "S", "SS", "NG", "J", "C", "K", "T", "P", "H"]

def takePart? (parts : List String) (text : List Char) : Option (Nat × List Char) :=
  let found := parts.zipIdx.filter fun p ↦ p.1.toList.isPrefixOf text
  let longest? := found.foldl (fun best p ↦ match best with
    | some b => if b.1.length < p.1.length then some p else best
    | none => some p) none
  longest?.map fun p ↦ (p.2, text.drop p.1.length)

/-- The code point of a Hangul syllable, by what follows the words that all have. -/
def ofSyllable? (text : List Char) : Option Nat := do
  let (l, rest) ← takePart? leadingParts text
  let (v, rest) ← takePart? vowelParts rest
  let (t, rest) ← takePart? trailingParts rest
  if rest.isEmpty then some (0xAC00 + (l * 21 + v) * 28 + t) else none

def unifiedIdeographs : CodeSet := ⟨
  [13312, 6592, 64, 20992, 90112, 42720, 32, 4153, 7, 222, 2, 5762, 14, 7473, 5151, 4939]⟩

def ofIdeograph? (digits : List Char) : Option Nat := do
  if digits.length < 4 || 5 < digits.length || digits.any Char.isLower then none
  else
    let code ← readHex? digits
    if unifiedIdeographs.contains code then some code else none

def syllableWords : List Char := "HANGUL SYLLABLE ".toList

def ideographWords : List Char := "CJK UNIFIED IDEOGRAPH-".toList

def find? (name : List Char) : Option Nat :=
  if syllableWords.isPrefixOf name then ofSyllable? (name.drop syllableWords.length)
  else if ideographWords.isPrefixOf name then ofIdeograph? (name.drop ideographWords.length)
  else
    let name := name.map Char.toUpper
    (findAlias name).orElse fun _ ↦ tables.findSome? (findInTable name)

end TextProtocol.Text.CharacterName
