import TextProtocol.Script.Token
import TextProtocol.Text.CharacterName

/-!
# String literals in Python modules

What a string literal stands for: its escapes, and the pieces of a formatted one, whose holes hold
expressions.
-/

namespace TextProtocol.Script

/-! ## Escapes -/

/-- The character at a code point; one that is half of a pair is replaced. -/
def charAt (code : Nat) : Char :=
  if 0xD800 ≤ code && code < 0xE000 then Char.ofNat 0xFFFD else Char.ofNat code

/-- A character written with so many hexadecimal digits, and what follows them. -/
def readCode? (width : Nat) (rest : List Char) : Option (List Char × List Char) := do
  guard (width ≤ rest.length)
  let code ← Text.readHex? (rest.take width)
  guard (code ≤ 0x10FFFF)
  return ([charAt code], rest.drop width)

def readName? : List Char → Option (List Char × List Char)
  | '\x7b' :: rest => do
    guard (rest.contains '\x7d')
    let code ← Text.CharacterName.find? (rest.takeWhile (· != '\x7d'))
    return ([charAt code], (rest.dropWhile (· != '\x7d')).drop 1)
  | _ => none

def isOctal (c : Char) : Bool :=
  isDigitOf 8 c

def controls : List (Char × Char) :=
  [('\\', '\\'), ('\'', '\''), ('"', '"'), ('a', '\x07'), ('b', '\x08'), ('f', '\x0c'),
    ('n', '\n'), ('r', '\r'), ('t', '\t'), ('v', '\x0b')]

/-- What an escape stands for, by the text after the backslash, and what follows it. An escape that
means nothing stands for itself, and so does a backslash in front of a hole. -/
def readEscape? (isBytes : Bool) : List Char → Option (List Char × List Char)
  | [] => some (['\\'], [])
  | c :: rest =>
    if c == '\n' then some ([], rest)
    else if c == 'x' then readCode? 2 rest
    else if !isBytes && c == 'u' then readCode? 4 rest
    else if !isBytes && c == 'U' then readCode? 8 rest
    else if !isBytes && c == 'N' then readName? rest
    else if isOctal c then
      let digits := (c :: rest.take 2).takeWhile isOctal
      some ([charAt (runValue 8 digits)], rest.drop (digits.length - 1))
    else match controls.lookup c with
      | some control => some ([control], rest)
      | none => some (['\\', c], rest)

def unescapeFrom (isBytes : Bool) : (fuel : Nat) → List Char → Option (List Char)
  | 0, _ => none
  | _ + 1, [] => some []
  | fuel + 1, c :: rest =>
    if c == '\\' then do
      let (front, rest) ← readEscape? isBytes rest
      return front ++ (← unescapeFrom isBytes fuel rest)
    else (unescapeFrom isBytes fuel rest).map (c :: ·)

def unescape (isBytes raw : Bool) (text : List Char) : Option (List Char) :=
  if raw then some text else unescapeFrom isBytes (text.length + 1) text

/-! ## Holes -/

def keeping (count : Nat) (text : List Char) (read : List Char → Option (List Char × List Char)) :
    Option (List Char × List Char) :=
  (read (text.drop count)).map fun (kept, rest) ↦ (text.take count ++ kept, rest)

/-- The source of the expression in a hole and what follows it, where `quote?` is the open string
literal, with whether it ends with three marks, and `opened` holds the open brackets. -/
def holeSource : (fuel : Nat) → (quote? : Option (Char × Bool)) → (opened : List Char) →
    List Char → Option (List Char × List Char)
  | 0, _, _, _ => none
  | _, _, _, [] => none
  | fuel + 1, some (mark, long), opened, text@(c :: rest) =>
    let tripled := rest.take 2 == [c, c]
    if c == '\\' then none
    else if c != mark || (long && !tripled) then
      keeping 1 text (holeSource fuel (some (mark, long)) opened)
    else keeping (if long then 3 else 1) text (holeSource fuel none opened)
  | fuel + 1, none, opened, text@(c :: rest) =>
    if c == '\\' || c == '#' then none
    else if isMark c then
      let tripled := rest.take 2 == [c, c]
      keeping (if tripled then 3 else 1) text (holeSource fuel (some (c, tripled)) opened)
    else if "([\x7b".contains c then keeping 1 text (holeSource fuel none (c :: opened))
    else if opened.isEmpty && "!:\x7d=<>".contains c then
      if c != ':' && c != '\x7d' && rest.head? == some '=' then
        keeping 2 text (holeSource fuel none opened)
      else if c == '<' || c == '>' then keeping 1 text (holeSource fuel none opened)
      else some ([], text)
    else if ")]\x7d".contains c then
      match opened with
      | opening :: more =>
        if areBrackets opening.toString c.toString then
          keeping 1 text (holeSource fuel none more)
        else none
      | [] => none
    else keeping 1 text (holeSource fuel none opened)

def isHoleBlank (c : Char) : Bool :=
  isGap c || c == '\n'

/-- Whether there is the mark that asks for the source of a hole, and what follows it and the blanks
after it. -/
def afterEquals : List Char → Bool × List Char
  | '=' :: rest => (true, rest.dropWhile fun c ↦ isHoleBlank c || c == '\x0b')
  | rest => (false, rest)

def readConversion : List Char → Option (Bool × List Char)
  | '!' :: c :: rest => if "sra".contains c then some (true, rest) else none
  | ['!'] => none
  | rest => some (false, rest)

/-! ## Pieces of formatted literals -/

inductive Piece where
  | text (chars : List Char)
  /-- The source of an expression, whether it is converted to a text first, and the pieces of the
  format that it is shown in. -/
  | hole (source : List Char) (converted : Bool) (format : List Piece)

/-- Literal text and what follows it, which is a brace or nothing. Outside holes two braces stand
for one, and a closing brace does not stand alone. -/
def pieceText (raw nested : Bool) : (fuel : Nat) → List Char → Option (List Char × List Char)
  | 0, _ => none
  | _ + 1, [] => some ([], [])
  | fuel + 1, text@(c :: rest) =>
    if c == '\\' && !raw && ['N', '\x7b'].isPrefixOf rest then
      let name := rest.takeWhile (· != '\x7d')
      keeping (name.length + 2) text (pieceText raw nested fuel)
    else if c == '\\' && !raw && rest.head?.any (fun d ↦ d != '\x7b' && d != '\x7d') then
      keeping 2 text (pieceText raw nested fuel)
    else if c == '\x7b' || c == '\x7d' then
      if nested then some ([], text)
      else if rest.head? == some c then
        (pieceText raw nested fuel (rest.drop 1)).map fun (kept, rest) ↦ (c :: kept, rest)
      else if c == '\x7d' then none
      else some ([], text)
    else keeping 1 text (pieceText raw nested fuel)

/-- The pieces of a formatted literal and what follows them. Holes are nested at most twice. -/
def readPieces (raw : Bool) : (fuel : Nat) → (level : Nat) → List Char →
    Option (List Piece × List Char)
  | 0, _, _ => none
  | fuel + 1, level, text => do
    let (chars, rest) ← pieceText raw (0 < level) (text.length + 1) text
    let front := Piece.text (← unescape false raw chars)
    match rest with
    | '\x7b' :: rest =>
      guard (level < 2)
      let (source, rest) ← holeSource (rest.length + 1) none [] rest
      guard (source.any (!isHoleBlank ·))
      let (explained, rest) := afterEquals rest
      let (converted, rest) ← readConversion rest
      let (format, rest) ← match rest with
        | ':' :: rest => readPieces raw fuel (level + 1) rest
        | _ => pure ([], rest)
      match rest with
      | '\x7d' :: rest =>
        let (more, rest) ← readPieces raw fuel level rest
        let hole := Piece.hole source (converted || (explained && format.isEmpty)) format
        let front := if explained then [front, .text (source ++ ['='])] else [front]
        return (front ++ hole :: more, rest)
      | _ => failure
    | rest => return ([front], rest)

inductive Written where
  | text (chars : List Char)
  | bytes (data : List Char)
  | formatted (pieces : List Piece)

/-- What a string literal stands for, if it means something. -/
def Quote.written? (q : Quote) : Option Written :=
  let raw := q.letters.contains 'r'
  if q.letters.contains 'b' then do
    guard (q.body.all (·.toNat < 128))
    return .bytes (← unescape true raw q.body)
  else if q.letters.contains 'f' then do
    let (pieces, rest) ← readPieces raw (q.body.length + 1) 0 q.body
    guard rest.isEmpty
    return .formatted pieces
  else (unescape false raw q.body).map .text

def Quote.isBytes (q : Quote) : Bool :=
  q.letters.contains 'b'

end TextProtocol.Script
