import TextProtocol.Proofs.Text.Escapes
import TextProtocol.Script.Literal
import TextProtocol.Text.Utf8

/-!
# How literals are read

What the literals of generated sources stand for, by the rules of the languages that they are
written in. A literal of text stands for numbers: code points in Rust, code units of UTF-16 in
TypeScript, bytes in Go. What languages forbid in sources as a whole (the zero character, say) is
not looked at here, and low lines between digits in braces, which Rust allows, are not read.

The languages share the form of a quoted literal, `Quoting.read`, and differ in what characters may
stand in it and in their escapes. A text `Spells` numbers if they are read off it whatever comes
next, so that a literal can be read part by part.
-/

namespace TextProtocol.Target

/-! ## Digits -/

/-- The number written with so many hexadecimal digits at the beginning of a text. -/
def digits? (width : Nat) (text : List Char) : Option Nat :=
  if width ≤ text.length then Text.readHex? (text.take width) else none

/-- The number written with hexadecimal digits in braces, after the opening brace, and the number of
digits. -/
def braced? (text : List Char) : Option (Nat × Nat) :=
  let digits := text.takeWhile (· != '\x7d')
  if digits.isEmpty || digits.length == text.length then none
  else (Text.readHex? digits).map (·, digits.length)

theorem digits?_hexPadded {w n : Nat} (h : n < 16 ^ w) (rest : List Char) :
    digits? w (Text.hexPadded w n ++ rest) = some n := by
  rw [digits?, if_pos (by simp [Text.length_hexPadded]),
    List.take_left' (Text.length_hexPadded w n), Text.readHex?_hexPadded h]

/-! ## Quoted literals -/

/-- The rules for the text of a literal between double quotation marks. -/
structure Quoting where
  /-- What a character stands for, if it may stand in a literal. -/
  plain : Char → Option (List Nat)
  /-- What the escapes with one letter stand for. -/
  short : List (Char × Nat)
  /-- What any other escape stands for, by the letter and the text after it, and how many characters
  of that text belong to it. -/
  long : Char → List Char → Option (List Nat × Nat)

namespace Quoting

/-- What an escape stands for, by the text after the backslash, and its length. -/
def escape (q : Quoting) : List Char → Option (List Nat × Nat)
  | [] => none
  | c :: rest => match q.short.lookup c with
    | some n => some ([n], 1)
    | none => (q.long c rest).map fun p ↦ (p.1, p.2 + 1)

/-- What a literal stands for from some place on, and what follows it. `skip` characters belong to
an escape that has been read. -/
def readFrom (q : Quoting) : (skip : Nat) → List Char → Option (List Nat × List Char)
  | _, [] => none
  | skip + 1, _ :: rest => q.readFrom skip rest
  | 0, c :: rest =>
    if c = '"' then some ([], rest)
    else (if c = '\\' then q.escape rest else (q.plain c).map (·, 0)).bind fun p ↦
      (q.readFrom p.2 rest).map fun more ↦ (p.1 ++ more.1, more.2)

/-- What a literal stands for, and what follows it. -/
def read (q : Quoting) : List Char → Option (List Nat × List Char)
  | '"' :: rest => q.readFrom 0 rest
  | _ => none

/-- Whether some numbers are read off a text, whatever comes after it. -/
def Spells (q : Quoting) (text : List Char) (value : List Nat) : Prop :=
  ∀ rest, q.readFrom 0 (text ++ rest) =
    (q.readFrom 0 rest).map fun more ↦ (value ++ more.1, more.2)

variable {q : Quoting}

theorem readFrom_skip (front rest : List Char) :
    q.readFrom front.length (front ++ rest) = q.readFrom 0 rest := by
  induction front with
  | nil => rfl
  | cons c front ih => exact ih

namespace Spells

theorem append {a b : List Char} {u v : List Nat} (ha : q.Spells a u) (hb : q.Spells b v) :
    q.Spells (a ++ b) (u ++ v) := by
  intro rest
  rw [List.append_assoc, ha, hb, Option.map_map]
  simp [Function.comp_def]

theorem flatMap {α : Type} {write : α → List Char} {value : α → List Nat} {items : List α}
    (h : ∀ a ∈ items, q.Spells (write a) (value a)) :
    q.Spells (items.flatMap write) (items.flatMap value) := by
  induction items with
  | nil => exact fun rest ↦ by simp
  | cons a items ih =>
    rw [List.forall_mem_cons] at h
    rw [List.flatMap_cons, List.flatMap_cons]
    exact h.1.append (ih h.2)

theorem plain {c : Char} {value : List Nat} (hmark : c ≠ '"') (hslash : c ≠ '\\')
    (h : q.plain c = some value) : q.Spells [c] value := by
  intro rest
  rw [List.singleton_append, readFrom, if_neg hmark, if_neg hslash, h]
  rfl

theorem escape {text : List Char} {value : List Nat}
    (h : ∀ rest, q.escape (text ++ rest) = some (value, text.length)) :
    q.Spells ('\\' :: text) value := by
  intro rest
  rw [List.cons_append, readFrom, if_neg (by decide), if_pos rfl, h, Option.bind_some,
    readFrom_skip]

theorem short {c : Char} {n : Nat} (h : q.short.lookup c = some n) : q.Spells ['\\', c] [n] := by
  refine escape fun rest ↦ ?_
  rw [List.singleton_append, Quoting.escape, h]
  rfl

theorem long {c : Char} {text : List Char} {value : List Nat} (hc : q.short.lookup c = none)
    (h : ∀ rest, q.long c (text ++ rest) = some (value, text.length)) :
    q.Spells ('\\' :: c :: text) value := by
  refine escape fun rest ↦ ?_
  rw [List.cons_append, Quoting.escape, hc, h]
  rfl

/-- A literal is read up to its second mark. -/
theorem read_eq {text : List Char} {value : List Nat} (h : q.Spells text value)
    (rest : List Char) : q.read ('"' :: (text ++ '"' :: rest)) = some (value, rest) := by
  rw [read, h, readFrom, if_pos rfl]
  simp

end Spells

end Quoting

/-! ## Rows of numbers -/

/-- A numeral without zeros in front. -/
def decimal? (digits : List Char) : Option Nat :=
  if digits ≠ [] ∧ digits.all Char.isDigit ∧ (digits.head? = some '0' → digits.length = 1) then
    some (Nat.ofDigitChars 10 digits 0)
  else none

/-- The numbers in a row with commas between them, up to a bracket, and what follows it. `run` holds
the reversed characters of a number that has begun; blanks stand in front of numbers only. -/
def readRow (number : List Char → Option Nat) (closing : Char) :
    (run : List Char) → List Char → Option (List Nat × List Char)
  | _, [] => none
  | run, c :: rest =>
    if c = closing then
      if run = [] then some ([], rest) else (number run.reverse).map fun n ↦ ([n], rest)
    else if c = ',' then
      (number run.reverse).bind fun n ↦
        (readRow number closing [] rest).map fun more ↦ (n :: more.1, more.2)
    else if c = ' ' ∧ run = [] then readRow number closing [] rest
    else readRow number closing (c :: run) rest

/-- The numbers in a row after the opening text of an expression. -/
def readBracketed (opening : String) (number : List Char → Option Nat) (closing : Char)
    (source : List Char) : Option (List Nat × List Char) :=
  if opening.toList.isPrefixOf source then
    readRow number closing [] (source.drop opening.toList.length)
  else none

/-! ## Languages -/

/-- The literal of text or bytes at the beginning of a Python expression. -/
def Python.readLiteral (source : List Char) : Option (Script.Written × List Char) :=
  match Script.readToken source with
  | some (.quote literal, rest) => literal.written?.map (·, rest)
  | _ => none

namespace TypeScript

def units (n : Nat) : List Nat :=
  if n < 0x10000 then [n] else [0xD800 + (n - 0x10000) / 0x400, 0xDC00 + (n - 0x10000) % 0x400]

/-- The code points of a row of code units. A unit that is half of a pair is one by itself, if the
other half is missing. -/
def points : List Nat → List Nat
  | [] => []
  | [unit] => [unit]
  | high :: low :: rest =>
    if 0xD800 ≤ high ∧ high < 0xDC00 ∧ 0xDC00 ≤ low ∧ low < 0xE000 then
      (0x10000 + (high - 0xD800) * 0x400 + (low - 0xDC00)) :: points rest
    else high :: points (low :: rest)

/-- Quoted literals in modules. A backslash in front of a line break stands for nothing, and one in
front of any character without a meaning of its own for that character. -/
def quoting : Quoting where
  plain c := if c = '\n' ∨ c = '\r' then none else some (units c.toNat)
  short := [('"', 34), ('\'', 39), ('\\', 92), ('b', 8), ('f', 12), ('n', 10), ('r', 13), ('t', 9),
    ('v', 11)]
  long c rest :=
    if c = 'x' then (digits? 2 rest).map fun n ↦ ([n], 2)
    else if c = 'u' then
      if rest.head? = some '\x7b' then (braced? rest.tail).bind fun p ↦
        if p.1 ≤ 0x10FFFF then some (units p.1, p.2 + 2) else none
      else (digits? 4 rest).map fun n ↦ ([n], 4)
    else if c = '0' ∧ rest.head?.any Char.isDigit = false then some ([0], 0)
    else if c.isDigit then none
    else if c = '\r' ∧ rest.head? = some '\n' then some ([], 1)
    else if ['\n', '\r', '\u2028', '\u2029'].contains c then some ([], 0)
    else some (units c.toNat, 0)

def readText (source : List Char) : Option (List Nat × List Char) :=
  (quoting.read source).map fun p ↦ (points p.1, p.2)

def readBytes : List Char → Option (List Nat × List Char) :=
  readBracketed "Uint8Array.of(" (fun digits ↦ (decimal? digits).map (· % 256)) ')'

end TypeScript

namespace Go

def runeBytes (n : Nat) : Option (List Nat) :=
  if n.isValidChar then some ((Utf8.encodeChar (Char.ofNat n)).map UInt8.toNat) else none

def quoting : Quoting where
  plain c := if c = '\n' then none else some ((Utf8.encodeChar c).map UInt8.toNat)
  short := [('"', 34), ('\\', 92), ('a', 7), ('b', 8), ('f', 12), ('n', 10), ('r', 13), ('t', 9),
    ('v', 11)]
  long c rest :=
    if c = 'x' then (digits? 2 rest).map fun n ↦ ([n], 2)
    else if c = 'u' then ((digits? 4 rest).bind runeBytes).map (·, 4)
    else if c = 'U' then ((digits? 8 rest).bind runeBytes).map (·, 8)
    else
      let digits := c :: rest.take 2
      let n := Script.runValue 8 digits
      if digits.length = 3 ∧ digits.all Script.isOctal ∧ n < 256 then some ([n], 2) else none

/-- The bytes of a raw literal after its first back quote. Carriage returns do not count. -/
def readRaw : List Char → Option (List Nat × List Char)
  | [] => none
  | c :: rest =>
    if c = '\x60' then some ([], rest)
    else (readRaw rest).map fun more ↦
      (if c = '\r' then more.1 else (Utf8.encodeChar c).map UInt8.toNat ++ more.1, more.2)

def readText : List Char → Option (List Nat × List Char)
  | '\x60' :: rest => readRaw rest
  | source => quoting.read source

def byte? : List Char → Option Nat
  | '0' :: 'x' :: digits => if digits = [] then none else (Text.readHex? digits).filter (· < 256)
  | digits => (decimal? digits).filter (· < 256)

def readBytes : List Char → Option (List Nat × List Char) :=
  readBracketed "[]byte\x7b" byte? '\x7d'

end Go

namespace Rust

def shortEscapes : List (Char × Nat) :=
  [('"', 34), ('\'', 39), ('\\', 92), ('n', 10), ('r', 13), ('t', 9), ('0', 0)]

/-- A line break after a backslash stands for nothing, with the blanks after it. -/
def lineEscape (c : Char) (rest : List Char) : Option (List Nat × Nat) :=
  if c = '\n' then some ([], (rest.takeWhile [' ', '\t', '\n', '\r'].contains).length) else none

def quoting : Quoting where
  plain c := if c = '\r' then none else some [c.toNat]
  short := shortEscapes
  long c rest :=
    if c = 'x' then ((digits? 2 rest).filter (· < 128)).map fun n ↦ ([n], 2)
    else if c = 'u' ∧ rest.head? = some '\x7b' then (braced? rest.tail).bind fun p ↦
      if p.2 ≤ 6 ∧ p.1.isValidChar then some ([p.1], p.2 + 2) else none
    else lineEscape c rest

/-- Literals of bytes, after the letter in front. -/
def byteQuoting : Quoting where
  plain c := if c = '\r' ∨ 128 ≤ c.toNat then none else some [c.toNat]
  short := shortEscapes
  long c rest := if c = 'x' then (digits? 2 rest).map fun n ↦ ([n], 2) else lineEscape c rest

def readBytes : List Char → Option (List Nat × List Char)
  | 'b' :: rest => byteQuoting.read rest
  | _ => none

end Rust

end TextProtocol.Target
