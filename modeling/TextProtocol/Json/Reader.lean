import TextProtocol.Text.Hex
import TextProtocol.Text.Integer
import TextProtocol.Value.Basic

/-!
# Reading JSON text

A reader of JSON documents that says where and why it stops. Beyond the standard it takes `NaN` and
the infinities as numbers, and of two entries with one key the later value stands, at the place of
the earlier one. A string may hold surrogates; in a key a replacement character stands for each.

The reading functions take the characters that are left and the position of the first of them. The
recursion over nested values runs on fuel; two units per character are enough, since a value and the
first item in it begin with a character each. They also take the number of levels by which values
may still be nested.
-/

namespace TextProtocol.Json

/-- What a reader expected or met where it stopped. -/
inductive Problem where
  | byteOrderMark
  | value
  | propertyName
  | colon
  | comma
  | extraData
  | unterminatedString
  | controlCharacter
  | invalidEscape
  | invalidUnicodeEscape
  deriving DecidableEq, Repr

def Problem.message : Problem → String
  | .byteOrderMark => "Unexpected UTF-8 BOM (decode using utf-8-sig)"
  | .value => "Expecting value"
  | .propertyName => "Expecting property name enclosed in double quotes"
  | .colon => "Expecting ':' delimiter"
  | .comma => "Expecting ',' delimiter"
  | .extraData => "Extra data"
  | .unterminatedString => "Unterminated string starting at"
  | .controlCharacter => "Invalid control character at"
  | .invalidEscape => "Invalid \\escape"
  | .invalidUnicodeEscape => "Invalid \\uXXXX escape"

inductive ReadError where
  /-- A problem at a position, counted in characters from zero. -/
  | problem (what : Problem) (position : Nat)
  | tooManyDigits
  /-- Lists and objects nested more deeply than are read. -/
  | tooDeep
  deriving DecidableEq, Repr

/-- The most lists and objects that may stand one in another. -/
def maxDepth : Nat := 990

def describe (document : List Char) (what : Problem) (position : Nat) : String :=
  let before := document.take position
  let line := before.count '\n' + 1
  let column := (before.reverse.takeWhile (· != '\n')).length + 1
  s!"{what.message}: line {line} column {column} (char {position})"

def isSpace (c : Char) : Bool :=
  c == ' ' || c == '\t' || c == '\n' || c == '\r'

def skipSpace : List Char → Nat → List Char × Nat
  | c :: cs, p => if isSpace c then skipSpace cs (p + 1) else (c :: cs, p)
  | [], p => ([], p)

def isDigit (c : Char) : Bool :=
  '0' ≤ c && c ≤ '9'

def digitsValue (ds : List Char) : Nat :=
  ds.foldl (fun n c ↦ 10 * n + (c.toNat - 48)) 0

/-- The numeral at the beginning of the text: its value and what is left, or `none`. -/
def readNumeral (cs : List Char) : Option (Except ReadError Value × List Char) :=
  let (negative, cs) := match cs with
    | '-' :: rest => (true, rest)
    | _ => (false, cs)
  let (whole, rest) := match cs with
    | '0' :: rest => (['0'], rest)
    | _ => cs.span isDigit
  if whole.isEmpty then none
  else
    let (fraction, rest) := match rest with
      | '.' :: more =>
        let (ds, left) := more.span isDigit
        if ds.isEmpty then ([], rest) else (ds, left)
      | _ => ([], rest)
    let (power, rest) := match rest with
      | mark :: more =>
        if mark == 'e' || mark == 'E' then
          let (sign, more) := match more with
            | '-' :: m => (true, m)
            | '+' :: m => (false, m)
            | m => (false, m)
          let (ds, left) := more.span isDigit
          if ds.isEmpty then (none, rest)
          else (some (if sign then -(digitsValue ds : Int) else digitsValue ds), left)
        else (none, rest)
      | [] => (none, rest)
    if fraction.isEmpty && power.isNone then
      if Text.maxDigits < whole.length then some (.error .tooManyDigits, rest)
      else
        let n : Int := digitsValue whole
        some (.ok (.int (if negative then -n else n)), rest)
    else
      let x := Double.ofDecimal negative (digitsValue (whole ++ fraction))
        (power.getD 0 - fraction.length)
      some (.ok (.real x), rest)

/-- The code unit spelled by the first four characters, if they are hexadecimal digits. -/
def readUnit? (cs : List Char) : Option Nat :=
  if (cs.take 4).length = 4 then Text.readHex? (cs.take 4) else none

/-- A Unicode escape after its `u`: the code point and what is left. `p` is the position of the
`u`. At least one character must follow the four digits. A low surrogate written as an escape joins
the high surrogate before it; other surrogates stand alone. -/
def readUnicodeEscape (cs : List Char) (p : Nat) : Except ReadError (Nat × List Char × Nat) :=
  if cs.length ≤ 4 then .error (.problem .invalidUnicodeEscape p)
  else match readUnit? cs with
    | none => .error (.problem .invalidUnicodeEscape p)
    | some high =>
      let rest := cs.drop 4
      let alone : Except ReadError (Nat × List Char × Nat) := .ok (high, rest, p + 5)
      if 0xD800 ≤ high ∧ high < 0xDC00 then
        match rest with
        | '\\' :: 'u' :: more =>
          if more.length ≤ 4 then alone
          else match readUnit? more with
            | none => .error (.problem .invalidUnicodeEscape (p + 6))
            | some low =>
              if 0xDC00 ≤ low ∧ low < 0xE000 then
                .ok (0x10000 + (high - 0xD800) * 0x400 + (low - 0xDC00), more.drop 4, p + 11)
              else alone
        | _ => alone
      else alone

def simpleEscape? : Char → Option Char
  | '"' => some '"'
  | '\\' => some '\\'
  | '/' => some '/'
  | 'b' => some (Char.ofNat 8)
  | 'f' => some (Char.ofNat 12)
  | 'n' => some '\n'
  | 'r' => some '\r'
  | 't' => some '\t'
  | _ => none

/-- A string after its opening quote, whose position is `start`: its code points, what is left and
its position. `read` is what was read so far, reversed. -/
def readString (start : Nat) : (fuel : Nat) → (read : List Nat) → (cs : List Char) → (p : Nat) →
    Except ReadError (List Nat × List Char × Nat)
  | 0, _, _, _ => .error (.problem .unterminatedString start)
  | fuel + 1, read, cs, p =>
    match cs with
    | [] => .error (.problem .unterminatedString start)
    | '"' :: rest => .ok (read.reverse, rest, p + 1)
    | '\\' :: rest =>
      match rest with
      | [] => .error (.problem .unterminatedString start)
      | 'u' :: more => do
        let (c, left, q) ← readUnicodeEscape more (p + 1)
        readString start fuel (c :: read) left q
      | c :: more =>
        match simpleEscape? c with
        | some d => readString start fuel (d.toNat :: read) more (p + 2)
        | none => .error (.problem .invalidEscape p)
    | c :: rest =>
      if c.toNat < 32 then .error (.problem .controlCharacter p)
      else readString start fuel (c.toNat :: read) rest (p + 1)

def words : List (List Char × Value) :=
  [("null".toList, .null), ("true".toList, .bool true), ("false".toList, .bool false),
    ("NaN".toList, .real .nan), ("Infinity".toList, .real (.infinite false)),
    ("-Infinity".toList, .real (.infinite true))]

/-- A value that is neither a string, a list nor an object. -/
def readScalar (cs : List Char) (p : Nat) : Except ReadError (Value × List Char × Nat) :=
  match words.find? fun w ↦ w.1.isPrefixOf cs with
  | some (w, v) => .ok (v, cs.drop w.length, p + w.length)
  | none =>
    match readNumeral cs with
    | some (.ok v, rest) => .ok (v, rest, p + (cs.length - rest.length))
    | some (.error e, _) => .error e
    | none => .error (.problem .value p)

mutual

def readValue : (fuel levels : Nat) → List Char → Nat →
    Except ReadError (Value × List Char × Nat)
  | 0, _, _, p => .error (.problem .value p)
  | fuel + 1, levels, cs, p =>
    match cs with
    | '"' :: rest => do
      let (codes, left, q) ← readString p (rest.length + 1) [] rest (p + 1)
      return (.ofCodes codes, left, q)
    | '[' :: rest =>
      match levels, skipSpace rest (p + 1) with
      | 0, _ => .error .tooDeep
      | _, (']' :: left, q) => .ok (.list [], left, q + 1)
      | levels + 1, (left, q) => readItems fuel levels [] left q
    | '\x7b' :: rest =>
      match levels, skipSpace rest (p + 1) with
      | 0, _ => .error .tooDeep
      | _, ('\x7d' :: left, q) => .ok (.object [], left, q + 1)
      | levels + 1, (left, q) => readEntries fuel levels [] left q
    | _ => readScalar cs p

/-- The items of a list up to its closing bracket. `items` are those read so far, reversed. -/
def readItems : (fuel levels : Nat) → List Value → List Char → Nat →
    Except ReadError (Value × List Char × Nat)
  | 0, _, _, _, p => .error (.problem .value p)
  | fuel + 1, levels, items, cs, p => do
    let (v, left, q) ← readValue fuel levels cs p
    match skipSpace left q with
    | (']' :: rest, r) => return (.list (v :: items).reverse, rest, r + 1)
    | (',' :: rest, r) =>
      let (rest, r) := skipSpace rest (r + 1)
      readItems fuel levels (v :: items) rest r
    | (_, r) => .error (.problem .comma r)

def readEntries : (fuel levels : Nat) → List (String × Value) → List Char → Nat →
    Except ReadError (Value × List Char × Nat)
  | 0, _, _, _, p => .error (.problem .value p)
  | fuel + 1, levels, entries, cs, p =>
    match cs with
    | '"' :: rest => do
      let (codes, left, q) ← readString p (rest.length + 1) [] rest (p + 1)
      let key := String.ofList (codes.map Text.replacement)
      match skipSpace left q with
      | (':' :: rest, r) =>
        let (rest, r) := skipSpace rest (r + 1)
        let (v, left, q) ← readValue fuel levels rest r
        let entries := Value.putEntry entries key v
        match skipSpace left q with
        | ('\x7d' :: rest, r) => return (.object entries, rest, r + 1)
        | (',' :: rest, r) =>
          let (rest, r) := skipSpace rest (r + 1)
          readEntries fuel levels entries rest r
        | (_, r) => .error (.problem .comma r)
      | (_, r) => .error (.problem .colon r)
    | _ => .error (.problem .propertyName p)

end

def read (document : List Char) : Except ReadError Value :=
  match document with
  | '\ufeff' :: _ => .error (.problem .byteOrderMark 0)
  | _ => do
    let (cs, p) := skipSpace document 0
    let (v, left, q) ← readValue (2 * document.length + 2) maxDepth cs p
    match skipSpace left q with
    | ([], _) => return v
    | (_, r) => .error (.problem .extraData r)

end TextProtocol.Json
