import TextProtocol.Double.Shortest
import TextProtocol.Text.Hex
import TextProtocol.Value.Basic

/-!
# Writing JSON text

Strings are written in one of two alphabets: all of Unicode, or ASCII with the other characters as
escapes of UTF-16 code units. Documents are written on one line or indented by two spaces a level.
-/

namespace TextProtocol.Json

/-- Which characters a written string may hold as they are. -/
inductive Alphabet where
  | ascii
  | unicode
  deriving DecidableEq, Repr

def unitEscape (n : Nat) : List Char :=
  '\\' :: 'u' :: Text.hexPadded 4 n

def writeChar (alphabet : Alphabet) (c : Char) : List Char :=
  if c == '"' then ['\\', '"']
  else if c == '\\' then ['\\', '\\']
  else if c == '\n' then ['\\', 'n']
  else if c == '\r' then ['\\', 'r']
  else if c == '\t' then ['\\', 't']
  else if c.toNat == 8 then ['\\', 'b']
  else if c.toNat == 12 then ['\\', 'f']
  else if c.toNat < 32 then unitEscape c.toNat
  else if alphabet == .unicode || c.toNat < 127 then [c]
  else if c.toNat < 0x10000 then unitEscape c.toNat
  else
    unitEscape (0xD800 + (c.toNat - 0x10000) / 0x400)
      ++ unitEscape (0xDC00 + (c.toNat - 0x10000) % 0x400)

def stringBody (alphabet : Alphabet) (s : String) : String :=
  String.ofList (s.toList.flatMap (writeChar alphabet))

def writeString (alphabet : Alphabet) (s : String) : String :=
  "\"" ++ stringBody alphabet s ++ "\""

def writeUnpaired (t : Text.Unpaired) : String :=
  let item (code : Nat) : List Char :=
    if Text.isSurrogate code then unitEscape code else writeChar .ascii (Char.ofNat code)
  "\"" ++ String.ofList (t.codes.flatMap item) ++ "\""

def writeReal : Double → String
  | .nan => "NaN"
  | .infinite s => if s then "-Infinity" else "Infinity"
  | x => x.text

mutual

/-- A value on one line, in ASCII and without blanks. A byte string is written as an object with the
hexadecimal digits under `hex`. -/
def compact : Value → String
  | .null => "null"
  | .bool b => if b then "true" else "false"
  | .int n => toString n
  | .real x => writeReal x
  | .text s => writeString .ascii s
  | .unpaired t => writeUnpaired t
  | .bytes data | .buffer data => "\x7b\"hex\":\"" ++ Text.hexBytes data ++ "\"\x7d"
  | .list items => "[" ++ ",".intercalate (compactItems items) ++ "]"
  | .object entries => "\x7b" ++ ",".intercalate (compactEntries entries) ++ "\x7d"

def compactItems : List Value → List String
  | [] => []
  | v :: vs => compact v :: compactItems vs

def compactEntries : List (String × Value) → List String
  | [] => []
  | (k, v) :: rest => (writeString .ascii k ++ ":" ++ compact v) :: compactEntries rest

end

def newLine (level : Nat) : String :=
  String.ofList ('\n' :: List.replicate (2 * level) ' ')

mutual

def indented (level : Nat) : Value → String
  | .null => "null"
  | .bool b => if b then "true" else "false"
  | .int n => toString n
  | .real x => writeReal x
  | .text s => writeString .ascii s
  | .unpaired t => writeUnpaired t
  | .bytes data | .buffer data => writeString .ascii (Text.hexBytes data)
  | .list [] => "[]"
  | .list (v :: vs) =>
    "[" ++ newLine (level + 1)
      ++ ("," ++ newLine (level + 1)).intercalate (indentedItems (level + 1) (v :: vs))
      ++ newLine level ++ "]"
  | .object [] => "\x7b\x7d"
  | .object (e :: es) =>
    "\x7b" ++ newLine (level + 1)
      ++ ("," ++ newLine (level + 1)).intercalate (indentedEntries (level + 1) (e :: es))
      ++ newLine level ++ "\x7d"

def indentedItems (level : Nat) : List Value → List String
  | [] => []
  | v :: vs => indented level v :: indentedItems level vs

def indentedEntries (level : Nat) : List (String × Value) → List String
  | [] => []
  | (k, v) :: rest =>
    (writeString .ascii k ++ ": " ++ indented level v) :: indentedEntries level rest

end

end TextProtocol.Json
