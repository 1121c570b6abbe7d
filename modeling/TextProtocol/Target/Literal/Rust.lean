import TextProtocol.Text.Utf8
import TextProtocol.Value.Shown

/-!
# Rust literals

Texts and bytes as Rust expressions, and the texts of enumeration values.
-/

namespace TextProtocol.Target.Rust

def stringChar (c : Char) : List Char :=
  if c == '"' then ['\\', '"']
  else if c == '\\' then ['\\', '\\']
  else if c == '\n' then ['\\', 'n']
  else if c == '\r' then ['\\', 'r']
  else if c == '\t' then ['\\', 't']
  else if c.toNat == 0 then ['\\', '0']
  else if c.toNat < 0x20 || c.toNat == 0x7F then
    ['\\', 'u', '\x7b'] ++ Nat.toDigits 16 c.toNat ++ ['\x7d']
  else [c]

def stringLiteral (s : String) : String :=
  "\"" ++ String.ofList (s.toList.flatMap stringChar) ++ "\""

def byteChars (b : UInt8) : List Char :=
  let c := Char.ofNat b.toNat
  if c == '"' || c == '\\' then ['\\', c]
  else if 0x20 ≤ b && b < 0x7F then [c]
  else '\\' :: 'x' :: Text.hexPadded 2 b.toNat

def bytesOf (data : List UInt8) : String :=
  "b\"" ++ String.ofList (data.flatMap byteChars) ++ "\""

def bytesLiteral (text : String) : String :=
  bytesOf (Utf8.ofString text)

def slice (items : List String) : String :=
  "&[" ++ ", ".intercalate items ++ "]"

def stopsLiteral (stops : List String) : String :=
  slice (stops.map fun s ↦ bytesLiteral s ++ ".as_slice()")

def stringsLiteral (texts : List String) : String :=
  slice (texts.map stringLiteral)

def optional (v : Value) : String :=
  if v.isNull then "None" else s!"Some({v.plain})"

def singleChar (s : String) : Except String Char :=
  match s.toList with
  | [c] => .ok c
  | cs => .error s!"ord() expected a character, but string of length {cs.length} found"

def itemChar : Value → Except String Char
  | .text s => singleChar s
  | .unpaired t => singleChar t.readable
  | .list _ => .error "unhashable type: 'list'"
  | .object _ => .error "unhashable type: 'dict'"
  | v => .error s!"ord() expected string of length 1, but {v.kindName} found"

/-- The text of an enumeration value. A list of characters and an object whose names are characters
stand for the text that these make. -/
def valueText : Value → Except String String
  | .text s => .ok (stringLiteral s)
  | .unpaired t => .ok (stringLiteral t.readable)
  | .list items => do return stringLiteral (String.ofList (← items.mapM itemChar))
  | .object entries => do
    return stringLiteral (String.ofList (← entries.mapM fun e ↦ singleChar e.1))
  | v => .error s!"'{v.kindName}' object is not iterable"

def charClass (alphabet : String) : String :=
  let special (c : Char) : Bool := ['\\', ']', '^', '-', '[', '&', '~'].contains c
  "[" ++ String.ofList (alphabet.toList.flatMap fun c ↦ if special c then ['\\', c] else [c]) ++ "]"

end TextProtocol.Target.Rust
