import TextProtocol.Json.Writer
import TextProtocol.Text.Utf8
import TextProtocol.Value.Shown

/-!
# TypeScript literals

Values as TypeScript expressions. A value that is neither null, Boolean, integer, bytes nor a list
is written as a string, in ASCII.
-/

namespace TextProtocol.Target.TypeScript

def stringLiteral (s : String) : String :=
  Json.writeString .ascii s

def bytesOf (data : List UInt8) : String :=
  "Uint8Array.of(" ++ ", ".intercalate (data.map fun b ↦ toString b.toNat) ++ ")"

def array (items : List String) : String :=
  "[" ++ ", ".intercalate items ++ "]"

mutual

def literal : Value → String
  | .null => "undefined"
  | .bool b => if b then "true" else "false"
  | .int n => toString n
  | .unpaired t => Json.writeUnpaired t
  | .bytes data => bytesOf data
  | .list items => array (literals items)
  | v => stringLiteral v.plain

def literals : List Value → List String
  | [] => []
  | v :: rest => literal v :: literals rest

end

def bytesLiteral (text : String) : String :=
  bytesOf (Utf8.ofString text)

def stopsLiteral (stops : List String) : String :=
  array (stops.map bytesLiteral)

def stringsLiteral (texts : List String) : String :=
  array (texts.map stringLiteral)

end TextProtocol.Target.TypeScript
