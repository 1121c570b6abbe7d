import TextProtocol.Json.Writer
import TextProtocol.Text.Utf8
import TextProtocol.Value.Shown

/-!
# Go literals

Values as Go expressions. A value that is neither null, Boolean, integer, bytes nor a list is
written as a string.
-/

namespace TextProtocol.Target.Go

def stringLiteral (s : String) : String :=
  Json.writeString .unicode s

def composite (type : String) (items : List String) : String :=
  type ++ "\x7b" ++ ", ".intercalate items ++ "\x7d"

def bytesOf (data : List UInt8) : String :=
  composite "[]byte" (data.map fun b ↦ "0x" ++ String.ofList (Text.hexPadded 2 b.toNat))

mutual

def literal : Value → String
  | .null => "nil"
  | .bool b => if b then "true" else "false"
  | .int n => toString n
  | .bytes data => bytesOf data
  | .list items => composite "[]string" (literals items)
  | v => stringLiteral v.plain

def literals : List Value → List String
  | [] => []
  | v :: rest => literal v :: literals rest

end

def bytesLiteral (text : String) : String :=
  s!"[]byte({stringLiteral text})"

def stopsArguments (stops : List String) : String :=
  String.join (stops.map fun s ↦ ", " ++ bytesLiteral s)

def stringsLiteral (texts : List String) : String :=
  composite "[]string" (texts.map stringLiteral)

def patternLiteral (pattern : String) : String :=
  if pattern.contains '\x60' then stringLiteral pattern else "\x60" ++ pattern ++ "\x60"

end TextProtocol.Target.Go
