import TextProtocol.Json.Writer
import TextProtocol.Text.Utf8
import TextProtocol.Value.Shown

/-!
# Python literals

Values as Python expressions. A value that is neither null, Boolean, integer, bytes nor a list is
written as a string.
-/

namespace TextProtocol.Target.Python

def stringLiteral (s : String) : String :=
  Json.writeString .unicode s

def tuple : List String → String
  | [item] => "(" ++ item ++ ",)"
  | items => "(" ++ ", ".intercalate items ++ ")"

mutual

def literal : Value → String
  | .null => "None"
  | .bool true => "True"
  | .bool false => "False"
  | .int n => toString n
  | .bytes data => Text.quotedBytes data
  | .list items => tuple (literals items)
  | v => stringLiteral v.plain

def literals : List Value → List String
  | [] => []
  | v :: rest => literal v :: literals rest

end

def bytesLiteral (text : String) : String :=
  Text.quotedBytes (Utf8.ofString text)

def stopsLiteral (stops : List String) : String :=
  tuple (stops.map bytesLiteral)

def stringsLiteral (texts : List String) : String :=
  tuple (texts.map stringLiteral)

end TextProtocol.Target.Python
