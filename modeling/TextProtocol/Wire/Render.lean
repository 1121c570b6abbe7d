import TextProtocol.Fault
import TextProtocol.Value.Shown
import TextProtocol.Wire.Search

/-!
# Values on the wire

How a value is written: Booleans as words, bytes as they are, everything else as text. Surrogates
have no bytes, and integers with too many digits are not written.
-/

namespace TextProtocol.Wire

def render : Value → Bytes
  | .bool true => Utf8.ofString "true"
  | .bool false => Utf8.ofString "false"
  | .bytes data | .buffer data => data
  | v => Utf8.ofString v.plain

def fault? : Value → Option Fault
  | .unpaired _ => some .unencodable
  | v => if v.isShowable then none else some .invalid

def encode (v : Value) : Except Fault Bytes :=
  match fault? v with
  | none => .ok (render v)
  | some e => .error e

end TextProtocol.Wire
