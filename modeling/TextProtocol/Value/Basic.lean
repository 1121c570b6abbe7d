import TextProtocol.Double.Basic
import TextProtocol.Text.Codes

/-!
# Values

Values of spec documents and of message fields. A document holds everything but byte strings; a
field holds whatever a caller passes. The entries of an object keep the order in which their keys
first came.

A string is a `text`, or `unpaired` if it holds surrogates. Byte strings come in two kinds that hold
the same bytes: `bytes`, and a `buffer` that can be changed in place.
-/

namespace TextProtocol

inductive Value where
  | null
  | bool (b : Bool)
  | int (n : Int)
  | real (x : Double)
  | text (s : String)
  | unpaired (t : Text.Unpaired)
  | bytes (data : List UInt8)
  | buffer (data : List UInt8)
  | list (items : List Value)
  | object (entries : List (String × Value))
  deriving Inhabited, Repr

namespace Value

def isNull : Value → Bool
  | .null => true
  | _ => false

/-- Whether a value counts as true: not null, not false, not zero, not empty. -/
def truthy : Value → Bool
  | .null => false
  | .bool b => b
  | .int n => n != 0
  | .real x => !x.isZero
  | .text s => !s.isEmpty
  | .unpaired _ => true
  | .bytes data | .buffer data => !data.isEmpty
  | .list items => !items.isEmpty
  | .object entries => !entries.isEmpty

def kindName : Value → String
  | .null => "NoneType"
  | .bool _ => "bool"
  | .int _ => "int"
  | .real _ => "float"
  | .text _ | .unpaired _ => "str"
  | .bytes _ => "bytes"
  | .buffer _ => "bytearray"
  | .list _ => "list"
  | .object _ => "dict"

def putEntry (entries : List (String × Value)) (key : String) (v : Value) :
    List (String × Value) :=
  match entries with
  | [] => [(key, v)]
  | (k, w) :: rest => if k == key then (k, v) :: rest else (k, w) :: putEntry rest key v

def lookup? (entries : List (String × Value)) (key : String) : Option Value :=
  (entries.find? fun e ↦ e.1 == key).map (·.2)

/-- The value of a key of an object; `none` for a missing key and for anything but an object. -/
def get? (v : Value) (key : String) : Option Value :=
  match v with
  | .object entries => lookup? entries key
  | _ => none

def getD (v : Value) (key : String) : Value :=
  (v.get? key).getD .null

def text? : Value → Option String
  | .text s => some s
  | _ => none

def codes? : Value → Option (List Nat)
  | .text s => some (Text.codes s)
  | .unpaired t => some t.codes
  | _ => none

def data? : Value → Option (List UInt8)
  | .bytes data | .buffer data => some data
  | _ => none

def ofText? : Option String → Value
  | some s => .text s
  | none => .null

def ofBool? : Option Bool → Value
  | some b => .bool b
  | none => .null

def nat (n : Nat) : Value :=
  .int n

def ofCodes (codes : List Nat) : Value :=
  if h : codes.any Text.isSurrogate = true then .unpaired ⟨codes, h⟩
  else .text (String.ofList (codes.map Char.ofNat))

def texts (items : List String) : Value :=
  .list (items.map .text)

end Value

end TextProtocol
