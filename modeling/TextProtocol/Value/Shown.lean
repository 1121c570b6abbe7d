import TextProtocol.Double.Shortest
import TextProtocol.Text.Integer
import TextProtocol.Text.Quoted
import TextProtocol.Value.Basic

/-!
# Values in messages

Two texts of a value: `shown`, in which texts and byte strings stand between quotes, and `plain`,
which is the same except that a text stands for itself.
-/

namespace TextProtocol.Value

mutual

def shown : Value → String
  | .null => "None"
  | .bool b => if b then "True" else "False"
  | .int n => toString n
  | .real x => x.text
  | .text s => Text.quoted s
  | .unpaired t => Text.quotedCodes t.codes
  | .bytes data => Text.quotedBytes data
  | .buffer data => "bytearray(" ++ Text.quotedBytes data ++ ")"
  | .list items => "[" ++ ", ".intercalate (shownItems items) ++ "]"
  | .object entries => "\x7b" ++ ", ".intercalate (shownEntries entries) ++ "\x7d"

def shownItems : List Value → List String
  | [] => []
  | v :: vs => shown v :: shownItems vs

def shownEntries : List (String × Value) → List String
  | [] => []
  | (k, v) :: rest => (Text.quoted k ++ ": " ++ shown v) :: shownEntries rest

end

/-- A value as running text: a text as it is, all else as `shown`. -/
def plain : Value → String
  | .text s => s
  | .unpaired t => t.readable
  | v => v.shown

mutual

/-- Whether a value can be shown: all integers in it can be written. -/
def isShowable : Value → Bool
  | .int n => Text.isWritable n
  | .list items => areShowable items
  | .object entries => entriesAreShowable entries
  | _ => true

def areShowable : List Value → Bool
  | [] => true
  | v :: vs => isShowable v && areShowable vs

def entriesAreShowable : List (String × Value) → Bool
  | [] => true
  | (_, v) :: rest => isShowable v && entriesAreShowable rest

end

def shownName (name : Option String) : String :=
  (ofText? name).shown

def plainName (name : Option String) : String :=
  (ofText? name).plain

end TextProtocol.Value
