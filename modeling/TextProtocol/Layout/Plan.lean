import TextProtocol.Layout.Segment
import TextProtocol.Value.Shown
import TextProtocol.Wire.Search

/-!
# Emission plans

A layout compiles to the steps of its serializer: literals are copied, fields are rendered, the
delimiter stands between fields that meet, and the terminator closes the message. A plan renders
values to bytes; a field that has no value is rendered as its default, or as nothing. Strings with
surrogates and integers with too many digits are not rendered.
-/

namespace TextProtocol

inductive Step where
  | literal (text : String)
  | field (field : Spec.Field)
  | delimiter (text : String)
  | terminator (text : String)

namespace Step

/-- The steps for segments, without the terminator. `afterField` is whether a field stands directly
before. -/
def ofSegmentsFrom (delimiter : Option String) (afterField : Bool) : List Segment → List Step
  | [] => []
  | .literal text :: rest => .literal text :: ofSegmentsFrom delimiter false rest
  | .field f :: rest =>
    let later := .field f :: ofSegmentsFrom delimiter true rest
    match delimiter with
    | some d => if afterField then .delimiter d :: later else later
    | none => later

def ofSegments (segments : List Segment) (delimiter terminator : Option String) : List Step :=
  ofSegmentsFrom (Segment.separator? delimiter) false segments ++
    (Segment.separator? terminator).toList.map .terminator

abbrev Values := List (Option String × Value)

def Values.get (values : Values) (name : Option String) : Value :=
  ((values.find? (·.1 == name)).map (·.2)).getD .null

def Values.put (values : Values) (name : Option String) (v : Value) : Values :=
  if values.any (·.1 == name) then values.map fun e ↦ if e.1 == name then (name, v) else e
  else values ++ [(name, v)]

/-- The bytes of a value in a plan. An integer is ASCII, and a buffer is shown like other values. -/
def renderValue : Value → Except Fault Bytes
  | .bool b => .ok (Utf8.ofString (if b then "true" else "false"))
  | .int n => if Text.isWritable n then .ok ((toString n).toList.map fun c ↦ UInt8.ofNat c.toNat)
    else .error .invalid
  | .bytes data => .ok data
  | .unpaired _ => .error .unencodable
  | v => if v.isShowable then .ok (Utf8.ofString v.plain) else .error .invalid

def render (values : Values) : Step → Except Fault Bytes
  | .literal text | .delimiter text | .terminator text => .ok (Utf8.ofString text)
  | .field f =>
    let given := values.get f.name
    let v := if given.isNull then f.defaultValue else given
    if v.isNull then .ok [] else renderValue v

def renderAll (steps : List Step) (values : Values) : Except Fault Bytes := do
  return (← steps.mapM (render values)).flatten

end Step

end TextProtocol
