import TextProtocol.Codec.Record

/-!
# Serializing messages

A record is checked field by field, and written only if nothing is wrong with it. A field that is
absent is written as its default, or not at all.
-/

namespace TextProtocol.Codec

def fieldErrors (r : Record) (f : Compiled.Field) : Except Fault (List FieldError) :=
  match Value.lookup? r (memberName f.name) with
  | some v => (checkOf f).run (f.name.getD "") f.definition.isRequired (stopsOf f) v
  | none => .error .absent

def validate (m : Compiled.Message) (r : Record) : Except Fault (List FieldError) := do
  return (← m.fields.mapM (fieldErrors r)).flatten

/-- The bytes of a field. A required one is written whatever it is, one with a default always as
something, and only one without is left out. -/
def emitField (r : Record) (f : Spec.Field) : Except Fault Bytes :=
  let v := r.get (memberName f.name)
  if f.isRequired then Wire.encode v
  else if f.defaultValue.isNull then if v.isNull then .ok [] else Wire.encode v
  else Wire.encode (if v.isNull then f.defaultValue else v)

def emit (r : Record) : Step → Except Fault Bytes
  | .literal text | .delimiter text | .terminator text => .ok (Utf8.ofString text)
  | .field f => emitField r f

def serialize (m : Compiled.Message) (r : Record) :
    Except Fault (Except (List FieldError) Bytes) := do
  match ← validate m r with
  | [] => return .ok (← m.steps.mapM (emit r)).flatten
  | errors => return .error errors

/-- The message about a record that is not written. -/
def refusal (errors : List FieldError) : String :=
  "; ".intercalate (errors.map (·.message))

end TextProtocol.Codec
