import TextProtocol.Spec.Decode

/-!
# Documents with specifications

Reading a specification from a decoded document or from its text. Most problems end in a load error
with a message; a few slip through as plain faults.
-/

namespace TextProtocol.Spec

/-- Why a specification cannot be loaded. -/
inductive LoadError where
  | refused (message : String)
  | fault (fault : Fault)

def DecodeError.toLoadError : DecodeError → LoadError
  | .missing name =>
    .refused s!"Spec is missing required key {Text.quoted name}"
  | .mismatch text | .invalid text => .refused s!"Spec could not be decoded: {text}"
  | .notObject => .fault .absent
  | .overflow => .fault .overflow
  | .unpaired => .fault .unencodable

def ofDocument (document : Value) : Except LoadError Spec :=
  match document with
  | .object entries =>
    if (Value.lookup? entries "protocol").isNone then
      .error (.refused "Spec has no 'protocol' section")
    else (decode document).mapError DecodeError.toLoadError
  | v => .error (.refused s!"Spec must be a JSON object, got {v.kindName}")

def ofText (text : String) : Except LoadError Spec :=
  let document := text.toList
  match Json.read document with
  | .ok v => ofDocument v
  | .error (.problem what position) =>
    .error (.refused s!"Spec is not valid JSON: {Json.describe document what position}")
  | .error .tooManyDigits => .error (.fault .invalid)
  | .error .tooDeep => .error (.fault .tooDeep)

end TextProtocol.Spec
