import TextProtocol.Target.Settings

/-!
# Packages

What a package is generated from: a compiled protocol in which everything that has to be named has a
name. A protocol with nameless parts has no packages.
-/

namespace TextProtocol.Target

/-- Why a package cannot be generated. -/
inductive Cause where
  /-- A name is missing; `position` counts the parts that it is joined from. -/
  | missingName (position : Nat)
  /-- A time in seconds is beyond all real numbers. -/
  | quotientTooLarge
  | noText (reason : String)
  | broken (reason : String)

def Cause.message : Cause → String
  | .missingName position =>
    s!"sequence item {position}: expected str instance, NoneType found"
  | .quotientTooLarge => "integer division result too large for a float"
  | .noText reason => reason
  | .broken reason => reason

structure Field where
  name : String
  info : Compiled.Field

structure Message where
  name : String
  fields : List Field
  info : Compiled.Message

namespace Message

def field? (m : Message) (name : Option String) : Option Field :=
  m.fields.find? fun f ↦ some f.name == name

def extracts (m : Message) : Bool :=
  m.info.machine.states.any (·.field?.isSome)

def firstLabel (m : Message) : String :=
  (m.info.machine.states.head?.map State.label).getD ""

def description? (m : Message) : Option String :=
  Segment.separator? m.info.source.description

def sample? (m : Message) : Option (List (Field × Value)) :=
  m.info.sample.map fun _ ↦ m.fields.map fun f ↦ (f, f.info.sample)

def exampleSkip (m : Message) : String :=
  m.info.skipReason.getD "no example value"

end Message

namespace Field

def required (f : Field) : Bool :=
  f.info.definition.isRequired

def default? (f : Field) : Option Value :=
  let v := f.info.definition.defaultValue
  if f.required || v.isNull then none else some v

def hasPattern (f : Field) : Bool :=
  f.info.constraints.pattern.any (!·.isEmpty)

def isOpenText (f : Field) : Bool :=
  match f.info.definition.type with
  | some (.string _) => true
  | some (.bytes length) => length.isNull
  | _ => false

/-- Whether tests use one fixed value: the field has a pattern, or nothing to draw from. -/
def isPinned (f : Field) : Bool :=
  f.hasPattern || f.info.domain.empty || (f.isOpenText && f.info.domain.alphabet.isEmpty)

def zero (f : Field) : Value :=
  match f.info.definition.type with
  | some (.number ..) => .int 0
  | some .boolean => .bool false
  | some (.bytes _) => .bytes []
  | _ => .text ""

def pinned (f : Field) : Value :=
  if f.info.sample.isNull then f.zero else f.info.sample

end Field

/-- A declared enumeration of a package, with the texts of its values. -/
structure Enumeration where
  name : String
  values : List (String × String)

structure Package where
  name : String
  description? : Option String
  enums : List Enumeration
  messages : List Message
  settings : ClientSettings
  warnings : List String

namespace Package

def requests (p : Package) : List Message :=
  p.messages.filter (·.info.isRequest)

def responses (p : Package) : List Message :=
  p.messages.filter (·.info.isResponse)

def patterns (p : Package) : List (Message × Field) :=
  p.messages.flatMap fun m ↦ (m.fields.filter (·.hasPattern)).map ((m, ·))

def named (position : Nat) (name : Option String) : Except Cause String :=
  name.elim (.error (.missingName position)) .ok

def nameMessage (m : Compiled.Message) : Except Cause Message := do
  let name ← named 0 m.name
  let fields ← m.fields.mapM fun f ↦ do return { name := ← named 0 f.name, info := f }
  return { name, fields, info := m }

def nameEnum (position : Nat) (valueText : Value → Except Cause String)
    (t : Spec.TypeDefinition) : Except Cause Enumeration := do
  let name ← named 0 t.name
  let values := (t.values.getD []).filterMap id
  let names ← values.mapM fun v ↦ named position v.name
  let texts ← values.mapM fun v ↦ valueText v.value
  return { name, values := names.zip texts }

/-- The package of a protocol for a language. The names of enumeration values are joined from parts
of which they are the one at `position`. -/
def ofProtocol (p : Compiled.Protocol) (language : String) (position : Nat)
    (valueText : Value → Except Cause String) : Except Cause Package := do
  let name ← named 0 p.metadata.name
  let _ ← p.patternFields.mapM fun e ↦ named 0 e.1.name
  let enums ← p.enumTypes.mapM (nameEnum position valueText)
  let messages ← p.messages.mapM nameMessage
  return {
    name, enums, messages
    description? := Segment.separator? p.metadata.description
    settings := .ofProtocol p
    warnings := p.warningsFor language }

end Package

structure SourceFile where
  path : String
  content : String

structure Sources where
  parser : SourceFile
  serializer : SourceFile
  client : SourceFile
  tests : SourceFile
  extra : List SourceFile := []
  warnings : List String := []

def Sources.files (s : Sources) : List SourceFile :=
  [s.parser, s.serializer, s.client, s.tests] ++ s.extra

def byteLength (text : String) : String :=
  toString (Utf8.ofString text).length

end TextProtocol.Target
