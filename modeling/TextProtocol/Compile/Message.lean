import TextProtocol.Compile.Diagnostic
import TextProtocol.Field.Example
import TextProtocol.Layout.Machine
import TextProtocol.Layout.Plan

/-!
# Compiled messages

A message of a specification compiles to its parser, its emission plan and, for each field, all that
follows from its place in the layout. An example message comes with it when every field has an
example value.
-/

namespace TextProtocol.Compiled

/-- A field and what follows from its place. -/
structure Field where
  definition : Spec.Field
  constraints : Constraints
  /-- The texts that end the field. -/
  stops : List String
  domain : Domain
  sample : Value := .null
  /-- Whether the absence of the field can be mistaken for a value. -/
  absenceAmbiguous : Bool := false

namespace Field

def name (f : Field) : Option String :=
  f.definition.name

def kind (f : Field) : String :=
  (f.definition.type.map (·.kind)).getD ""

/-- Whether absence has to be shown, there being no default. -/
def nullable (f : Field) : Bool :=
  !f.definition.isRequired && f.definition.defaultValue.isNull

def generatesAbsent (f : Field) : Bool :=
  f.nullable && !f.absenceAmbiguous

end Field

structure Message where
  source : Spec.Message
  delimiter : Option String
  terminator : Option String
  machine : Machine
  steps : List Step
  fields : List Field
  /-- The example message, if every field has an example. -/
  sample : Option Step.Values := none
  sampleBytes : Option Bytes := none
  /-- Why tests that write and read back are left out. -/
  skipReason : Option String := none

namespace Message

def name (m : Message) : Option String :=
  m.source.name

def isRequest (m : Message) : Bool :=
  m.source.direction == some .request || m.source.direction == some .bidirectional

def isResponse (m : Message) : Bool :=
  m.source.direction == some .response || m.source.direction == some .bidirectional

/-- Whether the example message fails when it is cut off. -/
def rejectsTruncation (m : Message) : Bool :=
  m.machine.rejectsTruncation && m.sampleBytes.any (!·.isEmpty)

/-- The example message without its last byte, if that has to fail. -/
def truncatedBytes (m : Message) : Option Bytes :=
  if m.rejectsTruncation then m.sampleBytes.map List.dropLast else none

end Message

/-- Why a specification does not compile. -/
inductive Failure where
  | fault (fault : Fault)
  | badFormat (error : Format.SyntaxError) (format : String)
  /-- The specification is refused, with all that was found. -/
  | refused (diagnostics : List Diagnostic)

def Failure.ofSegments : Segment.Failure → Failure
  | .fault f => .fault f
  | .badFormat e format => .badFormat e format

/-- A compiled field with the findings on it and the reasons against tests. -/
structure FieldResult where
  field : Field
  findings : List Finding
  reasons : List String

def compileField (machine : Machine) (f : Spec.Field) : Except Fault FieldResult := do
  let constraints ← Constraints.ofField f
  let stops := machine.stopsOf f.name
  let domain ← Domain.ofField f constraints stops
  let unusable := match f.type with
    | some (.enum _) => constraints.values.filter fun v ↦ !domain.values.contains v
    | _ => []
  let (sample, noExample) := match ← Example.ofField f constraints domain with
    | .ok v => (v, [])
    | .error e => (Value.null, [e.message f.name])
  let absenceAmbiguous := machine.readsOptionalByWidth f.name && f.defaultValue.isNull
  let emptyReason := s!"field {Value.shownName f.name} has no round-trippable values"
  return {
    field := { definition := f, constraints, stops, domain, sample, absenceAmbiguous }
    findings := unusable.map .unsafeEnumValue ++
      (if domain.empty then [.emptyDomain] else []) ++
      (if absenceAmbiguous then [.ambiguousAbsence] else [])
    reasons := (if domain.empty then [emptyReason] else []) ++ noExample }

/-- The reason against tests of a layout with ambiguous boundaries. -/
def ambiguityReasons : List (Option String) → Except Fault (List String)
  | [] => .ok []
  | names => do
    let names ← names.mapM fun n ↦ n.elim (.error Fault.mismatch) Except.ok
    return ["field boundaries are ambiguous: " ++ ", ".intercalate names]

def separator (text : Option String) : Option String :=
  (Segment.separator? text).map Format.unescape

/-- The example message, if every field has an example value of its own. -/
def sampleOf (fields : List Field) : Option Step.Values :=
  let values : Step.Values := (fields.filter fun f ↦ !f.sample.isNull).foldl
    (fun vs f ↦ Step.Values.put vs f.name f.sample) []
  if values.length == fields.length then some values else none

def assemble (source : Spec.Message) (definitions : List Spec.Field) (segments : List Segment) :
    Except Fault (Message × List Diagnostic) := do
  let delimiter := separator source.delimiter
  let machine := Machine.ofSegments segments delimiter (separator source.terminator)
  let terminator := machine.terminator
  let steps := Step.ofSegments machine.segments delimiter terminator
  let boundary ← ambiguityReasons machine.ambiguous
  let results ← definitions.mapM (compileField machine)
  let fields := results.map (·.field)
  let sample := sampleOf fields
  let reasons := boundary ++ results.flatMap (·.reasons)
  let diagnostics := machine.ambiguous.map (⟨.adjacentFields, source.name, ·⟩) ++
    results.flatMap fun r ↦ r.findings.map (⟨·, source.name, r.field.name⟩)
  let sampleBytes ← sample.mapM (Step.renderAll steps)
  let message := {
    source, delimiter, terminator, machine, steps, fields, sample, sampleBytes
    skipReason := if reasons.isEmpty then none else some ("; ".intercalate reasons) }
  return (message, diagnostics)

def compileMessage (source : Spec.Message) : Except Failure (Message × List Diagnostic) := do
  let definitions ← (Spec.itemsOf source.fields).mapError .fault
  let reading ← (Segment.ofFormat source.format definitions).mapError .ofSegments
  match reading.undefined with
  | [] => (assemble source definitions reading.segments).mapError .fault
  | undefined => throw (.refused (undefined.map (⟨.undefinedAt ·, source.name, none⟩)))

end TextProtocol.Compiled
