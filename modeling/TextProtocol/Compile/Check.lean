import TextProtocol.Compile.Diagnostic
import TextProtocol.Field.Constraints
import TextProtocol.Pattern.Use

/-!
# Checking specifications

The checks that a specification has to pass. They all run, so that everything wrong with a
specification is reported at once; only a specification with holes, or with bounds that cannot be
compared, is a fault.
-/

namespace TextProtocol.Check

/-- The items that occur more than once, in order of their first occurrence. -/
def repeated {α : Type} [BEq α] (items : List α) : List α :=
  items.eraseDups.filter fun a ↦ 1 < items.count a

/-- Whether both bounds are there and the lower one is above the upper one. -/
def crossed (low high : Value) : Except Fault Bool :=
  if low.isNull || high.isNull then .ok false else high.lt low

/-- Whether a bound is there and below zero. -/
def negative (v : Value) : Except Fault Bool :=
  if v.isNull then .ok false else v.lt (.int 0)

def nonPositive (v : Value) : Except Fault Bool := do
  if v.isNull then return false
  return (← v.lt (.int 0)) || v.same (.int 0)

def findIf (condition : Bool) (finding : Finding) : List Finding :=
  if condition then [finding] else []

def typeFindings (t : Spec.TypeDefinition) : Except Fault (List Finding) := do
  match t.kind with
  | some "enum" =>
    let empty := t.values.all (·.isEmpty)
    let names := (← Spec.itemsOf t.values).map (·.name)
    return findIf empty (.emptyEnumType t.name) ++
      (repeated names).map (.repeatedEnumName t.name)
  | some "struct" =>
    let names := (← Spec.itemsOf t.fields).map (·.name)
    return (repeated names).map (.repeatedStructField t.name)
  | kind => return [.unknownTypeKind t.name kind]

def missingOrBelow (v : Value) (bound : Int) : Except Fault Bool :=
  if v.isNull then .ok true else v.lt (.int bound)

def retryFindings (h : Spec.ErrorHandling) : Except Fault (List Finding) := do
  if h.onNetworkError != some .retry then return []
  let attempts ← missingOrBelow h.retryAttempts 1
  let delay ← missingOrBelow h.retryDelay 0
  return findIf attempts .missingRetryAttempts ++ findIf delay .missingRetryDelay

def unanswered (messages : List Spec.Message) : List Diagnostic :=
  if messages.any (·.direction == some .response) then []
  else (messages.filter (·.direction == some .request)).map fun m ↦
    { finding := .requestWithoutResponse, messageName := m.name }

def ofSpec (s : Spec) : Except Fault (List Diagnostic) := do
  let messages ← Spec.itemsOf s.messages
  let types ← Spec.itemsOf s.types
  let typeProblems ← types.mapM typeFindings
  let handling ← s.errorHandling.elim (.error .absent) pure
  let retryProblems ← retryFindings handling
  let connection ← s.connection.elim (.error .absent) pure
  let findings := findIf messages.isEmpty .noMessages ++
    (repeated (messages.map (·.name))).map .repeatedMessage ++
    (repeated (types.map (·.name))).map .repeatedType ++
    typeProblems.flatten ++ retryProblems ++
    findIf (connection.transport == some .udp) .udpTransport
  return findings.map (⟨·, none, none⟩) ++ unanswered messages

/-- Something that is looked for: whether it is there, the values that a message about it shows, and
what is found then. -/
structure Probe (α : Type) where
  condition : Except Fault Bool
  shown : List Value := []
  finding : α

/-- What a probe finds. It is a fault if a message about it cannot be made. -/
def Probe.run {α : Type} (p : Probe α) : Except Fault (List α) := do
  if !(← p.condition) then return []
  if p.shown.all Value.isShowable then return [p.finding] else throw .invalid

def runAll {α : Type} (probes : List (Probe α)) : Except Fault (List α) := do
  return (← probes.mapM Probe.run).flatten

def fits (v : Value) : Spec.FieldType → Bool
  | .string _ => v.codes?.isSome
  | .number .. => match v with
    | .int _ => true
    | _ => false
  | .boolean => match v with
    | .bool _ => true
    | _ => false
  | .enum values => v.text?.any values.contains
  | .bytes _ => false

def isBelow (n bound : Value) : Except Fault Bool :=
  if bound.isNull then .ok false else n.lt bound

def isAbove (n bound : Value) : Except Fault Bool :=
  if bound.isNull then .ok false else bound.lt n

def isUnmatched (codes : List Nat) (pattern : String) : Except Fault Bool := do
  if pattern.isEmpty then return false
  if ← Pattern.isPattern pattern then return !(← Pattern.foundIn pattern codes)
  return false

def stringProbes (c : Constraints) (codes : List Nat) : List (Probe DefaultProblem) :=
  [{ condition := isAbove (.nat codes.length) c.maxLength, shown := [c.maxLength]
     finding := .longer c.maxLength },
   { condition := isBelow (.nat codes.length) c.minLength, shown := [c.minLength]
     finding := .shorter c.minLength },
   { condition := isUnmatched codes (c.pattern.getD "")
     finding := .unmatched (c.pattern.getD "") }]

def numberProbes (c : Constraints) (n : Value) : List (Probe DefaultProblem) :=
  [{ condition := isBelow n c.minimum, shown := [c.minimum], finding := .below c.minimum },
   { condition := isAbove n c.maximum, shown := [c.maximum], finding := .above c.maximum }]

def defaultProbes (v : Value) (t : Spec.FieldType) (c : Constraints) :
    List (Probe DefaultProblem) :=
  match t with
  | .string _ => v.codes?.elim [] (stringProbes c)
  | .number .. => numberProbes c v
  | .boolean | .enum _ | .bytes _ => []

def valueFindings (f : Spec.Field) (t : Spec.FieldType) : Except Fault (List Finding) := do
  let v := f.defaultValue
  if !fits v t then return [.misfitDefault v t.kind]
  let c ← Constraints.ofField f
  return (← runAll (defaultProbes v t c)).map (.refusedDefault v)

/-- The findings on a default value. The messages about all of them show it. -/
def defaultFindings (f : Spec.Field) : Except Fault (List Finding) := do
  let v := f.defaultValue
  if v.isNull then return []
  let found ← f.type.elim (.error .mismatch) (valueFindings f)
  if found.isEmpty || v.isShowable then return found else throw .invalid

def typeProbes : Option Spec.FieldType → List (Probe Finding)
  | some (.string maxLength) =>
    [{ condition := negative maxLength, shown := [maxLength]
       finding := .negativeMaxLength maxLength }]
  | some (.number low high) =>
    [{ condition := crossed low high, shown := [low, high], finding := .crossedRange low high }]
  | some (.enum values) =>
    { condition := .ok values.isEmpty, finding := .emptyEnum } ::
      (repeated values).map fun v ↦ { condition := .ok true, finding := .repeatedEnumValue v }
  | some (.bytes length) =>
    [{ condition := nonPositive length, shown := [length], finding := .nonPositiveWidth length }]
  | some .boolean | none => []

def ruleProbes (r : Spec.Rule) : List (Probe Finding) :=
  [{ condition := negative r.minLength, shown := [r.minLength]
     finding := .negativeMinLength r.minLength },
   { condition := negative r.maxLength, shown := [r.maxLength]
     finding := .negativeMaxLength r.maxLength },
   { condition := crossed r.minLength r.maxLength, shown := [r.minLength, r.maxLength]
     finding := .crossedLengths r.minLength r.maxLength },
   { condition := crossed r.minimum r.maximum, shown := [r.minimum, r.maximum]
     finding := .crossedRange r.minimum r.maximum },
   { condition := (! ·) <$> Pattern.isPattern (r.pattern.getD "")
     finding := .badPattern (r.pattern.getD "") }]

def mergedProbes (c : Constraints) : List (Probe Finding) :=
  [{ condition := crossed c.minLength c.maxLength, shown := [c.minLength, c.maxLength]
     finding := .crossedMergedLengths c.minLength c.maxLength },
   { condition := crossed c.minimum c.maximum, shown := [c.minimum, c.maximum]
     finding := .crossedMergedRange c.minimum c.maximum }]

/-- What to look for first in a field: what is wrong with its type and its rule. -/
def ownProbes (f : Spec.Field) : List (Probe Finding) :=
  typeProbes f.type ++ f.rule.elim [] ruleProbes

/-- The findings on a field. Merged constraints and the default are looked at only if its type and
its rule are sound. -/
def fieldFindings (f : Spec.Field) : Except Fault (List Finding) := do
  match ← runAll (ownProbes f) with
  | [] =>
    let merged ← runAll (mergedProbes (← Constraints.ofField f))
    return merged ++ (← defaultFindings f)
  | found => return found

def ofField (f : Spec.Field) (messageName : Option String) : Except Fault (List Diagnostic) := do
  return (← fieldFindings f).map (⟨·, messageName, f.name⟩)

def placeholderDiagnostics (messageName : Option String) (declared : List (Option String))
    (names : List String) : List Diagnostic :=
  let undefined := names.eraseDups.filter fun n ↦ !declared.contains (some n)
  let unreferenced := declared.eraseDups.filter fun n ↦ !(names.map some).contains n
  undefined.map (fun n ↦ ⟨.undefinedPlaceholder n, messageName, some n⟩) ++
    (repeated names).map (fun n ↦ ⟨.repeatedPlaceholder n, messageName, some n⟩) ++
    unreferenced.map (fun n ↦ ⟨.unreferencedField n, messageName, n⟩)

def formatDiagnostics (m : Spec.Message) (declared : List (Option String)) :
    Except Fault (List Diagnostic) :=
  match m.format with
  | none => .error .mismatch
  | some format => match Format.placeholderNames format with
    | .error e => .ok [⟨.badFormat e format, m.name, none⟩]
    | .ok names => .ok (placeholderDiagnostics m.name declared names)

def ofMessage (m : Spec.Message) : Except Fault (List Diagnostic) := do
  let fields ← Spec.itemsOf m.fields
  let declared := fields.map (·.name)
  let ofFormat ← formatDiagnostics m declared
  let ofFields ← fields.mapM (ofField · m.name)
  return (repeated declared).map (fun n ↦ ⟨.repeatedField n, m.name, n⟩) ++ ofFormat ++
    ofFields.flatten

end TextProtocol.Check
