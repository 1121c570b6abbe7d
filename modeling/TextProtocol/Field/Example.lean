import TextProtocol.Field.Domain
import TextProtocol.Value.Shown

/-!
# Example values

A valid value for a field, always the same one: the default if there is one, else a small member of
the test domain. Some fields have no example.
-/

namespace TextProtocol

/-- Why a field has no example. -/
inductive NoExample where
  | patternWithoutDefault
  | noSafeCharacters
  | onlyEmptyText
  | emptyRange
  | noBooleanWord
  | noEnumValue
  deriving DecidableEq, Repr

def NoExample.message (name : Option String) (e : NoExample) : String :=
  let shown := Value.shownName name
  match e with
  | .patternWithoutDefault => s!"field {shown} has a pattern and no default"
  | .noSafeCharacters => s!"field {shown} has no safe characters"
  | .onlyEmptyText => s!"optional field {shown} only admits empty text"
  | .emptyRange => s!"field {shown} has an empty range"
  | .noBooleanWord => s!"field {shown} cannot carry a boolean token"
  | .noEnumValue => s!"field {shown} has no usable enum value"

namespace Example

/-- A number of repetitions. Numbers beyond the sizes of texts are a fault. -/
def repetitions (size : Value) : Except Fault Nat :=
  match size.integer? with
  | some n =>
    if -9223372036854775808 ≤ n ∧ n < 9223372036854775808 then .ok n.toNat else .error .overflow
  | none => .error .mismatch

def ofText (required : Bool) (c : Constraints) (d : Domain) :
    Except Fault (Except NoExample Value) := do
  if c.pattern.any (!·.isEmpty) then return .error .patternWithoutDefault
  match d.alphabet.toList with
  | [] => return .error .noSafeCharacters
  | first :: _ =>
    let size ← (c.minLength.orElse (.int 0)).max (.int 1)
    let size ← if c.maxLength.isNull then pure size else size.min c.maxLength
    if size.same (.int 0) && !required then return .error .onlyEmptyText
    let n ← repetitions size
    return .ok (.text (String.ofList (List.replicate n first)))

/-- Example bytes of a fixed length: capital letters in turn, or the first of them all the way. -/
def ofLength (length : Value) : Except Fault Value := do
  if ← Value.lt (.int 26) length then return .bytes (List.replicate (← repetitions length) 65)
  match length.integer? with
  | some n => return .bytes ((List.range n.toNat).map fun i ↦ UInt8.ofNat (65 + i))
  | none => throw .mismatch

def ofField (f : Spec.Field) (c : Constraints) (d : Domain) :
    Except Fault (Except NoExample Value) := do
  if !f.defaultValue.isNull then return .ok f.defaultValue
  match f.type with
  | some (.string _) => ofText f.isRequired c d
  | some (.number ..) =>
    if d.empty then return .error .emptyRange
    return .ok (← (← Value.max (.int 1) d.minimum).min d.maximum)
  | some .boolean =>
    return if d.empty then .error .noBooleanWord else .ok (.bool true)
  | some (.enum _) => return match d.values with
    | [] => .error .noEnumValue
    | v :: _ => .ok (.text v)
  | some (.bytes length) =>
    if length.isNull then
      return match d.alphabet.toList with
        | [] => .error .noSafeCharacters
        | first :: _ => .ok (.bytes (Utf8.encodeChar first))
    else return .ok (← ofLength length)
  | none => throw .mismatch

end Example

end TextProtocol
