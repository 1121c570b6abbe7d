import TextProtocol.Spec.Basic
import TextProtocol.Value.Order

/-!
# Constraints

The bounds of a field's type together with its rule. Where both give a bound, the tighter one
counts; bounds that cannot be compared are a fault.
-/

namespace TextProtocol

/-- The constraints on the values of a field. -/
structure Constraints where
  minLength : Value := .null
  maxLength : Value := .null
  pattern : Option String := none
  minimum : Value := .null
  maximum : Value := .null
  values : List String := []
  length : Value := .null

namespace Constraints

def tighterMin (a b : Value) : Except Fault Value :=
  if a.isNull then .ok b else if b.isNull then .ok a else Value.max a b

def tighterMax (a b : Value) : Except Fault Value :=
  if a.isNull then .ok b else if b.isNull then .ok a else Value.min a b

def ofField (f : Spec.Field) : Except Fault Constraints := do
  let rule := f.rule.getD {}
  match f.type with
  | some (.string maxLength) =>
    let maxLength ← tighterMax maxLength rule.maxLength
    return { minLength := rule.minLength, maxLength, pattern := rule.pattern }
  | some (.number minimum maximum) =>
    let minimum ← tighterMin minimum rule.minimum
    let maximum ← tighterMax maximum rule.maximum
    return { minimum, maximum }
  | some (.enum values) => return { values }
  | some (.bytes length) => return { length }
  | some .boolean => return {}
  | none => throw .mismatch

end Constraints

end TextProtocol
