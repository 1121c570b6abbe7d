/-!
# Faults

What can go wrong while values of unchecked kinds are used: a spec document fixes the kind of few
of its values, so an operation may meet a value that it is not defined on. A fault is not a finding
about the spec; it ends the operation at once.
-/

namespace TextProtocol

/-- Why an operation on unchecked values has no result. -/
inductive Fault where
  /-- An operation met a value of a kind that it is not defined on. -/
  | mismatch
  /-- A part was asked of something that has no such part. -/
  | absent
  /-- A value has the right kind but is none that can be used, such as an integer of too many
  digits. -/
  | invalid
  /-- A number is beyond what can be held. -/
  | overflow
  /-- A pattern is not well formed. -/
  | pattern
  /-- Something is nested more deeply than can be followed. -/
  | tooDeep
  /-- A result contradicts itself. -/
  | inconsistent
  /-- A text holds a surrogate, and has no bytes. -/
  | unencodable
  deriving DecidableEq, Repr, Inhabited

end TextProtocol
