import TextProtocol.Field.Constraints
import TextProtocol.Wire.Search

/-!
# Test domains

The values that a property test may generate for a field. They satisfy the field's constraints and
hide none of its stops. Text is made of letters and digits that occur in no stop.
-/

namespace TextProtocol

/-- Values for the tests of a field. -/
structure Domain where
  alphabet : String := ""
  minSize : Value := .int 0
  maxSize : Value := .int 0
  minimum : Value := .int (-1000000)
  maximum : Value := .int 1000000
  values : List String := []
  /-- Whether no value can be used. -/
  empty : Bool := false

namespace Domain

/-- How far numbers go from zero when nothing bounds them. -/
def numberBound : Int := 1000000

/-- How much longer than needed texts may be. -/
def sizeSlack : Int := 16

def charsFrom (first : Char) (count : Nat) : List Char :=
  (List.range count).map fun i ↦ Char.ofNat (first.toNat + i)

def alphanumerics : List Char :=
  charsFrom 'a' 26 ++ charsFrom 'A' 26 ++ charsFrom '0' 10

def booleanWords : List String := ["true", "false"]

def isBanned (stops : List String) (c : Char) : Bool :=
  stops.any fun s ↦ s.toList.contains c

def safeAlphabet (stops : List String) : String :=
  String.ofList (alphanumerics.filter fun c ↦ !isBanned stops c)

def hidesStop (raw : Bytes) (stops : List String) : Bool :=
  (Wire.hiddenStop? raw (stops.map Utf8.ofString)).isSome

def textHidesStop (text : String) (stops : List String) : Bool :=
  hidesStop (Utf8.ofString text) stops

def plus (v : Value) (n : Int) : Except Fault Value :=
  match v.number? with
  | some (.int m) => .ok (.int (m + n))
  | some (.real x) => .ok (.real (x.plus n))
  | none => .error .mismatch

def ofText (required : Bool) (c : Constraints) (stops : List String) : Except Fault Domain := do
  let alphabet := safeAlphabet stops
  let least := c.minLength.orElse (.int 0)
  let minSize ← if required then pure least else least.max (.int 1)
  let limit ← plus minSize sizeSlack
  let maxSize ← (if c.maxLength.isNull then limit else c.maxLength).min limit
  let empty ← if ← maxSize.lt minSize then pure true
    else pure ((← Value.lt (.int 0) minSize) && alphabet.isEmpty)
  return { alphabet, minSize, maxSize, empty }

def ofNumber (c : Constraints) (stops : List String) : Except Fault Domain := do
  let low := if c.minimum.isNull then .int (-numberBound) else c.minimum
  let high := if c.maximum.isNull then .int numberBound else c.maximum
  let low ← if isBanned stops '-' then low.max (.int 0) else pure low
  let empty ← high.lt low
  return {
    minimum := low, maximum := high
    empty := empty || "0123456789".toList.any (isBanned stops) }

def ofBytes (required : Bool) (length : Value) (stops : List String) : Domain :=
  if length.isNull then
    let alphabet := safeAlphabet stops
    let least : Int := if required then 0 else 1
    { alphabet, minSize := .int least, maxSize := .int (least + sizeSlack)
      empty := !required && alphabet.isEmpty }
  else { minSize := length, maxSize := length }

def ofField (f : Spec.Field) (c : Constraints) (stops : List String) : Except Fault Domain :=
  match f.type with
  | some (.string _) => ofText f.isRequired c stops
  | some (.number ..) => ofNumber c stops
  | some .boolean =>
    .ok { values := booleanWords, empty := booleanWords.any (textHidesStop · stops) }
  | some (.enum _) =>
    let values := c.values.filter fun v ↦ !v.isEmpty && !textHidesStop v stops
    .ok { values, empty := values.isEmpty }
  | some (.bytes length) => .ok (ofBytes f.isRequired length stops)
  | none => .error .mismatch

end Domain

end TextProtocol
