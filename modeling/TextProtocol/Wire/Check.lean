import TextProtocol.Pattern.Use
import TextProtocol.Value.Order
import TextProtocol.Wire.Render
import TextProtocol.Wire.Violation

/-!
# Checks and coercions

What the value of a field has to satisfy, by the kind of the field. A check lists the violations of
a value that is to be written. A coercion reads the bytes of a field as a value of its kind that
passes the check, or says what was expected.

Bounds are values, and comparing a value with a bound of another kind is a fault. So is the report
of a bound that is not kept if the bound has too many digits to be shown.
-/

namespace TextProtocol

/-- The demands on the values of a field. -/
inductive FieldCheck where
  | text (minLength maxLength : Value) (pattern : Option String)
  | number (minimum maximum : Value)
  | boolean
  | choice (values : List String)
  | bytes (length : Value)

namespace FieldCheck

def report (bound : Value) (violation : Violation) : Except Fault (List Violation) :=
  if bound.isShowable then .ok [violation] else .error .invalid

/-- The side of a bound on which a value breaks it. -/
inductive Side where
  | below
  | above

def Side.isBroken (n bound : Value) : Side → Except Fault Bool
  | .below => n.lt bound
  | .above => bound.lt n

def boundViolations (side : Side) (n bound : Value) (violation : Violation) :
    Except Fault (List Violation) := do
  if bound.isNull then return []
  if ← side.isBroken n bound then report bound violation else return []

def patternViolations (pattern : Option String) (codes : List Nat) :
    Except Fault (List Violation) := do
  match pattern with
  | none => return []
  | some p => return if ← Pattern.foundIn p codes then [] else [.unmatched p]

def textViolations (minLength maxLength : Value) (pattern : Option String) (codes : List Nat) :
    Except Fault (List Violation) := do
  let short ← boundViolations .below (.nat codes.length) minLength (.tooShort minLength)
  let long ← boundViolations .above (.nat codes.length) maxLength (.tooLong maxLength)
  let unmatched ← patternViolations pattern codes
  return short ++ long ++ unmatched

def numberViolations (minimum maximum n : Value) : Except Fault (List Violation) := do
  let below ← boundViolations .below n minimum (.below minimum)
  let above ← boundViolations .above n maximum (.above maximum)
  return below ++ above

def lengthViolations (length : Value) (size : Nat) : Except Fault (List Violation) :=
  if !length.isNull && !length.same (.nat size) then report length (.wrongLength length)
  else return []

/-- A violation if an optional value would be written as nothing. -/
def emptyViolations (required : Bool) (v : Value) : Except Fault (List Violation) := do
  if required then return []
  return if (← Wire.encode v).isEmpty then [.empty] else []

def stopViolations (stops : List Bytes) (v : Value) : Except Fault (List Violation) := do
  return (Wire.hiddenStop? (← Wire.encode v) stops).toList.map .hidesStop

def wireViolations (required : Bool) (stops : List Bytes) (v : Value) :
    Except Fault (List Violation) := do
  return (← emptyViolations required v) ++ (← stopViolations stops v)

def violations (c : FieldCheck) (required : Bool) (stops : List Bytes) (v : Value) :
    Except Fault (List Violation) := do
  match c with
  | .text minLength maxLength pattern => match v.codes? with
    | some codes =>
      let empty ← emptyViolations required v
      let found ← textViolations minLength maxLength pattern codes
      return empty ++ found ++ (← stopViolations stops v)
    | none => return [.notText]
  | .number minimum maximum => match v with
    | .int _ => return (← numberViolations minimum maximum v) ++ (← stopViolations stops v)
    | _ => return [.notInteger]
  | .boolean => match v with
    | .bool _ => stopViolations stops v
    | _ => return [.notBoolean]
  | .choice values =>
    if v.text?.any values.contains then wireViolations required stops v
    else return [.notAmong values]
  | .bytes length => match v.data? with
    | some data => match ← lengthViolations length data.length with
      | [] => wireViolations required stops v
      | found => return found
    | none => return [.notBytes]

def run (c : FieldCheck) (name : String) (required : Bool) (stops : List Bytes) (v : Value) :
    Except Fault (List FieldError) := do
  let found ← if v.isNull then pure (if required then [.missing] else [])
    else c.violations required stops v
  return found.map (⟨name, ·⟩)

/-- The integer that a text spells: an optional minus sign and digits of ASCII. -/
def readNumber (text : List Char) : Except Fault (Option Int) :=
  let (negative, digits) := match text with
    | '-' :: rest => (true, rest)
    | rest => (false, rest)
  if digits.isEmpty || !digits.all Char.isDigit then .ok none
  else if Text.maxDigits < digits.length then .error .invalid
  else
    let n : Int := digits.foldl (fun n c ↦ 10 * n + (c.toNat - 48)) 0
    .ok (some (if negative then -n else n))

def readBoolean (text : String) : Option Bool :=
  if text == "true" then some true else if text == "false" then some false else none

def readText (raw : Bytes) : Option String :=
  (Utf8.decode? raw).map String.ofList

abbrev Coerced := Except String Value

def accept (v : Value) : List Violation → Coerced
  | [] => .ok v
  | violation :: _ => .error violation.expected

def coerce (c : FieldCheck) (raw : Bytes) : Except Fault Coerced := do
  match c with
  | .text minLength maxLength pattern => match readText raw with
    | none => return .error "UTF-8 text"
    | some s =>
      return accept (.text s) (← textViolations minLength maxLength pattern (Text.codes s))
  | .number minimum maximum =>
    match ← (readText raw).elim (.ok none) fun s ↦ readNumber s.toList with
    | none => return .error "an integer"
    | some n => return accept (.int n) (← numberViolations minimum maximum (.int n))
  | .boolean => return match (readText raw).bind readBoolean with
    | some b => .ok (.bool b)
    | none => .error "true or false"
  | .choice values => return match readText raw with
    | some s => accept (.text s) (if values.contains s then [] else [.notAmong values])
    | none => accept .null [.notAmong values]
  | .bytes length => return accept (.bytes raw) (← lengthViolations length raw.length)

end FieldCheck

end TextProtocol
