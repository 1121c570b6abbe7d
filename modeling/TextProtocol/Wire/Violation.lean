import TextProtocol.Value.Shown
import TextProtocol.Wire.Search

/-!
# Violations

The ways in which a value can fail the check of its field, and the words in which they are reported:
a constraint, a message with the name of the field, and what was expected.
-/

namespace TextProtocol

/-- A way to fail a check. -/
inductive Violation where
  | missing
  | notText
  | notInteger
  | notBoolean
  | notBytes
  /-- A value that would be taken for absent. -/
  | empty
  | tooShort (limit : Value)
  | tooLong (limit : Value)
  | unmatched (pattern : String)
  | below (limit : Value)
  | above (limit : Value)
  | notAmong (values : List String)
  | wrongLength (length : Value)
  /-- A value in which a stop of the field would be found. -/
  | hidesStop (stop : Bytes)

namespace Violation

def shownStop (stop : Bytes) : String :=
  String.ofList (Text.quotedChars (Utf8.decodeLenient stop))

def constraint : Violation → String
  | .missing => "required"
  | .notText | .notInteger | .notBoolean | .notBytes => "type"
  | .empty => "empty"
  | .tooShort _ => "min_length"
  | .tooLong _ => "max_length"
  | .unmatched _ => "pattern"
  | .below _ => "minimum"
  | .above _ => "maximum"
  | .notAmong _ => "enum"
  | .wrongLength _ => "length"
  | .hidesStop _ => "contains_stop"

def expected : Violation → String
  | .missing => "a value"
  | .notText => "a string"
  | .notInteger => "an integer"
  | .notBoolean => "true or false"
  | .notBytes => "bytes"
  | .empty => "a non-empty value"
  | .tooShort limit => s!"at least {limit.plain} characters"
  | .tooLong limit => s!"at most {limit.plain} characters"
  | .unmatched pattern => s!"text matching {Text.quoted pattern}"
  | .below limit => s!"a number >= {limit.plain}"
  | .above limit => s!"a number <= {limit.plain}"
  | .notAmong values => "one of: " ++ ", ".intercalate values
  | .wrongLength length => s!"{length.plain} bytes"
  | .hidesStop stop => s!"no {shownStop stop}"

def demand : Violation → String
  | .missing => "is required"
  | .notText => "must be a string"
  | .notInteger => "must be an integer"
  | .notBoolean => "must be a boolean"
  | .notBytes => "must be bytes"
  | .empty => "must be omitted rather than empty"
  | .tooShort limit => s!"must be at least {limit.plain} characters"
  | .tooLong limit => s!"must be at most {limit.plain} characters"
  | .unmatched pattern => s!"must match {Text.quoted pattern}"
  | .below limit => s!"must be >= {limit.plain}"
  | .above limit => s!"must be <= {limit.plain}"
  | .notAmong values => "must be one of: " ++ ", ".intercalate values
  | .wrongLength length => s!"must be exactly {length.plain} bytes"
  | .hidesStop stop => s!"must not contain the separator {shownStop stop}"

end Violation

/-- A violation by the value of a field. -/
structure FieldError where
  field : String
  violation : Violation

def FieldError.message (e : FieldError) : String :=
  s!"{e.field} {e.violation.demand}"

end TextProtocol
