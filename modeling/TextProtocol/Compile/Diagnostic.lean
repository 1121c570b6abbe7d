import TextProtocol.Layout.Segment
import TextProtocol.Value.Shown

/-!
# Diagnostics

What the checks of a specification find. A finding is an error or a warning, has a code and a
message, and concerns the protocol as a whole, a message or a field of a message.
-/

namespace TextProtocol

/-- How bad a finding is. -/
inductive Severity where
  | error
  | warning
  deriving DecidableEq, Repr

def Severity.word : Severity → String
  | .error => "error"
  | .warning => "warning"

/-- What is wrong with a default value of the right kind. -/
inductive DefaultProblem where
  | longer (limit : Value)
  | shorter (limit : Value)
  | unmatched (pattern : String)
  | below (limit : Value)
  | above (limit : Value)

def DefaultProblem.message : DefaultProblem → String
  | .longer limit => s!"is longer than {limit.plain}"
  | .shorter limit => s!"is shorter than {limit.plain}"
  | .unmatched pattern => s!"does not match {Text.quoted pattern}"
  | .below limit => s!"is below {limit.plain}"
  | .above limit => s!"is above {limit.plain}"

/-- Something that a check finds. -/
inductive Finding where
  | noMessages
  | repeatedMessage (name : Option String)
  | repeatedType (name : Option String)
  | emptyEnumType (type : Option String)
  | repeatedEnumName (type name : Option String)
  | repeatedStructField (type name : Option String)
  | unknownTypeKind (type kind : Option String)
  | missingRetryAttempts
  | missingRetryDelay
  | udpTransport
  | requestWithoutResponse
  | repeatedField (name : Option String)
  | badFormat (error : Format.SyntaxError) (format : String)
  | undefinedPlaceholder (name : String)
  | undefinedAt (placeholder : Segment.Undefined)
  | repeatedPlaceholder (name : String)
  | unreferencedField (name : Option String)
  | negativeMaxLength (limit : Value)
  | negativeMinLength (limit : Value)
  | crossedLengths (low high : Value)
  | crossedRange (low high : Value)
  | crossedMergedLengths (low high : Value)
  | crossedMergedRange (low high : Value)
  | emptyEnum
  | repeatedEnumValue (value : String)
  | nonPositiveWidth (width : Value)
  | badPattern (pattern : String)
  | misfitDefault (value : Value) (kind : String)
  | refusedDefault (value : Value) (problem : DefaultProblem)
  | adjacentFields
  | unsafeEnumValue (value : String)
  | emptyDomain
  | ambiguousAbsence

namespace Finding

def severity : Finding → Severity
  | .udpTransport | .requestWithoutResponse | .repeatedPlaceholder _ | .adjacentFields
  | .unsafeEnumValue _ | .emptyDomain | .ambiguousAbsence => .warning
  | _ => .error

def code : Finding → String
  | .noMessages => "no_message_types"
  | .repeatedMessage _ => "duplicate_message_type"
  | .repeatedType _ => "duplicate_type"
  | .emptyEnumType _ | .emptyEnum => "empty_enum"
  | .repeatedEnumName .. | .repeatedEnumValue _ => "duplicate_enum_value"
  | .repeatedStructField .. | .repeatedField _ => "duplicate_field"
  | .unknownTypeKind .. => "invalid_type"
  | .missingRetryAttempts | .missingRetryDelay => "invalid_retry"
  | .udpTransport => "udp_transport"
  | .requestWithoutResponse => "no_response_type"
  | .badFormat .. => "format_syntax"
  | .undefinedPlaceholder _ | .undefinedAt _ => "undefined_placeholder"
  | .repeatedPlaceholder _ => "repeated_placeholder"
  | .unreferencedField _ => "unreferenced_field"
  | .negativeMaxLength _ | .negativeMinLength _ | .crossedLengths .. | .crossedMergedLengths ..
  | .nonPositiveWidth _ => "invalid_length"
  | .crossedRange .. | .crossedMergedRange .. => "invalid_range"
  | .badPattern _ => "invalid_pattern"
  | .misfitDefault .. | .refusedDefault .. => "invalid_default"
  | .adjacentFields => "adjacent_fields"
  | .unsafeEnumValue _ => "unsafe_enum_value"
  | .emptyDomain => "empty_domain"
  | .ambiguousAbsence => "ambiguous_absence"

open Value (shownName)

def message : Finding → String
  | .noMessages => "protocol declares no message types"
  | .repeatedMessage name => s!"message type {shownName name} is declared more than once"
  | .repeatedType name => s!"type {shownName name} is declared more than once"
  | .emptyEnumType type => s!"enum type {shownName type} has no values"
  | .repeatedEnumName type name =>
    s!"enum type {shownName type} repeats value {shownName name}"
  | .repeatedStructField type name =>
    s!"struct type {shownName type} repeats field {shownName name}"
  | .unknownTypeKind type kind => s!"type {shownName type} has unknown kind {shownName kind}"
  | .missingRetryAttempts => "onNetworkError 'retry' requires retryAttempts >= 1"
  | .missingRetryDelay => "onNetworkError 'retry' requires retryDelay >= 0"
  | .udpTransport => "UDP transport is not supported by stream clients; emitting TCP clients"
  | .requestWithoutResponse => "request has no corresponding response message type"
  | .repeatedField name => s!"field {shownName name} is declared more than once"
  | .badFormat error format => error.message format
  | .undefinedPlaceholder name =>
    s!"placeholder \x7b{name}\x7d does not match any declared field"
  | .undefinedAt placeholder => placeholder.message
  | .repeatedPlaceholder name =>
    s!"placeholder \x7b{name}\x7d appears more than once; " ++
      "the last occurrence wins when parsing"
  | .unreferencedField name => s!"field {shownName name} never appears in the format"
  | .negativeMaxLength limit => s!"maxLength {limit.plain} is negative"
  | .negativeMinLength limit => s!"minLength {limit.plain} is negative"
  | .crossedLengths low high => s!"minLength {low.plain} is greater than maxLength {high.plain}"
  | .crossedRange low high => s!"min {low.plain} is greater than max {high.plain}"
  | .crossedMergedLengths low high =>
    s!"minLength {low.plain} exceeds the type's maxLength {high.plain}"
  | .crossedMergedRange low high => s!"combined min {low.plain} exceeds max {high.plain}"
  | .emptyEnum => "enum field has no values"
  | .repeatedEnumValue value => s!"enum value {Text.quoted value} is listed more than once"
  | .nonPositiveWidth width => s!"bytes length {width.plain} must be positive"
  | .badPattern pattern => s!"pattern {Text.quoted pattern} is not a valid regular expression"
  | .misfitDefault value kind => s!"default value {value.shown} does not fit a {kind} field"
  | .refusedDefault value problem => s!"default value {value.shown} {problem.message}"
  | .adjacentFields =>
    "field is directly followed by another field with no delimiter; " ++
      "its boundary is guessed from the next separator"
  | .unsafeEnumValue value =>
    s!"enum value {Text.quoted value} collides with a separator and cannot round-trip"
  | .emptyDomain => "no value of this field survives serialization and parsing"
  | .ambiguousAbsence =>
    "optional field is read by width; when absent, the bytes that follow " ++
      "may be taken for its value"

end Finding

structure Diagnostic where
  finding : Finding
  messageName : Option String := none
  fieldName : Option String := none

namespace Diagnostic

def isError (d : Diagnostic) : Bool :=
  d.finding.severity == .error

def text (d : Diagnostic) : String :=
  let scope := match d.messageName.getD "", d.fieldName.getD "" with
    | "", _ => ""
    | m, "" => s!"[{m}] "
    | m, f => s!"[{m}.{f}] "
  s!"{d.finding.severity.word}: {scope}{d.finding.message}"

def countErrors (ds : List Diagnostic) : Nat :=
  ds.countP isError

/-- The message about a specification that is refused: all its errors. -/
def refusal (ds : List Diagnostic) : String :=
  let lines := (ds.filter isError).map fun d ↦ "  " ++ d.text
  s!"{countErrors ds} validation error(s):\n" ++ "\n".intercalate lines

end Diagnostic

end TextProtocol
