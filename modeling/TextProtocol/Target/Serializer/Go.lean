import TextProtocol.Target.Call.Go

/-!
# Go serializers

The file with the functions that validate and serialize each message.
-/

namespace TextProtocol.Target.Go

def serializerHead (p : Package) : List String :=
  "" :: indented (packageNames p) r#"
|// Code generated by wirecraft. DO NOT EDIT.
|
|package ⟨package⟩
|
|import (
|    "bytes"
|    "fmt"
|    "regexp"
|    "strconv"
|    "strings"
|    "unicode/utf8"
|)
|
|// FieldError is one constraint violation found while validating a message.
|type FieldError struct {
|    Field      string
|    Constraint string
|    Message    string
|    Expected   string
|}
|
|func (e FieldError) Error() string {
|    return e.Message
|}
|
|// ValidationError carries every violation found in a message.
|type ValidationError struct {
|    Errors []FieldError
|}
|
|func (e *ValidationError) Error() string {
|    messages := make([]string, len(e.Errors))
|    for i, fe := range e.Errors {
|        messages[i] = fe.Message
|    }
|    return strings.Join(messages, "; ")
|}
|
|// containsStop reports the first stop that would end the field early,
|// including one that overlaps the end of the value.
|func containsStop(raw []byte, stops [][]byte) []byte {
|    for _, stop := range stops {
|        joined := append(append(make([]byte, 0, len(raw)+len(stop)), raw...), stop...)
|        if bytes.Index(joined, stop) < len(raw) {
|            return stop
|        }
|    }
|    return nil
|}
|
|func checkStops(errs []FieldError, name string, raw []byte, stops [][]byte) []FieldError {
|    stop := containsStop(raw, stops)
|    if stop == nil {
|        return errs
|    }
|    return append(errs, FieldError{
|        Field:      name,
|        Constraint: "contains_stop",
|        Message:    fmt.Sprintf("%s must not contain the separator %q", name, stop),
|        Expected:   fmt.Sprintf("no %q", stop),
|    })
|}
|
|// checkEmpty rejects an optional value that would be written as nothing.
|func checkEmpty(errs []FieldError, name string, size int) []FieldError {
|    if size > 0 {
|        return errs
|    }
|    return append(errs, FieldError{Field: name, Constraint: "empty", Message: name + " must be omitted rather than empty", Expected: "a non-empty value"})
|}
|
|func checkString(errs []FieldError, name, value string, minLength, maxLength int, pattern *regexp.Regexp, stops ...[]byte) []FieldError {
|    length := utf8.RuneCountInString(value)
|    if !utf8.ValidString(value) {
|        errs = append(errs, FieldError{Field: name, Constraint: "type", Message: name + " must be valid UTF-8", Expected: "UTF-8 text"})
|    }
|    if length < minLength {
|        errs = append(errs, FieldError{
|            Field:      name,
|            Constraint: "min_length",
|            Message:    fmt.Sprintf("%s must be at least %d characters", name, minLength),
|            Expected:   fmt.Sprintf("at least %d characters", minLength),
|        })
|    }
|    if maxLength >= 0 && length > maxLength {
|        errs = append(errs, FieldError{
|            Field:      name,
|            Constraint: "max_length",
|            Message:    fmt.Sprintf("%s must be at most %d characters", name, maxLength),
|            Expected:   fmt.Sprintf("at most %d characters", maxLength),
|        })
|    }
|    if pattern != nil && !pattern.MatchString(value) {
|        errs = append(errs, FieldError{
|            Field:      name,
|            Constraint: "pattern",
|            Message:    fmt.Sprintf("%s must match %s", name, pattern),
|            Expected:   fmt.Sprintf("text matching %s", pattern),
|        })
|    }
|    return checkStops(errs, name, []byte(value), stops)
|}
|
|func checkNumber(errs []FieldError, name string, value int64, bounds numberRange, stops ...[]byte) []FieldError {
|    if bounds.hasMin && value < bounds.min {
|        errs = append(errs, FieldError{
|            Field:      name,
|            Constraint: "minimum",
|            Message:    fmt.Sprintf("%s must be >= %d", name, bounds.min),
|            Expected:   fmt.Sprintf("a number >= %d", bounds.min),
|        })
|    }
|    if bounds.hasMax && value > bounds.max {
|        errs = append(errs, FieldError{
|            Field:      name,
|            Constraint: "maximum",
|            Message:    fmt.Sprintf("%s must be <= %d", name, bounds.max),
|            Expected:   fmt.Sprintf("a number <= %d", bounds.max),
|        })
|    }
|    return checkStops(errs, name, []byte(strconv.FormatInt(value, 10)), stops)
|}
|
|func checkBoolean(errs []FieldError, name string, value bool, stops ...[]byte) []FieldError {
|    return checkStops(errs, name, []byte(strconv.FormatBool(value)), stops)
|}
|
|func checkEnum(errs []FieldError, name, value string, values []string, stops ...[]byte) []FieldError {
|    for _, allowed := range values {
|        if allowed == value {
|            return checkStops(errs, name, []byte(value), stops)
|        }
|    }
|    allowed := strings.Join(values, ", ")
|    return append(errs, FieldError{
|        Field:      name,
|        Constraint: "enum",
|        Message:    fmt.Sprintf("%s must be one of: %s", name, allowed),
|        Expected:   "one of: " + allowed,
|    })
|}
|
|func checkBytes(errs []FieldError, name string, value []byte, length int, stops ...[]byte) []FieldError {
|    if length >= 0 && len(value) != length {
|        return append(errs, FieldError{
|            Field:      name,
|            Constraint: "length",
|            Message:    fmt.Sprintf("%s must be exactly %d bytes", name, length),
|            Expected:   fmt.Sprintf("%d bytes", length),
|        })
|    }
|    return checkStops(errs, name, value, stops)
|}
  "#

def checkLines (m : Message) (f : Field) : List String :=
  let value := "m." ++ f.member profile
  let holes := [("present", presence f value), ("check", checkCall m f value)]
  if f.info.nullable then indented holes r#"
|    if ⟨present⟩ {
|        errs = ⟨check⟩
|    }
  "#
  else (emptyCheck? f value).toList.map ("\terrs = " ++ ·) ++ indented holes r#"
|    errs = ⟨check⟩
  "#

def validateFunction (m : Message) : List String :=
  indented (m.names profile) r#"
|
|// ⟨validate⟩ returns every constraint violation in m.
|// Optional fields holding their zero value are absent and are not checked.
|func ⟨validate⟩(m ⟨type⟩) []FieldError {
|    var errs []FieldError
  "# ++
  m.fields.flatMap (checkLines m) ++ ["\treturn errs", r"}"]

def stepLines (m : Message) : Step → List String
  | .literal text | .delimiter text | .terminator text =>
    [s!"\tbuf.WriteString({stringLiteral text})"]
  | .field definition => (m.field? definition.name).elim [] fun f ↦
      let value := "m." ++ f.member profile
      let holes := [("present", presence f value), ("write", writeCall f value)]
      if f.info.nullable then indented holes r#"
|    if ⟨present⟩ {
|        ⟨write⟩
|    }
  "#
      else indented holes r#"
|    ⟨write⟩
  "#

def serializeFunction (m : Message) : List String :=
  indented (m.names profile) r#"
|
|// ⟨serialize⟩ encodes m, or returns a *ValidationError listing
|// all of its violations.
|func ⟨serialize⟩(m ⟨type⟩) ([]byte, error) {
|    if errs := ⟨validate⟩(m); len(errs) > 0 {
|        return nil, &ValidationError{Errors: errs}
|    }
|    var buf bytes.Buffer
  "# ++
  m.info.steps.flatMap (stepLines m) ++ ["\treturn buf.Bytes(), nil", r"}"]

def serializerFile (p : Package) : String :=
  fileText (serializerHead p ++
    p.messages.flatMap fun m ↦ validateFunction m ++ serializeFunction m)

end TextProtocol.Target.Go
