import TextProtocol.Target.Call.Rust

/-!
# Rust serializers

The module with the functions that validate and serialize each message.
-/

namespace TextProtocol.Target.Rust

def serializerHead (p : Package) : List String :=
  "" :: filled (packageNames p) r#"
|//! Serializers for the ⟨name⟩ protocol.
|//!
|//! Generated by wirecraft. Do not edit.
|#![allow(dead_code, unused_imports, unused_mut)]
|
|use std::fmt;
|
|use regex::Regex;
|
|use super::⟨parser⟩::*;
|
|/// One constraint violation found while validating a message.
|#[derive(Debug, Clone, PartialEq, Eq)]
|pub struct FieldError {
|    pub field: String,
|    pub constraint: String,
|    pub message: String,
|    pub expected: Option<String>,
|}
|
|/// Every violation found in a message.
|#[derive(Debug, Clone, PartialEq, Eq)]
|pub struct SerializeError {
|    pub errors: Vec<FieldError>,
|}
|
|impl fmt::Display for SerializeError {
|    fn fmt(&self, f: &mut fmt::Formatter<'_>) -> fmt::Result {
|        let messages: Vec<&str> = self.errors.iter().map(|e| e.message.as_str()).collect();
|        write!(f, "{}", messages.join("; "))
|    }
|}
|
|impl std::error::Error for SerializeError {}
|
|fn violation(field: &str, constraint: &str, message: String, expected: String) -> FieldError {
|    FieldError {
|        field: field.to_string(),
|        constraint: constraint.to_string(),
|        message,
|        expected: Some(expected),
|    }
|}
|
|/// The first stop that would end the field early, including one that
|/// overlaps the end of the value.
|fn contains_stop<'a>(raw: &[u8], stops: &[&'a [u8]]) -> Option<&'a [u8]> {
|    stops.iter().copied().find(|stop| {
|        let mut joined = raw.to_vec();
|        joined.extend_from_slice(stop);
|        find(&joined, stop, 0).is_some_and(|i| i < raw.len())
|    })
|}
|
|fn check_stops(errors: &mut Vec<FieldError>, name: &str, raw: &[u8], stops: &[&[u8]]) {
|    if let Some(stop) = contains_stop(raw, stops) {
|        let stop = String::from_utf8_lossy(stop);
|        errors.push(violation(
|            name,
|            "contains_stop",
|            format!("{} must not contain the separator {:?}", name, stop),
|            format!("no {:?}", stop),
|        ));
|    }
|}
|
|/// An optional value that would be written as nothing.
|fn check_empty(errors: &mut Vec<FieldError>, name: &str, size: usize) {
|    if size == 0 {
|        errors.push(violation(
|            name,
|            "empty",
|            format!("{} must be omitted rather than empty", name),
|            "a non-empty value".to_string(),
|        ));
|    }
|}
|
|fn check_string(
|    errors: &mut Vec<FieldError>,
|    name: &str,
|    value: &str,
|    min_length: Option<usize>,
|    max_length: Option<usize>,
|    pattern: Option<&Regex>,
|    stops: &[&[u8]],
|) {
|    let length = value.chars().count();
|    if let Some(min) = min_length.filter(|&min| length < min) {
|        errors.push(violation(
|            name,
|            "min_length",
|            format!("{} must be at least {} characters", name, min),
|            format!("at least {} characters", min),
|        ));
|    }
|    if let Some(max) = max_length.filter(|&max| length > max) {
|        errors.push(violation(
|            name,
|            "max_length",
|            format!("{} must be at most {} characters", name, max),
|            format!("at most {} characters", max),
|        ));
|    }
|    if let Some(pattern) = pattern.filter(|pattern| !pattern.is_match(value)) {
|        errors.push(violation(
|            name,
|            "pattern",
|            format!("{} must match {}", name, pattern.as_str()),
|            format!("text matching {}", pattern.as_str()),
|        ));
|    }
|    check_stops(errors, name, value.as_bytes(), stops);
|}
|
|fn check_number(
|    errors: &mut Vec<FieldError>,
|    name: &str,
|    value: &i64,
|    minimum: Option<i64>,
|    maximum: Option<i64>,
|    stops: &[&[u8]],
|) {
|    if let Some(min) = minimum.filter(|&min| *value < min) {
|        errors.push(violation(
|            name,
|            "minimum",
|            format!("{} must be >= {}", name, min),
|            format!("a number >= {}", min),
|        ));
|    }
|    if let Some(max) = maximum.filter(|&max| *value > max) {
|        errors.push(violation(
|            name,
|            "maximum",
|            format!("{} must be <= {}", name, max),
|            format!("a number <= {}", max),
|        ));
|    }
|    check_stops(errors, name, value.to_string().as_bytes(), stops);
|}
|
|fn check_boolean(errors: &mut Vec<FieldError>, name: &str, value: &bool, stops: &[&[u8]]) {
|    check_stops(errors, name, value.to_string().as_bytes(), stops);
|}
|
|fn check_enum(errors: &mut Vec<FieldError>, name: &str, value: &str, values: &[&str], stops: &[&[u8]]) {
|    if values.contains(&value) {
|        check_stops(errors, name, value.as_bytes(), stops);
|        return;
|    }
|    let allowed = values.join(", ");
|    errors.push(violation(
|        name,
|        "enum",
|        format!("{} must be one of: {}", name, allowed),
|        format!("one of: {}", allowed),
|    ));
|}
|
|fn check_bytes(errors: &mut Vec<FieldError>, name: &str, value: &[u8], length: Option<usize>, stops: &[&[u8]]) {
|    if let Some(length) = length.filter(|&length| value.len() != length) {
|        errors.push(violation(
|            name,
|            "length",
|            format!("{} must be exactly {} bytes", name, length),
|            format!("{} bytes", length),
|        ));
|        return;
|    }
|    check_stops(errors, name, value, stops);
|}
  "#

def checkLines (m : Message) (f : Field) : List String :=
  let member := "message." ++ f.member profile
  let checks (value : String) : List String :=
    ((emptyCheck? f value).toList ++ [checkCall m f value]).map (· ++ ";")
  if f.info.nullable then
    [fill [("attr", member)] r"    if let Some(value) = &⟨attr⟩ {"] ++
      (checks "value").map ("        " ++ ·) ++ [r"    }"]
  else (checks member).map ("    " ++ ·)

def validateFunction (m : Message) : List String :=
  filled (m.names profile) r#"
|
|/// Every constraint violation in a `⟨type⟩`.
|pub fn ⟨validate⟩(message: &⟨type⟩) -> Vec<FieldError> {
|    let mut errors = Vec::new();
  "# ++
  m.fields.flatMap (checkLines m) ++ ["    errors", r"}"]

def stepLines (m : Message) : Step → List String
  | .literal text | .delimiter text | .terminator text =>
    [s!"    out.extend_from_slice({bytesLiteral text});"]
  | .field definition => (m.field? definition.name).elim [] fun f ↦
      let member := "message." ++ f.member profile
      if f.info.nullable then filled [("attr", member), ("write", writeCall f "value")] r#"
|    if let Some(value) = &⟨attr⟩ {
|        ⟨write⟩
|    }
  "#
      else ["    " ++ writeCall f member]

def serializeFunction (m : Message) : List String :=
  filled (m.names profile) r#"
|
|/// Encode a `⟨type⟩`, or report all of its violations.
|pub fn ⟨serialize⟩(message: &⟨type⟩) -> Result<Vec<u8>, SerializeError> {
|    let errors = ⟨validate⟩(message);
|    if !errors.is_empty() {
|        return Err(SerializeError { errors });
|    }
|    let mut out = Vec::new();
  "# ++
  m.info.steps.flatMap (stepLines m) ++ ["    Ok(out)", r"}"]

def serializerModule (p : Package) : String :=
  fileText (serializerHead p ++
    p.messages.flatMap fun m ↦ validateFunction m ++ serializeFunction m)

end TextProtocol.Target.Rust
