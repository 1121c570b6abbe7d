import TextProtocol.Target.Call.Rust
import TextProtocol.Target.Comment

/-!
# Rust parsers

The module with a type for each message and the function that parses it.
-/

namespace TextProtocol.Target.Rust

def parserHead (p : Package) : List String :=
  "" :: filled (packageNames p) r#"
|//! Parsers for the ⟨name⟩ protocol.
|//!
|//! Generated by wirecraft. Do not edit.
|#![allow(dead_code, unused_imports, unused_mut)]
|
|use std::fmt;
|use std::sync::OnceLock;
|
|use regex::Regex;
|
|pub const PREVIEW_LENGTH: usize = 50;
|
|/// Where and why parsing stopped. No input is consumed when a parse
|/// function returns one.
|#[derive(Debug, Clone, PartialEq, Eq)]
|pub struct ParseError {
|    pub state: String,
|    pub offset: usize,
|    pub expected: String,
|    pub actual: String,
|}
|
|impl fmt::Display for ParseError {
|    fn fmt(&self, f: &mut fmt::Formatter<'_>) -> fmt::Result {
|        write!(
|            f,
|            "{}: expected {:?} at offset {}, found {:?}",
|            self.state, self.expected, self.offset, self.actual
|        )
|    }
|}
|
|impl std::error::Error for ParseError {}
|
|/// A parsed message and the number of bytes it occupied.
|#[derive(Debug, Clone, PartialEq, Eq)]
|pub struct Parsed<T> {
|    pub message: T,
|    pub bytes_consumed: usize,
|}
|
|fn preview(data: &[u8], offset: usize) -> String {
|    let start = offset.min(data.len());
|    let end = (start + PREVIEW_LENGTH).min(data.len());
|    let mut text = String::from_utf8_lossy(&data[start..end]).into_owned();
|    if data.len() - start > PREVIEW_LENGTH {
|        text.push_str("...");
|    }
|    text
|}
|
|fn fail<T>(state: &str, data: &[u8], offset: usize, expected: &str) -> Result<T, ParseError> {
|    Err(ParseError {
|        state: state.to_string(),
|        offset,
|        expected: expected.to_string(),
|        actual: preview(data, offset),
|    })
|}
|
|/// Index of the first occurrence of needle at or after start.
|pub(crate) fn find(data: &[u8], needle: &[u8], start: usize) -> Option<usize> {
|    if start > data.len() || needle.is_empty() {
|        return None;
|    }
|    data[start..]
|        .windows(needle.len())
|        .position(|window| window == needle)
|        .map(|i| start + i)
|}
|
|/// Index of the earliest stop at or after start.
|fn find_stop(data: &[u8], start: usize, stops: &[&[u8]]) -> Option<usize> {
|    stops.iter().filter_map(|stop| find(data, stop, start)).min()
|}
|
|fn coerce_string(
|    raw: &[u8],
|    min_length: Option<usize>,
|    max_length: Option<usize>,
|    pattern: Option<&Regex>,
|) -> Result<String, String> {
|    let text = std::str::from_utf8(raw).map_err(|_| "UTF-8 text".to_string())?;
|    let length = text.chars().count();
|    if let Some(min) = min_length.filter(|&min| length < min) {
|        return Err(format!("at least {} characters", min));
|    }
|    if let Some(max) = max_length.filter(|&max| length > max) {
|        return Err(format!("at most {} characters", max));
|    }
|    if let Some(pattern) = pattern.filter(|pattern| !pattern.is_match(text)) {
|        return Err(format!("text matching {}", pattern.as_str()));
|    }
|    Ok(text.to_string())
|}
|
|fn coerce_number(raw: &[u8], minimum: Option<i64>, maximum: Option<i64>) -> Result<i64, String> {
|    let text = std::str::from_utf8(raw).map_err(|_| "an integer".to_string())?;
|    if text.starts_with('+') {
|        return Err("an integer".to_string());
|    }
|    let value: i64 = text.parse().map_err(|_| "an integer".to_string())?;
|    if let Some(min) = minimum.filter(|&min| value < min) {
|        return Err(format!("a number >= {}", min));
|    }
|    if let Some(max) = maximum.filter(|&max| value > max) {
|        return Err(format!("a number <= {}", max));
|    }
|    Ok(value)
|}
|
|fn coerce_boolean(raw: &[u8]) -> Result<bool, String> {
|    match raw {
|        b"true" => Ok(true),
|        b"false" => Ok(false),
|        _ => Err("true or false".to_string()),
|    }
|}
|
|fn coerce_enum(raw: &[u8], values: &[&str]) -> Result<String, String> {
|    values
|        .iter()
|        .find(|value| value.as_bytes() == raw)
|        .map(|value| value.to_string())
|        .ok_or_else(|| format!("one of: {}", values.join(", ")))
|}
|
|fn coerce_bytes(raw: &[u8], length: Option<usize>) -> Result<Vec<u8>, String> {
|    match length {
|        Some(length) if raw.len() != length => Err(format!("{} bytes", length)),
|        _ => Ok(raw.to_vec()),
|    }
|}
  "#

def patternLines (m : Message) (f : Field) : List String :=
  filled [("function", patternFunction m f),
      ("pattern", stringLiteral (f.info.constraints.pattern.getD ""))] r#"
|
|pub(crate) fn ⟨function⟩() -> &'static Regex {
|    static PATTERN: OnceLock<Regex> = OnceLock::new();
|    PATTERN.get_or_init(|| Regex::new(⟨pattern⟩).expect("pattern compiles"))
|}
  "#

def enumLines (e : Enumeration) : List String :=
  let name := profile.typeName [e.name]
  ["", "#[derive(Debug, Clone, Copy, PartialEq, Eq, Hash)]",
    fill [("enum", name)] r"pub enum ⟨enum⟩ {"] ++
  e.values.map (fun v ↦ s!"    {profile.typeName [v.1]},") ++ filled [("enum", name)] r#"
|}
|
|impl ⟨enum⟩ {
|    pub fn as_str(&self) -> &'static str {
|        match self {
  "# ++
  e.values.map (fun v ↦ s!"            {name}::{profile.typeName [v.1]} => {v.2},") ++
  [r"        }", r"    }", r"}"]

def messageStruct (m : Message) : List String :=
  [""] ++ m.description?.toList.map ("/// " ++ commentText ·) ++ filled (m.names profile) r#"
|#[derive(Debug, Clone, PartialEq, Eq, Default)]
|pub struct ⟨type⟩ {
  "# ++
  m.fields.map (fun f ↦ s!"    pub {f.member profile}: {typeOf f},") ++ [r"}"]

def expectLines (state : State) (text : String) : List String :=
  filled [("state", state.kind), ("bytes", bytesLiteral text), ("text", stringLiteral text),
      ("size", byteLength text)] r#"
|    if !data[pos..].starts_with(⟨bytes⟩) {
|        return fail("⟨state⟩", data, pos, ⟨text⟩);
|    }
|    pos += ⟨size⟩;
  "#

def fieldHoles (m : Message) (state : State) (f : Field) (x : Extraction) : Holes :=
  [("field", f.name), ("termination", x.termination), ("length", x.length.plain),
    ("label", stringLiteral state.label), ("stops", stopsLiteral x.stops),
    ("member", f.member profile), ("coerce", coerceCall m f "&data[pos..end]")]

def requiredEnd (x : Extraction) : List String :=
  if x.isFixed then block r#"
|    let end = pos + ⟨length⟩;
|    if end > data.len() {
|        return fail(⟨label⟩, data, pos, "⟨length⟩ bytes");
|    }
  "#
  else if x.stops.isEmpty then block r#"
|    let end = data.len();
  "#
  else block r#"
|    let end = find_stop(data, pos, ⟨stops⟩).unwrap_or(data.len());
  "#

def extractLines (holes : Holes) (x : Extraction) : List String :=
  (block r#"
|    // ⟨field⟩: ⟨termination⟩
  "# ++
  requiredEnd x ++ block r#"
|    message.⟨member⟩ = ⟨coerce⟩
|        .or_else(|expected| fail(⟨label⟩, data, pos, &expected))?;
|    pos = end;
  "#).map (fill holes)

def optionalLines (f : Field) (holes : Holes) (x : Extraction) (follow : Option String) :
    List String :=
  let guard := if x.isFixed then "end <= data.len()" else "end > pos"
  let stop := if x.isFixed then "pos + " ++ x.length.plain
    else if x.stops.isEmpty then "data.len()"
    else s!"find_stop(data, pos, {stopsLiteral x.stops}).unwrap_or(pos)"
  let condition := match follow with
    | some text => s!"{guard} && data[end..].starts_with({bytesLiteral text})"
    | none => guard
  let value := if f.info.nullable then "Some(value)" else "value"
  filled ([("stop", stop), ("condition", condition), ("value", value)] ++ holes) r#"
|    // ⟨field⟩ (optional): ⟨termination⟩; absent unless a non-empty value parses
|    let end = ⟨stop⟩;
|    if ⟨condition⟩ {
|        if let Ok(value) = ⟨coerce⟩ {
|            message.⟨member⟩ = ⟨value⟩;
|            pos = end;
|        }
|    }
  "#

def stateLines (m : Message) (state : State) : List String :=
  "" :: match state with
    | .expectFixed text | .expectDelimiter text => expectLines state text
    | .extractField f x => (m.field? f.name).elim [] fun field ↦
        extractLines (fieldHoles m state field x) x
    | .optionalField f x follow => (m.field? f.name).elim [] fun field ↦
        optionalLines field (fieldHoles m state field x) x follow
    | .terminal terminator =>
      (match terminator with
        | some text => expectLines state text ++ [""]
        | none => []) ++ block r#"
|    Ok(Parsed {
|        message,
|        bytes_consumed: pos - offset,
|    })
  "#

def parseFunction (m : Message) : List String :=
  filled (("label", stringLiteral m.firstLabel) :: m.names profile) r#"
|
|/// Parse a `⟨type⟩` from `data`, starting at `offset`.
|pub fn ⟨parse⟩(data: &[u8], offset: usize) -> Result<Parsed<⟨type⟩>, ParseError> {
|    if offset > data.len() {
|        return fail(⟨label⟩, data, offset, &format!("data at offset {}", offset));
|    }
|    let mut pos = offset;
|    let mut message = ⟨type⟩::default();
  "# ++
  m.fields.flatMap (fun f ↦ f.default?.toList.map fun v ↦
    s!"    message.{f.member profile} = {literal f v};") ++
  m.info.machine.states.flatMap (stateLines m) ++ [r"}"]

def parserModule (p : Package) : String :=
  fileText (parserHead p ++ p.patterns.flatMap (fun e ↦ patternLines e.1 e.2) ++
    p.enums.flatMap enumLines ++
    p.messages.flatMap fun m ↦ messageStruct m ++ parseFunction m)

end TextProtocol.Target.Rust
