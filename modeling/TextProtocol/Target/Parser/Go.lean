import TextProtocol.Target.Call.Go
import TextProtocol.Target.Comment

/-!
# Go parsers

The file with a type for each message and the function that parses it.
-/

namespace TextProtocol.Target.Go

def parserHead (p : Package) : List String :=
  let doc := match p.description? with
    | some d => s!"the {p.name} protocol: {commentText d}"
    | none => s!"parsers, serializers and a client for the {p.name} protocol."
  "" :: indented (("doc", doc) :: packageNames p) r#"
|// Code generated by wirecraft. DO NOT EDIT.
|
|// Package ⟨package⟩ implements ⟨doc⟩
  "# ++ indented (packageNames p) r#"
|package ⟨package⟩
|
|import (
|    "bytes"
|    "errors"
|    "fmt"
|    "regexp"
|    "strconv"
|    "strings"
|    "unicode/utf8"
|)
|
|const previewLength = 50
|
|// ParseError describes where and why parsing stopped. No input is consumed
|// when a Parse function returns one.
|type ParseError struct {
|    State    string
|    Offset   int
|    Expected string
|    Actual   string
|}
|
|func (e *ParseError) Error() string {
|    return fmt.Sprintf("%s: expected %q at offset %d, found %q", e.State, e.Expected, e.Offset, e.Actual)
|}
|
|type numberRange struct {
|    min, max       int64
|    hasMin, hasMax bool
|}
|
|func preview(data []byte, offset int) string {
|    if offset > len(data) {
|        offset = len(data)
|    }
|    end := offset + previewLength
|    if end > len(data) {
|        end = len(data)
|    }
|    text := strings.ToValidUTF8(string(data[offset:end]), "�")
|    if len(data)-offset > previewLength {
|        text += "..."
|    }
|    return text
|}
|
|func parseFailure(state string, data []byte, offset int, expected string) *ParseError {
|    return &ParseError{State: state, Offset: offset, Expected: expected, Actual: preview(data, offset)}
|}
|
|// findStop returns the index of the earliest stop at or after start, or -1.
|func findStop(data []byte, start int, stops ...[]byte) int {
|    best := -1
|    for _, stop := range stops {
|        if i := bytes.Index(data[start:], stop); i >= 0 && (best < 0 || start+i < best) {
|            best = start + i
|        }
|    }
|    return best
|}
|
|func coerceString(raw []byte, minLength, maxLength int, pattern *regexp.Regexp) (string, error) {
|    if !utf8.Valid(raw) {
|        return "", errors.New("UTF-8 text")
|    }
|    text := string(raw)
|    length := utf8.RuneCountInString(text)
|    if length < minLength {
|        return "", fmt.Errorf("at least %d characters", minLength)
|    }
|    if maxLength >= 0 && length > maxLength {
|        return "", fmt.Errorf("at most %d characters", maxLength)
|    }
|    if pattern != nil && !pattern.MatchString(text) {
|        return "", fmt.Errorf("text matching %s", pattern)
|    }
|    return text, nil
|}
|
|func coerceNumber(raw []byte, bounds numberRange) (int64, error) {
|    text := string(raw)
|    if strings.HasPrefix(text, "+") {
|        return 0, errors.New("an integer")
|    }
|    value, err := strconv.ParseInt(text, 10, 64)
|    if err != nil {
|        return 0, errors.New("an integer")
|    }
|    if bounds.hasMin && value < bounds.min {
|        return 0, fmt.Errorf("a number >= %d", bounds.min)
|    }
|    if bounds.hasMax && value > bounds.max {
|        return 0, fmt.Errorf("a number <= %d", bounds.max)
|    }
|    return value, nil
|}
|
|func coerceBoolean(raw []byte) (bool, error) {
|    switch string(raw) {
|    case "true":
|        return true, nil
|    case "false":
|        return false, nil
|    }
|    return false, errors.New("true or false")
|}
|
|func coerceEnum(raw []byte, values []string) (string, error) {
|    text := string(raw)
|    for _, value := range values {
|        if value == text {
|            return text, nil
|        }
|    }
|    return "", fmt.Errorf("one of: %s", strings.Join(values, ", "))
|}
|
|func coerceBytes(raw []byte, length int) ([]byte, error) {
|    if length >= 0 && len(raw) != length {
|        return nil, fmt.Errorf("%d bytes", length)
|    }
|    out := make([]byte, len(raw))
|    copy(out, raw)
|    return out, nil
|}
  "#

def patternLines (p : Package) : List String :=
  linesIf (!p.patterns.isEmpty) (["", "var ("] ++ p.patterns.map (fun e ↦
    let source := patternLiteral (e.2.info.constraints.pattern.getD "")
    s!"\t{patternVariable e.1 e.2} = regexp.MustCompile({source})") ++ [")"])

def enumLines (e : Enumeration) : List String :=
  ["", s!"// {profile.typeName [e.name]} values.", "const ("] ++
  e.values.map (fun v ↦ s!"\t{profile.constantName [e.name, v.1]} = {v.2}") ++ [")"]

def messageStruct (m : Message) : List String :=
  let doc := match m.description? with
    | some d => ": " ++ commentText d
    | none => s!" is the {m.name} message."
  ["", s!"// {profile.typeName [m.name]}{doc}", fill (m.names profile) r"type ⟨type⟩ struct {"] ++
  m.fields.map (fun f ↦ s!"\t{f.member profile} {typeOf f}") ++ [r"}"]

def expectLines (m : Message) (state : State) (text : String) : List String :=
  indented ([("state", state.kind), ("bytes", bytesLiteral text), ("text", stringLiteral text),
      ("size", byteLength text)] ++ m.names profile) r#"
|    if !bytes.HasPrefix(data[pos:], ⟨bytes⟩) {
|        return ⟨type⟩{}, 0, parseFailure("⟨state⟩", data, pos, ⟨text⟩)
|    }
|    pos += ⟨size⟩
  "#

def fieldHoles (m : Message) (state : State) (f : Field) (x : Extraction) : Holes :=
  [("field", f.name), ("termination", x.termination), ("length", x.length.plain),
    ("label", stringLiteral state.label), ("stops", stopsArguments x.stops),
    ("member", f.member profile), ("coerce", coerceCall m f "data[pos:end]")] ++ m.names profile

def requiredEnd (holes : Holes) (x : Extraction) : List String :=
  if x.isFixed then indented holes r#"
|    end = pos + ⟨length⟩
|    if end > len(data) {
|        return ⟨type⟩{}, 0, parseFailure(⟨label⟩, data, pos, "⟨length⟩ bytes")
|    }
  "#
  else if x.stops.isEmpty then indented holes r#"
|    end = len(data)
  "#
  else indented holes r#"
|    end = findStop(data, pos⟨stops⟩)
|    if end < 0 {
|        end = len(data)
|    }
  "#

def extractLines (holes : Holes) (x : Extraction) : List String :=
  indented holes r#"
|    // ⟨field⟩: ⟨termination⟩
  "# ++
  requiredEnd holes x ++ indented holes r#"
|    {
|        value, err := ⟨coerce⟩
|        if err != nil {
|            return ⟨type⟩{}, 0, parseFailure(⟨label⟩, data, pos, err.Error())
|        }
|        msg.⟨member⟩ = value
|    }
|    pos = end
  "#

def optionalLines (holes : Holes) (x : Extraction) (follow : Option String) : List String :=
  let guard := if x.isFixed then "end <= len(data)" else "end > pos"
  let stop := if x.isFixed then "pos + " ++ x.length.plain
    else if x.stops.isEmpty then "len(data)"
    else s!"findStop(data, pos{stopsArguments x.stops})"
  let condition := match follow with
    | some text => s!"{guard} && bytes.HasPrefix(data[end:], {bytesLiteral text})"
    | none => guard
  indented (("stop", stop) :: ("condition", condition) :: holes) r#"
|    // ⟨field⟩ (optional): ⟨termination⟩; absent unless a non-empty value parses
|    end = ⟨stop⟩
|    if ⟨condition⟩ {
|        if value, err := ⟨coerce⟩; err == nil {
|            msg.⟨member⟩ = value
|            pos = end
|        }
|    }
  "#

def stateLines (m : Message) (state : State) : List String :=
  "" :: match state with
    | .expectFixed text | .expectDelimiter text => expectLines m state text
    | .extractField f x => (m.field? f.name).elim [] fun field ↦
        extractLines (fieldHoles m state field x) x
    | .optionalField f x follow => (m.field? f.name).elim [] fun field ↦
        optionalLines (fieldHoles m state field x) x follow
    | .terminal terminator =>
      (match terminator with
        | some text => expectLines m state text ++ [""]
        | none => []) ++ ["\treturn msg, pos - offset, nil"]

def parseFunction (m : Message) : List String :=
  indented (("label", stringLiteral m.firstLabel) :: m.names profile) r#"
|
|// ⟨parse⟩ parses a ⟨type⟩ from data starting at offset.
|// It returns the message and the number of bytes consumed. On failure no
|// bytes are consumed and the error is a *ParseError.
|func ⟨parse⟩(data []byte, offset int) (⟨type⟩, int, error) {
|    var msg ⟨type⟩
|    if offset < 0 || offset > len(data) {
|        return msg, 0, parseFailure(⟨label⟩, data, offset, fmt.Sprintf("data at offset %d", offset))
|    }
|    pos := offset
  "# ++
  linesIf m.extracts ["\tvar end int"] ++
  m.fields.flatMap (fun f ↦ f.default?.toList.map fun v ↦
    s!"\tmsg.{f.member profile} = {literal v}") ++
  m.info.machine.states.flatMap (stateLines m) ++ [r"}"]

def parserFile (p : Package) : String :=
  fileText (parserHead p ++ patternLines p ++ p.enums.flatMap enumLines ++
    p.messages.flatMap fun m ↦ messageStruct m ++ parseFunction m)

end TextProtocol.Target.Go
