import TextProtocol.Target.Call.Python
import TextProtocol.Target.Comment

/-!
# Python parsers

The module with a class for each message and the function that parses it.
-/

namespace TextProtocol.Target.Python

def parserHead (p : Package) (holes : Holes) : List String :=
  "" :: filled holes r#"
|"""Parsers for the ⟨name⟩ protocol.
|
|Generated by wirecraft. Do not edit.
|"""
|
|from dataclasses import dataclass
  "# ++
  linesIf (!p.enums.isEmpty) ["from enum import Enum"] ++ filled holes r#"
|from typing import Any
|
|from ⟨runtime⟩ import (
|    Invalid,
|    ParseResult,
|    ParseSuccess,
|    coerce_boolean,
|    coerce_bytes,
|    coerce_enum,
|    coerce_number,
|    coerce_string,
|    fail,
|    find_stop,
|)
|
|__all__ = [
  "# ++
  p.enums.map (fun e ↦ fill [("enum", profile.typeName [e.name])] r#"    "⟨enum⟩","#) ++
  p.messages.flatMap (fun m ↦ filled (m.names profile) r#"
|    "⟨type⟩",
|    "⟨parse⟩",
  "#) ++ ["]"]

def enumClass (e : Enumeration) : List String :=
  filled [("enum", profile.typeName [e.name])] r#"
|
|
|class ⟨enum⟩(Enum):
  "# ++
  e.values.map fun v ↦
    fill [("constant", profile.constantName [v.1]), ("value", v.2)] r#"    ⟨constant⟩ = ⟨value⟩"#

def memberLine (f : Field) : String :=
  let default := if f.required then "" else match f.default? with
    | some v => " = " ++ literal v
    | none => " = None"
  s!"    {f.member profile}: {annotation f}{default}"

def messageClass (m : Message) : List String :=
  let doc := match m.description? with
    | some d => commentText d
    | none => m.name ++ " message."
  filled (m.names profile) r#"
|
|
|@dataclass(kw_only=True)
|class ⟨type⟩:
  "# ++
  [fill [("doc", doc)] r#"    """⟨doc⟩""""#, ""] ++ m.fields.map memberLine

def expectLines (state : State) (text : String) : List String :=
  filled [("state", state.kind), ("bytes", bytesLiteral text), ("text", stringLiteral text),
      ("size", byteLength text)] r#"
|    if not data.startswith(⟨bytes⟩, pos):
|        return fail("⟨state⟩", data, pos, ⟨text⟩)
|    pos += ⟨size⟩
  "#

def fieldHoles (state : State) (f : Field) (x : Extraction) : Holes :=
  [("field", f.name), ("termination", x.termination), ("length", x.length.plain),
    ("label", stringLiteral state.label), ("stops", stopsLiteral x.stops),
    ("member", f.member profile), ("coerce", coerceCall f "data[pos:end]")]

def requiredEnd (x : Extraction) : List String :=
  if x.isFixed then block r#"
|    end = pos + ⟨length⟩
|    if end > len(data):
|        return fail(⟨label⟩, data, pos, "⟨length⟩ bytes")
  "#
  else if x.stops.isEmpty then block r#"
|    end = len(data)
  "#
  else block r#"
|    end = find_stop(data, pos, ⟨stops⟩)
|    if end < 0:
|        end = len(data)
  "#

def extractLines (state : State) (f : Field) (x : Extraction) : List String :=
  (block r#"
|    # ⟨field⟩: ⟨termination⟩
  "# ++
  requiredEnd x ++ block r#"
|    value = ⟨coerce⟩
|    if isinstance(value, Invalid):
|        return fail(⟨label⟩, data, pos, value.expected)
|    values["⟨member⟩"] = value
|    pos = end
  "#).map (fill (fieldHoles state f x))

def optionalLines (state : State) (f : Field) (x : Extraction) (follow : Option String) :
    List String :=
  let guard := if x.isFixed then "end <= len(data)" else "end > pos"
  let stop := if x.isFixed then "pos + " ++ x.length.plain
    else if x.stops.isEmpty then "len(data)"
    else s!"find_stop(data, pos, {stopsLiteral x.stops})"
  let condition := match follow with
    | some text => s!"{guard} and data.startswith({bytesLiteral text}, end)"
    | none => guard
  filled (("stop", stop) :: ("condition", condition) :: fieldHoles state f x) r#"
|    # ⟨field⟩ (optional): ⟨termination⟩; absent unless a non-empty value parses
|    end = ⟨stop⟩
|    if ⟨condition⟩:
|        value = ⟨coerce⟩
|        if not isinstance(value, Invalid):
|            values["⟨member⟩"] = value
|            pos = end
  "#

def stateLines (m : Message) (state : State) : List String :=
  "" :: match state with
    | .expectFixed text | .expectDelimiter text => expectLines state text
    | .extractField f x => (m.field? f.name).elim [] fun field ↦ extractLines state field x
    | .optionalField f x follow =>
      (m.field? f.name).elim [] fun field ↦ optionalLines state field x follow
    | .terminal terminator =>
      (match terminator with
        | some text => expectLines state text ++ [""]
        | none => []) ++
      [fill (m.names profile) r#"    return ParseSuccess(⟨type⟩(**values), pos - offset)"#]

def parseFunction (m : Message) : List String :=
  filled (("label", stringLiteral m.firstLabel) :: m.names profile) r#"
|
|
|def ⟨parse⟩(data: bytes, offset: int = 0) -> ParseResult[⟨type⟩]:
|    """Parse a ⟨type⟩ from data, starting at offset.
|
|    On failure nothing is consumed and the failure names the state, offset,
|    expected text and a preview of what was found.
|    """
|    if offset > len(data):
|        return fail(⟨label⟩, data, offset, f"data at offset {offset}")
|    pos = offset
|    values: dict[str, Any] = {}
  "# ++
  m.info.machine.states.flatMap (stateLines m)

def parserModule (p : Package) (runtime : String) : String :=
  fileText (parserHead p (packageNames p runtime) ++ p.enums.flatMap enumClass ++
    p.messages.flatMap fun m ↦ messageClass m ++ parseFunction m)

end TextProtocol.Target.Python
