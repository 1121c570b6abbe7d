import TextProtocol.Target.Call.TypeScript
import TextProtocol.Target.Comment

/-!
# TypeScript parsers

The module with an interface for each message and the function that parses it.
-/

namespace TextProtocol.Target.TypeScript

def parserHead (p : Package) : List String :=
  "" :: filled (packageNames p) r#"
|// Parsers for the ⟨name⟩ protocol.
|// Generated by wirecraft. Do not edit.
|
|export const PREVIEW_LENGTH = 50;
|
|const decoder = new TextDecoder('utf-8', { fatal: true });
|const lenientDecoder = new TextDecoder('utf-8');
|const INTEGER = /^-?[0-9]+$/;
|
|export interface ParseSuccess<T> {
|  ok: true;
|  message: T;
|  bytesConsumed: number;
|}
|
|export interface ParseFailure {
|  ok: false;
|  state: string;
|  offset: number;
|  expected: string;
|  actual: string;
|  error: string;
|  bytesConsumed: 0;
|}
|
|export type ParseResult<T> = ParseSuccess<T> | ParseFailure;
|
|type Coerced<T> = { ok: true; value: T } | { ok: false; expected: string };
|
|function preview(data: Uint8Array, offset: number): string {
|  const text = lenientDecoder.decode(data.subarray(offset, offset + PREVIEW_LENGTH));
|  return data.length - offset > PREVIEW_LENGTH ? `${text}...` : text;
|}
|
|export function fail(state: string, data: Uint8Array, offset: number, expected: string): ParseFailure {
|  const actual = preview(data, offset);
|  return {
|    ok: false,
|    state,
|    offset,
|    expected,
|    actual,
|    error: `${state}: expected ${JSON.stringify(expected)} at offset ${offset}, found ${JSON.stringify(actual)}`,
|    bytesConsumed: 0,
|  };
|}
|
|export function startsWith(data: Uint8Array, prefix: Uint8Array, offset: number): boolean {
|  if (offset + prefix.length > data.length) return false;
|  for (let i = 0; i < prefix.length; i++) {
|    if (data[offset + i] !== prefix[i]) return false;
|  }
|  return true;
|}
|
|export function indexOf(data: Uint8Array, needle: Uint8Array, start: number): number {
|  outer: for (let i = start; i + needle.length <= data.length; i++) {
|    for (let j = 0; j < needle.length; j++) {
|      if (data[i + j] !== needle[j]) continue outer;
|    }
|    return i;
|  }
|  return -1;
|}
|
|/** Index of the earliest stop at or after start, or -1. */
|export function findStop(data: Uint8Array, start: number, stops: Uint8Array[]): number {
|  let best = -1;
|  for (const stop of stops) {
|    const index = indexOf(data, stop, start);
|    if (index !== -1 && (best === -1 || index < best)) best = index;
|  }
|  return best;
|}
|
|function decodeText(raw: Uint8Array): string | undefined {
|  try {
|    return decoder.decode(raw);
|  } catch {
|    return undefined;
|  }
|}
|
|function coerceString(
|  raw: Uint8Array,
|  options: { minLength?: number; maxLength?: number; pattern?: RegExp },
|): Coerced<string> {
|  const text = decodeText(raw);
|  if (text === undefined) return { ok: false, expected: 'UTF-8 text' };
|  const length = [...text].length;
|  if (options.minLength !== undefined && length < options.minLength) {
|    return { ok: false, expected: `at least ${options.minLength} characters` };
|  }
|  if (options.maxLength !== undefined && length > options.maxLength) {
|    return { ok: false, expected: `at most ${options.maxLength} characters` };
|  }
|  if (options.pattern !== undefined && !options.pattern.test(text)) {
|    return { ok: false, expected: `text matching ${options.pattern.source}` };
|  }
|  return { ok: true, value: text };
|}
|
|function coerceNumber(raw: Uint8Array, options: { min?: number; max?: number }): Coerced<number> {
|  const text = decodeText(raw);
|  if (text === undefined || !INTEGER.test(text)) return { ok: false, expected: 'an integer' };
|  const value = Number(text);
|  if (!Number.isSafeInteger(value)) return { ok: false, expected: 'an integer' };
|  if (options.min !== undefined && value < options.min) return { ok: false, expected: `a number >= ${options.min}` };
|  if (options.max !== undefined && value > options.max) return { ok: false, expected: `a number <= ${options.max}` };
|  return { ok: true, value };
|}
|
|function coerceBoolean(raw: Uint8Array): Coerced<boolean> {
|  const text = decodeText(raw);
|  if (text === 'true') return { ok: true, value: true };
|  if (text === 'false') return { ok: true, value: false };
|  return { ok: false, expected: 'true or false' };
|}
|
|function coerceEnum<T extends string>(raw: Uint8Array, values: readonly T[]): Coerced<T> {
|  const text = decodeText(raw);
|  const match = values.find((value) => value === text);
|  if (match === undefined) return { ok: false, expected: `one of: ${values.join(', ')}` };
|  return { ok: true, value: match };
|}
|
|function coerceBytes(raw: Uint8Array, options: { length?: number }): Coerced<Uint8Array> {
|  if (options.length !== undefined && raw.length !== options.length) {
|    return { ok: false, expected: `${options.length} bytes` };
|  }
|  return { ok: true, value: raw.slice() };
|}
  "#

def enumLines (e : Enumeration) : List String :=
  ["", fill [("enum", profile.typeName [e.name])] r"export enum ⟨enum⟩ {"] ++
  e.values.map (fun v ↦ s!"  {profile.typeName [v.1]} = {v.2},") ++ [r"}"]

def messageInterface (m : Message) : List String :=
  let doc := m.description?.toList.map fun d ↦ s!"/** {commentText d} */"
  let member (f : Field) : String :=
    let mark := if f.required then "" else "?"
    s!"  {f.member profile}{mark}: {typeOf f};"
  "" :: doc ++ [fill (m.names profile) r"export interface ⟨type⟩ {"] ++
    m.fields.map member ++ [r"}"]

def expectLines (state : State) (text : String) : List String :=
  filled [("state", state.kind), ("bytes", bytesLiteral text), ("text", stringLiteral text),
      ("size", byteLength text)] r#"
|  if (!startsWith(data, ⟨bytes⟩, pos)) {
|    return fail('⟨state⟩', data, pos, ⟨text⟩);
|  }
|  pos += ⟨size⟩;
  "#

def fieldHoles (state : State) (f : Field) (x : Extraction) : Holes :=
  [("field", f.name), ("termination", x.termination), ("length", x.length.plain),
    ("label", stringLiteral state.label), ("stops", stopsLiteral x.stops),
    ("member", f.member profile), ("coerce", coerceCall f "data.subarray(pos, end)")]

def requiredEnd (x : Extraction) : List String :=
  if x.isFixed then block r#"
|  end = pos + ⟨length⟩;
|  if (end > data.length) {
|    return fail(⟨label⟩, data, pos, '⟨length⟩ bytes');
|  }
  "#
  else if x.stops.isEmpty then block r#"
|  end = data.length;
  "#
  else block r#"
|  end = findStop(data, pos, ⟨stops⟩);
|  if (end < 0) end = data.length;
  "#

def extractLines (state : State) (f : Field) (x : Extraction) : List String :=
  (block r#"
|  // ⟨field⟩: ⟨termination⟩
  "# ++
  requiredEnd x ++ block r#"
|  {
|    const value = ⟨coerce⟩;
|    if (!value.ok) return fail(⟨label⟩, data, pos, value.expected);
|    message.⟨member⟩ = value.value;
|  }
|  pos = end;
  "#).map (fill (fieldHoles state f x))

def optionalLines (state : State) (f : Field) (x : Extraction) (follow : Option String) :
    List String :=
  let guard := if x.isFixed then "end <= data.length" else "end > pos"
  let stop := if x.isFixed then "pos + " ++ x.length.plain
    else if x.stops.isEmpty then "data.length"
    else s!"findStop(data, pos, {stopsLiteral x.stops})"
  let condition := match follow with
    | some text => s!"{guard} && startsWith(data, {bytesLiteral text}, end)"
    | none => guard
  filled (("stop", stop) :: ("condition", condition) :: fieldHoles state f x) r#"
|  // ⟨field⟩ (optional): ⟨termination⟩; absent unless a non-empty value parses
|  end = ⟨stop⟩;
|  if (⟨condition⟩) {
|    const value = ⟨coerce⟩;
|    if (value.ok) {
|      message.⟨member⟩ = value.value;
|      pos = end;
|    }
|  }
  "#

def stateLines (m : Message) (state : State) : List String :=
  "" :: match state with
    | .expectFixed text | .expectDelimiter text => expectLines state text
    | .extractField f x => (m.field? f.name).elim [] fun field ↦ extractLines state field x
    | .optionalField f x follow =>
      (m.field? f.name).elim [] fun field ↦ optionalLines state field x follow
    | .terminal terminator =>
      (match terminator with
        | some text => expectLines state text ++ [""]
        | none => []) ++ filled (m.names profile) r#"
|  return { ok: true, message: message as ⟨type⟩, bytesConsumed: pos - offset };
  "#

def parseFunction (m : Message) : List String :=
  let names := ("label", stringLiteral m.firstLabel) :: m.names profile
  filled names r#"
|
|/**
| * Parse a ⟨type⟩ from data, starting at offset.
| *
| * On failure nothing is consumed and the failure names the state, offset,
| * expected text and a preview of what was found.
| */
|export function ⟨parse⟩(data: Uint8Array, offset = 0): ParseResult<⟨type⟩> {
|  if (offset > data.length) {
|    return fail(⟨label⟩, data, offset, `data at offset ${offset}`);
|  }
|  let pos = offset;
  "# ++
  linesIf m.extracts ["  let end: number;"] ++ filled names r#"
|  const message: Partial<⟨type⟩> = {};
  "# ++
  m.fields.flatMap (fun f ↦ f.default?.toList.map fun v ↦
    s!"  message.{f.member profile} = {literal v};") ++
  m.info.machine.states.flatMap (stateLines m) ++ [r"}"]

def parserModule (p : Package) : String :=
  fileText (parserHead p ++ p.enums.flatMap enumLines ++
    p.messages.flatMap fun m ↦ messageInterface m ++ parseFunction m)

end TextProtocol.Target.TypeScript
