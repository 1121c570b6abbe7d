import TextProtocol.Target.Call.TypeScript

/-!
# TypeScript serializers

The module with the functions that validate and serialize each message.
-/

namespace TextProtocol.Target.TypeScript

def serializerHead (p : Package) : List String :=
  "" :: filled (packageNames p) r#"
|// Serializers for the ⟨name⟩ protocol.
|// Generated by wirecraft. Do not edit.
|
|import {
|  indexOf,
  "# ++
  p.messages.map (fun m ↦ fill (m.names profile) "  type ⟨type⟩,") ++ filled (packageNames p) r#"
|} from './⟨parser⟩';
|
|export interface FieldError {
|  field: string;
|  constraint: string;
|  message: string;
|  expected?: string;
|}
|
|export type SerializeResult = { ok: true; data: Uint8Array } | { ok: false; errors: FieldError[] };
|
|interface CheckOptions {
|  required: boolean;
|  stops?: Uint8Array[];
|}
|
|const encoder = new TextEncoder();
|const decoder = new TextDecoder('utf-8');
|
|export function encodeValue(value: string | number | boolean | Uint8Array): Uint8Array {
|  if (value instanceof Uint8Array) return value;
|  return encoder.encode(String(value));
|}
|
|function concat(chunks: Uint8Array[]): Uint8Array {
|  const out = new Uint8Array(chunks.reduce((total, chunk) => total + chunk.length, 0));
|  let offset = 0;
|  for (const chunk of chunks) {
|    out.set(chunk, offset);
|    offset += chunk.length;
|  }
|  return out;
|}
|
|// A stop overlapping the end of the value would also end the field early
|function containsStop(raw: Uint8Array, stops: Uint8Array[]): Uint8Array | undefined {
|  return stops.find((stop) => indexOf(concat([raw, stop]), stop, 0) < raw.length);
|}
|
|function present(errors: FieldError[], name: string, value: unknown, required: boolean): boolean {
|  if (value !== undefined && value !== null) return true;
|  if (required) {
|    errors.push({ field: name, constraint: 'required', message: `${name} is required`, expected: 'a value' });
|  }
|  return false;
|}
|
|// An optional value that renders to nothing would parse back as absent
|function checkEmpty(errors: FieldError[], name: string, raw: Uint8Array, required: boolean): void {
|  if (required || raw.length > 0) return;
|  errors.push({
|    field: name,
|    constraint: 'empty',
|    message: `${name} must be omitted rather than empty`,
|    expected: 'a non-empty value',
|  });
|}
|
|function checkStops(errors: FieldError[], name: string, raw: Uint8Array, stops?: Uint8Array[]): void {
|  const stop = stops && containsStop(raw, stops);
|  if (stop === undefined) return;
|  const text = JSON.stringify(decoder.decode(stop));
|  errors.push({
|    field: name,
|    constraint: 'contains_stop',
|    message: `${name} must not contain the separator ${text}`,
|    expected: `no ${text}`,
|  });
|}
|
|function checkString(
|  errors: FieldError[],
|  name: string,
|  value: unknown,
|  options: CheckOptions & { minLength?: number; maxLength?: number; pattern?: RegExp },
|): void {
|  if (!present(errors, name, value, options.required)) return;
|  if (typeof value !== 'string') {
|    errors.push({ field: name, constraint: 'type', message: `${name} must be a string`, expected: 'a string' });
|    return;
|  }
|  const length = [...value].length;
|  if (options.minLength !== undefined && length < options.minLength) {
|    errors.push({
|      field: name,
|      constraint: 'min_length',
|      message: `${name} must be at least ${options.minLength} characters`,
|      expected: `at least ${options.minLength} characters`,
|    });
|  }
|  if (options.maxLength !== undefined && length > options.maxLength) {
|    errors.push({
|      field: name,
|      constraint: 'max_length',
|      message: `${name} must be at most ${options.maxLength} characters`,
|      expected: `at most ${options.maxLength} characters`,
|    });
|  }
|  if (options.pattern !== undefined && !options.pattern.test(value)) {
|    errors.push({
|      field: name,
|      constraint: 'pattern',
|      message: `${name} must match ${options.pattern.source}`,
|      expected: `text matching ${options.pattern.source}`,
|    });
|  }
|  checkEmpty(errors, name, encodeValue(value), options.required);
|  checkStops(errors, name, encodeValue(value), options.stops);
|}
|
|function checkNumber(
|  errors: FieldError[],
|  name: string,
|  value: unknown,
|  options: CheckOptions & { min?: number; max?: number },
|): void {
|  if (!present(errors, name, value, options.required)) return;
|  if (typeof value !== 'number' || !Number.isSafeInteger(value)) {
|    errors.push({ field: name, constraint: 'type', message: `${name} must be an integer`, expected: 'an integer' });
|    return;
|  }
|  if (options.min !== undefined && value < options.min) {
|    errors.push({
|      field: name,
|      constraint: 'minimum',
|      message: `${name} must be >= ${options.min}`,
|      expected: `a number >= ${options.min}`,
|    });
|  }
|  if (options.max !== undefined && value > options.max) {
|    errors.push({
|      field: name,
|      constraint: 'maximum',
|      message: `${name} must be <= ${options.max}`,
|      expected: `a number <= ${options.max}`,
|    });
|  }
|  checkStops(errors, name, encodeValue(value), options.stops);
|}
|
|function checkBoolean(errors: FieldError[], name: string, value: unknown, options: CheckOptions): void {
|  if (!present(errors, name, value, options.required)) return;
|  if (typeof value !== 'boolean') {
|    errors.push({ field: name, constraint: 'type', message: `${name} must be a boolean`, expected: 'true or false' });
|    return;
|  }
|  checkStops(errors, name, encodeValue(value), options.stops);
|}
|
|function checkEnum(
|  errors: FieldError[],
|  name: string,
|  value: unknown,
|  values: readonly string[],
|  options: CheckOptions,
|): void {
|  if (!present(errors, name, value, options.required)) return;
|  if (typeof value !== 'string' || !values.includes(value)) {
|    const allowed = values.join(', ');
|    errors.push({ field: name, constraint: 'enum', message: `${name} must be one of: ${allowed}`, expected: `one of: ${allowed}` });
|    return;
|  }
|  checkEmpty(errors, name, encodeValue(value), options.required);
|  checkStops(errors, name, encodeValue(value), options.stops);
|}
|
|function checkBytes(
|  errors: FieldError[],
|  name: string,
|  value: unknown,
|  options: CheckOptions & { length?: number },
|): void {
|  if (!present(errors, name, value, options.required)) return;
|  if (!(value instanceof Uint8Array)) {
|    errors.push({ field: name, constraint: 'type', message: `${name} must be bytes`, expected: 'bytes' });
|    return;
|  }
|  if (options.length !== undefined && value.length !== options.length) {
|    errors.push({
|      field: name,
|      constraint: 'length',
|      message: `${name} must be exactly ${options.length} bytes`,
|      expected: `${options.length} bytes`,
|    });
|    return;
|  }
|  checkEmpty(errors, name, value, options.required);
|  checkStops(errors, name, value, options.stops);
|}
  "#

def validateFunction (m : Message) : List String :=
  filled (m.names profile) r#"
|
|/** Return every constraint violation in a ⟨type⟩. */
|export function ⟨validate⟩(message: ⟨type⟩): FieldError[] {
|  const errors: FieldError[] = [];
  "# ++
  m.fields.map (fun f ↦ "  " ++ checkCall f ("message." ++ f.member profile) ++ ";") ++ block r#"
|  return errors;
|}
  "#

def stepLines (m : Message) : Step → List String
  | .literal text | .delimiter text | .terminator text =>
    [s!"  chunks.push({bytesLiteral text});"]
  | .field definition => (m.field? definition.name).elim [] fun f ↦
      let holes := [("attr", "message." ++ f.member profile),
        ("default", literal (f.default?.getD .null))]
      if f.required then filled holes r#"
|  chunks.push(encodeValue(⟨attr⟩));
  "#
      else if f.default?.isSome then filled holes r#"
|  chunks.push(encodeValue(⟨attr⟩ ?? ⟨default⟩));
  "#
      else filled holes r#"
|  if (⟨attr⟩ !== undefined) chunks.push(encodeValue(⟨attr⟩));
  "#

def serializeFunction (m : Message) : List String :=
  filled (m.names profile) r#"
|
|/** Encode a ⟨type⟩, or report all of its violations. */
|export function ⟨serialize⟩(message: ⟨type⟩): SerializeResult {
|  const errors = ⟨validate⟩(message);
|  if (errors.length > 0) return { ok: false, errors };
|
|  const chunks: Uint8Array[] = [];
  "# ++
  m.info.steps.flatMap (stepLines m) ++ block r#"
|  return { ok: true, data: concat(chunks) };
|}
  "#

def serializerModule (p : Package) : String :=
  fileText (serializerHead p ++
    p.messages.flatMap fun m ↦ validateFunction m ++ serializeFunction m)

end TextProtocol.Target.TypeScript
