import TextProtocol.Target.Call.TypeScript

/-!
# TypeScript tests

The module with a property test and example tests for each message.
-/

namespace TextProtocol.Target.TypeScript

def testsHead (p : Package) : List String :=
  "" :: filled (packageNames p) r#"
|// Tests for the ⟨name⟩ protocol.
|// Generated by wirecraft. Do not edit.
|
|import fc from 'fast-check';
|import { describe, expect, it } from 'vitest';
|
|import {
  "# ++
  p.messages.flatMap (fun m ↦ filled (m.names profile) r#"
|  type ⟨type⟩,
|  ⟨parse⟩,
  "#) ++ filled (packageNames p) r#"
|} from './⟨parser⟩';
|import {
  "# ++
  p.messages.map (fun m ↦ fill (m.names profile) "  ⟨serialize⟩,") ++ filled (packageNames p) r#"
|} from './⟨serializer⟩';
|
|const encoder = new TextEncoder();
  "#

def testStart (m : Message) (title : String) : String :=
  match m.info.skipReason with
  | some reason => "  it.skip(" ++ stringLiteral s!"{title} ({reason})" ++ ", () => \x7b"
  | none => s!"  it('{title}', () => \x7b"

def roundTripTest (m : Message) : List String :=
  filled (m.names profile) r#"
|
|describe('⟨type⟩', () => {
|  const arbitrary: fc.Arbitrary<⟨type⟩> = fc.record({
  "# ++
  m.fields.map (fun f ↦ s!"    {f.member profile}: {arbitrary f},") ++
  [r"  });", "", testStart m "round-trips"] ++ filled (m.names profile) r#"
|    fc.assert(
|      fc.property(arbitrary, (message) => {
|        const result = ⟨serialize⟩(message);
|        expect(result.ok).toBe(true);
|        if (!result.ok) return;
|        const parsed = ⟨parse⟩(result.data);
|        expect(parsed.ok).toBe(true);
|        if (!parsed.ok) return;
|        expect(parsed.message).toEqual(message);
|        expect(parsed.bytesConsumed).toBe(result.data.length);
|      }),
|      { numRuns: 100 },
|    );
|  });
|
  "#

def exampleTest (m : Message) : List String :=
  match m.sample? with
  | none =>
    let title := s!"serializes the example to exact bytes ({m.exampleSkip})"
    [s!"  it.skip({stringLiteral title}, () => \x7b\x7d);"]
  | some sample =>
    let data := m.info.sampleBytes.getD []
    filled ([("example", exampleObject sample), ("bytes", bytesOf data),
        ("exampleLength", toString data.length)] ++ m.names profile) r#"
|  it('serializes the example to exact bytes', () => {
|    const message: ⟨type⟩ = ⟨example⟩;
|    const expected = ⟨bytes⟩;
|    const result = ⟨serialize⟩(message);
|    expect(result.ok).toBe(true);
|    if (!result.ok) return;
|    expect(result.data).toEqual(expected);
|
|    const parsed = ⟨parse⟩(expected);
|    expect(parsed.ok).toBe(true);
|    if (!parsed.ok) return;
|    expect(parsed.message).toEqual(message);
|    expect(parsed.bytesConsumed).toBe(⟨exampleLength⟩);
|  });
  "#

def truncationTest (m : Message) : List String :=
  match m.info.truncatedBytes with
  | none => []
  | some data => filled (("bytes", bytesOf data) :: m.names profile) r#"
|
|  it('rejects truncated input', () => {
|    const parsed = ⟨parse⟩(⟨bytes⟩);
|    expect(parsed.ok).toBe(false);
|    expect(parsed.bytesConsumed).toBe(0);
|  });
  "#

def testsModule (p : Package) : String :=
  fileText (testsHead p ++ p.messages.flatMap fun m ↦
    roundTripTest m ++ exampleTest m ++ truncationTest m ++ [r"});"])

end TextProtocol.Target.TypeScript
