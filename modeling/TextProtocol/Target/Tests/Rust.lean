import TextProtocol.Target.Call.Rust

/-!
# Rust tests

The module with a property test and example tests for each message.
-/

namespace TextProtocol.Target.Rust

def testsHead (p : Package) : List String :=
  "" :: filled (packageNames p) r#"
|//! Tests for the ⟨name⟩ protocol.
|//!
|//! Generated by wirecraft. Do not edit.
|#![allow(unused_imports)]
|
|use proptest::prelude::*;
|
|use super::⟨parser⟩::*;
|use super::⟨serializer⟩::*;
  "#

def strategyFunction (m : Message) : List String :=
  let holes := [("strategies", strategyTuple m), ("bindings", bindingTuple m)] ++ m.names profile
  filled holes r#"
|
|fn ⟨stem⟩_strategy() -> impl Strategy<Value = ⟨type⟩> {
  "# ++
  (if m.fields.isEmpty then filled holes r#"
|    Just(⟨type⟩::default())
  "#
  else filled holes r#"
|    ⟨strategies⟩.prop_map(|⟨bindings⟩| ⟨type⟩ {
  "# ++
  m.fields.map (fun f ↦ s!"        {f.member profile},") ++ [r"    })"]) ++ [r"}"]

def skipMark (reason : String) : String :=
  s!"#[ignore = {stringLiteral reason}]"

def roundTripTest (m : Message) : List String :=
  block r#"
|
|proptest! {
|    #![proptest_config(ProptestConfig::with_cases(100))]
|
|    #[test]
  "# ++
  m.info.skipReason.toList.map (fun reason ↦ "    " ++ skipMark reason) ++
  filled (m.names profile) r#"
|    fn ⟨stem⟩_round_trips(message in ⟨stem⟩_strategy()) {
|        let data = ⟨serialize⟩(&message).expect("valid message serializes");
|        let parsed = ⟨parse⟩(&data, 0).expect("serialized bytes parse");
|        prop_assert_eq!(parsed.bytes_consumed, data.len());
|        prop_assert_eq!(parsed.message, message);
|    }
|}
  "#

def exampleTest (m : Message) : List String :=
  ["", "#[test]"] ++ match m.sample? with
  | none => [skipMark m.exampleSkip, fill (m.names profile) r"fn ⟨stem⟩_example() {}"]
  | some sample =>
    let data := m.info.sampleBytes.getD []
    filled ([("example", exampleStruct m sample), ("bytes", bytesOf data),
        ("exampleLength", toString data.length)] ++ m.names profile) r#"
|fn ⟨stem⟩_example() {
|    let message = ⟨example⟩;
|    let expected: &[u8] = ⟨bytes⟩;
|    let data = ⟨serialize⟩(&message).expect("example serializes");
|    assert_eq!(data, expected);
|
|    let parsed = ⟨parse⟩(expected, 0).expect("example parses");
|    assert_eq!(parsed.bytes_consumed, ⟨exampleLength⟩);
|    assert_eq!(parsed.message, message);
|}
  "#

def truncationTest (m : Message) : List String :=
  match m.info.truncatedBytes with
  | none => []
  | some data => filled (("bytes", bytesOf data) :: m.names profile) r#"
|
|#[test]
|fn ⟨stem⟩_rejects_truncated_input() {
|    let err = ⟨parse⟩(⟨bytes⟩, 0).unwrap_err();
|    assert!(!err.state.is_empty());
|}
  "#

def testsModule (p : Package) : String :=
  fileText (testsHead p ++ p.messages.flatMap fun m ↦
    strategyFunction m ++ roundTripTest m ++ exampleTest m ++ truncationTest m)

end TextProtocol.Target.Rust
