import TextProtocol.Target.Call.Python

/-!
# Python tests

The module with a property test and example tests for each message.
-/

namespace TextProtocol.Target.Python

def testsHead (p : Package) (holes : Holes) : List String :=
  "" :: filled holes r#"
|"""Tests for the ⟨name⟩ protocol.
|
|Generated by wirecraft. Do not edit.
|"""
|
|import pytest
|from hypothesis import given, settings
|from hypothesis import strategies as st
|
|from .⟨parser⟩ import (
  "# ++
  p.messages.flatMap (fun m ↦ filled (m.names profile) r#"
|    ⟨type⟩,
|    ⟨parse⟩,
  "#) ++ [")", fill holes "from .⟨serializer⟩ import ("] ++
  p.messages.map (fun m ↦ fill (m.names profile) "    ⟨serialize⟩,") ++ [")"]

def skipMark (reason : String) : String :=
  s!"@pytest.mark.skip(reason={stringLiteral reason})"

def testNames (m : Message) : Holes :=
  ("values", profile.functionName [m.name, "values"]) :: m.names profile

def roundTripTest (m : Message) : List String :=
  filled (testNames m) r#"
|
|
|def ⟨values⟩() -> st.SearchStrategy[⟨type⟩]:
|    return st.builds(
|        ⟨type⟩,
  "# ++
  m.fields.map (fun f ↦ s!"        {f.member profile}={strategy f},") ++ ["    )", "", ""] ++
  m.info.skipReason.toList.map skipMark ++ filled (testNames m) r#"
|@settings(max_examples=100)
|@given(⟨values⟩())
|def test_⟨stem⟩_round_trip(message: ⟨type⟩) -> None:
|    result = ⟨serialize⟩(message)
|    assert result.ok, result
|    parsed = ⟨parse⟩(result.data)
|    assert parsed.ok, parsed
|    assert parsed.message == message
|    assert parsed.bytes_consumed == len(result.data)
|
|
  "#

def exampleTest (m : Message) : List String :=
  match m.sample? with
  | none => skipMark m.exampleSkip :: filled (m.names profile) r#"
|def test_⟨stem⟩_example() -> None:
|    pass
  "#
  | some sample =>
    let data := m.info.sampleBytes.getD []
    filled ([("example", exampleArguments sample), ("bytes", Text.quotedBytes data),
        ("exampleLength", toString data.length)] ++ m.names profile) r#"
|def test_⟨stem⟩_example() -> None:
|    message = ⟨type⟩(⟨example⟩)
|    result = ⟨serialize⟩(message)
|    assert result.ok, result
|    assert result.data == ⟨bytes⟩
|
|    parsed = ⟨parse⟩(⟨bytes⟩)
|    assert parsed.ok, parsed
|    assert parsed.message == message
|    assert parsed.bytes_consumed == ⟨exampleLength⟩
  "#

def truncationTest (m : Message) : List String :=
  match m.info.truncatedBytes with
  | none => []
  | some data => filled (("bytes", Text.quotedBytes data) :: m.names profile) r#"
|
|
|def test_⟨stem⟩_rejects_truncated_input() -> None:
|    parsed = ⟨parse⟩(⟨bytes⟩)
|    assert not parsed.ok
|    assert parsed.bytes_consumed == 0
  "#

def testsModule (p : Package) (runtime : String) : String :=
  fileText (testsHead p (packageNames p runtime) ++ p.messages.flatMap fun m ↦
    roundTripTest m ++ exampleTest m ++ truncationTest m)

end TextProtocol.Target.Python
