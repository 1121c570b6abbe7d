import TextProtocol.Target.Call.Python

/-!
# Python serializers

The module with the functions that validate and serialize each message.
-/

namespace TextProtocol.Target.Python

def serializerHead (p : Package) (holes : Holes) : List String :=
  "" :: filled holes r#"
|"""Serializers for the ⟨name⟩ protocol.
|
|Generated by wirecraft. Do not edit.
|"""
|
|from ⟨runtime⟩ import (
|    FieldError,
|    SerializeFailure,
|    SerializeResult,
|    SerializeSuccess,
|    check_boolean,
|    check_bytes,
|    check_enum,
|    check_number,
|    check_string,
|    encode_value,
|)
|
|from .⟨parser⟩ import (
  "# ++
  p.messages.map (fun m ↦ fill (m.names profile) "    ⟨type⟩,") ++ [")", "", "__all__ = ["] ++
  p.messages.flatMap (fun m ↦ filled (m.names profile) r#"
|    "⟨serialize⟩",
|    "⟨validate⟩",
  "#) ++ ["]"]

def validateFunction (m : Message) : List String :=
  filled (m.names profile) r#"
|
|
|def ⟨validate⟩(message: ⟨type⟩) -> list[FieldError]:
|    """Return every constraint violation in a ⟨type⟩."""
|    errors: list[FieldError] = []
  "# ++
  m.fields.map (fun f ↦ "    errors += " ++ checkCall f ("message." ++ f.member profile)) ++
  ["    return errors"]

def stepLines (m : Message) : Step → List String
  | .literal text | .delimiter text | .terminator text => ["    out += " ++ bytesLiteral text]
  | .field definition => (m.field? definition.name).elim [] fun f ↦
      let holes := [("attr", "message." ++ f.member profile),
        ("default", literal (f.default?.getD .null))]
      if f.required then filled holes r#"
|    out += encode_value(⟨attr⟩)
  "#
      else if f.default?.isSome then filled holes r#"
|    out += encode_value(⟨attr⟩ if ⟨attr⟩ is not None else ⟨default⟩)
  "#
      else filled holes r#"
|    if ⟨attr⟩ is not None:
|        out += encode_value(⟨attr⟩)
  "#

def serializeFunction (m : Message) : List String :=
  filled (m.names profile) r#"
|
|
|def ⟨serialize⟩(message: ⟨type⟩) -> SerializeResult:
|    """Encode a ⟨type⟩, or report all of its violations."""
|    errors = ⟨validate⟩(message)
|    if errors:
|        return SerializeFailure(tuple(errors))
|
|    out = bytearray()
  "# ++
  m.info.steps.flatMap (stepLines m) ++ ["    return SerializeSuccess(bytes(out))"]

def serializerModule (p : Package) (runtime : String) : String :=
  fileText (serializerHead p (packageNames p runtime) ++
    p.messages.flatMap fun m ↦ validateFunction m ++ serializeFunction m)

end TextProtocol.Target.Python
