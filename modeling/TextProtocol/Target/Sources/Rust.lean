import TextProtocol.Target.Client.Rust
import TextProtocol.Target.Parser.Rust
import TextProtocol.Target.Serializer.Rust
import TextProtocol.Target.Tests.Rust

/-!
# Rust packages

All files of a generated Rust package.
-/

namespace TextProtocol.Target.Rust

def rootModule (p : Package) : String :=
  fileText ("" :: filled (packageNames p) r#"
|//! The ⟨name⟩ protocol: parsers, serializers and an async client.
|//!
|//! Generated by wirecraft. Do not edit. Depends on the `regex` and `tokio`
|//! crates, and on `proptest` for the tests.
|
|pub mod ⟨parser⟩;
|pub mod ⟨serializer⟩;
|pub mod ⟨clientModule⟩;
|
|#[cfg(test)]
|mod ⟨testsModule⟩;
|
|pub use ⟨clientModule⟩::*;
|pub use ⟨parser⟩::*;
|pub use ⟨serializer⟩::*;
  "#)

def generate (protocol : Compiled.Protocol) : Except Cause Sources := do
  let p ← Package.ofProtocol protocol profile.displayName 0 fun v ↦ (valueText v).mapError .noText
  let modules := modules p
  return {
    parser := ⟨modules.parser ++ ".rs", parserModule p⟩
    serializer := ⟨modules.serializer ++ ".rs", serializerModule p⟩
    client := ⟨modules.client ++ ".rs", clientModule p⟩
    tests := ⟨modules.tests ++ ".rs", testsModule p⟩
    extra := [⟨"mod.rs", rootModule p⟩]
    warnings := p.warnings }

end TextProtocol.Target.Rust
