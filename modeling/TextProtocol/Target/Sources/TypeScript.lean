import TextProtocol.Target.Client.TypeScript
import TextProtocol.Target.Parser.TypeScript
import TextProtocol.Target.Serializer.TypeScript
import TextProtocol.Target.Tests.TypeScript

/-!
# TypeScript packages

All files of a generated TypeScript package.
-/

namespace TextProtocol.Target.TypeScript

def indexModule (p : Package) : String :=
  fileText (filled (packageNames p) r#"
|// Generated ⟨name⟩ protocol package.
|// Generated by wirecraft. Do not edit.
|
|export * from './⟨parser⟩';
|export * from './⟨serializer⟩';
|export * from './⟨clientModule⟩';
  "#)

def generate (protocol : Compiled.Protocol) : Except Cause Sources := do
  let p ← Package.ofProtocol protocol profile.displayName 0 fun v ↦ .ok (literal v)
  let modules := modules p
  return {
    parser := ⟨modules.parser ++ ".ts", parserModule p⟩
    serializer := ⟨modules.serializer ++ ".ts", serializerModule p⟩
    client := ⟨modules.client ++ ".ts", clientModule p⟩
    tests := ⟨modules.tests ++ ".ts", testsModule p⟩
    extra := [⟨"index.ts", indexModule p⟩]
    warnings := p.warnings }

end TextProtocol.Target.TypeScript
