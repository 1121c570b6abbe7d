import TextProtocol.Target.Client.Go
import TextProtocol.Target.Parser.Go
import TextProtocol.Target.Serializer.Go
import TextProtocol.Target.Tests.Go

/-!
# Go packages

All files of a generated Go package.
-/

namespace TextProtocol.Target.Go

def generate (protocol : Compiled.Protocol) : Except Cause Sources := do
  let p ← Package.ofProtocol protocol profile.displayName 1 fun v ↦ .ok (literal v)
  let modules := modules p
  return {
    parser := ⟨modules.parser ++ ".go", parserFile p⟩
    serializer := ⟨modules.serializer ++ ".go", serializerFile p⟩
    client := ⟨modules.client ++ ".go", clientFile p⟩
    tests := ⟨modules.tests ++ ".go", testsFile p⟩
    warnings := p.warnings }

end TextProtocol.Target.Go
