import TextProtocol.Target.Client.Python
import TextProtocol.Target.Parser.Python
import TextProtocol.Target.Serializer.Python
import TextProtocol.Target.Tests.Python

/-!
# Python packages

All files of a generated Python package.
-/

namespace TextProtocol.Target.Python

def initModule (p : Package) (holes : Holes) : String :=
  fileText (filled holes r#"
|"""Generated ⟨name⟩ protocol package."""
|
|from .⟨clientModule⟩ import ⟨client⟩, ⟨baseError⟩
|from .⟨parser⟩ import (
  "# ++ p.messages.flatMap (fun m ↦ filled (m.names profile) r#"
|    ⟨type⟩,
|    ⟨parse⟩,
  "#) ++ [")", fill holes "from .⟨serializer⟩ import ("] ++
    p.messages.flatMap (fun m ↦ filled (m.names profile) r#"
|    ⟨serialize⟩,
|    ⟨validate⟩,
  "#) ++ [")"])

def generate (protocol : Compiled.Protocol) (runtime : String) : Except Cause Sources := do
  let p ← packageOf protocol
  let modules := modules p
  let client ← clientModule p runtime
  return {
    parser := ⟨modules.parser ++ ".py", parserModule p runtime⟩
    serializer := ⟨modules.serializer ++ ".py", serializerModule p runtime⟩
    client := ⟨modules.client ++ ".py", client⟩
    tests := ⟨modules.tests ++ ".py", testsModule p runtime⟩
    extra := [⟨"__init__.py", initModule p (packageNames p runtime)⟩]
    warnings := p.warnings }

end TextProtocol.Target.Python
