import TextProtocol.Compile.Check
import TextProtocol.Compile.Message

/-!
# Compiled protocols

A protocol compiles when the checks on it as a whole find no error and at least one of its messages
is free of errors. Messages with errors are dropped.
-/

namespace TextProtocol.Compiled

structure Protocol where
  spec : Spec
  metadata : Spec.Metadata
  connection : Spec.Connection
  errorHandling : Spec.ErrorHandling
  types : List Spec.TypeDefinition
  messages : List Message
  diagnostics : List Diagnostic

namespace Protocol

def requests (p : Protocol) : List Message :=
  p.messages.filter (·.isRequest)

def responses (p : Protocol) : List Message :=
  p.messages.filter (·.isResponse)

def enumTypes (p : Protocol) : List Spec.TypeDefinition :=
  p.types.filter (·.kind == some "enum")

def patternFields (p : Protocol) : List (Message × Field) :=
  p.messages.flatMap fun m ↦
    (m.fields.filter fun f ↦ f.constraints.pattern.any (!·.isEmpty)).map ((m, ·))

end Protocol

/-- Whether a diagnostic is an error that no message is to blame for. -/
def isProtocolWide (d : Diagnostic) : Bool :=
  d.isError && d.messageName.isNone

/-- Compile the messages without errors among checked ones. Without metadata a message cannot even
be dropped. -/
def compileSound (metadata : Option Spec.Metadata) :
    List (Spec.Message × List Diagnostic) → Except Failure (List (Message × List Diagnostic))
  | [] => .ok []
  | (m, found) :: rest => do
    if found.any (·.isError) then
      if metadata.isNone then throw (.fault .absent)
      compileSound metadata rest
    else
      let compiled ← compileMessage m
      return compiled :: (← compileSound metadata rest)

def compile (spec : Spec) : Except Failure Protocol := do
  let ofSpec ← (Check.ofSpec spec).mapError .fault
  let messages ← (Spec.itemsOf spec.messages).mapError .fault
  let checked ← (messages.mapM fun m ↦ do return (m, ← Check.ofMessage m)).mapError .fault
  let found := ofSpec ++ checked.flatMap (·.2)
  if found.any isProtocolWide then throw (.refused found)
  let compiled ← compileSound spec.metadata checked
  let diagnostics := found ++ compiled.flatMap (·.2)
  if compiled.isEmpty then throw (.refused diagnostics)
  match spec.metadata, spec.connection, spec.errorHandling, Spec.itemsOf spec.types with
  | some metadata, some connection, some errorHandling, .ok types =>
    return {
      spec, metadata, connection, errorHandling, types
      messages := compiled.map (·.1), diagnostics }
  | _, _, _, _ => throw (.fault .absent)

end TextProtocol.Compiled
