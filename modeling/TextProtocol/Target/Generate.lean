import TextProtocol.Target.Sources.Go
import TextProtocol.Target.Sources.Python
import TextProtocol.Target.Sources.Rust
import TextProtocol.Target.Sources.TypeScript

/-!
# Generation

A protocol is compiled once and its sources are generated for each language that is asked for. A
generator that fails takes nothing away from the others.
-/

namespace TextProtocol.Target

abbrev Generator := Compiled.Protocol → Except Cause Sources

abbrev Generators := List (String × Generator)

namespace Generators

/-- The generators of this library. Generated Python takes its shared code from `runtime`. -/
def builtin (runtime : String := "wirecraft.proto") : Generators :=
  [("python", (Python.generate · runtime)), ("typescript", TypeScript.generate),
    ("go", Go.generate), ("rust", Rust.generate)]

def find? (generators : Generators) (language : String) : Option Generator :=
  (List.find? (·.1 == language) generators).map (·.2)

def erase (generators : Generators) (language : String) : Generators :=
  List.filter (·.1 != language) generators

def replace (generators : Generators) (language : String) (generator : Generator) : Generators :=
  (language, generator) :: generators.erase language

end Generators

inductive Refusal where
  | unknownLanguage (word : String)
  | noGenerator (language : String)
  | notCompiled (failure : Compiled.Failure)
  /-- There is nobody to share the work, or no saying how many. -/
  | noWorkers (fault : Fault)

def failureMessage (language reason : String) : String :=
  s!"Generation failed for {language}: {reason}"

structure Generation where
  protocol : Option String
  diagnostics : List Diagnostic
  sources : List (String × Sources) := []
  failures : List (String × Cause) := []

namespace Generation

/-- Entries with one more. An entry of the same name is replaced where it stands. -/
def put {α : Type} (entries : List (String × α)) (language : String) (item : α) :
    List (String × α) :=
  if entries.any (·.1 == language) then
    entries.map fun e ↦ if e.1 == language then (language, item) else e
  else entries ++ [(language, item)]

def add (g : Generation) (language : String) : Except Cause Sources → Generation
  | .ok sources => { g with sources := put g.sources language sources }
  | .error cause => { g with failures := put g.failures language cause }

def isComplete (g : Generation) : Bool :=
  g.failures.isEmpty

end Generation

/-- The generators of the languages that are asked for, in order. A word that no profile goes by is
found before a language without a generator. -/
def chooseGenerators (generators : Generators) (words : List String) :
    Except Refusal Generators := do
  let profiles ← words.mapM fun word ↦
    (Naming.Registry.builtin.find? word).elim (.error (.unknownLanguage word)) .ok
  profiles.mapM fun p ↦ match generators.find? p.language with
    | some g => .ok (p.language, g)
    | none => .error (.noGenerator p.language)

def checkWorkers (workers : Value) : Except Refusal Unit :=
  if workers.isNull then .ok ()
  else match Value.lt (.int 0) workers with
    | .ok true => .ok ()
    | .ok false => .error (.noWorkers .invalid)
    | .error f => .error (.noWorkers f)

/-- The sources of a protocol in the languages that are asked for. The number of workers that share
the work counts as soon as there is work to share. -/
def generate (generators : Generators) (spec : Spec) (words : List String)
    (workers : Value := .null) : Except Refusal Generation := do
  let chosen ← chooseGenerators generators words
  let protocol ← (Compiled.compile spec).mapError .notCompiled
  if chosen.length > 1 then checkWorkers workers
  return chosen.foldl (fun g e ↦ g.add e.1 (e.2 protocol))
    { protocol := protocol.metadata.name, diagnostics := protocol.diagnostics }

end TextProtocol.Target
