import TextProtocol.Cli.Help
import TextProtocol.Cli.Info
import TextProtocol.Spec.Document
import TextProtocol.Target.Generate
import TextProtocol.Target.Support

/-!
# Runs

What the program does for a command line.
-/

namespace TextProtocol.Cli

structure Surroundings where
  disk : Disk
  program : String := "wirecraft"
  /-- The time that generation takes, in milliseconds. -/
  elapsed : String

def fail {α : Type} (message : String) (notes : List String := []) : Action α := do
  Action.printErrorMarkup s!"[bold red]error:[/bold red] {Console.escape message}"
  notes.forM fun note ↦ Action.printErrorPlain ("  " ++ note)
  throw (.exit 1)

def loadSpec (disk : Disk) (path : String) : Action Spec := do
  let text ← Action.orCrash .file (disk.read path)
  match Spec.ofText (String.ofList (unixLines text.toList)) with
  | .ok spec => return spec
  | .error (.refused message) => fail message
  | .error (.fault f) => Action.crash (.fault f)

def failCompile {α : Type} : Compiled.Failure → Action α
  | .fault f => Action.crash (.fault f)
  | .badFormat e format => fail (e.message format)
  | .refused ds => fail (Diagnostic.refusal ds) ((ds.filter (!·.isError)).map (·.text))

def writeFiles (disk : Disk) (directory : String) (sources : List Target.SourceFile) :
    Action Unit := do
  Action.orCrash .file (disk.checkDirectory directory)
  sources.forM fun f ↦ do
    let path := joinPath directory f.path
    Action.orCrash .file (disk.checkFile path)
    Action.write path f.content

/-- The languages for which packages are generated unless others are asked for. -/
def allLanguages : List String :=
  ["python", "typescript", "go", "rust"]

def runGenerate (s : Surroundings) (languages : List String) (input : String)
    (output runtime : Option String) : Action Unit := do
  let generators := match runtime.filter (!·.isEmpty) with
    | some path => Target.Generators.builtin path
    | none => Target.Generators.builtin
  let spec ← loadSpec s.disk input
  let words := if languages.isEmpty then allLanguages else languages
  let g ← match Target.generate generators spec words with
    | .ok g => pure g
    | .error (.unknownLanguage word) => fail (Naming.Registry.builtin.unknownMessage word)
    | .error (.noGenerator language) =>
      fail (Target.failureMessage language (Text.quoted "no backend registered"))
    | .error (.notCompiled failure) => failCompile failure
    | .error (.noWorkers f) => Action.crash (.fault f)
  let output := (output.filter (!·.isEmpty)).getD "generated"
  g.sources.forM fun (language, sources) ↦ do
    let directory := joinPath output language
    writeFiles s.disk directory sources.files
    let count := sources.files.length
    Action.printMarkup
      s!"[green]{language}[/green]: {count} files in {directory} ({s.elapsed} ms)"
  let warnings := (g.sources.flatMap (·.2.warnings)).mergeSort.eraseDups
  warnings.forM fun w ↦ Action.printErrorMarkup s!"[yellow]warning:[/yellow] {Console.escape w}"
  g.failures.forM fun (language, cause) ↦ Action.printErrorMarkup
    s!"[bold red]error:[/bold red] {language}: {Console.escape cause.message}"
  if !g.isComplete then throw (.exit 1)

/-- The code that generated Python shares, written to a directory. -/
def runSupport (disk : Disk) (language output name : String) : Action Unit := do
  if language != "python" then
    Action.print s!"No runtime package for language: {language}\n"
    throw (.exit 1)
  let directory := joinPath output name
  writeFiles disk directory Target.supportFiles
  Action.print s!"Generated Python runtime in {directory}\n"

def runInfo (disk : Disk) (input : String) (json : Bool) : Action Unit := do
  match Compiled.compile (← loadSpec disk input) with
  | .error failure => failCompile failure
  | .ok p =>
    if json then Action.print (Json.indented 0 (protocolDocument p) ++ "\n") else printProtocol p

def runCommand (s : Surroundings) : Command → Action Unit
  | .help topic => Action.print (topic.help s.program)
  | .generate languages input output runtime => runGenerate s languages input output runtime
  | .support language output name => runSupport s.disk language output name
  | .info input json => runInfo s.disk input json

structure Outcome where
  output : Output := {}
  exitCode : Nat
  crash? : Option Crash := none

def run (s : Surroundings) (args : List String) : Outcome :=
  match parseCommand args with
  | .error .usage => { exitCode := 2 }
  | .error .logLevel => { exitCode := 1, crash? := some .logLevel }
  | .ok command =>
    let (result, output) := (runCommand s command).run.run {}
    match result with
    | .ok () => { output, exitCode := 0 }
    | .error (.exit code) => { output, exitCode := code }
    | .error (.crash c) => { output, exitCode := 1, crash? := some c }

end TextProtocol.Cli
