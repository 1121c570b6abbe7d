import TextProtocol.Cli.Run

/-!
# The command line

Reads the specification that a command names, prints what the run prints, and writes its files.
-/

open TextProtocol

def millisecondsText (nanoseconds : Nat) : String :=
  let tenths := nanoseconds / 100000
  s!"{tenths / 10}.{tenths % 10}"

/-- The text of the file that a command line reads; empty if there is none. -/
def inputText (args : List String) : IO String :=
  match Cli.parseCommand args with
  | .ok command => match command.input? with
    | some path => IO.FS.readFile path
    | none => return ""
  | .error _ => return ""

/-- The program. The time that a first run takes is the one that the second run prints. -/
def main (args : List String) : IO UInt32 := do
  let text ← inputText args
  let disk : Cli.Disk := {
    read := fun _ ↦ .ok text
    checkDirectory := fun _ ↦ .ok ()
    checkFile := fun _ ↦ .ok () }
  let start ← IO.monoNanosNow
  let _ ← IO.lazyPure fun _ ↦ (Cli.run { disk, elapsed := "" } args).exitCode
  let elapsed := millisecondsText ((← IO.monoNanosNow) - start)
  let outcome := Cli.run { disk, elapsed } args
  for (path, content) in outcome.output.written do
    IO.FS.createDirAll (Cli.directoryOf path)
    IO.FS.writeFile path content
  IO.print outcome.output.stdout
  IO.eprint outcome.output.stderr
  if let some crash := outcome.crash? then IO.eprintln crash.message
  if outcome.exitCode == 2 then IO.eprint (Cli.Topic.program.help "wirecraft")
  return outcome.exitCode.toUInt32
