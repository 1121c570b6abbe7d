import TextProtocol.Cli.Action
import TextProtocol.Compile.Protocol
import TextProtocol.Spec.Words

/-!
# Reports on protocols

What a protocol compiles to, as a document or in tables.
-/

namespace TextProtocol.Cli

def wordOf {α : Type} [Spec.Choice α] (choice : Option α) : String :=
  choice.elim "None" Spec.Choice.word

def messageDocument (m : Compiled.Message) : Value :=
  .object [
    ("direction", .text (wordOf m.source.direction)),
    ("fields", .list (m.fields.map fun f ↦ Value.ofText? f.name)),
    ("states", .list (m.machine.states.map fun s ↦
      .object [("state", .text s.label), ("detail", .text s.describe)])),
    ("roundTrip", .bool m.skipReason.isNone)]

def protocolDocument (p : Compiled.Protocol) : Value :=
  .object [
    ("protocol", .object [
      ("name", Value.ofText? p.metadata.name), ("port", p.metadata.port),
      ("transport", .text (wordOf p.connection.transport))]),
    ("messages", .object (p.messages.map fun m ↦ (m.name.getD "null", messageDocument m))),
    ("diagnostics", .texts (p.diagnostics.map (·.text)))]

def heading (text : String) : String :=
  s!"[bold cyan]{text}[/bold cyan]"

def escapedName : Option String → Action String
  | some name => return Console.escape name
  | none => Action.crash (.fault .mismatch)

def printTable (rows : List (List String)) : Action Unit := do
  Action.print (Console.table (← rows.mapM fun row ↦ row.mapM Action.render))

def printMessage (m : Compiled.Message) : Action Unit := do
  let name ← escapedName m.name
  Action.printMarkup s!"{heading name} [dim]({wordOf m.source.direction})[/dim]"
  Action.printPlain ("  " ++ Segment.describe m.machine.segments)
  printTable (["State", "Detail"] :: m.machine.states.map fun s ↦
    [s.label, Console.escape s.describe])
  if let some reason := m.skipReason then
    Action.printMarkup s!"  [dim]round-trip tests skipped: {Console.escape reason}[/dim]"
  Action.print "\n"

def printProtocol (p : Compiled.Protocol) : Action Unit := do
  Action.printMarkup (heading "Protocol")
  let name ← escapedName p.metadata.name
  printTable [["Name", name], ["Port", p.metadata.port.plain],
    ["Transport", wordOf p.connection.transport],
    ["Keep alive", if p.connection.keepAlive == some true then "yes" else "no"]]
  Action.print "\n"
  p.messages.forM printMessage
  if !p.diagnostics.isEmpty then
    Action.printMarkup (heading "Diagnostics")
    p.diagnostics.forM fun d ↦ Action.printPlain ("  " ++ d.text)

end TextProtocol.Cli
