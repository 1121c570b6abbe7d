import TextProtocol.Script.Evaluate

/-!
# Loading Python modules

A module is read as a whole before its statements are run. Modules are loaded one after another, and
each can take names from those before it.
-/

namespace TextProtocol.Script

/-- A module: the name that others load it by, and its source. -/
structure Module where
  name : String
  source : String

inductive LoadFault where
  /-- The source holds the one character that no source may hold. -/
  | forbiddenCharacter
  | unreadable (cause : SourceFault)
  | raised (exception : Exception)
  deriving DecidableEq, Repr

namespace Module

def load (siblings : Siblings) (m : Module) : Except LoadFault Scope := do
  if m.source.toList.contains '\x00' then throw .forbiddenCharacter
  let statements ← (readModule m.source).mapError .unreadable
  (runModule siblings (m.source.length + 1000) statements).mapError .raised

/-- Loads modules one after another, next to those that are loaded already. -/
def loadAll (siblings : Siblings) : List Module → Except LoadFault Siblings
  | [] => return siblings
  | m :: rest => do
    let scope ← m.load siblings
    loadAll ((m.name, some scope) :: siblings) rest

end Module

end TextProtocol.Script
