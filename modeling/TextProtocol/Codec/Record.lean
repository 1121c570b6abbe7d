import TextProtocol.Compile.Message
import TextProtocol.Naming.Profile
import TextProtocol.Wire.Check

/-!
# Records

A message in use is a record with one member for each field of its definition. The name of a member
is spelled from that of the field; fields whose names come to the same member share it, and the
default of the last one that has any counts. A required field has no default.
-/

namespace TextProtocol

/-- A message in use: the values of its members, by name. -/
abbrev Record := List (String × Value)

namespace Record

def get (r : Record) (member : String) : Value :=
  (Value.lookup? r member).getD .null

end Record

namespace Codec

def memberName (name : Option String) : String :=
  Naming.Profile.python.memberName [name.getD ""]

/-- A member of a message and its default, which required members do not have. -/
structure Member where
  name : String
  default? : Option Value

def Member.ofField (f : Compiled.Field) : Member where
  name := memberName f.name
  default? := if f.definition.isRequired then none else some f.definition.defaultValue

/-- Members with one more. A member of the same name is not repeated, and keeps its default if the
new one has none. -/
def addMember (members : List Member) (m : Member) : List Member :=
  if members.any (·.name == m.name) then
    members.map fun other ↦
      if other.name == m.name then { other with default? := m.default? <|> other.default? }
      else other
  else members ++ [m]

def members (m : Compiled.Message) : List Member :=
  (m.fields.map Member.ofField).foldl addMember []

/-- A record of some members from the values given for them. A member that the message does not
have, or a required one that is left out, is a fault. -/
def buildFrom (members : List Member) (given : Record) : Except Fault Record := do
  if given.any fun e ↦ members.all (·.name != e.1) then throw .mismatch
  members.mapM fun m ↦ match Value.lookup? given m.name <|> m.default? with
    | some v => .ok (m.name, v)
    | none => .error .mismatch

def build (m : Compiled.Message) (given : Record) : Except Fault Record :=
  buildFrom (members m) given

def byMember (values : List (String × Value)) : Record :=
  values.foldl (fun r e ↦ Value.putEntry r (memberName (some e.1)) e.2) []

def ofFields (m : Compiled.Message) (values : List (String × Value)) : Except Fault Record :=
  build m (byMember values)

/-- A bound as packages carry it. Bounds that are neither integers nor lists are carried as text. -/
def carried : Value → Value
  | .real x => .text x.text
  | .object entries => .text (Value.object entries).plain
  | v => v

def checkOf (f : Compiled.Field) : FieldCheck :=
  let c := f.constraints
  match f.definition.type with
  | some (.number ..) => .number (carried c.minimum) (carried c.maximum)
  | some .boolean => .boolean
  | some (.enum _) => .choice c.values
  | some (.bytes _) => .bytes (carried c.length)
  | some (.string _) | none => .text (carried c.minLength) (carried c.maxLength) c.pattern

def stopsOf (f : Compiled.Field) : List Bytes :=
  f.stops.map Utf8.ofString

end Codec

end TextProtocol
