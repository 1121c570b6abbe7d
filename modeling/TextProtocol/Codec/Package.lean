import TextProtocol.Codec.Parse
import TextProtocol.Codec.Serialize
import TextProtocol.Compile.Protocol

/-!
# Packages in use

In a package the functions and the type of a message go by names that are spelled from its own.
Where the names of several messages come to the same, the last of them takes the place of the
others. A message or an enumeration may also take the name of something that the package itself
needs, and so hide it.
-/

namespace TextProtocol.Codec

structure Package where
  messages : List Compiled.Message
  enumTypes : List String
  /-- The members of types that have others than those for the fields of their messages. -/
  unusual : List (String × List Member)

def typeName (m : Compiled.Message) : String :=
  Naming.Profile.python.typeName [m.name.getD ""]

def functionStem (m : Compiled.Message) : String :=
  Naming.Profile.python.functionName ["parse", m.name.getD ""]

namespace Package

def ofProtocol (p : Compiled.Protocol) : Package where
  messages := p.messages
  enumTypes := p.enumTypes.map fun t ↦ Naming.Profile.python.typeName [t.name.getD ""]
  unusual := []

def find? (p : Package) (name : String) : Option Compiled.Message :=
  p.messages.find? (·.name == some name)

def functionOf (p : Package) (m : Compiled.Message) : Compiled.Message :=
  ((p.messages.filter (functionStem · == functionStem m)).getLast?).getD m

def classOf (p : Package) (m : Compiled.Message) : Compiled.Message :=
  ((p.messages.filter (typeName · == typeName m)).getLast?).getD m

def hides (p : Package) (name : String) : Bool :=
  p.messages.any (typeName · == name)

/-- Whether a name is hidden where messages are parsed, next to the enumerations. -/
def hidesInParser (p : Package) (name : String) : Bool :=
  p.hides name || p.enumTypes.contains name

def build (p : Package) (m : Compiled.Message) (given : Record) : Except Fault Record :=
  match p.unusual.lookup (typeName m) with
  | some members => buildFrom members given
  | none => Codec.build (p.classOf m) given

def record (p : Package) (m : Compiled.Message) (values : List (String × Value)) :
    Except Fault Record :=
  p.build m (byMember values)

/-- Parse a message in some data, from an offset on. A parser to which the name for values that are
none is hidden does not tell them from others. -/
def parse (p : Package) (m : Compiled.Message) (data : Bytes) (offset : Int) :
    Except Fault ParseResult := do
  let f := p.functionOf m
  let result ← parseWith (p.hidesInParser "Invalid") (p.build f) f data offset
  if result.isOk && p.hidesInParser "ParseSuccess" then throw .mismatch
  return result

def parseAll (p : Package) (m : Compiled.Message) (data : Bytes) :
    List (Except Fault ParseResult) :=
  parseAllFrom (p.parse m data) data.length data.length 0

def validate (p : Package) (m : Compiled.Message) (r : Record) : Except Fault (List FieldError) :=
  Codec.validate (p.functionOf m) r

def serialize (p : Package) (m : Compiled.Message) (r : Record) :
    Except Fault (Except (List FieldError) Bytes) := do
  let result ← Codec.serialize (p.functionOf m) r
  if p.hides (if result.isOk then "SerializeSuccess" else "SerializeFailure") then throw .mismatch
  return result

def parses (p : Package) (data : Bytes) (m : Compiled.Message) : Except Fault Bool := do
  return (← p.parse m data 0).isOk

/-- Whether a reply is complete: one of the responses can be parsed at its beginning. -/
def isComplete (p : Package) (data : Bytes) : Except Fault Bool :=
  (p.messages.filter (·.isResponse)).anyM (p.parses data)

/-- Whether clients can send a message: it or one whose functions go by the same names is a
request. -/
def canSend (p : Package) (m : Compiled.Message) : Bool :=
  p.messages.any fun other ↦ other.isRequest && functionStem other == functionStem m

end Package

end TextProtocol.Codec
