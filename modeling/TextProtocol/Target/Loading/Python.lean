import TextProtocol.Codec.Package
import TextProtocol.Script.Module
import TextProtocol.Target.Client.Python
import TextProtocol.Target.Parser.Python
import TextProtocol.Target.Serializer.Python

/-!
# Loading Python packages

A generated package is not checked by the language until it is loaded. Texts from the specification
may break the syntax of its modules, and names from the specification may hide others that the
modules need. The parser is loaded first, then the serializer, then the client.
-/

namespace TextProtocol.Target

inductive LoadError where
  | notGenerated (cause : Cause)
  /-- The sources hold a surrogate, and have no bytes. -/
  | notWritten
  | notLoaded (fault : Script.LoadFault)

namespace Python

def sharedModule : String :=
  "wirecraft.proto"

def sharedNames : Script.Scope :=
  (["Connection", "ConnectionPool", "FieldError", "Invalid", "ParseFailure", "ProtocolClient",
    "SerializeFailure", "SerializeResult", "SerializeSuccess"].map (·, .type [])) ++
  (["ParseResult", "ParseSuccess"].map (·, .generic)) ++
  (["ConnectionFailedError", "HandshakeError", "InvalidMessageError", "ProtocolError",
    "RequestTimeoutError"].map fun name ↦ (name, .exceptionClass name)) ++
  [("PREVIEW_LENGTH", .int 50)] ++
  (["check_boolean", "check_bytes", "check_enum", "check_number", "check_string",
    "coerce_boolean", "coerce_bytes", "coerce_enum", "coerce_number", "coerce_string",
    "decode_text", "encode_value", "fail", "find_stop", "open_connection", "parse_boolean",
    "parse_integer", "preview"].map (·, .function .other))

mutual

def valueOf : Script.Object → Value
  | .text chars => .text (String.ofList chars)
  | .bytes data => .bytes (data.map fun c ↦ UInt8.ofNat c.toNat)
  | .int n => .int n
  | .real x => .real x
  | .bool b => .bool b
  | .tuple items | .list items => .list (valuesOf items)
  | _ => .null

def valuesOf : List Script.Object → List Value
  | [] => []
  | e :: rest => valueOf e :: valuesOf rest

end

def membersOf? : Script.Object → Option (List Codec.Member)
  | .type members => some (members.map fun e ↦ ⟨e.1, e.2.map valueOf⟩)
  | _ => none

def outline (members : List Codec.Member) : List (String × Bool) :=
  members.map fun m ↦ (m.name, m.default?.isSome)

/-- The types of a package, as they are in its parser, that have other members than those for the
fields of their messages. -/
def unusualTypes (p : Codec.Package) (parser : Script.Scope) : List (String × List Codec.Member) :=
  p.messages.filterMap fun m ↦ do
    let members ← (parser.lookup (Codec.typeName m)).bind membersOf?
    guard (outline members != outline (Codec.members (p.classOf m)))
    return (Codec.typeName m, members)

def holdsSurrogates (protocol : Compiled.Protocol) : Bool :=
  protocol.messages.any fun m ↦ m.fields.any fun f ↦
    !f.definition.isRequired && f.definition.defaultValue matches .unpaired _

/-- The package of a protocol, generated and loaded. Settings that cannot be written keep it from
being generated. -/
def load (protocol : Compiled.Protocol) : Except LoadError Codec.Package := do
  let p ← (packageOf protocol).mapError .notGenerated
  let client ← (clientModule p sharedModule).mapError .notGenerated
  if holdsSurrogates protocol then throw .notWritten
  let names := modules p
  let parser := "." ++ names.parser
  let loaded ← (Script.Module.loadAll [(sharedModule, some sharedNames)] [
    ⟨parser, parserModule p sharedModule⟩,
    ⟨"." ++ names.serializer, serializerModule p sharedModule⟩,
    ⟨"." ++ names.client, client⟩]).mapError .notLoaded
  let package := Codec.Package.ofProtocol protocol
  return { package with unusual := unusualTypes package ((loaded.lookup parser).join.getD []) }

end Python

end TextProtocol.Target
