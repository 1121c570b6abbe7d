import TextProtocol.Naming.Profile
import TextProtocol.Target.Package
import TextProtocol.Target.Text

/-!
# Names in packages

The names that the files of a package agree on, as the profile of a language spells them.
-/

namespace TextProtocol.Target

structure Modules where
  parser : String
  serializer : String
  client : String
  tests : String

/-- The modules of a package whose tests go by a name of their own. -/
def Modules.ofPackage (profile : Naming.Profile) (p : Package) (tests : String) : Modules where
  parser := profile.fileStem [p.name, "parser"]
  serializer := profile.fileStem [p.name, "serializer"]
  client := profile.fileStem [p.name, "client"]
  tests := tests

def Package.names (p : Package) (profile : Naming.Profile) (modules : Modules) : Holes :=
  [("name", p.name), ("parser", modules.parser), ("serializer", modules.serializer),
    ("clientModule", modules.client), ("testsModule", modules.tests),
    ("client", profile.typeName [p.name, "client"]),
    ("baseError", profile.typeName [p.name, "error"]),
    ("connectionError", profile.typeName [p.name, "connection error"]),
    ("timeoutError", profile.typeName [p.name, "timeout error"]),
    ("handshakeError", profile.typeName [p.name, "handshake error"]),
    ("validationError", profile.typeName [p.name, "validation error"])]

def Message.names (m : Message) (profile : Naming.Profile) : Holes :=
  [("message", m.name), ("type", profile.typeName [m.name]),
    ("parse", profile.functionName ["parse", m.name]),
    ("serialize", profile.functionName ["serialize", m.name]),
    ("validate", profile.functionName ["validate", m.name]),
    ("send", profile.functionName ["send", m.name]),
    ("stem", profile.functionName [m.name])]

def Field.member (f : Field) (profile : Naming.Profile) : String :=
  profile.memberName [f.name]

end TextProtocol.Target

namespace TextProtocol.ClientSettings

/-- The time limit in milliseconds; half a minute if none is set. -/
def limitText (s : ClientSettings) : String :=
  if s.timeout.isNull then "30000" else s.timeout.plain

def holes (s : ClientSettings) (truth : Option Bool → String) (phrase : Option String → String) :
    Target.Holes :=
  [("port", s.port.plain), ("timeout", s.limitText), ("keepAlive", truth s.keepAlive),
    ("readUntilClose", truth s.readUntilClose), ("retryAttempts", s.retryAttempts.plain),
    ("retryDelay", s.retryDelay.plain), ("handshakeSend", phrase s.handshakeSend),
    ("handshakeExpect", phrase s.handshakeExpect), ("goodbye", phrase s.goodbye)]

end TextProtocol.ClientSettings
