import TextProtocol.Compile.Protocol

/-!
# Client settings

What every generated client takes from a compiled protocol, whatever its language, and the warnings
that go with every package.
-/

namespace TextProtocol

structure ClientSettings where
  port : Value
  timeout : Value
  keepAlive : Option Bool
  /-- Whether a reply ends only when the server closes the connection. -/
  readUntilClose : Option Bool
  retryAttempts : Value
  retryDelay : Value
  handshakeSend : Option String
  handshakeExpect : Option String
  goodbye : Option String

namespace ClientSettings

def phrase (text : Option String) : Option String :=
  (Segment.separator? text).map Format.unescape

/-- The settings for a protocol. Without responses there is nothing to tell the end of a reply by,
so that clients read until the server closes. -/
def ofProtocol (p : Compiled.Protocol) : ClientSettings :=
  let c := p.connection
  let h := p.errorHandling
  let retry := h.onNetworkError == some .retry
  let handshake := c.handshake.filter (·.required == some true)
  { port := p.metadata.port
    timeout := c.timeout
    keepAlive := c.keepAlive
    readUntilClose := if p.responses.isEmpty then some true
      else c.termination.elim (some false) (·.closeConnection)
    retryAttempts := if retry then h.retryAttempts.orElse (.int 0) else .int 0
    retryDelay := if retry then h.retryDelay.orElse (.int 0) else .int 0
    handshakeSend := handshake.bind fun s ↦ phrase s.clientSends
    handshakeExpect := handshake.bind fun s ↦ phrase s.serverResponds
    goodbye := c.termination.bind fun t ↦ phrase t.clientSends }

/-- A time in seconds; none if it is beyond all real numbers. -/
def seconds? (milliseconds : Value) : Option Double :=
  Double.ofQuotient? (milliseconds.integer?.getD 0) 1000

end ClientSettings

def Compiled.Protocol.warningsFor (p : Compiled.Protocol) (language : String) : List String :=
  p.diagnostics.map (·.text) ++
    (if p.connection.transport == some .udp then
      [s!"{language} client uses TCP streams; UDP is not supported"] else []) ++
    p.messages.filterMap fun m ↦ m.skipReason.map fun reason ↦
      s!"{Value.plainName m.name} tests are skipped: {reason}"

end TextProtocol
