import TextProtocol.Target.Settings

/-!
# Settings of running clients

What a client needs to know about the connections it makes. Times are in seconds.
-/

namespace TextProtocol.Client

structure Settings where
  port : Value := .int 0
  /-- The time limit unless another is given; null for none. -/
  timeout : Value := .null
  /-- Whether a connection is kept after a reply. -/
  keepAlive : Value := .bool false
  /-- Whether a reply ends only when the server closes the connection. -/
  readUntilClose : Value := .bool false
  /-- How often a request is repeated that fails for the connection or for time. -/
  retryAttempts : Value := .int 0
  retryDelay : Value := .real (.zero false)
  handshakeSend : Option Bytes := none
  handshakeExpect : Option Bytes := none
  goodbye : Option Bytes := none

namespace Settings

/-- The settings for a protocol; none if a time is beyond all real numbers. -/
def ofProtocol? (p : Compiled.Protocol) : Option Settings := do
  let s := ClientSettings.ofProtocol p
  let timeout ← if s.timeout.isNull then pure .null
    else (ClientSettings.seconds? s.timeout).map .real
  let retryDelay ← ClientSettings.seconds? s.retryDelay
  return {
    port := s.port
    timeout
    keepAlive := .ofBool? s.keepAlive
    readUntilClose := .ofBool? s.readUntilClose
    retryAttempts := s.retryAttempts
    retryDelay := .real retryDelay
    handshakeSend := s.handshakeSend.map Utf8.ofString
    handshakeExpect := s.handshakeExpect.map Utf8.ofString
    goodbye := s.goodbye.map Utf8.ofString }

/-- Whether a connection goes back to the pool after a reply. -/
def keepsConnections (s : Settings) : Bool :=
  s.keepAlive.truthy && !s.readUntilClose.truthy

def waits (s : Settings) : Except Fault Bool :=
  Value.lt (.int 0) s.retryDelay

/-- How often a request is repeated at most: the least count that is not below the setting. -/
def retries (s : Settings) : Except Fault Nat :=
  match s.retryAttempts.number? with
  | some (.int n) => .ok n.toNat
  | some (.real x) => .ok ((x.ceiling?.getD 0).toNat)
  | none => .error .mismatch

end Settings

end TextProtocol.Client
