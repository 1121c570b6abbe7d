import TextProtocol.Target.Call.Python
import TextProtocol.Target.Comment

/-!
# Python clients

The module with the client of a protocol and its errors.
-/

namespace TextProtocol.Target.Python

def seconds (milliseconds : Value) : Except Cause String :=
  match ClientSettings.seconds? milliseconds with
  | some x => .ok x.text
  | none => .error .quotientTooLarge

def clientHead (p : Package) (holes : Holes) : List String :=
  "" :: filled holes r#"
|"""Asyncio client for the ⟨name⟩ protocol.
|
|Generated by wirecraft. Do not edit.
|"""
|
|from typing import ClassVar
|
|from ⟨runtime⟩ import (
|    ConnectionFailedError,
|    HandshakeError,
|    InvalidMessageError,
|    ProtocolClient,
|    ProtocolError,
|    RequestTimeoutError,
|    SerializeFailure,
|)
|
|from .⟨parser⟩ import (
  "# ++
  p.messages.map (fun m ↦ fill (m.names profile) "    ⟨type⟩,") ++
  p.responses.map (fun m ↦ fill (m.names profile) "    ⟨parse⟩,") ++ [")"] ++
  linesIf (!p.requests.isEmpty) (
    [fill holes "from .⟨serializer⟩ import ("] ++
    p.requests.map (fun m ↦ fill (m.names profile) "    ⟨serialize⟩,") ++ [")"]) ++
  filled holes r#"
|
|
|class ⟨baseError⟩(ProtocolError):
|    """Base class for ⟨name⟩ client errors."""
|
|
|class ⟨connectionError⟩(⟨baseError⟩, ConnectionFailedError):
|    """The ⟨name⟩ server could not be reached or dropped the connection."""
|
|
|class ⟨timeoutError⟩(⟨baseError⟩, RequestTimeoutError):
|    """No complete ⟨name⟩ response arrived in time."""
|
|
|class ⟨handshakeError⟩(⟨baseError⟩, HandshakeError):
|    """The ⟨name⟩ handshake did not complete."""
|
|
|class ⟨validationError⟩(⟨baseError⟩, InvalidMessageError):
|    """A message failed validation and was not sent."""
|
|
|class ⟨client⟩(ProtocolClient):
  "#

def phraseLine (name : String) : Option String → List String
  | some text => [s!"    {name}: ClassVar[bytes | None] = {bytesLiteral text}"]
  | none => []

def settingLines (s : ClientSettings) : Except Cause (List String) := do
  let timeout ← if s.timeout.isNull then pure [] else do
    pure ["    default_timeout: ClassVar[float | None] = " ++ (← seconds s.timeout)]
  let retryDelay ← seconds s.retryDelay
  let holes := [("port", s.port.plain), ("keepAlive", (Value.ofBool? s.keepAlive).plain),
    ("readUntilClose", (Value.ofBool? s.readUntilClose).plain),
    ("retryAttempts", s.retryAttempts.plain), ("retryDelay", retryDelay)]
  return filled holes r#"
|    default_port: ClassVar[int] = ⟨port⟩
  "# ++
  timeout ++ filled holes r#"
|    keep_alive: ClassVar[bool] = ⟨keepAlive⟩
|    read_until_close: ClassVar[bool] = ⟨readUntilClose⟩
|    retry_attempts: ClassVar[int] = ⟨retryAttempts⟩
|    retry_delay: ClassVar[float] = ⟨retryDelay⟩
  "# ++
  phraseLine "handshake_send" s.handshakeSend ++
    phraseLine "handshake_expect" s.handshakeExpect ++ phraseLine "goodbye" s.goodbye

def sendMethod (holes : Holes) (m : Message) : List String :=
  filled (holes ++ m.names profile) r#"
|
|    async def ⟨send⟩(
|        self, message: ⟨type⟩, *, timeout: float | None = None
|    ) -> bytes:
|        """Send a ⟨type⟩ and return the raw response.
|
|        Raises ⟨validationError⟩ before sending if the message is invalid.
|        """
|        result = ⟨serialize⟩(message)
|        if isinstance(result, SerializeFailure):
|            raise ⟨validationError⟩(result.errors)
|        return await self.request(result.data, timeout=timeout)
  "#

def completeMethod (p : Package) : List String :=
  linesIf (!p.responses.isEmpty) (block r#"
|
|    def _response_complete(self, buffer: bytes) -> bool:
|        parsers = (
  "# ++
  p.responses.map (fun m ↦ fill (m.names profile) "            ⟨parse⟩,") ++ block r#"
|        )
|        return any(parse(buffer).ok for parse in parsers)
  "#)

def clientModule (p : Package) (runtime : String) : Except Cause String := do
  let holes := packageNames p runtime
  let doc := match p.description? with
    | some d => commentText d
    | none => s!"Client for the {p.name} protocol."
  let settings ← settingLines p.settings
  return fileText (clientHead p holes ++ [fill [("doc", doc)] r#"    """⟨doc⟩""""#, ""] ++
    settings ++ filled holes r#"
|
|    connection_error = ⟨connectionError⟩
|    timeout_error = ⟨timeoutError⟩
|    handshake_error = ⟨handshakeError⟩
  "# ++
  p.requests.flatMap (sendMethod holes) ++ completeMethod p)

end TextProtocol.Target.Python
