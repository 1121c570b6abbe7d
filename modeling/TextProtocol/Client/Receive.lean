import TextProtocol.Fault
import TextProtocol.Network.Connection

/-!
# Receiving

How the arrivals on a connection make the reply to a handshake and the reply to a request.
-/

namespace TextProtocol.Client

/-- What goes wrong on a connection. -/
inductive Trouble where
  /-- Reading or writing fails. -/
  | broken (reason : String)
  /-- Nothing ever arrives. -/
  | silence
  /-- The other side has closed too early. -/
  | ended
  /-- Looking at what has arrived fails. -/
  | fault (fault : Fault)

/-- What is received, what is still to arrive, and whether the end of the arrivals was met. -/
structure Received (α : Type) where
  result : Except Trouble α
  rest : List Arrival
  ended : Bool := false

/-- Arrivals up to the first ones that hold the expected bytes. What arrives with these in one piece
is taken too. -/
def awaitReply (expected received : Bytes) (arrivals : List Arrival) : Received Unit :=
  if (Wire.indexOf? expected received).isSome then ⟨.ok (), arrivals, false⟩
  else match arrivals with
    | [] => ⟨.error .ended, [], true⟩
    | .ended :: rest => ⟨.error .ended, rest, true⟩
    | .silence :: rest => ⟨.error .silence, rest, false⟩
    | .failure reason :: rest => ⟨.error (.broken reason), rest, false⟩
    | .data [] :: rest => ⟨.error .ended, rest, false⟩
    | .data (b :: bytes) :: rest => awaitReply expected (received ++ b :: bytes) rest

/-- What a reply is at the end of the arrivals: all that has arrived, if anything has. -/
def atEnd : Bytes → Except Trouble Bytes
  | [] => .error .ended
  | buffer => .ok buffer

/-- Arrivals up to the first ones with which the reply is complete, or up to the end. -/
def collectReply (untilClose : Bool) (isComplete : Bytes → Except Fault Bool) (buffer : Bytes) :
    List Arrival → Received Bytes
  | [] => ⟨atEnd buffer, [], true⟩
  | .ended :: rest => ⟨atEnd buffer, rest, true⟩
  | .silence :: rest => ⟨.error .silence, rest, false⟩
  | .failure reason :: rest => ⟨.error (.broken reason), rest, false⟩
  | .data [] :: rest => ⟨atEnd buffer, rest, false⟩
  | .data (b :: bytes) :: rest =>
    let buffer := buffer ++ b :: bytes
    if untilClose then collectReply untilClose isComplete buffer rest
    else match isComplete buffer with
      | .ok true => ⟨.ok buffer, rest, false⟩
      | .ok false => collectReply untilClose isComplete buffer rest
      | .error f => ⟨.error (.fault f), rest, false⟩

end TextProtocol.Client
