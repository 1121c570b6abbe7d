import TextProtocol.Value.Basic
import TextProtocol.Wire.Search

/-!
# Connections

A connection as its user sees it: what is still to arrive, whether either side has closed it, and
whether it is ready for requests. Connections are numbered in the order in which they are opened.
-/

namespace TextProtocol

/-- What a read meets. -/
inductive Arrival where
  | data (bytes : Bytes)
  /-- The other side has closed. -/
  | ended
  /-- Nothing ever arrives. -/
  | silence
  | failure (reason : String)

namespace Arrival

def readLimit : Nat := 4096

/-- Data cut to what single reads return. -/
def chop (data : Bytes) : List Bytes :=
  if data.length ≤ readLimit then [data]
  else data.take readLimit :: chop (data.drop readLimit)
termination_by data.length
decreasing_by simp only [List.length_drop, readLimit] at *; omega

def pieces : Arrival → List Arrival
  | .data bytes => (chop bytes).map .data
  | a => [a]

end Arrival

/-- What the other side of a connection does. -/
structure Peer where
  /-- What the next reads meet; when there is no more, the other side has closed. -/
  arrivals : List Arrival := []
  /-- Why a write fails, if it does, by the number of writes before it. -/
  writeFailure : Nat → Option String := fun _ ↦ none

structure Connection extends Peer where
  /-- Whether the other side is known to have closed. -/
  peerClosed : Bool := false
  /-- How often it has been closed on this side. -/
  closeCalls : Nat := 0
  /-- Whether the handshake is done. -/
  ready : Bool := false
  /-- How often it has been written to. -/
  writes : Nat := 0

namespace Connection

def closed (c : Connection) : Bool :=
  c.peerClosed || 0 < c.closeCalls

/-- A connection closed on this side once more. -/
def close (c : Connection) : Connection :=
  { c with closeCalls := c.closeCalls + 1 }

end Connection

/-- What happens on the network, as the other side or a watch could tell. -/
inductive Event where
  | opening (key : String)
  | written (connection : Nat) (data : Bytes)
  /-- What one read after another has met. -/
  | received (connection : Nat) (arrivals : List Arrival)
  | closed (connection : Nat)
  /-- A wait before the next attempt. -/
  | paused (seconds : Value)

end TextProtocol
