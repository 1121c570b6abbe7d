import TextProtocol.Network.Connection
import TextProtocol.Value.Shown

/-!
# Connection pools

A pool holds at most one connection for each host and port. A connection that is closed counts as
absent and is dropped when it is met. Acquiring has two parts, between which others may run: the
lookup, and the completion of a connection that had to be opened. The first to complete is pooled
and the others are closed.
-/

namespace TextProtocol

/-- A pool, all connections opened so far and what has happened. -/
structure Pool where
  /-- The numbers of the pooled connections, by key. -/
  entries : List (String × Nat) := []
  connections : List Connection := []
  events : List Event := []

namespace Pool

def key (host port : Value) : String :=
  s!"{host.plain}:{port.plain}"

def pooled? (p : Pool) (key : String) : Option Nat :=
  (p.entries.find? (·.1 == key)).map (·.2)

def contains (p : Pool) (key : String) : Bool :=
  p.entries.any (·.1 == key)

def size (p : Pool) : Nat :=
  p.entries.length

/-- Whether a connection is closed. One that was never opened counts as closed. -/
def isClosed (p : Pool) (n : Nat) : Bool :=
  p.connections[n]?.all Connection.closed

def record (p : Pool) (e : Event) : Pool :=
  { p with events := p.events ++ [e] }

def update (p : Pool) (n : Nat) (f : Connection → Connection) : Pool :=
  { p with connections := p.connections.modify n f }

def close (p : Pool) (n : Nat) : Pool :=
  (p.update n Connection.close).record (.closed n)

def forget (p : Pool) (key : String) : Pool :=
  { p with entries := p.entries.filter (·.1 != key) }

/-- The live connection of a key. One that is closed is forgotten, and closed on this side. -/
def lookup (p : Pool) (key : String) : Option Nat × Pool :=
  match p.pooled? key with
  | none => (none, p)
  | some n => if p.isClosed n then (none, (p.forget key).close n) else (some n, p)

def opened (p : Pool) (c : Connection) : Nat × Pool :=
  (p.connections.length, { p with connections := p.connections ++ [c] })

/-- The completion of an acquire that had to open a connection: if the key has a live connection by
now, that one wins and the new one is closed; otherwise the new one is pooled. -/
def complete (p : Pool) (key : String) (n : Nat) : Nat × Pool :=
  match p.lookup key with
  | (some winner, q) => (winner, q.close n)
  | (none, q) => (n, { q with entries := q.entries ++ [(key, n)] })

/-- A pool after a connection is given up: it is closed, and forgotten if it is the pooled one.
Without a connection, the pooled one is given up. -/
def discard (p : Pool) (key : String) : Option Nat → Pool
  | none => match p.pooled? key with
    | some n => (p.forget key).close n
    | none => p
  | some n => (if p.pooled? key == some n then p.forget key else p).close n

def closeAll (p : Pool) : Pool :=
  p.entries.foldl (fun q e ↦ q.close e.2) { p with entries := [] }

/-- A pool after the other side has closed a connection. -/
def peerClose (p : Pool) (n : Nat) : Pool :=
  p.update n fun c ↦ { c with peerClosed := true }

/-! ## Acquiring -/

/-- How an acquire stands after its first part. -/
inductive Acquire where
  | found (n : Nat)
  /-- It has opened a connection and is to complete. -/
  | connecting (n : Nat)
  | refused

/-- The first part of an acquire. If there is no live connection, one is opened, unless the first of
`refusals` is true. -/
def start (key : String) (refusals : List Bool) (p : Pool) : Acquire × List Bool × Pool :=
  match p.lookup key with
  | (some n, q) => (.found n, refusals, q)
  | (none, q) =>
    if refusals.head? == some true then (.refused, refusals.tail, q)
    else
      let (n, q) := q.opened {}
      (.connecting n, refusals.tail, q)

/-- The second part of an acquire: the connection that it returns, if it was not refused. -/
def finish (key : String) (p : Pool) : Acquire → Option Nat × Pool
  | .found n => (some n, p)
  | .refused => (none, p)
  | .connecting n =>
    let (winner, q) := p.complete key n
    (some winner, q)

/-- The first parts of several acquires, one after another. -/
def startAll (key : String) : (count : Nat) → List Bool → Pool → List Acquire × List Bool × Pool
  | 0, refusals, p => ([], refusals, p)
  | count + 1, refusals, p =>
    let (a, refusals, p) := start key refusals p
    let (rest, refusals, p) := startAll key count refusals p
    (a :: rest, refusals, p)

/-- The second parts of several acquires, one after another. -/
def finishAll (key : String) (p : Pool) : List Acquire → List (Option Nat) × Pool
  | [] => ([], p)
  | a :: rest =>
    let (n, p) := finish key p a
    let (ns, p) := finishAll key p rest
    (n :: ns, p)

/-- Several acquires at once: all start before any finishes. -/
def acquireAll (key : String) (count : Nat) (refusals : List Bool) (p : Pool) :
    List (Option Nat) × List Bool × Pool :=
  let (started, refusals, p) := startAll key count refusals p
  let (results, p) := finishAll key p started
  (results, refusals, p)

end Pool

end TextProtocol
