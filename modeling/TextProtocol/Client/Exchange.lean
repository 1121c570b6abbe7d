import TextProtocol.Client.Error
import TextProtocol.Client.Receive
import TextProtocol.Client.Settings
import TextProtocol.Codec.Package
import TextProtocol.Network.Pool

/-!
# Requests and replies

A client keeps at most one connection to its server in a pool. A connection whose handshake does not
finish is never used again, and neither is one on which a request fails.
-/

namespace TextProtocol

structure Client where
  settings : Client.Settings
  host : String
  port : Value
  /-- The time limit of requests, in seconds; null for none. -/
  timeout : Value
  /-- Whether some bytes hold a whole reply. -/
  isComplete : Bytes → Except Fault Bool
  errorClasses : Client.ErrorClasses := {}

namespace Client

/-- The client of a server, with the port and the time limit of the settings where none is given. -/
def ofSettings (s : Settings) (host : String) (port timeout : Value)
    (isComplete : Bytes → Except Fault Bool) (errorClasses : ErrorClasses := {}) : Client where
  settings := s
  host := host
  port := if port.isNull then s.port else port
  timeout := if timeout.isNull then s.timeout else timeout
  isComplete := isComplete
  errorClasses := errorClasses

/-- The address of the server, which is also the key of its connections. -/
def address (c : Client) : String :=
  s!"{c.host}:{c.port.plain}"

/-- What an attempt to connect meets. -/
inductive Offer where
  | accept (peer : Peer)
  | refuse (reason : String)
  /-- The attempt fails for time. -/
  | timeout
  /-- The attempt never ends. -/
  | silence

/-- What ends a wait for something that never comes. -/
inductive Interrupt where
  | timeout
  | cancel
  deriving DecidableEq, Repr

/-- The pool of a client and what is ahead of it. -/
structure Network where
  pool : Pool := {}
  /-- What the next attempts to connect meet. When there is no more, they are refused. -/
  offers : List Offer := []
  interrupt : Interrupt := .timeout

/-- Computations of clients. What has happened on the network stays when they fail. -/
abbrev Run := ExceptT Error (StateM Network)

abbrev Talk := ExceptT Trouble (StateM Network)

def withPool {ε α : Type} (f : Pool → α × Pool) : ExceptT ε (StateM Network) α :=
  ExceptT.lift fun net ↦
    let (a, pool) := f net.pool
    (a, { net with pool })

def changePool {ε : Type} (f : Pool → Pool) : ExceptT ε (StateM Network) Unit :=
  withPool fun p ↦ ((), f p)

/-- Writing succeeds or fails at once: a write that waits for its peer until the time limit, or until
it is cancelled, has no counterpart here. -/
def write (n : Nat) (data : Bytes) : Talk Unit := do
  let failure := ((← get).pool.connections[n]?).bind fun c ↦ c.writeFailure c.writes
  changePool fun p ↦ (p.update n fun c ↦ { c with writes := c.writes + 1 }).record (.written n data)
  match failure with
  | some reason => throw (.broken reason)
  | none => return ()

def receive {α : Type} (n : Nat) (f : List Arrival → Received α) : Talk α := do
  let arrivals := (((← get).pool.connections[n]?).map (·.arrivals)).getD []
  let received := f arrivals
  let taken := arrivals.take (arrivals.length - received.rest.length)
  changePool fun p ↦ (p.update n fun c ↦
    { c with arrivals := received.rest, peerClosed := c.peerClosed || received.ended }).record
      (.received n taken)
  ExceptT.mk (pure received.result)

/-- The handshake on a connection. Without anything to send, nothing is expected either. -/
def handshake (c : Client) (n : Nat) : Talk Unit :=
  match c.settings.handshakeSend with
  | none => return ()
  | some greeting => do
    write n greeting
    match c.settings.handshakeExpect with
    | none => return ()
    | some expected => receive n (awaitReply expected [])

def converse (c : Client) (n : Nat) (payload : Bytes) : Talk Bytes := do
  write n payload
  receive n (collectReply c.settings.readUntilClose.truthy c.isComplete [])

def leavesTime (limit : Value) : Bool :=
  limit.isNull || (Value.lt (.int 0) limit).toOption == some true

/-- The error for a wait that never ends. A limit that is used up at once strikes before the caller
can give up. -/
def interrupted (limit : Value) (timeout : Error) : Run Error := do
  match (← get).interrupt with
  | .timeout => return timeout
  | .cancel => return if leavesTime limit then .cancelled else timeout

/-- A limit has to be a number within the real ones, or null. -/
def checkLimit (limit : Value) : Run Unit :=
  match limit with
  | .null => return ()
  | limit => match limit.number? with
    | some (.int n) =>
      if (Double.ofQuotient? n 1).isSome then return () else throw (.fault .overflow)
    | some (.real _) => return ()
    | none => throw (.fault .mismatch)

def connectError (c : Client) (limit : Value) : Trouble → Run Error
  | .broken reason => return .cannotConnect reason
  | .silence => interrupted limit (.connectTimeout limit)
  | .ended => return .noHandshake (c.settings.handshakeExpect.getD [])
  | .fault f => return .fault f

def requestError (limit : Value) : Trouble → Run Error
  | .broken reason => return .broken reason
  | .silence => interrupted limit (.responseTimeout limit)
  | .ended => return .noResponse
  | .fault f => return .fault f

def discard (c : Client) (n : Nat) : Run Unit :=
  changePool (·.discard c.address (some n))

def nextOffer : Run Offer :=
  ExceptT.lift fun net ↦
    (net.offers.head?.getD (.refuse "no more connections"), { net with offers := net.offers.tail })

def openConnection (c : Client) (limit : Value) : Run Nat := do
  changePool (·.record (.opening c.address))
  match ← nextOffer with
  | .refuse reason => throw (.cannotConnect reason)
  | .timeout => throw (.connectTimeout limit)
  | .silence => throw (← interrupted limit (.connectTimeout limit))
  | .accept peer =>
    let n ← withPool (·.opened { toPeer := peer })
    withPool (·.complete c.address n)

def acquire (c : Client) (limit : Value) : Run Nat := do
  match ← withPool (·.lookup c.address) with
  | some n => return n
  | none => c.openConnection limit

def readyConnection (c : Client) (limit : Value) : Run Nat := do
  checkLimit limit
  let n ← c.acquire limit
  if ((← get).pool.connections[n]?).any (·.ready) then return n
  match ← ExceptT.lift (c.handshake n).run with
  | .ok () =>
    changePool (·.update n fun connection ↦ { connection with ready := true })
    return n
  | .error trouble =>
    c.discard n
    throw (← c.connectError limit trouble)

/-- Whether trouble during a request is the end of the connection. When looking at the reply fails,
or a missing reply is not known for what it is, the connection is left as it is. -/
def endsConnection (c : Client) : Trouble → Bool
  | .fault _ => false
  | .ended => c.errorClasses.knows .connection
  | .broken _ | .silence => true

def exchange (c : Client) (payload : Bytes) (limit : Value) : Run Bytes := do
  let n ← c.readyConnection limit
  match ← ExceptT.lift (c.converse n payload).run with
  | .ok response =>
    if !c.settings.keepsConnections then c.discard n
    return response
  | .error trouble =>
    if c.endsConnection trouble then c.discard n
    throw (← requestError limit trouble)

def pause (c : Client) : Run Unit := do
  match c.settings.waits with
  | .error f => throw (.fault f)
  | .ok waits =>
    changePool (·.record (.paused c.settings.retryDelay))
    if (← get).interrupt == .cancel && waits then throw .cancelled

/-- Attempts at a request, the first and up to `retries` more while they fail for the connection or
for time. -/
def attempts (c : Client) (payload : Bytes) (limit : Value) : (retries : Nat) → Run Bytes
  | 0 => c.exchange payload limit
  | retries + 1 => tryCatch (c.exchange payload limit) fun e ↦ do
    if e.isRetryable c.errorClasses then
      c.pause
      c.attempts payload limit retries
    else throw e

/-- The reply to a request. The time limit of the client holds if none is given. A number of repeats
that is no number is a fault, found when the first attempt fails. -/
def request (c : Client) (payload : Bytes) (limit : Value) : Run Bytes :=
  let limit := if limit.isNull then c.timeout else limit
  match c.settings.retries with
  | .ok retries => c.attempts payload limit retries
  | .error f => tryCatch (c.exchange payload limit) fun e ↦
    throw (if e.isRetryable c.errorClasses then .fault f else e)

/-- A connection made ready ahead of requests. -/
def connect (c : Client) : Run Unit := do
  let _ ← c.readyConnection c.timeout

/-- The pooled connection closed, after a goodbye if there is one. That the goodbye fails does not
matter. -/
def disconnect (c : Client) : Run Unit := do
  match ← withPool (·.lookup c.address) with
  | none => return ()
  | some n =>
    match c.settings.goodbye with
    | none | some [] => pure ()
    | some goodbye => let _ ← ExceptT.lift (write n goodbye).run
    c.discard n

/-- Requests in turn between connecting and disconnecting. The connection is closed also after a
request that fails. -/
def session (c : Client) (payloads : List Bytes) : Run (List Bytes) := do
  c.connect
  let replies ← ExceptT.lift (payloads.mapM fun payload ↦ c.request payload .null).run
  c.disconnect
  ExceptT.mk (pure replies)

/-- The reply to a message, by its bytes or by what is wrong with it. A message that is not valid is
not sent. -/
def send (c : Client) (written : Except Fault (Except (List FieldError) Bytes)) (limit : Value) :
    Run Bytes :=
  match written with
  | .ok (.ok data) => c.request data limit
  | .ok (.error errors) => throw (.invalidMessage errors)
  | .error f => throw (.fault f)

def ErrorClasses.ofPackage (p : Codec.Package) : ErrorClasses where
  unusable := p.hides "ProtocolError"
  vague := [("ConnectionFailedError", .connection), ("RequestTimeoutError", .timeout),
    ("HandshakeError", .handshake), ("InvalidMessageError", .validation)].filterMap fun e ↦
      if p.hides e.1 then some e.2 else none

end Client

end TextProtocol
