import TextProtocol.Codec.Serialize

/-!
# Errors of clients

Why a call of a client fails, the class and the code of each reason, and its message.
-/

namespace TextProtocol.Client

/-- The classes of errors that clients report. -/
inductive ErrorClass where
  | connection
  | timeout
  | handshake
  | validation
  deriving DecidableEq, Repr

def ErrorClass.code : ErrorClass → String
  | .connection => "CONNECTION_FAILED"
  | .timeout => "TIMEOUT"
  | .handshake => "HANDSHAKE_FAILED"
  | .validation => "INVALID_MESSAGE"

/-- The classes of errors that a client can use. A package in which a message takes the name of a
shared class goes without that class. -/
structure ErrorClasses where
  /-- Whether errors cannot be made at all. -/
  unusable : Bool := false
  /-- The classes whose errors are not told from any other errors. -/
  vague : List ErrorClass := []

namespace ErrorClasses

def knows (classes : ErrorClasses) (c : ErrorClass) : Bool :=
  !classes.unusable && !classes.vague.contains c

def code (classes : ErrorClasses) (c : ErrorClass) : String :=
  if classes.vague.contains c then "PROTOCOL_ERROR" else c.code

end ErrorClasses

/-- Why a call fails. -/
inductive Error where
  /-- No connection is made, or its handshake fails for the network. -/
  | cannotConnect (reason : String)
  /-- The connection and its handshake take longer than the limit. -/
  | connectTimeout (limit : Value)
  /-- The server closes before it sends the expected reply. -/
  | noHandshake (expected : Bytes)
  /-- The connection fails during a request. -/
  | broken (reason : String)
  /-- There is no whole reply within the limit. -/
  | responseTimeout (limit : Value)
  /-- The server closes without any reply. -/
  | noResponse
  /-- The message is not valid and has not been sent. -/
  | invalidMessage (errors : List FieldError)
  /-- Looking at the reply or at the message fails. -/
  | fault (fault : Fault)
  | cancelled

namespace Error

def class? : Error → Option ErrorClass
  | .cannotConnect _ | .broken _ | .noResponse => some .connection
  | .connectTimeout _ | .responseTimeout _ => some .timeout
  | .noHandshake _ => some .handshake
  | .invalidMessage _ => some .validation
  | .fault _ | .cancelled => none

/-- Whether a request that fails so may be repeated. -/
def isRetryable (classes : ErrorClasses) (e : Error) : Bool :=
  e.class?.any fun c ↦ (c == .connection || c == .timeout) && classes.knows c

def written (errors : List FieldError) : String :=
  let items := errors.map fun e ↦
    s!"FieldError(field={Text.quoted e.field}, constraint={Text.quoted e.violation.constraint}, " ++
      s!"message={Text.quoted e.message}, expected={Text.quoted e.violation.expected})"
  "(" ++ ", ".intercalate items ++ (if items.length == 1 then ",)" else ")")

def message (classes : ErrorClasses) (address : String) : Error → String
  | .cannotConnect reason => s!"Cannot connect to {address}: {reason}"
  | .connectTimeout limit => s!"Timed out connecting to {address} after {limit.plain}s"
  | .noHandshake expected =>
    s!"Connection closed before handshake reply {Text.quotedBytes expected}"
  | .broken reason => s!"Connection to {address} failed: {reason}"
  | .responseTimeout limit => s!"No response from {address} within {limit.plain}s"
  | .noResponse => s!"{address} closed the connection without responding"
  | .invalidMessage errors =>
    if classes.knows .validation then Codec.refusal errors else written errors
  | .fault _ | .cancelled => ""

end Error

end TextProtocol.Client
