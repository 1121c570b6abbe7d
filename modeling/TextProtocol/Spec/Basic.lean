import TextProtocol.Fault
import TextProtocol.Value.Basic

/-!
# Protocol specifications

What a specification of a text protocol says: its messages and their fields, the connection it runs
over, the types it declares and how errors are handled.

Documents may give `null` for any attribute and any item of a list, so nearly every attribute is
optional here; what a missing one means is for those who use it. Integer attributes are values that
are null, a Boolean or an integer. The bounds of field types are kept as they are written.
-/

namespace TextProtocol.Spec

/-- The side of a connection that sends a message. -/
inductive Direction where
  | request
  | response
  | bidirectional
  deriving DecidableEq, Repr

inductive Transport where
  | tcp
  | udp
  deriving DecidableEq, Repr

/-- What to do with a message that cannot be parsed. -/
inductive ParsePolicy where
  | throw
  | answer
  | log
  deriving DecidableEq, Repr

inductive NetworkPolicy where
  | throw
  | retry
  | answer
  deriving DecidableEq, Repr

inductive FieldType where
  /-- Text, of a limited number of characters. -/
  | string (maxLength : Value)
  /-- A decimal integer within bounds. -/
  | number (minimum maximum : Value)
  | boolean
  /-- One of a fixed set of words. -/
  | enum (values : List String)
  /-- Raw bytes, of a fixed number when `length` is given. -/
  | bytes (length : Value)

def FieldType.kind : FieldType → String
  | .string _ => "string"
  | .number .. => "number"
  | .boolean => "boolean"
  | .enum _ => "enum"
  | .bytes _ => "bytes"

/-- Constraints on the values of a field beyond those of its type. -/
structure Rule where
  pattern : Option String := none
  minLength : Value := .null
  maxLength : Value := .null
  minimum : Value := .null
  maximum : Value := .null
  custom : Option String := none

structure Field where
  name : Option String
  type : Option FieldType
  required : Option Bool := some true
  rule : Option Rule := none
  defaultValue : Value := .null

def Field.isRequired (f : Field) : Bool :=
  f.required.getD false

structure Message where
  name : Option String
  direction : Option Direction
  format : Option String
  fields : Option (List (Option Field)) := some []
  delimiter : Option String := none
  terminator : Option String := none
  description : Option String := none

def itemsOf {α : Type} : Option (List (Option α)) → Except Fault (List α)
  | none => .error .mismatch
  | some items => items.mapM fun
    | some a => .ok a
    | none => .error .absent

/-- What the two sides say when a connection opens. -/
structure Handshake where
  required : Option Bool := some false
  clientSends : Option String := none
  serverResponds : Option String := none

/-- What the two sides say when a connection ends. -/
structure Termination where
  closeConnection : Option Bool := some true
  clientSends : Option String := none
  serverResponds : Option String := none

/-- How a connection behaves. The timeout is in milliseconds. -/
structure Connection where
  transport : Option Transport := some .tcp
  handshake : Option Handshake := none
  termination : Option Termination := none
  timeout : Value := .null
  keepAlive : Option Bool := some false

/-- The protocol itself. -/
structure Metadata where
  name : Option String
  port : Value
  description : Option String := some ""
  version : Option String := none
  rfc : Option String := none

/-- A value of a declared enumeration. -/
structure EnumValue where
  name : Option String
  value : Value
  description : Option String := none

/-- A type declared beside the messages. -/
structure TypeDefinition where
  name : Option String
  kind : Option String
  values : Option (List (Option EnumValue)) := some []
  fields : Option (List (Option Field)) := some []

/-- How errors are handled. The delay is in milliseconds. -/
structure ErrorHandling where
  onParseError : Option ParsePolicy := some .answer
  onNetworkError : Option NetworkPolicy := some .throw
  retryAttempts : Value := .null
  retryDelay : Value := .null

end Spec

/-- A specification of a protocol. -/
structure Spec where
  metadata : Option Spec.Metadata
  connection : Option Spec.Connection := some {}
  messages : Option (List (Option Spec.Message)) := some []
  types : Option (List (Option Spec.TypeDefinition)) := some []
  errorHandling : Option Spec.ErrorHandling := some {}

end TextProtocol
