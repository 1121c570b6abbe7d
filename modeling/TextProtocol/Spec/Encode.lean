import TextProtocol.Spec.Words

/-!
# Encoding specifications

A specification as a document, with every attribute present under its key and `null` for what is
absent. The bounds that a field type does not have are left out. A field without a type cannot be
encoded.
-/

namespace TextProtocol.Spec

open Value (ofText? ofBool?)

def encodeChoice {α : Type} [Choice α] : Option α → Value
  | some a => .text (Choice.word a)
  | none => .null

def encodeBound (key : String) (v : Value) : List (String × Value) :=
  if v.isNull then [] else [(key, v)]

def FieldType.encode (t : FieldType) : Value :=
  .object (("kind", .text t.kind) :: match t with
    | .string maxLength => encodeBound "maxLength" maxLength
    | .number minimum maximum => encodeBound "min" minimum ++ encodeBound "max" maximum
    | .boolean => []
    | .enum values => [("values", .texts values)]
    | .bytes length => encodeBound "length" length)

def Rule.encode (r : Rule) : Value :=
  .object [
    ("pattern", ofText? r.pattern), ("minLength", r.minLength), ("maxLength", r.maxLength),
    ("min", r.minimum), ("max", r.maximum), ("custom", ofText? r.custom)]

/-- An optional part; null when it is absent. -/
def encodeOr {α : Type} (encode : α → Value) : Option α → Value
  | some a => encode a
  | none => .null

def Field.encode (f : Field) : Except Fault Value := do
  match f.type with
  | none => throw .absent
  | some t => return .object [
      ("name", ofText? f.name), ("type", t.encode), ("required", ofBool? f.required),
      ("validation", encodeOr Rule.encode f.rule), ("defaultValue", f.defaultValue)]

def encodeList {α : Type} (encode : α → Except Fault Value) :
    Option (List (Option α)) → Except Fault Value
  | none => .ok .null
  | some items => do
    return .list (← items.mapM fun
      | some a => encode a
      | none => pure .null)

def Message.encode (m : Message) : Except Fault Value := do
  let fields ← encodeList Field.encode m.fields
  return .object [
    ("name", ofText? m.name), ("direction", encodeChoice m.direction),
    ("format", ofText? m.format), ("fields", fields), ("delimiter", ofText? m.delimiter),
    ("terminator", ofText? m.terminator), ("description", ofText? m.description)]

def Handshake.encode (h : Handshake) : Value :=
  .object [
    ("required", ofBool? h.required), ("clientSends", ofText? h.clientSends),
    ("serverResponds", ofText? h.serverResponds)]

def Termination.encode (t : Termination) : Value :=
  .object [
    ("closeConnection", ofBool? t.closeConnection), ("clientSends", ofText? t.clientSends),
    ("serverResponds", ofText? t.serverResponds)]

def Connection.encode (c : Connection) : Value :=
  .object [
    ("type", encodeChoice c.transport), ("handshake", encodeOr Handshake.encode c.handshake),
    ("termination", encodeOr Termination.encode c.termination), ("timeout", c.timeout),
    ("keepAlive", ofBool? c.keepAlive)]

def Metadata.encode (m : Metadata) : Value :=
  .object [
    ("name", ofText? m.name), ("port", m.port), ("description", ofText? m.description),
    ("version", ofText? m.version), ("rfc", ofText? m.rfc)]

def EnumValue.encode (v : EnumValue) : Value :=
  .object [
    ("name", ofText? v.name), ("value", v.value), ("description", ofText? v.description)]

def TypeDefinition.encode (t : TypeDefinition) : Except Fault Value := do
  let values ← encodeList (fun v ↦ pure (EnumValue.encode v)) t.values
  let fields ← encodeList Field.encode t.fields
  return .object [
    ("name", ofText? t.name), ("kind", ofText? t.kind), ("values", values), ("fields", fields)]

def ErrorHandling.encode (h : ErrorHandling) : Value :=
  .object [
    ("onParseError", encodeChoice h.onParseError),
    ("onNetworkError", encodeChoice h.onNetworkError),
    ("retryAttempts", h.retryAttempts), ("retryDelay", h.retryDelay)]

def encode (s : Spec) : Except Fault Value := do
  let messages ← encodeList Message.encode s.messages
  let types ← encodeList TypeDefinition.encode s.types
  return .object [
    ("protocol", encodeOr Metadata.encode s.metadata),
    ("connection", encodeOr Connection.encode s.connection),
    ("messageTypes", messages), ("types", types),
    ("errorHandling", encodeOr ErrorHandling.encode s.errorHandling)]

def Message.findField? (m : Message) (name : String) : Except Fault (Option Field) := do
  match m.fields with
  | none => throw .mismatch
  | some fields => go fields
where
  go : List (Option Field) → Except Fault (Option Field)
    | [] => .ok none
    | none :: _ => .error .absent
    | some f :: rest => if f.name == some name then .ok (some f) else go rest

end TextProtocol.Spec
