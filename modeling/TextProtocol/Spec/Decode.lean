import TextProtocol.Json.Reader
import TextProtocol.Spec.Words
import TextProtocol.Value.Shown

/-!
# Decoding specifications

From a decoded document to a specification. An attribute may be written under its key or under its
long name; of two spellings the later one counts, and keys that mean nothing are ignored. Attributes
are read in a fixed order, and the first that is missing or cannot be read is reported.

Scalars are converted where that makes sense: anything can be a text, a text with digits or a real
number can be an integer, and any value is true or false. `null` is kept, everywhere. Only default
values may be strings with surrogates; the texts of a specification have to have bytes.
-/

namespace TextProtocol.Spec

/-- Why a document is no specification. -/
inductive DecodeError where
  /-- An attribute without a default is missing. -/
  | missing (name : String)
  /-- A value of the wrong kind. -/
  | mismatch (text : String)
  /-- A value that does not spell what it should. -/
  | invalid (text : String)
  /-- Something else stands where an object is needed. -/
  | notObject
  /-- A real number beyond all integers. -/
  | overflow
  /-- A text that holds surrogates. -/
  | unpaired

abbrev Decoded := Except DecodeError

def decodeText : Value → Decoded String
  | .unpaired _ => .error .unpaired
  | v => .ok v.plain

/-- A Boolean: any other value counts by whether it is empty or zero. -/
def decodeBool (v : Value) : Decoded Bool :=
  .ok v.truthy

def integerMessage (shown : String) : Text.IntegerError → String
  | .malformed =>
    s!"invalid literal for int() with base 10: {String.ofList (shown.toList.take 200)}"
  | .tooManyDigits count =>
    s!"Exceeds the limit ({Text.maxDigits} digits) for integer string conversion: " ++
      s!"value has {count} digits; use sys.set_int_max_str_digits() to increase the limit"

/-- An integer. A real number loses its fraction, and a text is read. -/
def decodeInteger (v : Value) : Decoded Value :=
  match v with
  | .bool _ | .int _ => .ok v
  | .real x => match x with
    | .nan => .error (.invalid "cannot convert float NaN to integer")
    | x => match x.truncate? with
      | some n => .ok (.int n)
      | none => .error .overflow
  | .text s => match Text.readInteger s.toList with
    | .ok n => .ok (.int n)
    | .error e => .error (.invalid (integerMessage (Text.quoted s) e))
  | .unpaired t => .error (.invalid (integerMessage (Text.quotedCodes t.codes) .malformed))
  | v => .error (.mismatch
      ("int() argument must be a string, a bytes-like object or a real number, not " ++
        s!"{Text.quoted v.kindName}"))

def decodeChoice {α : Type} [Choice α] (v : Value) : Decoded α :=
  match v.text?.bind Choice.find? with
  | some a => .ok a
  | none => .error (.invalid s!"{v.shown} is not a valid {Choice.title α}")

def decodeEntries : Value → Decoded (List (String × Value))
  | .object entries => .ok entries
  | _ => .error .notObject

/-- The items of a list. A text is the list of its characters, and an object that of its keys. -/
def decodeItems : Value → Decoded (List Value)
  | .list items => .ok items
  | .text s => .ok (s.toList.map fun c ↦ .text (String.singleton c))
  | .unpaired t => .ok (t.codes.map fun code ↦ .ofCodes [code])
  | .object entries => .ok (entries.map fun e ↦ .text e.1)
  | v => .error (.mismatch s!"{Text.quoted v.kindName} object is not iterable")

def decodeUnlessNull {α : Type} (decode : Value → Decoded α) (v : Value) : Decoded (Option α) :=
  if v.isNull then .ok none else some <$> decode v

def decodeList {α : Type} (decode : Value → Decoded α) (v : Value) : Decoded (List (Option α)) := do
  (← decodeItems v).mapM (decodeUnlessNull decode)

/-- The value of an attribute in an object: that of the last entry under one of its spellings. -/
def spelled? (entries : List (String × Value)) (key long : String) : Option Value :=
  (entries.reverse.find? fun e ↦ e.1 == key || e.1 == long).map (·.2)

def decodeOr {α : Type} (entries : List (String × Value)) (key long : String)
    (decode : Value → Decoded α) (default : Option α) : Decoded (Option α) :=
  match spelled? entries key long with
  | none => .ok default
  | some v => decodeUnlessNull decode v

def decodeNeeded {α : Type} (entries : List (String × Value)) (key : String)
    (decode : Value → Decoded α) : Decoded (Option α) :=
  match spelled? entries key key with
  | none => .error (.missing key)
  | some v => decodeUnlessNull decode v

def decodeIntegerOr (entries : List (String × Value)) (key long : String) : Decoded Value := do
  return (← decodeOr entries key long decodeInteger none).getD .null

def FieldType.decode (v : Value) : Decoded FieldType := do
  let refuse : Decoded FieldType := .error (.invalid
    s!"Field type must be an object with a 'kind', got {v.shown}")
  match v with
  | .object entries =>
    match Value.lookup? entries "kind" with
    | none => refuse
    | some kind =>
      match kind.text? with
      | some "string" => return .string (v.getD "maxLength")
      | some "number" => return .number (v.getD "min") (v.getD "max")
      | some "boolean" => return .boolean
      | some "enum" =>
        let items ← decodeItems ((v.get? "values").getD (.list []))
        return .enum (← items.mapM decodeText)
      | some "bytes" => return .bytes (v.getD "length")
      | _ => .error (.invalid s!"Unknown field type kind {kind.shown}")
  | _ => refuse

def Rule.decode (v : Value) : Decoded Rule := do
  let e ← decodeEntries v
  return {
    pattern := ← decodeOr e "pattern" "pattern" decodeText none
    minLength := ← decodeIntegerOr e "minLength" "min_length"
    maxLength := ← decodeIntegerOr e "maxLength" "max_length"
    minimum := ← decodeIntegerOr e "min" "minimum"
    maximum := ← decodeIntegerOr e "max" "maximum"
    custom := ← decodeOr e "custom" "custom" decodeText none }

def Field.decode (v : Value) : Decoded Field := do
  let e ← decodeEntries v
  return {
    name := ← decodeNeeded e "name" decodeText
    type := ← decodeNeeded e "type" FieldType.decode
    required := ← decodeOr e "required" "required" decodeBool (some true)
    rule := ← decodeOr e "validation" "validation" Rule.decode none
    defaultValue := (spelled? e "defaultValue" "default_value").getD .null }

def Message.decode (v : Value) : Decoded Message := do
  let e ← decodeEntries v
  return {
    name := ← decodeNeeded e "name" decodeText
    direction := ← decodeNeeded e "direction" decodeChoice
    format := ← decodeNeeded e "format" decodeText
    fields := ← decodeOr e "fields" "fields" (decodeList Field.decode) (some [])
    delimiter := ← decodeOr e "delimiter" "delimiter" decodeText none
    terminator := ← decodeOr e "terminator" "terminator" decodeText none
    description := ← decodeOr e "description" "description" decodeText none }

def Handshake.decode (v : Value) : Decoded Handshake := do
  let e ← decodeEntries v
  return {
    required := ← decodeOr e "required" "required" decodeBool (some false)
    clientSends := ← decodeOr e "clientSends" "client_sends" decodeText none
    serverResponds := ← decodeOr e "serverResponds" "server_responds" decodeText none }

def Termination.decode (v : Value) : Decoded Termination := do
  let e ← decodeEntries v
  return {
    closeConnection := ← decodeOr e "closeConnection" "close_connection" decodeBool (some true)
    clientSends := ← decodeOr e "clientSends" "client_sends" decodeText none
    serverResponds := ← decodeOr e "serverResponds" "server_responds" decodeText none }

def Connection.decode (v : Value) : Decoded Connection := do
  let e ← decodeEntries v
  return {
    transport := ← decodeOr e "type" "transport" decodeChoice (some .tcp)
    handshake := ← decodeOr e "handshake" "handshake" Handshake.decode none
    termination := ← decodeOr e "termination" "termination" Termination.decode none
    timeout := ← decodeIntegerOr e "timeout" "timeout"
    keepAlive := ← decodeOr e "keepAlive" "keep_alive" decodeBool (some false) }

def Metadata.decode (v : Value) : Decoded Metadata := do
  let e ← decodeEntries v
  return {
    name := ← decodeNeeded e "name" decodeText
    port := (← decodeNeeded e "port" decodeInteger).getD .null
    description := ← decodeOr e "description" "description" decodeText (some "")
    version := ← decodeOr e "version" "version" decodeText none
    rfc := ← decodeOr e "rfc" "rfc" decodeText none }

def EnumValue.decode (v : Value) : Decoded EnumValue := do
  let e ← decodeEntries v
  return {
    name := ← decodeNeeded e "name" decodeText
    value := (← decodeNeeded e "value" pure).getD .null
    description := ← decodeOr e "description" "description" decodeText none }

def TypeDefinition.decode (v : Value) : Decoded TypeDefinition := do
  let e ← decodeEntries v
  return {
    name := ← decodeNeeded e "name" decodeText
    kind := ← decodeNeeded e "kind" decodeText
    values := ← decodeOr e "values" "values" (decodeList EnumValue.decode) (some [])
    fields := ← decodeOr e "fields" "fields" (decodeList Field.decode) (some []) }

def ErrorHandling.decode (v : Value) : Decoded ErrorHandling := do
  let e ← decodeEntries v
  return {
    onParseError := ← decodeOr e "onParseError" "on_parse_error" decodeChoice (some .answer)
    onNetworkError := ← decodeOr e "onNetworkError" "on_network_error" decodeChoice (some .throw)
    retryAttempts := ← decodeIntegerOr e "retryAttempts" "retry_attempts"
    retryDelay := ← decodeIntegerOr e "retryDelay" "retry_delay" }

def decode (v : Value) : Decoded Spec := do
  let e ← decodeEntries v
  return {
    metadata := ← decodeNeeded e "protocol" Metadata.decode
    connection := ← decodeOr e "connection" "connection" Connection.decode (some {})
    messages := ← decodeOr e "messageTypes" "message_types" (decodeList Message.decode) (some [])
    types := ← decodeOr e "types" "types" (decodeList TypeDefinition.decode) (some [])
    errorHandling := ← decodeOr e "errorHandling" "error_handling" ErrorHandling.decode (some {}) }

end TextProtocol.Spec
