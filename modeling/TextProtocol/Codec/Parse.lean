import TextProtocol.Codec.Record
import TextProtocol.Wire.Failure

/-!
# Parsing messages

The parser of a message goes through the states of its machine. A state that expects a text takes
it; a state that extracts a field finds the end of the field and coerces its bytes. An optional
field is absent unless a value can be read and what has to follow it does. A parse that fails
consumes nothing.
-/

namespace TextProtocol.Codec

/-- A parsed message and the number of bytes that it took. -/
structure Parsed where
  record : Record
  consumed : Int

abbrev ParseResult := Except ParseFailure Parsed

/-- Where the parser stands: the next byte and the members read so far. -/
structure Cursor where
  position : Int
  values : Record := []

def standsAt (data : Bytes) (position : Int) (text : String) : Bool :=
  Wire.standsAt data position (Utf8.ofString text)

def widthOf (length : Value) : Except Fault Int :=
  match length.integer? with
  | some n => .ok n
  | none => .error .mismatch

def fieldOf? (m : Compiled.Message) (f : Spec.Field) : Option Compiled.Field :=
  m.fields.find? (·.name == f.name)

def expect (data : Bytes) (state : State) (text : String) (at_ : Cursor) :
    Except ParseFailure Cursor :=
  if standsAt data at_.position text then
    .ok { at_ with position := at_.position + (Utf8.ofString text).length }
  else .error (.atOffset state.kind data at_.position text)

def stopAfter (data : Bytes) (position : Int) (x : Extraction) : Option Nat :=
  Wire.findStop data position (x.stops.map Utf8.ofString)

/-- The end of a required field, or what was expected if there is too little data. Without a stop
the field goes on to the end. -/
def requiredEnd (data : Bytes) (position : Int) : Extraction → Except Fault (Except String Int)
  | .fixedLength length => do
    let stop := position + (← widthOf length)
    return if data.length < stop then .error s!"{length.plain} bytes" else .ok stop
  | .endOfBuffer => return .ok data.length
  | x => return .ok (stopAfter data position x |>.getD data.length)

/-- The end of an optional field, if it can be there. Where no stop is found the last byte is taken
for one, which lies after a position that counts from the end only. -/
def optionalEnd (data : Bytes) (position : Int) : Extraction → Except Fault (Option Int)
  | .fixedLength length => do
    let stop := position + (← widthOf length)
    return if stop ≤ data.length then some stop else none
  | .endOfBuffer => return if position < data.length then some data.length else none
  | x => do
    let stop : Int := ((stopAfter data position x).map Int.ofNat).getD (-1)
    return if position < stop then some stop else none

def store (c : Cursor) (f : Spec.Field) (v : Value) (stop : Int) : Cursor where
  position := stop
  values := Value.putEntry c.values (memberName f.name) v

def note (expected : String) : Value :=
  .object [("invalid", .text expected)]

/-- The value of a field in some bytes, or what was expected. A lenient parser takes a note of it
for the value. -/
def valueIn (lenient : Bool) (check : FieldCheck) (raw : Bytes) :
    Except Fault (Except String Value) := do
  match ← check.coerce raw with
  | .error expected => return if lenient then .ok (note expected) else .error expected
  | .ok v => return .ok v

def extract (lenient : Bool) (data : Bytes) (state : State) (f : Spec.Field) (check : FieldCheck)
    (x : Extraction) (c : Cursor) : Except Fault (Except ParseFailure Cursor) := do
  let refuse (expected : String) : Except ParseFailure Cursor :=
    .error (.atOffset state.label data c.position expected)
  match ← requiredEnd data c.position x with
  | .error expected => return refuse expected
  | .ok stop =>
    match ← valueIn lenient check (Wire.between data c.position stop) with
    | .error expected => return refuse expected
    | .ok v => return .ok (store c f v stop)

def extractOptional (lenient : Bool) (data : Bytes) (f : Spec.Field) (check : FieldCheck)
    (x : Extraction) (follow : Option String) (c : Cursor) : Except Fault Cursor := do
  match ← optionalEnd data c.position x with
  | none => return c
  | some stop =>
    if follow.all (standsAt data stop) then
      match ← valueIn lenient check (Wire.between data c.position stop) with
      | .error _ => return c
      | .ok v => return store c f v stop
    else return c

def step (lenient : Bool) (m : Compiled.Message) (data : Bytes) (state : State) (c : Cursor) :
    Except Fault (Except ParseFailure Cursor) := do
  match state with
  | .expectFixed text | .expectDelimiter text | .terminal (some text) =>
    return expect data state text c
  | .terminal none => return .ok c
  | .extractField f x => match fieldOf? m f with
    | some field => extract lenient data state f (checkOf field) x c
    | none => throw .absent
  | .optionalField f x follow => match fieldOf? m f with
    | some field => return .ok (← extractOptional lenient data f (checkOf field) x follow c)
    | none => throw .absent

def steps (lenient : Bool) (m : Compiled.Message) (data : Bytes) :
    List State → Cursor → Except Fault (Except ParseFailure Cursor)
  | [], c => .ok (.ok c)
  | state :: rest, c => do
    match ← step lenient m data state c with
    | .error failure => return .error failure
    | .ok next => steps lenient m data rest next

/-- Parse a message in some data, from an offset on, and make a record of the values read. An offset
beyond the data is reported, unless it has too many digits. -/
def parseWith (lenient : Bool) (make : Record → Except Fault Record) (m : Compiled.Message)
    (data : Bytes) (offset : Int) : Except Fault ParseResult := do
  if data.length < offset then
    if !Text.isWritable offset then throw .invalid
    let label := (m.machine.states.head?.map State.label).getD ""
    return .error (.atOffset label data offset s!"data at offset {offset}")
  match ← steps lenient m data m.machine.states { position := offset } with
  | .error failure => return .error failure
  | .ok last => return .ok { record := ← make last.values, consumed := last.position - offset }

def parse (m : Compiled.Message) (data : Bytes) (offset : Int) : Except Fault ParseResult :=
  parseWith false (build m) m data offset

/-- Parse message after message, until one fails, one takes nothing, or the data is used up. -/
def parseAllFrom (parseAt : Int → Except Fault ParseResult) (size : Nat) :
    (fuel : Nat) → (offset : Int) → List (Except Fault ParseResult)
  | 0, _ => []
  | fuel + 1, offset =>
    if size ≤ offset then [] else
      let result := parseAt offset
      match result with
      | .ok (.ok parsed) =>
        if parsed.consumed == 0 then [result]
        else result :: parseAllFrom parseAt size fuel (offset + parsed.consumed)
      | _ => [result]

def parseAll (m : Compiled.Message) (data : Bytes) : List (Except Fault ParseResult) :=
  parseAllFrom (parse m data) data.length data.length 0

end TextProtocol.Codec
