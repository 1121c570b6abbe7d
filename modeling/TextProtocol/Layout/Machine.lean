import TextProtocol.Json.Writer
import TextProtocol.Layout.Segment
import TextProtocol.Text.Utf8
import TextProtocol.Value.Shown

/-!
# Parser machines

A layout compiles to a row of parser states. A state expects a text or extracts a field, and the
last one ends the message. What follows a field in the layout decides where its bytes end; where two
fields meet with nothing between them, the boundary is guessed from the next separator and the field
counts as ambiguous.
-/

namespace TextProtocol

/-- Where the bytes of a field end. -/
inductive Extraction where
  | untilDelimiter (delimiter : String) (terminator : Option String)
  | untilLiteral (text : String)
  | untilTerminator (terminator : String)
  | endOfBuffer
  | fixedLength (length : Value)

namespace Extraction

def termination : Extraction → String
  | .untilDelimiter .. => "until_delimiter"
  | .untilLiteral _ => "until_literal"
  | .untilTerminator _ => "until_terminator"
  | .endOfBuffer => "end_of_buffer"
  | .fixedLength _ => "fixed_length"

def stops : Extraction → List String
  | .untilDelimiter d t => d :: t.toList
  | .untilLiteral text => [text]
  | .untilTerminator t => [t]
  | .endOfBuffer | .fixedLength _ => []

/-- The width of a field that is read by width. -/
def length : Extraction → Value
  | .fixedLength n => n
  | _ => .null

/-- Whether a field is read by width. -/
def isFixed : Extraction → Bool
  | .fixedLength _ => true
  | _ => false

def describe (x : Extraction) : String :=
  if !x.length.isNull then s!"{x.termination} ({x.length.plain} bytes)"
  else match x.stops with
    | [] => x.termination
    | stops => x.termination ++ " " ++ ", ".intercalate (stops.map (Json.writeString .ascii))

end Extraction

def Spec.Field.fixedWidth? (f : Spec.Field) : Option Value :=
  match f.type with
  | some (.bytes length) => if length.isNull then none else some length
  | some (.enum values) =>
    match (values.map fun v ↦ (Utf8.ofString v).length).eraseDups with
    | [width] => if width == 0 then none else some (.nat width)
    | _ => none
  | _ => none

namespace Extraction

def downstream (terminator : Option String) : List Segment → Extraction
  | .literal text :: _ => .untilLiteral text
  | .field _ :: rest => downstream terminator rest
  | [] => match terminator with
    | some t => .untilTerminator t
    | none => .endOfBuffer

/-- The extraction of a field with `rest` after it, and whether its boundary is ambiguous. -/
def derive (delimiter terminator : Option String) (f : Spec.Field) (rest : List Segment) :
    Extraction × Bool :=
  match f.type with
  | some (.bytes length) =>
    if length.isNull then ofNext else (.fixedLength length, false)
  | _ => ofNext
where
  ofNext : Extraction × Bool :=
    match rest with
    | .literal text :: _ => (.untilLiteral text, false)
    | .field _ :: _ => match delimiter with
      | some d => (.untilDelimiter d (terminator.filter (· != d)), false)
      | none => match f.fixedWidth? with
        | some width => (.fixedLength width, false)
        | none => (downstream terminator rest, true)
    | [] => (downstream terminator [], false)

end Extraction

inductive State where
  | expectFixed (text : String)
  | extractField (field : Spec.Field) (extraction : Extraction)
  | expectDelimiter (text : String)
  /-- A field that may be absent; `follow` is the text that has to come right after it. -/
  | optionalField (field : Spec.Field) (extraction : Extraction) (follow : Option String)
  | terminal (terminator : Option String)

namespace State

def kind : State → String
  | .expectFixed _ => "EXPECT_FIXED"
  | .extractField .. => "EXTRACT_FIELD"
  | .expectDelimiter _ => "EXPECT_DELIMITER"
  | .optionalField .. => "OPTIONAL_FIELD"
  | .terminal _ => "TERMINAL"

def field? : State → Option Spec.Field
  | .extractField f _ | .optionalField f .. => some f
  | _ => none

def extraction? : State → Option Extraction
  | .extractField _ x | .optionalField _ x _ => some x
  | _ => none

def label (s : State) : String :=
  match s.field? with
  | some f => s!"{s.kind}:{Value.plainName f.name}"
  | none => s.kind

def expected? : State → Option String
  | .expectFixed text | .expectDelimiter text => some text
  | .terminal terminator => terminator
  | .extractField .. | .optionalField .. => none

def isFixedText : State → Bool
  | .expectFixed _ => true
  | _ => false

def isTerminal : State → Bool
  | .terminal _ => true
  | _ => false

def describe : State → String
  | .expectFixed text | .expectDelimiter text => Json.writeString .ascii text
  | .terminal (some t) => Json.writeString .ascii t
  | .terminal none => "end"
  | .extractField _ x | .optionalField _ x _ => x.describe

/-- The states for segments. `afterField` is whether a field stands directly before. -/
def ofSegments (delimiter terminator : Option String) (afterField : Bool) :
    List Segment → List State
  | [] => [.terminal terminator]
  | .literal text :: rest => .expectFixed text :: ofSegments delimiter terminator false rest
  | .field f :: rest =>
    let x := (Extraction.derive delimiter terminator f rest).1
    let later := ofSegments delimiter terminator true rest
    let own := if f.isRequired then .extractField f x
      else .optionalField f x (later.head?.bind expected?)
    match delimiter with
    | some d => if afterField then .expectDelimiter d :: own :: later else own :: later
    | none => own :: later

end State

/-- The names of the fields whose boundary is ambiguous. -/
def Segment.ambiguous (delimiter terminator : Option String) :
    List Segment → List (Option String)
  | [] => []
  | .literal _ :: rest => ambiguous delimiter terminator rest
  | .field f :: rest =>
    let later := ambiguous delimiter terminator rest
    if (Extraction.derive delimiter terminator f rest).2 then f.name :: later else later

/-- The parser of a message. -/
structure Machine where
  segments : List Segment
  states : List State
  /-- The names of the fields whose boundary is guessed. -/
  ambiguous : List (Option String)

namespace Machine

def ofSegments (segments : List Segment) (delimiter terminator : Option String) : Machine :=
  let delimiter := Segment.separator? delimiter
  let terminator := Segment.separator? terminator
  let segments := Segment.withoutTerminator terminator segments
  { segments
    states := State.ofSegments delimiter terminator false segments
    ambiguous := Segment.ambiguous delimiter terminator segments }

def terminator (m : Machine) : Option String :=
  match m.states.getLast? with
  | some (.terminal t) => t
  | _ => none

/-- Whether the last state requires bytes, so that a message that is cut off fails. -/
def rejectsTruncation (m : Machine) : Bool :=
  m.terminator.isSome ||
    ((m.states.filter (!·.isTerminal)).getLast?).any State.isFixedText

def extractions (m : Machine) : List (Spec.Field × Extraction) :=
  m.states.filterMap fun s ↦ do return (← s.field?, ← s.extraction?)

/-- The texts that end a field of a name, wherever it occurs. -/
def stopsOf (m : Machine) (name : Option String) : List String :=
  ((m.extractions.filter (·.1.name == name)).flatMap (·.2.stops)).eraseDups

/-- Whether an optional field of a name is read by width. When it is missing, the bytes that follow
may be taken for its value. -/
def readsOptionalByWidth (m : Machine) (name : Option String) : Bool :=
  m.states.any fun
    | .optionalField f x _ => f.name == name && x.isFixed
    | _ => false

end Machine

/-- A layout in one line, with names in braces and literals escaped. -/
def Segment.describe (segments : List Segment) : String :=
  String.join (segments.map fun
    | .literal text => Json.stringBody .ascii text
    | .field f => s!"\x7b{Value.plainName f.name}\x7d")

end TextProtocol
