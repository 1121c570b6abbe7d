import TextProtocol.Text.Quoted
import TextProtocol.Wire.Search

/-!
# Parse failures

A parser that cannot go on reports its state, the offset, what it expected and a preview of what it
found. It consumes nothing.
-/

namespace TextProtocol

structure ParseFailure where
  state : String
  offset : Int
  expected : String
  actual : String

namespace ParseFailure

def previewLength : Nat := 50

/-- The beginning of the data at an offset, as text; dots show that the data is longer than the
offset and a preview together. -/
def preview (data : Bytes) (offset : Int) : String :=
  let here := Wire.between data offset (offset + previewLength)
  let text := String.ofList (Utf8.decodeLenient here)
  if previewLength < data.length - offset then text ++ "..." else text

def atOffset (state : String) (data : Bytes) (offset : Int) (expected : String) : ParseFailure :=
  { state, offset, expected, actual := preview data offset }

def message (f : ParseFailure) : String :=
  let expected := Text.quoted f.expected
  let actual := Text.quoted f.actual
  s!"{f.state}: expected {expected} at offset {f.offset}, found {actual}"

end ParseFailure

end TextProtocol
