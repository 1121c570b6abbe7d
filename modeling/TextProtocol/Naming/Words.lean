/-!
# Words of a name

A name in any common casing is cut into lower-case words: at every character that is neither a
letter nor a digit of ASCII, before a capital that follows a small letter or a digit, and before
the last capital of a run of capitals that small letters or digits follow (`HTTPServer` is `http`,
`server`).
-/

namespace TextProtocol.Naming

/-- Whether a character belongs to a word: a letter or a digit of ASCII. -/
def isWordChar (c : Char) : Bool :=
  c.isAlphanum

/-- Whether a character is a small letter or a digit. -/
def isLow (c : Char) : Bool :=
  c.isLower || c.isDigit

/-- The words that a run of capitals and the small letters after it make. A run of several capitals
keeps its last one for the second word. -/
def splitRun (capitals lows : List Char) : List (List Char) :=
  if lows.isEmpty then
    if capitals.isEmpty then [] else [capitals]
  else if capitals.length ≤ 1 then [capitals ++ lows]
  else [capitals.dropLast, capitals.drop (capitals.length - 1) ++ lows]

/-- The words of a text without separators. `capitals` and `lows` are the run read so far, the
latter reversed, as is the former. -/
def chunkWords (capitals lows : List Char) : List Char → List (List Char)
  | [] => splitRun capitals.reverse lows.reverse
  | c :: cs =>
    if isLow c then chunkWords capitals (c :: lows) cs
    else if lows.isEmpty then chunkWords (c :: capitals) [] cs
    else splitRun capitals.reverse lows.reverse ++ chunkWords [c] [] cs

/-- The maximal runs of word characters. `run` is the reversed run read so far. -/
def chunks (run : List Char) : List Char → List (List Char)
  | [] => if run.isEmpty then [] else [run.reverse]
  | c :: cs =>
    if isWordChar c then chunks (c :: run) cs
    else if run.isEmpty then chunks [] cs
    else run.reverse :: chunks [] cs

def splitWords (name : List Char) : List (List Char) :=
  ((chunks [] name).flatMap (chunkWords [] [])).map (·.map Char.toLower)

end TextProtocol.Naming
