/-!
# Source text

Generated sources are lists of lines. Stretches of fixed text stand in blocks, with a margin of bars
at the left; holes in angle brackets are filled with names and expressions.
-/

namespace TextProtocol.Target

def splitLines : List Char → List (List Char)
  | [] => [[]]
  | c :: rest =>
    let lines := splitLines rest
    if c == '\n' then [] :: lines else lines.modifyHead (c :: ·)

def withoutMargin (line : List Char) : String :=
  match line.dropWhile (· == ' ') with
  | '|' :: rest => String.ofList rest
  | rest => String.ofList rest

/-- The lines of a block. What stands before its first line break and after its last one does not
belong to it. -/
def block (text : String) : List String :=
  (((splitLines text.toList).drop 1).dropLast).map withoutMargin

abbrev Holes := List (String × String)

/-- Text with its holes filled. `hole` holds the characters of a hole that is open, reversed. What
is filled in is not looked at again. -/
def fillChars (holes : Holes) : (hole : Option (List Char)) → List Char → List Char
  | none, [] => []
  | some name, [] => '⟨' :: name.reverse
  | none, c :: rest => if c == '⟨' then fillChars holes (some []) rest
    else c :: fillChars holes none rest
  | some name, c :: rest =>
    if c == '⟩' then
      let text := (holes.find? (·.1 == String.ofList name.reverse)).map (·.2)
      (text.getD "").toList ++ fillChars holes none rest
    else fillChars holes (some (c :: name)) rest

def fill (holes : Holes) (text : String) : String :=
  String.ofList (fillChars holes none text.toList)

def filled (holes : Holes) (text : String) : List String :=
  (block text).map (fill holes)

def linesIf (condition : Bool) (lines : List String) : List String :=
  if condition then lines else []

def tabbed (line : String) : String :=
  let rec go : List Char → List Char
    | ' ' :: ' ' :: ' ' :: ' ' :: rest => '\t' :: go rest
    | rest => rest
  String.ofList (go line.toList)

def fileText (lines : List String) : String :=
  String.join (lines.map (· ++ "\n"))

end TextProtocol.Target
