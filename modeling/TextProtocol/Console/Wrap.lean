import TextProtocol.Text.Blank
import TextProtocol.Text.CellWidth

/-!
# Wrapped text

Text in lines of a given width. Tabs are replaced by blanks, lines are broken between words, and a
word that is too long for a line is cut off with an ellipsis.
-/

namespace TextProtocol.Console

def tabWidth : Nat := 8

/-- The parts of a line between its tabs with blanks in place of the tabs; `column` is where the
line starts. A tab takes at least one blank. -/
def joinTabbed (column : Nat) : List (List Char) → List Char
  | [] => []
  | [last] => last
  | part :: rest =>
    let part := part ++ [' ']
    let stop := column + Text.cellLength part
    let blanks := (tabWidth - stop % tabWidth) % tabWidth
    part ++ List.replicate blanks ' ' ++ joinTabbed (stop + blanks) rest

def withoutTabs (line : List Char) : List Char :=
  joinTabbed 0 (line.splitOn '\t')

/-- The words of a text, each with the blanks after it, and the first one also with the blanks
before it. `word` holds the characters of the current one, in reverse, and `ended` tells whether
blanks have ended it. -/
def spacedWordsFrom (word : List Char) (ended : Bool) : List Char → List (List Char)
  | [] => [word.reverse]
  | c :: rest =>
    if Text.isBlank c then
      spacedWordsFrom (c :: word) (ended || !word.all Text.isBlank) rest
    else if ended then word.reverse :: spacedWordsFrom [c] false rest
    else spacedWordsFrom (c :: word) false rest

def spacedWords (text : List Char) : List (List Char) :=
  spacedWordsFrom [] false text

def withoutEndBlanks (text : List Char) : List Char :=
  (text.reverse.dropWhile Text.isBlank).reverse

def fillLines (width : Nat) (line : List Char) (column : Nat) : List (List Char) → List (List Char)
  | [] => [line]
  | word :: rest =>
    if column + Text.cellLength (withoutEndBlanks word) ≤ width then
      fillLines width (line ++ word) (column + Text.cellLength word) rest
    else if line.isEmpty then fillLines width word (Text.cellLength word) rest
    else line :: fillLines width word (Text.cellLength word) rest

/-- A line of which blanks at the end are dropped, as many as it has characters too many. -/
def trimmed (width : Nat) (line : List Char) : List Char :=
  let blanks := line.length - (withoutEndBlanks line).length
  line.take (line.length - min blanks (line.length - width))

/-- A line cut off with an ellipsis or filled up to a width. What is filled up is measured once
more: a joiner at the end of a line draws the first blank into it. -/
def fitted (width : Nat) (line : List Char) : List Char :=
  if width < Text.cellLength line then
    Text.padded width (Text.resized (width - 1) line ++ ['…'])
  else Text.padded width (Text.padded width line)

def wrapped (width : Nat) (text : List Char) : List (List Char) :=
  (text.splitOn '\n').flatMap fun line ↦
    (fillLines width [] 0 (spacedWords (withoutTabs line))).map fun l ↦
      fitted width (trimmed width l)

end TextProtocol.Console
