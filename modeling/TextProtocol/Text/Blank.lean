import TextProtocol.Text.CodeSet

/-!
# Blanks

The characters that separate words in running text: the white space of Unicode together with the
four information separators U+001C to U+001F. `words` cuts a text at its runs of blanks.
-/

namespace TextProtocol.Text

def blanks : CodeSet := ⟨
  [9, 5, 14, 5, 100, 1, 26, 1, 5599, 1, 2431, 11, 29, 2, 5, 1, 47, 1, 4000, 1]⟩

def isBlank (c : Char) : Bool :=
  blanks.has c

/-- The maximal runs of characters that are not blank. `run` is the reversed run read so far. -/
def wordsFrom (run : List Char) : List Char → List (List Char)
  | [] => if run.isEmpty then [] else [run.reverse]
  | c :: cs =>
    if isBlank c then
      if run.isEmpty then wordsFrom [] cs else run.reverse :: wordsFrom [] cs
    else wordsFrom (c :: run) cs

def words (text : List Char) : List (List Char) :=
  wordsFrom [] text

def strip (text : List Char) : List Char :=
  ((text.dropWhile isBlank).reverse.dropWhile isBlank).reverse

end TextProtocol.Text
