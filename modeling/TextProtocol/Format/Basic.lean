import TextProtocol.Text.Quoted

/-!
# Formats

A format describes the layout of a message: literal text with placeholders for its fields between
braces. Here are the items that a format consists of and the ways in which a text can fail to be
a format.
-/

namespace TextProtocol.Format

/-- A part of a format. -/
inductive Item where
  /-- Literal text, its escapes resolved. -/
  | literal (text : String)
  | placeholder (name : String) (column : Nat)
  deriving DecidableEq, Repr

/-- The ways in which a text fails to be a format. -/
inductive Defect where
  /-- The text ends inside a placeholder. -/
  | unterminated
  /-- A closing brace where a name should be. -/
  | emptyPlaceholder
  /-- A closing brace outside a placeholder. -/
  | unmatched
  | danglingEscape
  | invalidCharacter (c : Char)
  /-- Anything else that cannot stand in a placeholder. -/
  | malformed
  deriving DecidableEq, Repr

/-- A defect and the column at which it shows. Columns count from one and begin anew after each
line break. -/
structure SyntaxError where
  defect : Defect
  column : Nat
  deriving DecidableEq, Repr

def SyntaxError.message (e : SyntaxError) (format : String) : String :=
  let shown := Text.quoted format
  match e.defect with
  | .unterminated => s!"unterminated placeholder in format {shown}"
  | .emptyPlaceholder => s!"empty placeholder at column {e.column} in format {shown}"
  | .unmatched => s!"unmatched '\x7d' at column {e.column} in format {shown}"
  | .danglingEscape => s!"dangling escape at column {e.column} in format {shown}"
  | .invalidCharacter c =>
    let character := Text.quoted (String.singleton c)
    s!"invalid placeholder character {character} at column {e.column} in format {shown}"
  | .malformed => s!"malformed format {shown} at column {e.column}"

end TextProtocol.Format
