import TextProtocol.Text.Hex

/-!
# Escapes in literal text

Literal text of a format, and the delimiters and terminators beside it, may spell characters with a
backslash: the braces and the backslash itself, line breaks, tabs, the zero character, and `\xHH`
for the character with that number. An escape that is none of these stands for itself, backslash
included.
-/

namespace TextProtocol.Format

def escapeChar? : Char → Option Char
  | '\x7b' => some '\x7b'
  | '\x7d' => some '\x7d'
  | '\\' => some '\\'
  | 'r' => some '\r'
  | 'n' => some '\n'
  | 't' => some '\t'
  | '0' => some (Char.ofNat 0)
  | _ => none

/-- The character meant by two hexadecimal digits. -/
def hexEscape? (a b : Char) : Option Char := do
  let hi ← Text.hexValue? a
  let lo ← Text.hexValue? b
  return Char.ofNat (16 * hi + lo)

/-- Literal text with its escapes resolved. -/
def unescapeChars : List Char → List Char
  | '\\' :: 'x' :: a :: b :: rest =>
    match hexEscape? a b with
    | some c => c :: unescapeChars rest
    | none => '\\' :: 'x' :: unescapeChars (a :: b :: rest)
  | '\\' :: c :: rest =>
    match escapeChar? c with
    | some d => d :: unescapeChars rest
    | none => '\\' :: c :: unescapeChars rest
  | c :: rest => c :: unescapeChars rest
  | [] => []

def unescape (s : String) : String :=
  String.ofList (unescapeChars s.toList)

end TextProtocol.Format
