import TextProtocol.Console.Emoji
import TextProtocol.Console.Style
import TextProtocol.Console.Wrap
import TextProtocol.Script.Plain
import TextProtocol.Text.Alphanumeric

/-!
# Marked-up text

Text for the console holds tags in brackets, which change its look and are not shown. A backslash
before a tag makes it plain text. What is shown here has no look, so that tags vanish; they still
have to match.
-/

namespace TextProtocol.Console

/-- Whether a character may stand after the bracket that opens a tag. -/
def startsTag (c : Char) : Bool :=
  c.isLower || c == '#' || c == '/' || c == '@'

def untilBracket : List Char → Option (List Char)
  | [] => none
  | c :: rest =>
    if c == ']' then some []
    else if c == '[' then none
    else (untilBracket rest).map (c :: ·)

/-- What the tag holds that an opening bracket starts, if it starts one. -/
def tagContent? : List Char → Option (List Char)
  | [] => none
  | c :: rest => if startsTag c then (untilBracket rest).map (c :: ·) else none

inductive Piece where
  | char (c : Char)
  | tag (backslashes : Nat) (content : List Char)

def plainPieces (cs : List Char) : List Piece :=
  cs.map .char

def pieces (backslashes : Nat) (text : List Char) : List Piece :=
  match text with
  | [] => plainPieces (List.replicate backslashes '\\')
  | c :: rest =>
    if c == '\\' then pieces (backslashes + 1) rest
    else if c == '[' then
      match tagContent? rest with
      | some content => .tag backslashes content :: pieces 0 (rest.drop (content.length + 1))
      | none => plainPieces (List.replicate backslashes '\\') ++ .char c :: pieces 0 rest
    else plainPieces (List.replicate backslashes '\\') ++ .char c :: pieces 0 rest
termination_by text.length
decreasing_by all_goals simp only [List.length_drop, List.length_cons]; omega

def bracketed (content : List Char) : List Char :=
  '[' :: content ++ [']']

def Piece.escaped : Piece → List Char
  | .char c => [c]
  | .tag backslashes content => List.replicate (2 * backslashes + 1) '\\' ++ bracketed content

/-- Text written so that it holds no tags. A single backslash at the end is doubled. -/
def escape (text : String) : String :=
  let escaped := (pieces 0 text.toList).flatMap Piece.escaped
  let single := ['\\'].isSuffixOf escaped && !(['\\', '\\'].isSuffixOf escaped)
  String.ofList (if single then escaped ++ ['\\'] else escaped)

/-- Plain text without the backslashes before opening brackets. -/
def withoutEscapes : List Char → List Char
  | [] => []
  | [c] => [c]
  | c :: d :: rest =>
    if c == '\\' && d == '[' then '[' :: withoutEscapes rest else c :: withoutEscapes (d :: rest)

/-- Characters that the console leaves out: bell, backspace, vertical tab, form feed and carriage
return. -/
def isLeftOut (c : Char) : Bool :=
  [7, 8, 11, 12, 13].contains c.toNat

def shownText (text : List Char) : List Char :=
  (withPictures text).filter (!isLeftOut ·)

/-- A plain stretch of marked-up text, kept in reverse, as it is shown. -/
def shownRun (run : List Char) : List Char :=
  shownText (withoutEscapes run.reverse)

/-- Why marked-up text cannot be shown. -/
inductive MarkupError where
  | unopened
  | badNumber
  /-- What a tag hands to a handler is no plain value. -/
  | badParameters

def tagStyle (name : List Char) : Except MarkupError String :=
  (canonicalStyle? name).elim (.error .badNumber) .ok

structure OpenTag where
  style : String
  /-- What follows the equals sign in the tag. -/
  parameters : List Char

/-- What a tag hands to a handler, by the parameters without blanks around them: after the name of a
handler that may be left out, only what stands in round brackets. -/
def handedOver (parameters : List Char) : List Char :=
  let rest := parameters.dropWhile fun c ↦ Text.isWordChar c || c == '.'
  if rest.isEmpty then "()".toList
  else if rest.head? == some '(' && rest.getLast? == some ')' && !rest.contains '\n' then rest
  else parameters

/-- Closes a tag. One that names a handler needs parameters that are plain values. -/
def OpenTag.close (tag : OpenTag) : Except MarkupError Unit :=
  if tag.style.startsWith "@" && !tag.parameters.isEmpty &&
      !Script.isPlainText (handedOver (Text.strip tag.parameters)) then .error .badParameters
  else .ok ()

/-- The tags that stay open after one is closed, the last opened first. Without a name, the last one
is closed. -/
def closeTag (name : List Char) (opened : List OpenTag) : Except MarkupError (List OpenTag) := do
  match Text.strip name, opened with
  | [], [] => throw .unopened
  | [], tag :: others =>
    tag.close
    return others
  | name, opened =>
    let style ← tagStyle name
    match opened.find? (·.style == style) with
    | some tag =>
      tag.close
      return opened.eraseP (·.style == style)
    | none => throw .unopened

/-- The tags that are open after a tag. What follows an equals sign is not part of its name. -/
def afterTag (content : List Char) (opened : List OpenTag) :
    Except MarkupError (List OpenTag) := do
  let parameters := (content.dropWhile (· != '=')).drop 1
  match content.takeWhile (· != '=') with
  | '/' :: name => closeTag name opened
  | name => return ⟨← tagStyle name, parameters⟩ :: opened

/-- What pieces show. `opened` holds the tags that are open, and `run` the plain characters before
the pieces, in reverse. -/
def shownPieces (opened : List OpenTag) (run : List Char) :
    List Piece → Except MarkupError (List Char)
  | [] => .ok (shownRun run)
  | .char c :: rest => shownPieces opened (c :: run) rest
  | .tag backslashes content :: rest => do
    let before := shownRun run ++ List.replicate (backslashes / 2) '\\'
    if backslashes % 2 == 1 then
      return before ++ shownText (bracketed content) ++ (← shownPieces opened [] rest)
    else return before ++ (← shownPieces (← afterTag content opened) [] rest)

def shown (markup : String) : Except MarkupError (List Char) :=
  shownPieces [] [] (pieces 0 markup.toList)

def line (text : List Char) : String :=
  "\n".intercalate ((text.splitOn '\n').map fun l ↦ String.ofList (withoutTabs l)) ++ "\n"

end TextProtocol.Console
