import TextProtocol.Format.Basic
import TextProtocol.Format.Escape

/-!
# Reading formats

`tokenize` cuts a format into its items. Literal text runs as far as it can: a backslash takes the
next character with it, and only a brace ends the run. A placeholder is a name between braces, with
blanks allowed around the name. Where a text cannot be read on, `surprise` says what is there and
`Surprise.defect` what is wrong with it.
-/

namespace TextProtocol.Format

def advance (column : Nat) (c : Char) : Nat :=
  if c == '\n' then 1 else column + 1

def isGap (c : Char) : Bool :=
  c == ' ' || c == '\t'

def isNameStart (c : Char) : Bool :=
  c.isAlpha || c == '_'

def isNameChar (c : Char) : Bool :=
  c.isAlphanum || c == '_' || c == '-'

/-- Literal text as it is written, what is left after it, and the column of that. -/
structure Run where
  text : List Char
  rest : List Char
  column : Nat

def Run.after (front : List Char) (r : Run) : Run :=
  ⟨front ++ r.text, r.rest, r.column⟩

@[simp] theorem Run.after_rest (front : List Char) (r : Run) : (r.after front).rest = r.rest := rfl

def takeText (column : Nat) : List Char → Run
  | [] => ⟨[], [], column⟩
  | '\x7b' :: rest => ⟨[], '\x7b' :: rest, column⟩
  | '\x7d' :: rest => ⟨[], '\x7d' :: rest, column⟩
  | ['\\'] => ⟨[], ['\\'], column⟩
  | '\\' :: c :: rest => (takeText (advance (column + 1) c) rest).after ['\\', c]
  | c :: rest => (takeText (advance column c) rest).after [c]

theorem takeText_rest_length (column : Nat) (cs : List Char) :
    (takeText column cs).rest.length ≤ cs.length := by
  fun_induction takeText column cs <;> simp_all <;> omega

/-- A name in a placeholder, with its column, what is left after the placeholder, and the column of
that. -/
structure Placeholder where
  name : List Char
  nameColumn : Nat
  rest : List Char
  column : Nat

/-- What is there where a text cannot be read on. -/
inductive Surprise where
  | ending
  /-- A character that begins no token at all. -/
  | character (c : Char)
  /-- The token that closes a placeholder. -/
  | closing
  /-- A token of another kind. -/
  | token

/-- Every character begins a token, apart from a backslash with nothing to escape. -/
def surprise : List Char → Surprise
  | [] => .ending
  | '\x7d' :: _ => .closing
  | ['\\'] => .character '\\'
  | _ :: _ => .token

def Surprise.defect (nameExpected : Bool) : Surprise → Defect
  | .ending => .unterminated
  | .character c =>
    if c == '\x7d' then .unmatched
    else if c == '\\' then .danglingEscape
    else .invalidCharacter c
  | .closing => if nameExpected then .emptyPlaceholder else .unmatched
  | .token => .malformed

/-- The error of a text that cannot be read on at `column`, where `cs` is left. -/
def refuse (nameExpected : Bool) (cs : List Char) (column : Nat) : SyntaxError :=
  ⟨(surprise cs).defect nameExpected, column⟩

/-- The end of a placeholder after its name: blanks and the closing brace. -/
def closePlaceholder (name : List Char) (nameColumn : Nat) (cs : List Char) :
    Except SyntaxError Placeholder :=
  let column := nameColumn + name.length
  let gap := cs.takeWhile isGap
  match cs.dropWhile isGap with
  | [] => .error (refuse false [] (if gap.isEmpty then nameColumn else column))
  | '\x7d' :: rest => .ok ⟨name, nameColumn, rest, column + gap.length + 1⟩
  | c :: rest => .error (refuse false (c :: rest) (column + gap.length))

def readPlaceholder (column : Nat) (cs : List Char) : Except SyntaxError Placeholder :=
  let gap := cs.takeWhile isGap
  let nameColumn := column + 1 + gap.length
  match cs.dropWhile isGap with
  | [] => .error (refuse true [] (if gap.isEmpty then column else column + 1))
  | c :: rest =>
    if isNameStart c then
      closePlaceholder (c :: rest.takeWhile isNameChar) nameColumn (rest.dropWhile isNameChar)
    else .error (refuse true (c :: rest) nameColumn)

theorem dropWhile_length (p : Char → Bool) (cs : List Char) :
    (cs.dropWhile p).length ≤ cs.length :=
  (List.dropWhile_suffix p).length_le

theorem closePlaceholder_rest_length {name : List Char} {nameColumn : Nat} {cs : List Char}
    {p : Placeholder} (h : closePlaceholder name nameColumn cs = .ok p) :
    p.rest.length < cs.length := by
  unfold closePlaceholder at h
  have hd := dropWhile_length isGap cs
  revert h
  dsimp only
  split <;> intro h
  · cases h
  · cases h
    rename_i heq
    simp only [heq, List.length_cons] at hd ⊢
    omega
  · cases h

theorem readPlaceholder_rest_length {column : Nat} {cs : List Char} {p : Placeholder}
    (h : readPlaceholder column cs = .ok p) : p.rest.length < cs.length := by
  unfold readPlaceholder at h
  have hd := dropWhile_length isGap cs
  revert h
  dsimp only
  split
  · intro h; cases h
  · rename_i c rest heq
    intro h
    split at h
    · have h1 := closePlaceholder_rest_length h
      have h2 := dropWhile_length isNameChar rest
      simp only [heq, List.length_cons] at hd
      omega
    · cases h

def tokenizeFrom (column : Nat) (cs : List Char) : Except SyntaxError (List Item) :=
  match cs with
  | [] => .ok []
  | '\x7b' :: rest =>
    match h : readPlaceholder column rest with
    | .error e => .error e
    | .ok p =>
      have := readPlaceholder_rest_length h
      (tokenizeFrom p.column p.rest).map
        (Item.placeholder (String.ofList p.name) p.nameColumn :: ·)
  | '\x7d' :: rest => .error (refuse false ('\x7d' :: rest) column)
  | ['\\'] => .error (refuse false ['\\'] column)
  | '\\' :: c :: rest =>
    have := takeText_rest_length (advance (column + 1) c) rest
    let run := (takeText (advance (column + 1) c) rest).after ['\\', c]
    (tokenizeFrom run.column run.rest).map
      (Item.literal (String.ofList (unescapeChars run.text)) :: ·)
  | c :: rest =>
    have := takeText_rest_length (advance column c) rest
    let run := (takeText (advance column c) rest).after [c]
    (tokenizeFrom run.column run.rest).map
      (Item.literal (String.ofList (unescapeChars run.text)) :: ·)
termination_by cs.length
decreasing_by
  all_goals simp only [List.length_cons, Run.after_rest]; omega

def tokenize (format : String) : Except SyntaxError (List Item) :=
  tokenizeFrom 1 format.toList

/-- The name of a placeholder; `none` for literal text. -/
def Item.name? : Item → Option String
  | .placeholder name _ => some name
  | .literal _ => none

def placeholderNames (format : String) : Except SyntaxError (List String) :=
  (tokenize format).map (·.filterMap Item.name?)

end TextProtocol.Format
