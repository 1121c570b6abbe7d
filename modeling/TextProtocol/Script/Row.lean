import TextProtocol.Script.Token

/-!
# Rows of Python modules

The logical lines of a module with the blocks that they stand in. A block is told by the margin of
its lines; lines that hold nothing but blanks and comments stand in no block.
-/

namespace TextProtocol.Script

inductive SourceFault where
  | syntaxError
  /-- A line does not stand at the margin of a block. -/
  | misindented
  /-- The margins of two lines compare differently if tabs are wider. -/
  | mixedTabs
  deriving DecidableEq, Repr

/-- The blank space in front of a line. -/
structure Margin where
  /-- The column that the line begins in, where tabs go to the next multiple of eight. -/
  column : Nat
  blanks : Nat
  deriving DecidableEq, Repr

namespace Margin

def ofSpaces (count : Nat) : Margin :=
  ⟨count, count⟩

/-- The margin after a blank. A form feed begins it anew. -/
def after (m : Margin) (c : Char) : Margin :=
  if c == '\t' then ⟨(m.column / 8 + 1) * 8, m.blanks + 1⟩
  else if c == '\x0c' then ⟨0, 0⟩
  else ⟨m.column + 1, m.blanks + 1⟩

end Margin

/-- The margin of a line and what follows it. A line that goes on after a backslash keeps the column
that it had there, unless it is the first. -/
def measure : (m : Margin) → (held? : Option Margin) → List Char → Margin × List Char
  | m, held?, '\\' :: '\n' :: rest =>
    measure ⟨0, 0⟩ (held?.or (if m.column == 0 then none else some (.ofSpaces m.column))) rest
  | m, held?, c :: rest => if isGap c then measure (m.after c) held? rest
    else (held?.getD m, c :: rest)
  | m, held?, [] => (held?.getD m, [])

abbrev Blocks := List Margin

def Blocks.leave (m : Margin) (blocks : Blocks) : Blocks :=
  blocks.dropWhile (m.column < ·.column)

def Blocks.next (blocks : Blocks) (m : Margin) : Except SourceFault Blocks :=
  let left := blocks.leave m
  match left with
  | [] => .error .misindented
  | top :: _ =>
    if m.column == top.column then if m.blanks == top.blanks then .ok left else .error .mixedTabs
    else if left.length < blocks.length then .error .misindented
    else if m.blanks ≤ top.blanks then .error .mixedTabs
    else .ok (m :: left)

inductive Row where
  /-- A line, by how many blocks it stands in; it has no tokens if a part of it is no token. -/
  | line (depth : Nat) (tokens? : Option (List Token))
  | fault (cause : SourceFault)

def rowsFrom : (fuel : Nat) → Blocks → List Char → List Row
  | 0, _, _ => []
  | fuel + 1, blocks, text =>
    let (m, rest) := measure ⟨0, 0⟩ none text
    match rest with
    | [] => []
    | '\n' :: rest => rowsFrom fuel blocks rest
    | '#' :: rest => rowsFrom fuel blocks ((rest.dropWhile (· != '\n')).drop 1)
    | '\\' :: _ => [.fault .syntaxError]
    | _ => match blocks.next m with
      | .error cause => [.fault cause]
      | .ok blocks => match readTokens (fuel + 1) [] rest with
        | some (tokens, rest) => .line blocks.length (some tokens) :: rowsFrom fuel blocks rest
        | none => [.line blocks.length none]

/-- A text in which each line break is one line feed, after a part of it from its end on. -/
def unifyOnto : (done : List Char) → List Char → List Char
  | done, [] => done.reverse
  | done, '\r' :: '\n' :: rest => unifyOnto ('\n' :: done) rest
  | done, c :: rest => unifyOnto ((if c == '\r' then '\n' else c) :: done) rest

def rows (source : String) : List Row :=
  let text := unifyOnto [] source.toList
  rowsFrom (text.length + 1) [.ofSpaces 0] text

end TextProtocol.Script
