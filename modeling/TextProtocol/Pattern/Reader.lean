import TextProtocol.Pattern.Basic
import TextProtocol.Text.CharacterName
import TextProtocol.Text.Identifier
import TextProtocol.Text.Integer

/-!
# Reading patterns

A reader for the common syntax of regular expressions: sets, classes, quantifiers in three modes,
groups with and without names, look-around, references to groups, conditional parts and inline
flags. A brace that opens no quantifier is a literal. Flags for the whole pattern stand at its
beginning.

What alternatives begin with in common is taken out of them, and alternatives of one character each
become a set. A group that neither captures nor changes flags leaves no trace but its items.

The reader works on tokens, a backslash and the character after it being one token. Its recursion
runs on fuel; four units per token are enough. Beside the fuel it carries the number of levels by
which parts may still be nested.
-/

namespace TextProtocol.Pattern

inductive ReadError where
  | malformed
  | tooManyRounds
  /-- The pattern asks for ASCII and for Unicode. -/
  | clashingFlags
  | tooManyDigits
  | tooDeep
  deriving DecidableEq, Repr

/-- A character, an escaped one, or a backslash with nothing after it. -/
inductive Token where
  | char (c : Char)
  | escape (c : Char)
  | dangling
  deriving DecidableEq, Repr

def Token.char? : Token → Option Char
  | .char c => some c
  | _ => none

def tokens : List Char → List Token
  | [] => []
  | ['\\'] => [.dangling]
  | '\\' :: c :: rest => .escape c :: tokens rest
  | c :: rest => .char c :: tokens rest

/-- What the reader knows at a point of the pattern. -/
structure Cursor where
  tokens : List Token
  flags : Flags := {}
  unicode : Bool := false
  /-- Whether repetition is switched off by a flag. -/
  template : Bool := false
  groups : Nat := 1
  names : List (String × Nat) := []
  widths : List (Nat × (Nat × Nat)) := []
  /-- Inside a look-behind, the first group that began in it. -/
  behindFrom : Option Nat := none
  /-- Groups that conditional parts ask about. -/
  conditions : List Nat := []

abbrev Reader := StateT Cursor (Except ReadError)

namespace Reader

def malformed {α : Type} : Reader α :=
  throw .malformed

def peek : Reader (Option Token) := do
  return (← get).tokens.head?

/-- Go on with what is left, which must not begin with a dangling backslash. -/
def advance (rest : List Token) : Reader Unit := do
  if rest.head? == some .dangling then malformed
  modify ({ · with tokens := rest })

def take : Reader (Option Token) := do
  match (← get).tokens with
  | t :: rest => advance rest; return some t
  | [] => return none

def accept (c : Char) : Reader Bool := do
  match (← get).tokens with
  | .char d :: rest =>
    if c == d then advance rest; return true
    else return false
  | _ => return false

def takeUpTo (n : Nat) (p : Char → Bool) : Reader (List Char) := do
  let ts := (← get).tokens
  let taken := (ts.takeWhile fun t ↦ t.char?.any p).take n
  advance (ts.drop taken.length)
  return taken.filterMap Token.char?

/-- Take a name up to and including `stop`: not empty, and without escapes. -/
def takeName (stop : Char) : Reader (List Char) := do
  let ts := (← get).tokens
  let before := ts.takeWhile (· != .char stop)
  if before.isEmpty || before.length == ts.length then malformed
  advance (ts.drop (before.length + 1))
  before.mapM fun t ↦ match t.char? with
    | some c => pure c
    | none => malformed

end Reader

open Reader

/-- Whether a character is a digit of base eight. -/
def isOctal (c : Char) : Bool :=
  '0' ≤ c && c ≤ '7'

def isHex (c : Char) : Bool :=
  (Text.hexValue? c).isSome

def ofDigits (base : Nat) (ds : List Char) : Nat :=
  ds.foldl (fun n c ↦ base * n + (Text.hexValue? c).getD 0) 0

def categoryOf? : Char → Option SetItem
  | 'd' => some (.category .digit false)
  | 'D' => some (.category .digit true)
  | 's' => some (.category .space false)
  | 'S' => some (.category .space true)
  | 'w' => some (.category .word false)
  | 'W' => some (.category .word true)
  | _ => none

/-- The code point named by a one-letter escape. -/
def controlOf? : Char → Option Nat
  | 'a' => some 7
  | 'f' => some 12
  | 'n' => some 10
  | 'r' => some 13
  | 't' => some 9
  | 'v' => some 11
  | '\\' => some 92
  | _ => none

/-- A code point spelled with exactly `n` hexadecimal digits. -/
def readCode (n : Nat) : Reader Nat := do
  let ds ← takeUpTo n isHex
  if ds.length != n then malformed
  let code := ofDigits 16 ds
  if 0x110000 ≤ code then malformed
  return code

/-- A code point given by the name of its character, between braces. -/
def readNamed : Reader Nat := do
  if !(← accept '\x7b') then malformed
  match Text.CharacterName.find? (← takeName '\x7d') with
  | some code => return code
  | none => malformed

def readSpelled? (c : Char) : Reader (Option Nat) := do
  match c with
  | 'x' => return some (← readCode 2)
  | 'u' => return some (← readCode 4)
  | 'U' => return some (← readCode 8)
  | 'N' => return some (← readNamed)
  | _ => return none

def readSetEscape (c : Char) : Reader SetItem := do
  if c == 'b' then return .code 8
  match controlOf? c with
  | some n => return .code n
  | none => match categoryOf? c with
    | some k => return k
    | none => match ← readSpelled? c with
      | some n => return .code n
      | none =>
      if isOctal c then
        let ds ← takeUpTo 2 isOctal
        let n := ofDigits 8 (c :: ds)
        if 255 < n then malformed
        return .code n
      else if c.isDigit || c.isAlpha then malformed
      else return .code c.toNat

def anchorOf? : Char → Option Anchor
  | 'A' => some .textStart
  | 'Z' => some .textEnd
  | 'b' => some .boundary
  | 'B' => some .nonBoundary
  | _ => none

/-- A reference to a group, which has to be closed and, inside a look-behind, to have begun before
it. -/
def readReference (index : Nat) : Reader Item := do
  let s ← get
  match s.widths.find? (·.1 == index) with
  | some (_, width) =>
    if s.behindFrom.any (· ≤ index) then malformed
    return .reference index width
  | none => malformed

def readEscape (c : Char) : Reader Item := do
  match anchorOf? c with
  | some a => return .anchor a
  | none => match categoryOf? c with
    | some k => return .set false [k]
    | none => match controlOf? c with
      | some n => return .literal n
      | none => match ← readSpelled? c with
        | some n => return .literal n
        | none =>
        if c == '0' then
          let ds ← takeUpTo 2 isOctal
          return .literal (ofDigits 8 ds)
        else if c.isDigit then
          let second ← takeUpTo 1 Char.isDigit
          let third ← if isOctal c && second.any isOctal then takeUpTo 1 isOctal else pure []
          if third.isEmpty then readReference (ofDigits 10 (c :: second))
          else
            let n := ofDigits 8 (c :: second ++ third)
            if 255 < n then malformed
            return .literal n
        else if c.isAlpha then malformed
        else return .literal c.toNat

def readSetItem : Token → Reader SetItem
  | .char c => return .code c.toNat
  | .escape c => readSetEscape c
  | .dangling => malformed

/-- The members of a set up to its closing bracket; `items` are those read so far, reversed. -/
def readSet : (fuel : Nat) → List SetItem → Reader (List SetItem)
  | 0, _ => malformed
  | fuel + 1, items => do
    match ← take with
    | none => malformed
    | some t =>
      if t == .char ']' && !items.isEmpty then return items.reverse
      let first ← readSetItem t
      if ← accept '-' then
        match ← take with
        | none => malformed
        | some u =>
          if u == .char ']' then return (.code '-'.toNat :: first :: items).reverse
          let second ← readSetItem u
          match first, second with
          | .code low, .code high =>
            if high < low then malformed
            readSet fuel (.range low high :: items)
          | _, _ => malformed
      else readSet fuel (first :: items)

def setOf (negated : Bool) (members : List SetItem) : Item :=
  match negated, members.eraseDups with
  | false, [.code n] => .literal n
  | true, [.code n] => .notLiteral n
  | negated, members => .set negated members

def roundsLimit : Nat := 4294967295

def roundsOf (digits : List Char) : Reader Nat := do
  if Text.maxDigits < digits.length then throw .tooManyDigits
  let n := ofDigits 10 digits
  if roundsLimit ≤ n then throw .tooManyRounds
  return n

/-- The bounds of a quantifier that begins with `c`; `none` when a brace opens no quantifier. -/
def readBounds (c : Char) : Reader (Option (Nat × Option Nat)) := do
  if c == '?' then return some (0, some 1)
  else if c == '*' then return some (0, none)
  else if c == '+' then return some (1, none)
  else
    let start ← get
    if (← peek) == some (.char '\x7d') then return none
    let low ← takeUpTo start.tokens.length Char.isDigit
    let high ← if ← accept ',' then takeUpTo start.tokens.length Char.isDigit else pure low
    if !(← accept '\x7d') then
      set start
      return none
    let least ← roundsOf low
    if high.isEmpty then return some (least, none)
    let most ← roundsOf high
    if most < least then malformed
    return some (least, some most)

def readMode : Reader Mode := do
  if ← accept '?' then return .lazy
  if ← accept '+' then return .possessive
  return .greedy

/-- A quantifier that begins with `c`, put on the last of `items`. A brace that opens none is a
literal. -/
def readQuantifier (c : Char) (items : List Item) : Reader (List Item) := do
  match ← readBounds c with
  | none => return .literal c.toNat :: items
  | some (least, most) =>
    match items with
    | [] => malformed
    | .anchor _ :: _ => malformed
    | .repeated .. :: _ => malformed
    | item :: rest =>
      return .repeated (← readMode) least most (item.plainGroup?.getD [item]) :: rest

def isFlag (c : Char) : Bool :=
  "iLmsxatu".toList.contains c

/-- The letters of flags from `c` on that are switched on, and the character that ends them. -/
def readFlagsOn : (fuel : Nat) → List Char → Char → Reader (List Char × Char)
  | 0, _, _ => malformed
  | fuel + 1, on, c => do
    if c == 'L' then malformed
    let on := c :: on
    if on.contains 'a' && on.contains 'u' then malformed
    match ← take with
    | some (.char d) =>
      if d == ')' || d == '-' || d == ':' then return (on, d)
      if !isFlag d then malformed
      readFlagsOn fuel on d
    | _ => malformed

/-- The letters of flags from `c` on that are switched off, up to a colon. -/
def readFlagsOff : (fuel : Nat) → List Char → Char → Reader (List Char)
  | 0, _, _ => malformed
  | fuel + 1, off, c => do
    if !isFlag c || c == 'a' || c == 'u' || c == 'L' then malformed
    match ← take with
    | some (.char ':') => return c :: off
    | some (.char d) => readFlagsOff fuel (c :: off) d
    | _ => malformed

/-- Inline flags that begin with `c`: flags for the whole pattern, or a change for a group. -/
def readFlags (c : Char) : Reader (Sum (List Char) FlagChange) := do
  let fuel := (← get).tokens.length + 1
  let (on, stop) ← if c == '-' then pure ([], '-') else readFlagsOn fuel [] c
  if stop == ')' then return .inl on
  if on.contains 't' then malformed
  let off ← if stop == '-' then
      match ← take with
      | some (.char d) => readFlagsOff fuel [] d
      | _ => malformed
    else pure []
  if off.contains 't' || on.any off.contains then malformed
  return .inr ⟨on, off⟩

def skipComment : Reader Unit := do
  match (← get).tokens.dropWhile (· != .char ')') with
  | [] => malformed
  | _ :: rest => advance rest

def skipLine : Reader Unit := do
  let ts := (← get).tokens
  if ts.contains .dangling && !ts.contains (.char '\n') then malformed
  advance ((ts.dropWhile (· != .char '\n')).drop 1)

def openGroup (name : Option (List Char)) : Reader Nat := do
  let s ← get
  match name with
  | none => set { s with groups := s.groups + 1 }
  | some n =>
    let n := String.ofList n
    if s.names.any (·.1 == n) then malformed
    set { s with groups := s.groups + 1, names := (n, s.groups) :: s.names }
  return s.groups

def closeGroup (index : Nat) (body : List Item) : Reader Unit :=
  modify fun s ↦ { s with widths := (index, widthOf body) :: s.widths }

def expectClose : Reader Unit := do
  if !(← accept ')') then malformed

def groupsLimit : Nat := 1073741823

/-- The group that a conditional part asks about. -/
def readCondition : Reader Nat := do
  let name ← takeName ')'
  let s ← get
  let index ← if Text.isIdentifier name then
      match s.names.find? (·.1 == String.ofList name) with
      | some (_, i) => pure i
      | none => malformed
    else match Text.readInteger name with
      | .ok n =>
        if n ≤ 0 || groupsLimit ≤ n then malformed
        set { s with conditions := n.toNat :: s.conditions }
        pure n.toNat
      | .error _ => malformed
  if s.behindFrom.isSome then
    if s.widths.all (·.1 != index) || s.behindFrom.any (· ≤ index) then malformed
  return index

def isVerboseSpace (c : Char) : Bool :=
  c.toNat == 32 || (9 ≤ c.toNat && c.toNat ≤ 13)

/-- The items of a part, with those of plain groups in place of the groups. -/
def unpacked (items : List Item) : List Item :=
  items.flatMap fun item ↦ item.plainGroup?.getD [item]

def commonStart : (fuel : Nat) → List (List Item) → List Item × List (List Item)
  | 0, alternatives => ([], alternatives)
  | fuel + 1, alternatives =>
    match alternatives with
    | (item :: _) :: others =>
      if others.all fun items ↦ items.head?.any item.sameLeaf then
        let (start, rest) := commonStart fuel (alternatives.map fun items ↦ items.drop 1)
        (item :: start, rest)
      else ([], alternatives)
    | _ => ([], alternatives)

def mergedSet? (alternatives : List (List Item)) : Option (List SetItem) :=
  let members? (items : List Item) : Option (List SetItem) :=
    match items with
    | [item] => item.members?
    | _ => none
  (alternatives.mapM members?).map List.flatten

def branchOf : List (List Item) → List Item
  | [items] => items
  | alternatives =>
    let (start, rest) := commonStart ((alternatives.head?.getD []).length + 1) alternatives
    start ++ match mergedSet? rest with
      | some members => [.set false members.eraseDups]
      | none => [.branch rest]

/-- The most levels by which parts of a pattern may be nested. Alternatives and the items of an
alternative are a level each. -/
def maxNesting : Nat := 980

def descend : (levels : Nat) → Reader Nat
  | 0 => throw .tooDeep
  | levels + 1 => return levels

mutual

/-- Alternatives, up to a closing parenthesis or the end; `read` are those read so far, reversed.
`whole` says that this is the whole pattern, whose flags may change at its beginning. -/
def readAlternatives : (fuel levels : Nat) → (verbose whole : Bool) → (read : List (List Item)) →
    Reader (List Item)
  | 0, _, _, _, _ => malformed
  | fuel + 1, levels, verbose, whole, read => do
    let inner ← descend levels
    let items ← readItems fuel inner verbose (whole && read.isEmpty) []
    let read := unpacked items.reverse :: read
    if ← accept '|' then
      let s ← get
      let verbose := if whole then s.flags.verbose else verbose
      readAlternatives fuel levels verbose whole read
    else return branchOf read.reverse

/-- Items in a row; `items` are those read so far, reversed. Flags for the whole pattern may stand
where `first` holds and nothing was read. -/
def readItems : (fuel levels : Nat) → (verbose first : Bool) → List Item → Reader (List Item)
  | 0, _, _, _, _ => malformed
  | fuel + 1, levels, verbose, first, items => do
    match ← peek with
    | none | some (.char '|') | some (.char ')') => return items
    | some t =>
      let _ ← take
      match t with
      | .dangling => malformed
      | .escape c => readItems fuel levels verbose first ((← readEscape c) :: items)
      | .char c =>
        if verbose && isVerboseSpace c then readItems fuel levels verbose first items
        else if verbose && c == '#' then
          skipLine
          readItems fuel levels verbose first items
        else if c == '[' then
          let negated ← accept '^'
          let members ← readSet ((← get).tokens.length + 1) []
          readItems fuel levels verbose first (setOf negated members :: items)
        else if c == '?' || c == '*' || c == '+' || c == '\x7b' then
          readItems fuel levels verbose first (← readQuantifier c items)
        else if c == '.' then readItems fuel levels verbose first (.any :: items)
        else if c == '^' then
          readItems fuel levels verbose first (.anchor .lineStart :: items)
        else if c == '$' then readItems fuel levels verbose first (.anchor .lineEnd :: items)
        else if c == '(' then
          if ← accept '?' then readExtension fuel levels verbose first items
          else
            let index ← openGroup none
            readGroup fuel levels verbose first items (some index) {}
        else readItems fuel levels verbose first (.literal c.toNat :: items)

def readGroup : (fuel levels : Nat) → (verbose first : Bool) → List Item → (index : Option Nat) →
    (change : FlagChange) → Reader (List Item)
  | 0, _, _, _, _, _, _ => malformed
  | fuel + 1, levels, verbose, first, items, index, change => do
    let inner := (verbose || change.on.contains 'x') && !change.off.contains 'x'
    let body ← readAlternatives fuel (← descend levels) inner false []
    expectClose
    match index with
    | some i => closeGroup i body
    | none => pure ()
    readItems fuel levels verbose first (.group index change body :: items)

/-- A part that begins with a parenthesis and a question mark, and what follows it. -/
def readExtension : (fuel levels : Nat) → (verbose first : Bool) → List Item → Reader (List Item)
  | 0, _, _, _, _ => malformed
  | fuel + 1, levels, verbose, first, items => do
    match ← take with
    | some (.char 'P') =>
      match ← take with
      | some (.char '<') =>
        let name ← takeName '>'
        if !Text.isIdentifier name then malformed
        let index ← openGroup (some name)
        readGroup fuel levels verbose first items (some index) {}
      | some (.char '=') =>
        let name ← takeName ')'
        match (← get).names.find? (·.1 == String.ofList name) with
        | some (_, index) =>
          readItems fuel levels verbose first ((← readReference index) :: items)
        | none => malformed
      | _ => malformed
    | some (.char ':') => readGroup fuel levels verbose first items none {}
    | some (.char '>') =>
      let body ← readAlternatives fuel (← descend levels) verbose false []
      expectClose
      readItems fuel levels verbose first (.atomic body :: items)
    | some (.char '#') =>
      skipComment
      readItems fuel levels verbose first items
    | some (.char '=') => readLook fuel levels verbose first items false false
    | some (.char '!') => readLook fuel levels verbose first items false true
    | some (.char '<') =>
      match ← take with
      | some (.char '=') => readLook fuel levels verbose first items true false
      | some (.char '!') => readLook fuel levels verbose first items true true
      | _ => malformed
    | some (.char '(') =>
      let index ← readCondition
      let inner ← descend levels
      let yes ← readItems fuel inner verbose false []
      let no ← if ← accept '|' then readItems fuel inner verbose false [] else pure []
      expectClose
      readItems fuel levels verbose first
        (.conditional index (unpacked yes.reverse) (unpacked no.reverse) :: items)
    | some (.char c) =>
      if isFlag c || c == '-' then
        match ← readFlags c with
        | .inl on =>
          if !first || !items.isEmpty then malformed
          let s ← get
          let flags := s.flags.change ⟨on.filter (· != 'u'), []⟩
          set { s with
            flags
            unicode := s.unicode || on.contains 'u'
            template := s.template || on.contains 't' }
          readItems fuel levels flags.verbose first items
        | .inr change => readGroup fuel levels verbose first items none change
      else malformed
    | _ => malformed

def readLook : (fuel levels : Nat) → (verbose first : Bool) → List Item →
    (behind negated : Bool) → Reader (List Item)
  | 0, _, _, _, _, _, _ => malformed
  | fuel + 1, levels, verbose, first, items, behind, negated => do
    let outer := (← get).behindFrom
    if behind then modify fun s ↦ { s with behindFrom := some (outer.getD s.groups) }
    let body ← readAlternatives fuel (← descend levels) verbose false []
    modify fun s ↦ { s with behindFrom := outer }
    expectClose
    readItems fuel levels verbose first (.look behind negated body :: items)

end

mutual

/-- Whether an item can be used: what a look behind looks at has a fixed width, and nothing is
repeated where repetition is switched off. -/
def Item.isUsable (template : Bool) : Item → Bool
  | .branch alternatives => allUsable template alternatives
  | .repeated _ _ _ body => !template && isUsable template body
  | .group _ _ body | .atomic body => isUsable template body
  | .look behind _ body =>
    let (low, high) := widthOf body
    (!behind || (low == high && low ≤ 4294967295)) && isUsable template body
  | .conditional _ yes no => isUsable template yes && isUsable template no
  | _ => true

def isUsable (template : Bool) : List Item → Bool
  | [] => true
  | item :: rest => item.isUsable template && isUsable template rest

def allUsable (template : Bool) : List (List Item) → Bool
  | [] => true
  | items :: rest => isUsable template items && allUsable template rest

end

/-- A regular expression with its flags and the number of its groups. -/
structure Expression where
  flags : Flags
  items : List Item
  groups : Nat

def readWhole (fuel : Nat) : Reader Expression := do
  let items ← readAlternatives fuel maxNesting false true []
  let s ← get
  if s.unicode && s.flags.ascii then throw .clashingFlags
  if !s.tokens.isEmpty then malformed
  if s.conditions.any (s.groups ≤ ·) then malformed
  if !isUsable s.template items then malformed
  return { flags := s.flags, items, groups := s.groups - 1 }

def read (pattern : String) : Except ReadError Expression :=
  let ts := tokens pattern.toList
  (do advance ts; readWhole (4 * ts.length + 8) : Reader Expression).run' { tokens := ts }

end TextProtocol.Pattern
