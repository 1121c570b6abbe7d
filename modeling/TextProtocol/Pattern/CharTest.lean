import TextProtocol.Pattern.Basic
import TextProtocol.Text.Alphanumeric
import TextProtocol.Text.Blank
import TextProtocol.Text.LetterCase

/-!
# Tests of single characters

What an item that takes one character means under given flags. Where case is ignored and a member
of a set has case, the small letter of a character is looked up among the small letters of the
members. Beyond the basic plane, a single character of a set stands for itself only, and a range
holds a small letter if it holds the letter or its capital.
-/

namespace TextProtocol.Pattern

/-- Whether a code point belongs to a class. A surrogate belongs to none, like the character with
the code zero. -/
def Category.has (k : Category) (ascii : Bool) (code : Nat) : Bool :=
  let c := Char.ofNat code
  match k with
  | .digit => if ascii then c.isDigit else Text.isDecimal c
  | .space =>
    if ascii then c.toNat == 32 || (9 ≤ c.toNat && c.toNat ≤ 13) else Text.isBlank c
  | .word =>
    if ascii then c.isAlphanum || c == '_' else Text.isWordChar c

inductive Fold where
  | exact
  | ascii
  | unicode
  deriving DecidableEq, Repr

def Fold.apply : Fold → Nat → Nat
  | .exact, n => n
  | .ascii, n => Text.asciiSmallLetter n
  | .unicode, n => Text.smallLetter n

def Flags.fold (f : Flags) : Fold :=
  if f.ascii then .ascii else .unicode

def lineBreak : Nat := 10

def lastBasic : Nat := 0xFFFF

/-- Whether letters `first`, `first + step`, ..., moved by `shift`, meet a range. -/
def meets (r : Text.CaseRun) (shift : Int) (low high : Nat) : Bool :=
  let first := ((r.first : Int) + shift).toNat
  let last := ((r.last : Int) + shift).toNat
  let next := if low ≤ first then first
    else first + (low - first + r.step - 1) / r.step * r.step
  next ≤ last && next ≤ high

/-- Whether a range holds a code point that has case. -/
def hasCased (ascii : Bool) (low high : Nat) : Bool :=
  if ascii then (low ≤ 90 && 65 ≤ high) || (low ≤ 122 && 97 ≤ high)
  else
    Text.capitalRuns.any (fun r ↦ meets r 0 low high || meets r r.distance low high) ||
      Text.otherCapitals.any (meets · 0 low high)

def SetItem.isCased (ascii : Bool) : SetItem → Bool
  | .code n => lastBasic < n || hasCased ascii n n
  | .range low high => lastBasic < high || hasCased ascii low high
  | .category .. => false

inductive Member where
  | code (n : Nat)
  | range (low high : Nat)
  /-- The folded letters of a range, with those that share a capital with one of them if the fold
  goes beyond ASCII. -/
  | folded (fold : Fold) (low high : Nat)
  /-- A range that also holds the small letters of its capitals. -/
  | widened (low high : Nat)
  | category (k : Category) (ascii negated : Bool)
  deriving DecidableEq, Repr

def inRange (low high n : Nat) : Bool :=
  low ≤ n && n ≤ high

/-- Whether a folded code point counts as a member. -/
def Member.has (n : Nat) : Member → Bool
  | .code m => n == m
  | .range low high => inRange low high n
  | .folded .exact low high => inRange low high n
  | .folded .ascii low high => (Text.asciiCaseVariants n).any (inRange low high)
  | .folded .unicode low high => (Text.caseVariants n).any (inRange low high)
  | .widened low high => inRange low high n || inRange low high (Text.capital n)
  | .category k ascii negated => k.has ascii n != negated

def SetItem.plain (ascii : Bool) : SetItem → Member
  | .code n => .code n
  | .range low high => .range low high
  | .category k negated => .category k ascii negated

def SetItem.foldedBy (fold : Fold) : SetItem → List Member
  | .code n =>
    if lastBasic < n then [.code n]
    else match fold with
      | .unicode => (Text.relatedSmall (Text.smallLetter n)).map .code
      | fold => [.code (fold.apply n)]
  | .range low high =>
    (if low ≤ lastBasic then [.folded fold low (min high lastBasic)] else []) ++
      if lastBasic < high then [.widened low high] else []
  | .category k negated => [.category k (fold == .ascii) negated]

inductive CharTest where
  | any (lineBreaks : Bool)
  | literal (fold : Fold) (negated : Bool) (code : Nat)
  | set (fold : Fold) (negated : Bool) (members : List Member)
  deriving DecidableEq, Repr

namespace CharTest

def has (n : Nat) : CharTest → Bool
  | .any lineBreaks => lineBreaks || n != lineBreak
  | .literal fold negated code => (fold.apply n == code) != negated
  | .set fold negated members => members.any (·.has (fold.apply n)) != negated

def ofCode (flags : Flags) (negated : Bool) (n : Nat) : CharTest :=
  if !flags.ignoreCase || !hasCased flags.ascii n n then .literal .exact negated n
  else
    let small := flags.fold.apply n
    let related := if flags.ascii then [small] else Text.relatedSmall small
    if related.length == 1 then .literal flags.fold negated small
    else .set .unicode negated (related.map .code)

def ofSet (flags : Flags) (negated : Bool) (members : List SetItem) : CharTest :=
  if flags.ignoreCase && members.any (·.isCased flags.ascii) then
    .set flags.fold negated (members.flatMap (·.foldedBy flags.fold))
  else .set .exact negated (members.map (·.plain flags.ascii))

def exactCode? : CharTest → Option Nat
  | .literal .exact false n => some n
  | _ => none

def isExactSet : CharTest → Bool
  | .set .exact .. => true
  | _ => false

def isFoldedSet : CharTest → Bool
  | .set fold .. => fold != .exact
  | _ => false

end CharTest

end TextProtocol.Pattern
