/-!
# Regular expressions

The tree of a regular expression. A part of a pattern is a list of items that match one after the
other. Flags are not in the tree, except where a group changes them: what an item means depends on
the flags of the place where it stands.
-/

namespace TextProtocol.Pattern

structure Flags where
  ignoreCase : Bool := false
  /-- Whether `^` and `$` also match at line breaks. -/
  multiline : Bool := false
  /-- Whether `.` also matches a line break. -/
  dotAll : Bool := false
  /-- Whether blanks and comments in the pattern mean nothing. -/
  verbose : Bool := false
  /-- Whether classes and case are those of ASCII. -/
  ascii : Bool := false
  deriving DecidableEq, Repr

structure FlagChange where
  on : List Char := []
  off : List Char := []
  deriving DecidableEq, Repr

def FlagChange.isNone (ch : FlagChange) : Bool :=
  ch.on.isEmpty && ch.off.isEmpty

/-- Flags after a change; asking for ASCII or Unicode replaces the choice made before. -/
def Flags.change (f : Flags) (ch : FlagChange) : Flags where
  ignoreCase := (f.ignoreCase || ch.on.contains 'i') && !ch.off.contains 'i'
  multiline := (f.multiline || ch.on.contains 'm') && !ch.off.contains 'm'
  dotAll := (f.dotAll || ch.on.contains 's') && !ch.off.contains 's'
  verbose := (f.verbose || ch.on.contains 'x') && !ch.off.contains 'x'
  ascii := if ch.on.contains 'a' then true else if ch.on.contains 'u' then false else f.ascii

inductive Category where
  | digit
  | space
  | word
  deriving DecidableEq, Repr

inductive SetItem where
  | code (n : Nat)
  | range (low high : Nat)
  | category (k : Category) (negated : Bool)
  deriving DecidableEq, Repr

inductive Anchor where
  | lineStart
  | lineEnd
  | textStart
  | textEnd
  | boundary
  | nonBoundary
  deriving DecidableEq, Repr

/-- How a repetition chooses its number of rounds. -/
inductive Mode where
  | greedy
  | lazy
  | possessive
  deriving DecidableEq, Repr

inductive Item where
  | literal (code : Nat)
  | notLiteral (code : Nat)
  /-- Any character, line breaks excepted unless the flags say otherwise. -/
  | any
  /-- One character of a set, or one outside it. -/
  | set (negated : Bool) (members : List SetItem)
  | anchor (place : Anchor)
  /-- The first of some alternatives that lets the whole match. -/
  | branch (alternatives : List (List Item))
  | repeated (mode : Mode) (least : Nat) (most : Option Nat) (body : List Item)
  | group (index : Option Nat) (change : FlagChange) (body : List Item)
  /-- A part that is never matched in another way once it has matched. -/
  | atomic (body : List Item)
  /-- What follows or stands before, without taking it. -/
  | look (behind negated : Bool) (body : List Item)
  /-- The text of a captured group; `width` bounds its length. -/
  | reference (index : Nat) (width : Nat × Nat)
  /-- One of two parts, by whether a group has captured. -/
  | conditional (index : Nat) (yes no : List Item)
  deriving Repr, Inhabited

namespace Item

/-- Whether two items are equal and neither holds other items. -/
def sameLeaf : Item → Item → Bool
  | .literal a, .literal b | .notLiteral a, .notLiteral b => a == b
  | .any, .any => true
  | .set n as, .set m bs => n == m && as == bs
  | .anchor a, .anchor b => a == b
  | .reference i _, .reference j _ => i == j
  | _, _ => false

def members? : Item → Option (List SetItem)
  | .literal n => some [.code n]
  | .set false members => some members
  | _ => none

/-- The items of a group that neither captures nor changes flags. -/
def plainGroup? : Item → Option (List Item)
  | .group none change body => if change.isNone then some body else none
  | _ => none

end Item

def maxWidth : Nat := Nat.pow 2 64

def addWidth (a b : Nat) : Nat :=
  min (a + b) maxWidth

mutual

/-- The least and the greatest number of characters that an item can match. -/
def Item.width : Item → Nat × Nat
  | .anchor _ | .look .. => (0, 0)
  | .literal _ | .notLiteral _ | .set .. | .any => (1, 1)
  | .branch alternatives => widthOfAny alternatives
  | .repeated _ least most body =>
    let (low, high) := widthOf body
    (min (low * least) maxWidth,
      match most with
      | some n => min (high * n) maxWidth
      | none => if high = 0 then 0 else maxWidth)
  | .group _ _ body | .atomic body => widthOf body
  | .reference _ width => width
  | .conditional _ yes no =>
    let (low, high) := widthOf yes
    let (low', high') := widthOf no
    (min low low', max high high')

/-- The least and the greatest number of characters that items in a row can match. -/
def widthOf : List Item → Nat × Nat
  | [] => (0, 0)
  | item :: rest =>
    let (low, high) := item.width
    let (low', high') := widthOf rest
    (addWidth low low', addWidth high high')

/-- The least and the greatest number of characters that one of some alternatives can match. -/
def widthOfAny : List (List Item) → Nat × Nat
  | [] => (maxWidth, 0)
  | items :: rest =>
    let (low, high) := widthOf items
    let (low', high') := widthOfAny rest
    (min low low', max high high')

end

end TextProtocol.Pattern
