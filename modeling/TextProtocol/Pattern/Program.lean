import TextProtocol.Pattern.CharTest

/-!
# Programs of patterns

A pattern made ready for a search. Flags are worked into the instructions, groups become marks at
their ends, and a repetition of a single character is told from other repetitions. A program also
knows the least number of characters of a match and, for some patterns, a set that holds the first
character of every match. That set is put together under the flags of the whole pattern, also where
the first item stands in a group that changes them.
-/

namespace TextProtocol.Pattern

inductive Spot where
  | textStart
  | lineStart
  | lastLineEnd
  | lineEnd
  | textEnd
  | boundary (ascii negated : Bool)
  deriving DecidableEq, Repr

def Anchor.spot (flags : Flags) : Anchor → Spot
  | .textStart => .textStart
  | .lineStart => if flags.multiline then .lineStart else .textStart
  | .lineEnd => if flags.multiline then .lineEnd else .lastLineEnd
  | .textEnd => .textEnd
  | .boundary => .boundary flags.ascii false
  | .nonBoundary => .boundary flags.ascii true

inductive Instruction where
  | char (test : CharTest)
  | spot (place : Spot)
  /-- Note the place. Group `i` begins at mark `2 * i` and ends at mark `2 * i + 1`. -/
  | mark (index : Nat)
  /-- The text between the marks of a group, compared after folding. -/
  | reference (group : Nat) (fold : Fold)
  | conditional (group : Nat) (yes no : List Instruction)
  | look (negated : Bool) (back : Nat) (body : List Instruction)
  | branch (alternatives : List (List Instruction))
  | characters (mode : Mode) (least : Nat) (most : Option Nat) (test : CharTest)
  | rounds (mode : Mode) (least : Nat) (most : Option Nat) (body : List Instruction)
  | atomic (body : List Instruction)
  deriving Repr, Inhabited

mutual

def Item.isSingle : Item → Bool
  | .literal _ | .notLiteral _ | .any | .set .. => true
  | .group none _ body => isSingle body
  | _ => false

def isSingle : List Item → Bool
  | [item] => item.isSingle
  | _ => false

end

mutual

def Item.instructions (flags : Flags) : Item → List Instruction
  | .literal n => [.char (.ofCode flags false n)]
  | .notLiteral n => [.char (.ofCode flags true n)]
  | .any => [.char (.any flags.dotAll)]
  | .set negated members => [.char (.ofSet flags negated members)]
  | .anchor place => [.spot (place.spot flags)]
  | .branch alternatives => [.branch (instructionsOfEach flags alternatives)]
  | .repeated mode least most body =>
    match isSingle body, instructionsOf flags body with
    | true, [.char test] => [.characters mode least most test]
    | _, body => [.rounds mode least most body]
  | .group index change body =>
    let inner := instructionsOf (flags.change change) body
    match index with
    | some i => [.mark (2 * i - 2)] ++ inner ++ [.mark (2 * i - 1)]
    | none => inner
  | .atomic body => [.atomic (instructionsOf flags body)]
  | .look behind negated body =>
    [.look negated (if behind then (widthOf body).1 else 0) (instructionsOf flags body)]
  | .reference index _ =>
    [.reference (index - 1) (if flags.ignoreCase then flags.fold else .exact)]
  | .conditional index yes no =>
    [.conditional (index - 1) (instructionsOf flags yes) (instructionsOf flags no)]

def instructionsOf (flags : Flags) : List Item → List Instruction
  | [] => []
  | item :: rest => item.instructions flags ++ instructionsOf flags rest

def instructionsOfEach (flags : Flags) : List (List Item) → List (List Instruction)
  | [] => []
  | items :: rest => instructionsOf flags items :: instructionsOfEach flags rest

end

mutual

/-- Whether all matches of an item begin with a fixed character, and whether the item is nothing but
fixed characters. -/
def Item.fixedStart (flags : Flags) : Item → Bool × Bool
  | .literal n =>
    let fixed := !flags.ignoreCase || !hasCased flags.ascii n n
    (fixed, fixed)
  | .group _ change body => fixedStartOf (flags.change change) body
  | _ => (false, false)

def fixedStartOf (flags : Flags) : List Item → Bool × Bool
  | [] => (false, true)
  | item :: rest =>
    let (starts, all) := item.fixedStart flags
    if all then
      let (starts', all') := fixedStartOf flags rest
      (starts || starts', all')
    else (starts, false)

end

/-- The members of a set that holds the first character of one of some alternatives, if each begins
with a character that has no case. -/
def firstCodes? (flags : Flags) (alternatives : List (List Item)) : Option (List SetItem) :=
  alternatives.mapM fun items ↦ match items.head? with
    | some (.literal n) =>
      if flags.ignoreCase && hasCased flags.ascii n n then none else some (.code n)
    | _ => none

/-- Whether a set has no member with case, where case is ignored. -/
def isUncased (flags : Flags) (members : List SetItem) : Bool :=
  !flags.ignoreCase || members.all fun
    | .code n => !hasCased flags.ascii n n
    | .range low high => high ≤ lastBasic && !hasCased flags.ascii low high
    | .category .. => true

mutual

/-- A set that holds the first character of every match of an item, and whether it is what is
outside the set that counts. -/
def Item.firstSet? (flags : Flags) : Item → Option (Bool × List SetItem)
  | .group _ change body => firstSetOf? (flags.change change) body
  | .literal n =>
    if flags.ignoreCase && hasCased flags.ascii n n then none else some (false, [.code n])
  | .branch alternatives => (firstCodes? flags alternatives).map ((false, ·))
  | .set negated members => if isUncased flags members then some (negated, members) else none
  | _ => none

def firstSetOf? (flags : Flags) : List Item → Option (Bool × List SetItem)
  | [] => none
  | item :: _ => item.firstSet? flags

end

def firstTest? (flags : Flags) (items : List Item) : Option CharTest :=
  if (widthOf items).1 = 0 || (fixedStartOf flags items).1 then none
  else (firstSetOf? flags items).map fun (negated, members) ↦
    .set .exact negated (members.map (·.plain flags.ascii))

structure Program where
  instructions : List Instruction
  /-- The least number of characters of a match. -/
  width : Nat
  first? : Option CharTest

def Program.ofItems (flags : Flags) (items : List Item) : Program where
  instructions := instructionsOf flags items
  width := (widthOf items).1
  first? := firstTest? flags items

end TextProtocol.Pattern
