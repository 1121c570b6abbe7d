import TextProtocol.Pattern.Program

/-!
# Searching with a program

A text is searched as an array of code points. An instruction is run at a place in it with a way on,
which runs what comes after it; alternatives are tried in order, and the first way in which
everything matches is taken. The marks of groups and the last place that was noted outlive a way
that fails, except where they are put back: at a choice the number of marks is always put back, but
their values only inside a repetition.

A repetition stops after a round that matched nothing beyond the least number of rounds, so the
number of rounds is bounded by that number and the length of the text.
-/

namespace TextProtocol.Pattern

structure Trace where
  place : Nat
  /-- The marks set so far; those between set ones may be missing. -/
  marks : List (Option Nat) := []

def setMark (marks : List (Option Nat)) (index place : Nat) : List (Option Nat) :=
  if index < marks.length then marks.set index (some place)
  else marks ++ List.replicate (index - marks.length) none ++ [some place]

def captured? (marks : List (Option Nat)) (group : Nat) : Option (Nat × Nat) :=
  match marks[2 * group]?, marks[2 * group + 1]? with
  | some (some first), some (some last) => if first ≤ last then some (first, last) else none
  | _, _ => none

def isTwisted (marks : List (Option Nat)) (group : Nat) : Bool :=
  match marks[2 * group]?, marks[2 * group + 1]? with
  | some (some first), some (some last) => last < first
  | _, _ => false

def putBack (values : Bool) (saved marks : List (Option Nat)) : List (Option Nat) :=
  if values then saved else marks.take saved.length

/-- Whether a run matched, and what it left behind. -/
abbrev Outcome := Bool × Trace

abbrev Run := Nat → Trace → Outcome

def fail : Run := fun _ trace ↦ (false, trace)

/-- What the first instruction of a way on asks for. -/
inductive Lead where
  | code (n : Nat)
  | other
  deriving DecidableEq

structure Onward where
  lead : Lead := .other
  run : Run

/-- The way on from the end of a part that is matched on its own. -/
def Onward.finish : Onward where
  run := fun place trace ↦ (true, { trace with place })

def leadOf (after : Lead) : List Instruction → Lead
  | [] => after
  | .char test :: _ => test.exactCode?.elim .other .code
  | _ => .other

def passes (text : Array Nat) (place : Nat) (test : CharTest) : Bool :=
  match text[place]? with
  | some c => test.has c
  | none => false

/-- The number of characters from a place on that pass a test, up to `limit`. -/
def countPassing (text : Array Nat) (test : CharTest) : (limit : Nat) → (place : Nat) → Nat
  | 0, _ => 0
  | limit + 1, place =>
    if passes text place test then countPassing text test limit (place + 1) + 1 else 0

def isWordAt (text : Array Nat) (ascii : Bool) (place : Nat) : Bool :=
  match text[place]? with
  | some c => Category.word.has ascii c
  | none => false

def Spot.holds (text : Array Nat) (place : Nat) : Spot → Bool
  | .textStart => place == 0
  | .lineStart => place == 0 || text[place - 1]? == some lineBreak
  | .lastLineEnd =>
    place == text.size || (place + 1 == text.size && text[place]? == some lineBreak)
  | .lineEnd => place == text.size || text[place]? == some lineBreak
  | .textEnd => place == text.size
  | .boundary ascii negated =>
    let before := place != 0 && isWordAt text ascii (place - 1)
    let turns := before != isWordAt text ascii place
    text.size != 0 && turns != negated

def sameText (text : Array Nat) (fold : Fold) (first second : Nat) : (count : Nat) → Bool
  | 0 => true
  | count + 1 =>
    (match text[first]?, text[second]? with
      | some a, some b => fold.apply a == fold.apply b
      | _, _ => false) && sameText text fold (first + 1) (second + 1) count

/-- Single characters, the longest run of them first. `extra` of them can still be given back. Where
the way on begins with a fixed character, places without it are passed over. -/
def fewerCharacters (text : Array Nat) (inside : Bool) (onward : Onward)
    (saved : List (Option Nat)) : (extra : Nat) → Run
  | extra, place, trace =>
    let skips := match onward.lead with
      | .code n => text[place]? != some n
      | .other => false
    let (matched, trace) := if skips then (false, trace) else
      let (matched, after) := onward.run place { trace with place }
      (matched, if matched then after
        else { after with marks := putBack inside saved after.marks })
    if matched then (true, trace)
    else match extra with
      | 0 => (false, trace)
      | extra + 1 => fewerCharacters text inside onward saved extra (place - 1) trace

/-- Single characters, the shortest run of them first. `extra` more can still be taken. -/
def moreCharacters (text : Array Nat) (inside : Bool) (test : CharTest) (onward : Onward)
    (saved : List (Option Nat)) : (extra : Nat) → Run
  | extra, place, trace =>
    let (matched, after) := onward.run place { trace with place }
    if matched then (true, after)
    else
      let after := { place, marks := putBack inside saved after.marks }
      if passes text place test then
        let after := if test.isFoldedSet then { after with place := place + 1 } else after
        match extra with
        | 0 => (false, after)
        | extra + 1 => moreCharacters text inside test onward saved extra (place + 1) after
      else (false, after)

def runCharacters (text : Array Nat) (inside : Bool) (mode : Mode) (least : Nat)
    (most : Option Nat) (test : CharTest) (onward : Onward) : Run := fun place trace ↦
  let left := text.size - place
  if left < least then (false, trace)
  else
    let limit := match mode with
      | .lazy => least
      | _ => (most.map (min left)).getD left
    let count := countPassing text test limit place
    let trace := { trace with place := if test.isFoldedSet then place + count else place }
    if count < least then (false, trace)
    else match mode with
      | .greedy =>
        fewerCharacters text inside onward trace.marks (count - least) (place + count) trace
      | .lazy =>
        let extra := (most.map (min left)).getD left - least
        moreCharacters text inside test onward trace.marks extra (place + count) trace
      | .possessive => onward.run (place + count) trace

/-- Whether one more round may begin: there are not yet `most`, and the last one that could be left
out did not begin here. -/
def mayRepeat (most : Option Nat) (done : Nat) (last : Option Nat) (place : Nat) : Bool :=
  most.all (done < ·) && last != some place

def moreRounds (body : Onward → Run) (onward : Onward) (least : Nat) (most : Option Nat) :
    (fuel done : Nat) → (last : Option Nat) → Run
  | 0, _, _, _, trace => (false, trace)
  | fuel + 1, done, last, place, trace =>
    let trace := { trace with place }
    let another (last : Option Nat) : Outcome :=
      body { run := moreRounds body onward least most fuel (done + 1) last } place trace
    if done < least then
      let (matched, after) := another last
      if matched then (true, after) else (false, { after with place })
    else
      let (matched, after) :=
        if mayRepeat most done last place then another (some place) else (false, trace)
      if matched then (true, after)
      else
        let (matched, after) := onward.run place trace
        if matched then (true, after) else (false, { after with place })

def fewerRounds (inside : Bool) (body : Onward → Run) (onward : Onward) (least : Nat)
    (most : Option Nat) : (fuel done : Nat) → (last : Option Nat) → Run
  | 0, _, _, _, trace => (false, trace)
  | fuel + 1, done, last, place, trace =>
    let trace := { trace with place }
    let another (last : Option Nat) (trace : Trace) : Outcome :=
      let (matched, after) := body
        { run := fewerRounds inside body onward least most fuel (done + 1) last } place trace
      if matched then (true, after) else (false, { after with place })
    if done < least then another last trace
    else
      let (matched, after) := onward.run place trace
      if matched then (true, after)
      else
        let trace := { place, marks := putBack inside trace.marks after.marks }
        if mayRepeat most done last place then another (some place) trace else (false, trace)

/-- Repetition that takes all the rounds it can and never gives one back. The way on begins at the
last place that was noted, be it in a round that failed. -/
def allRounds (body : Onward → Run) (onward : Onward) (least : Nat) (most : Option Nat) :
    (fuel done : Nat) → (last : Option Nat) → Run
  | 0, _, _, _, trace => (false, trace)
  | fuel + 1, done, last, start, trace =>
    if done < least then
      let (matched, after) := body .finish trace.place trace
      if matched then allRounds body onward least most fuel (done + 1) last start after
      else (false, { after with place := start })
    else if mayRepeat most done last trace.place then
      let (matched, after) := body .finish trace.place trace
      if matched then
        allRounds body onward least most fuel (done + 1) (some trace.place) start after
      else onward.run after.place { after with marks := trace.marks }
    else onward.run trace.place trace

/-- Whether an alternative that begins with a plain test cannot match at a place. -/
def cannotBegin (text : Array Nat) (place : Nat) : List Instruction → Bool
  | .char test :: _ =>
    (test.exactCode?.isSome || test.isExactSet) && !passes text place test
  | _ => false

mutual

/-- Run an instruction, and then what comes after it. `inside` says that it is part of a
repetition. -/
def Instruction.run (text : Array Nat) (inside : Bool) (onward : Onward) : Instruction → Run
  | .char test, place, trace =>
    if passes text place test then onward.run (place + 1) trace else (false, trace)
  | .spot spot, place, trace =>
    if spot.holds text place then onward.run place trace else (false, trace)
  | .mark index, place, trace =>
    onward.run place { trace with marks := setMark trace.marks index place }
  | .reference group fold, place, trace =>
    match captured? trace.marks group with
    | some (first, last) =>
      if sameText text fold first place (last - first) then
        onward.run (place + (last - first)) trace
      else (false, trace)
    | none => (false, trace)
  | .conditional group yes no, place, trace =>
    if (captured? trace.marks group).isSome then
      let lead := if no.isEmpty then onward.lead else .other
      runAll text inside { onward with lead } yes place trace
    else runAll text inside onward no place trace
  | .look negated back body, place, trace =>
    if place < back then if negated then onward.run place trace else (false, trace)
    else
      let (matched, after) :=
        runAll text inside .finish body (place - back) { trace with place := place - back }
      if negated then
        if matched then (false, after)
        else onward.run place { after with marks := putBack inside trace.marks after.marks }
      else if matched then onward.run place after else (false, after)
  | .branch alternatives, place, trace =>
    runEach text inside { onward with lead := .other } alternatives trace.marks place trace
  | .characters mode least most test, place, trace =>
    runCharacters text inside mode least most test onward place trace
  | .rounds mode least most body, place, trace =>
    let fuel := least + (text.size - place) + 3
    match mode with
    | .greedy =>
      moreRounds (fun on ↦ runAll text true on body) onward least most fuel 0 none place trace
    | .lazy =>
      fewerRounds inside (fun on ↦ runAll text true on body) onward least most fuel 0 none place
        trace
    | .possessive =>
      allRounds (fun on ↦ runAll text inside on body) onward least most fuel 0 none place
        { trace with place }
  | .atomic body, place, trace =>
    let (matched, after) := runAll text inside .finish body place { trace with place }
    if matched then onward.run after.place after else (false, { after with place })

def runAll (text : Array Nat) (inside : Bool) (onward : Onward) : List Instruction → Run
  | [] => onward.run
  | i :: rest => i.run text inside ⟨leadOf onward.lead rest, runAll text inside onward rest⟩

def runEach (text : Array Nat) (inside : Bool) (onward : Onward) :
    List (List Instruction) → (saved : List (Option Nat)) → Run
  | [], _, _, trace => (false, trace)
  | body :: rest, saved, place, trace =>
    if cannotBegin text place body then runEach text inside onward rest saved place trace
    else
      let (matched, after) := runAll text inside onward body place { trace with place }
      if matched then (true, after)
      else
        runEach text inside onward rest saved place
          { after with marks := putBack inside saved after.marks }

end

namespace Program

def matchAt (p : Program) (text : Array Nat) (place : Nat) : Option Trace :=
  match runAll text false .finish p.instructions place { place } with
  | (true, trace) => some trace
  | (false, _) => none

def searchFrom (p : Program) (text : Array Nat) : (count : Nat) → (place : Nat) → Option Trace
  | 0, _ => none
  | count + 1, place =>
    let here := if p.first?.all (passes text place) then p.matchAt text place else none
    here.orElse fun _ ↦ p.searchFrom text count (place + 1)

def search (p : Program) (text : Array Nat) : Option Trace :=
  if text.size < p.width then none
  else p.searchFrom text (text.size - (p.width - 1) + 1) 0

end Program

end TextProtocol.Pattern
