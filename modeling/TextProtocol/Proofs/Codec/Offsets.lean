import TextProtocol.Proofs.Codec.Package
import TextProtocol.Proofs.Codec.Reads

/-!
# Parsing from an offset on

The searches, prefix tests, widths and previews of a parser all work with positions in the whole
data, and a position below zero would count from its end. A parse that begins inside the data never
comes to such a position, since widths are positive, and then nothing that it does looks at what
stands before: each state does the same on the data from the offset on, a fixed number of bytes
further to the front, `step_shift`. So does a row of states, `steps_shift`, and a parser,
`parseWith_append`.
-/

namespace TextProtocol

open Fault (bind_eq_ok_iff pure_eq_ok_iff exists_of_gives gives)

/-! ## Data from a position on -/

namespace Wire

theorem standsAt_append_shift (before tail pattern : Bytes) (k : Nat) :
    standsAt (before ++ tail) ((k + before.length : Nat) : Int) pattern =
      standsAt tail k pattern := by
  rw [standsAt, standsAt, placeOf_natCast, placeOf_natCast, drop_append_add, List.length_append]
  refine congrArg (· && _) (decide_eq_decide.mpr ?_)
  omega

theorem between_append_shift (before tail : Bytes) (k l : Nat) :
    between (before ++ tail) ((k + before.length : Nat) : Int) ((l + before.length : Nat) : Int) =
      between tail k l := by
  rw [between, between]
  simp only [placeOf_natCast, drop_append_add, Nat.add_sub_add_right]

end Wire

namespace ParseFailure

/-- A failure, seen from `n` bytes further back. -/
def shift (n : Nat) (f : ParseFailure) : ParseFailure :=
  { f with offset := f.offset + n }

theorem preview_append_shift (before tail : Bytes) (k : Nat) :
    preview (before ++ tail) ((k + before.length : Nat) : Int) = preview tail k := by
  have hstop : ((k + before.length : Nat) : Int) + previewLength =
      ((k + previewLength + before.length : Nat) : Int) := by omega
  have hlong : ((before ++ tail).length : Int) - ((k + before.length : Nat) : Int) =
      tail.length - k := by
    rw [List.length_append]
    omega
  rw [preview, hstop, Wire.between_append_shift, hlong, preview]
  rfl

theorem atOffset_append_shift (state : String) (before tail : Bytes) (k : Nat)
    (expected : String) :
    atOffset state (before ++ tail) ((k + before.length : Nat) : Int) expected =
      (atOffset state tail k expected).shift before.length := by
  rw [atOffset, atOffset, preview_append_shift]
  rfl

end ParseFailure

namespace Codec

variable {lenient : Bool} {m : Compiled.Message} {x : Extraction}

/-! ## Fields -/

theorem stopAfter_append_shift (before tail : Bytes) (k : Nat) (x : Extraction) :
    stopAfter (before ++ tail) ((k + before.length : Nat) : Int) x =
      (stopAfter tail k x).map (· + before.length) :=
  Wire.findStop_append_add before tail _ k

theorem requiredEnd_append_shift (before tail : Bytes) (k : Nat) (x : Extraction) :
    requiredEnd (before ++ tail) ((k + before.length : Nat) : Int) x =
      (requiredEnd tail k x).map (Except.map (· + (before.length : Int))) := by
  rcases x.cases_stops with ⟨length, rfl⟩ | rfl | hstops
  · rw [requiredEnd, requiredEnd]
    cases widthOf length with
    | error e => rfl
    | ok w =>
      refine congrArg Except.ok ?_
      rw [List.length_append]
      by_cases hshort : (tail.length : Int) < k + w
      · rw [if_pos hshort, if_pos (by omega)]
        rfl
      · rw [if_neg hshort, if_neg (by omega)]
        refine congrArg Except.ok ?_
        change _ = (k : Int) + w + before.length
        omega
  · refine congrArg (fun n : Int ↦ Except.ok (Except.ok n)) ?_
    change _ = (tail.length : Int) + before.length
    rw [List.length_append]
    omega
  · rw [requiredEnd_of_stops hstops, requiredEnd_of_stops hstops, stopAfter_append_shift]
    refine congrArg (fun n : Int ↦ Except.ok (Except.ok n)) ?_
    cases stopAfter tail k x with
    | none =>
      change _ = (tail.length : Int) + before.length
      rw [Option.map_none, Option.getD_none, List.length_append]
      omega
    | some n => rfl

theorem optionalEnd_append_shift (before tail : Bytes) (k : Nat) (x : Extraction) :
    optionalEnd (before ++ tail) ((k + before.length : Nat) : Int) x =
      (optionalEnd tail k x).map (Option.map (· + (before.length : Int))) := by
  rcases x.cases_stops with ⟨length, rfl⟩ | rfl | hstops
  · rw [optionalEnd, optionalEnd]
    cases widthOf length with
    | error e => rfl
    | ok w =>
      refine congrArg Except.ok ?_
      rw [List.length_append]
      by_cases hfits : (k : Int) + w ≤ tail.length
      · rw [if_pos hfits, if_pos (by omega)]
        refine congrArg some ?_
        change _ = (k : Int) + w + before.length
        omega
      · rw [if_neg hfits, if_neg (by omega)]
        rfl
  · refine congrArg Except.ok ?_
    rw [List.length_append]
    by_cases hmore : (k : Int) < tail.length
    · rw [if_pos hmore, if_pos (by omega)]
      refine congrArg some ?_
      change _ = (tail.length : Int) + before.length
      omega
    · rw [if_neg hmore, if_neg (by omega)]
      rfl
  · rw [optionalEnd_of_stops hstops, optionalEnd_of_stops hstops, stopAfter_append_shift]
    refine congrArg Except.ok ?_
    cases stopAfter tail k x with
    | none =>
      rw [Option.map_none, Option.map_none, Option.getD_none, if_neg (by omega), if_neg (by omega)]
      rfl
    | some n =>
      rw [Option.map_some, Option.map_some, Option.map_some, Option.getD_some, Option.getD_some,
        Int.ofNat_eq_natCast, Int.ofNat_eq_natCast]
      by_cases hlater : (k : Int) < n
      · rw [if_pos hlater, if_pos (by omega)]
        rfl
      · rw [if_neg hlater, if_neg (by omega)]
        rfl

theorem exists_nat_of_requiredEnd (hx : x.Positive) {data : Bytes} {k : Nat} {stop : Int}
    (h : requiredEnd data k x = .ok (.ok stop)) : ∃ l : Nat, stop = l := by
  rcases x.cases_stops with ⟨length, rfl⟩ | rfl | hstops
  · rw [requiredEnd] at h
    obtain ⟨w, hw, h⟩ := bind_eq_ok_iff.mp h
    have hpos := hx length rfl w (widthOf_eq_ok_iff.mp hw)
    rw [pure_eq_ok_iff] at h
    split at h
    · cases h
    · cases h
      exact Int.eq_ofNat_of_zero_le (by omega)
  · cases h
    exact ⟨data.length, rfl⟩
  · rw [requiredEnd_of_stops hstops] at h
    cases h
    exact ⟨_, rfl⟩

theorem exists_nat_of_optionalEnd (hx : x.Positive) {data : Bytes} {k : Nat} {stop : Int}
    (h : optionalEnd data k x = .ok (some stop)) : ∃ l : Nat, stop = l := by
  rcases x.cases_stops with ⟨length, rfl⟩ | rfl | hstops
  · rw [optionalEnd] at h
    obtain ⟨w, hw, h⟩ := bind_eq_ok_iff.mp h
    have hpos := hx length rfl w (widthOf_eq_ok_iff.mp hw)
    rw [pure_eq_ok_iff] at h
    split at h
    · cases h
      exact Int.eq_ofNat_of_zero_le (by omega)
    · cases h
  · rw [optionalEnd, pure_eq_ok_iff] at h
    split at h
    · cases h
      exact ⟨data.length, rfl⟩
    · cases h
  · rw [optionalEnd_of_stops hstops, Except.ok.injEq] at h
    split at h
    · rename_i hlater
      cases h
      exact Int.eq_ofNat_of_zero_le (by omega)
    · cases h

/-! ## States -/

/-- A cursor, seen from `n` bytes further back. -/
def Cursor.shift (n : Nat) (c : Cursor) : Cursor :=
  { c with position := c.position + n }

@[simp] theorem Cursor.position_shift (n : Nat) (c : Cursor) :
    (c.shift n).position = c.position + n := rfl

/-- What states come to, seen from `n` bytes further back. -/
def shifted (n : Nat) : Except ParseFailure Cursor → Except ParseFailure Cursor
  | .error failure => .error (failure.shift n)
  | .ok c => .ok (c.shift n)

theorem expect_shift (before tail : Bytes) (state : State) (text : String) (k : Nat)
    (values : Record) :
    expect (before ++ tail) state text (Cursor.shift before.length ⟨k, values⟩) =
      shifted before.length (expect tail state text ⟨k, values⟩) := by
  have hstands : standsAt (before ++ tail) ((k + before.length : Nat) : Int) text =
      standsAt tail k text := Wire.standsAt_append_shift ..
  rw [expect, expect]
  change (if standsAt (before ++ tail) ((k + before.length : Nat) : Int) text then _ else _) = _
  rw [hstands]
  split
  · refine congrArg (fun p : Int ↦ (Except.ok ⟨p, values⟩ : Except ParseFailure Cursor)) ?_
    exact Int.add_right_comm ..
  · exact congrArg Except.error (ParseFailure.atOffset_append_shift ..)

theorem extract_shift (hx : x.Positive) (before tail : Bytes) (state : State) (f : Spec.Field)
    (check : FieldCheck) (k : Nat) (values : Record) :
    extract lenient (before ++ tail) state f check x (Cursor.shift before.length ⟨k, values⟩) =
      (extract lenient tail state f check x ⟨k, values⟩).map (shifted before.length) := by
  have hrefuse (expected : String) :
      (.error (.atOffset state.label (before ++ tail) ((k + before.length : Nat) : Int) expected) :
        Except ParseFailure Cursor) =
        shifted before.length (.error (.atOffset state.label tail k expected)) :=
    congrArg Except.error (ParseFailure.atOffset_append_shift ..)
  have hend : requiredEnd (before ++ tail) (Cursor.shift before.length ⟨k, values⟩).position x =
      (requiredEnd tail k x).map (Except.map (· + (before.length : Int))) :=
    requiredEnd_append_shift before tail k x
  rw [extract, extract, hend]
  cases hstop : requiredEnd tail k x with
  | error e => rfl
  | ok result =>
    cases result with
    | error expected => exact congrArg Except.ok (hrefuse expected)
    | ok stop =>
      obtain ⟨l, rfl⟩ := exists_nat_of_requiredEnd hx hstop
      have hbetween : Wire.between (before ++ tail) ((k : Int) + before.length)
          ((l : Int) + before.length) = Wire.between tail k l :=
        Wire.between_append_shift before tail k l
      change (valueIn lenient check (Wire.between (before ++ tail) ((k : Int) + before.length)
        ((l : Int) + before.length)) >>= _) = _
      rw [hbetween]
      change _ = Except.map _ (valueIn lenient check (Wire.between tail k l) >>= _)
      cases valueIn lenient check (Wire.between tail k l) with
      | error e => rfl
      | ok result =>
        cases result with
        | error expected => exact congrArg Except.ok (hrefuse expected)
        | ok v => rfl

theorem extractOptional_shift (hx : x.Positive) (before tail : Bytes) (f : Spec.Field)
    (check : FieldCheck) (follow : Option String) (k : Nat) (values : Record) :
    extractOptional lenient (before ++ tail) f check x follow
        (Cursor.shift before.length ⟨k, values⟩) =
      (extractOptional lenient tail f check x follow ⟨k, values⟩).map
        (Cursor.shift before.length) := by
  have hend : optionalEnd (before ++ tail) (Cursor.shift before.length ⟨k, values⟩).position x =
      (optionalEnd tail k x).map (Option.map (· + (before.length : Int))) :=
    optionalEnd_append_shift before tail k x
  rw [extractOptional, extractOptional, hend]
  cases hstop : optionalEnd tail k x with
  | error e => rfl
  | ok result =>
    cases result with
    | none => rfl
    | some stop =>
      obtain ⟨l, rfl⟩ := exists_nat_of_optionalEnd hx hstop
      have hbetween : Wire.between (before ++ tail) ((k : Int) + before.length)
          ((l : Int) + before.length) = Wire.between tail k l :=
        Wire.between_append_shift before tail k l
      have hfollow : follow.all (standsAt (before ++ tail) ((l : Int) + before.length)) =
          follow.all (standsAt tail l) := by
        cases follow with
        | none => rfl
        | some s => exact Wire.standsAt_append_shift before tail _ l
      change (if follow.all (standsAt (before ++ tail) ((l : Int) + before.length)) then
        valueIn lenient check (Wire.between (before ++ tail) ((k : Int) + before.length)
          ((l : Int) + before.length)) >>= _ else _) =
        Except.map _ (if follow.all (standsAt tail l) then
          valueIn lenient check (Wire.between tail k l) >>= _ else _)
      rw [hfollow, hbetween]
      split
      · cases valueIn lenient check (Wire.between tail k l) with
        | error e => rfl
        | ok result => cases result <;> rfl
      · rfl

/-- A state does the same wherever in the data it begins. -/
theorem step_shift {state : State} (hx : ∀ x, state.extraction? = some x → x.Positive)
    (before tail : Bytes) (k : Nat) (values : Record) :
    step lenient m (before ++ tail) state (Cursor.shift before.length ⟨k, values⟩) =
      (step lenient m tail state ⟨k, values⟩).map (shifted before.length) := by
  cases hexpected : state.expected? with
  | some s =>
    rw [step_of_expected hexpected, step_of_expected hexpected, expect_shift]
    rfl
  | none =>
    cases state with
    | expectFixed text | expectDelimiter text => cases hexpected
    | extractField f x =>
      rw [step, step]
      cases fieldOf? m f with
      | none => rfl
      | some field => exact extract_shift (hx x rfl) ..
    | optionalField f x follow =>
      rw [step, step]
      cases fieldOf? m f with
      | none => rfl
      | some field =>
        dsimp only
        rw [extractOptional_shift (hx x rfl)]
        cases extractOptional lenient tail f (checkOf field) x follow ⟨k, values⟩ <;> rfl
    | terminal text =>
      cases hexpected
      rfl

/-- How a state that succeeds moves a cursor: past its text, past the value of its field, or not at
all if it ends the message or its field is absent. -/
inductive Moves (data : Bytes) : State → Cursor → Cursor → Prop
  | text {state : State} {s : String} {c : Cursor} : state.expected? = some s →
      Moves data state c { c with position := c.position + (Utf8.ofString s).length }
  | terminal {c : Cursor} : Moves data (.terminal none) c c
  | required {f : Spec.Field} {x : Extraction} {c : Cursor} {stop : Int} {v : Value} :
      requiredEnd data c.position x = .ok (.ok stop) →
      Moves data (.extractField f x) c (store c f v stop)
  | present {f : Spec.Field} {x : Extraction} {follow : Option String} {c : Cursor} {stop : Int}
      {v : Value} : optionalEnd data c.position x = .ok (some stop) →
      Moves data (.optionalField f x follow) c (store c f v stop)
  | absent {f : Spec.Field} {x : Extraction} {follow : Option String} {c : Cursor} :
      Moves data (.optionalField f x follow) c c

theorem moves_of_extract {data : Bytes} {f : Spec.Field} {check : FieldCheck} {c next : Cursor}
    (h : extract lenient data (.extractField f x) f check x c = .ok (.ok next)) :
    Moves data (.extractField f x) c next := by
  rw [extract] at h
  obtain ⟨stop, hstop, h⟩ := bind_eq_ok_iff.mp h
  cases stop with
  | error expected => cases h
  | ok stop =>
    obtain ⟨result, -, h⟩ := bind_eq_ok_iff.mp h
    cases result with
    | error expected => cases h
    | ok v =>
      cases h
      exact .required hstop

theorem moves_of_extractOptional {data : Bytes} {f : Spec.Field} {check : FieldCheck}
    {follow : Option String} {c next : Cursor}
    (h : extractOptional lenient data f check x follow c = .ok next) :
    Moves data (.optionalField f x follow) c next := by
  rw [extractOptional] at h
  obtain ⟨stop?, hstop, h⟩ := bind_eq_ok_iff.mp h
  cases stop? with
  | none =>
    cases h
    exact .absent
  | some stop =>
    dsimp only at h
    split at h
    · obtain ⟨result, -, h⟩ := bind_eq_ok_iff.mp h
      cases result with
      | error expected =>
        cases h
        exact .absent
      | ok v =>
        cases h
        exact .present hstop
    · cases h
      exact .absent

theorem moves_of_step {data : Bytes} {state : State} {c next : Cursor}
    (h : step lenient m data state c = .ok (.ok next)) : Moves data state c next := by
  cases hexpected : state.expected? with
  | some s =>
    rw [step_of_expected hexpected, Except.ok.injEq, expect] at h
    split at h
    · cases h
      exact .text hexpected
    · cases h
  | none =>
    cases state with
    | expectFixed text | expectDelimiter text => cases hexpected
    | extractField f x =>
      rw [step] at h
      split at h
      · exact moves_of_extract h
      · cases h
    | optionalField f x follow =>
      rw [step] at h
      split at h
      · obtain ⟨next, hnext, h⟩ := bind_eq_ok_iff.mp h
        cases h
        exact moves_of_extractOptional hnext
      · cases h
    | terminal text =>
      cases hexpected
      cases h
      exact .terminal

/-- No state leaves the parser at a position that counts from the end. -/
theorem exists_nat_of_step {state : State} (hx : ∀ x, state.extraction? = some x → x.Positive)
    {data : Bytes} {k : Nat} {values : Record} {c : Cursor}
    (h : step lenient m data state ⟨k, values⟩ = .ok (.ok c)) :
    ∃ (l : Nat) (values' : Record), c = ⟨l, values'⟩ := by
  cases moves_of_step h with
  | @text _ s => exact ⟨k + (Utf8.ofString s).length, values, rfl⟩
  | terminal | absent => exact ⟨k, values, rfl⟩
  | required hstop =>
    obtain ⟨l, rfl⟩ := exists_nat_of_requiredEnd (hx _ rfl) hstop
    exact ⟨l, _, rfl⟩
  | present hstop =>
    obtain ⟨l, rfl⟩ := exists_nat_of_optionalEnd (hx _ rfl) hstop
    exact ⟨l, _, rfl⟩

/-- States do the same wherever in the data they begin. -/
theorem steps_shift {states : List State}
    (hx : ∀ state ∈ states, ∀ x, state.extraction? = some x → x.Positive) (before tail : Bytes)
    (k : Nat) (values : Record) :
    steps lenient m (before ++ tail) states (Cursor.shift before.length ⟨k, values⟩) =
      (steps lenient m tail states ⟨k, values⟩).map (shifted before.length) := by
  induction states generalizing k values with
  | nil => rfl
  | cons state states ih =>
    have hstate := hx state List.mem_cons_self
    rw [steps, steps, step_shift hstate]
    cases hstep : step lenient m tail state ⟨k, values⟩ with
    | error e => rfl
    | ok result =>
      cases result with
      | error failure => rfl
      | ok c =>
        obtain ⟨l, values', rfl⟩ := exists_nat_of_step hstate hstep
        exact ih (fun s hs ↦ hx s (List.mem_cons_of_mem _ hs)) l values'

/-! ## Whole messages -/

/-- A parser that begins after some data does what it does on the data that follows. -/
theorem parseWith_append (hm : m.WellFormed) (make : Record → Except Fault Record)
    (before tail : Bytes) :
    parseWith lenient make m (before ++ tail) before.length =
      (parseWith lenient make m tail 0).map
        (Except.mapError (ParseFailure.shift before.length)) := by
  have hinside : ¬((before ++ tail).length : Int) < before.length := by
    rw [List.length_append]
    omega
  have hstart : Cursor.shift before.length ⟨(0 : Nat), []⟩ = { position := before.length } :=
    congrArg (fun p : Int ↦ (⟨p, []⟩ : Cursor)) (Int.zero_add _)
  have hsteps : steps lenient m (before ++ tail) m.machine.states { position := before.length } =
      (steps lenient m tail m.machine.states { position := 0 }).map (shifted before.length) := by
    rw [← hstart]
    exact steps_shift (positive_of_wellFormed hm) before tail 0 []
  rw [parseWith_of_not_lt hinside, parseWith_of_not_lt (by omega), hsteps]
  cases steps lenient m tail m.machine.states { position := 0 } with
  | error e => rfl
  | ok result =>
    cases result with
    | error failure => rfl
    | ok last =>
      have hconsumed : (last.shift before.length).position - before.length = last.position - 0 := by
        rw [Cursor.position_shift]
        omega
      change (make last.values).map (fun r ↦ (Except.ok ⟨r, _⟩ : ParseResult)) =
        ((make last.values).map fun r ↦ (Except.ok ⟨r, _⟩ : ParseResult)).map _
      rw [hconsumed]
      cases make last.values <;> rfl

namespace Package

/-- The parsers of a package do not look at what stands before the offset at which they begin: a
parse from an offset on has the same record and takes as many bytes as one of the data from there,
or fails in the same way at an offset that is greater by as much, or has the same fault. -/
theorem parse_eq_shift_of_drop {spec : Spec} {protocol : Compiled.Protocol}
    (hcompile : Compiled.compile spec = .ok protocol) {package : Package}
    (hpackage : package.messages = protocol.messages) (hm : m ∈ protocol.messages) (data : Bytes)
    {offset : Nat} (hoffset : offset ≤ data.length) :
    package.parse m data offset =
      (package.parse m (data.drop offset) 0).map
        (Except.mapError (ParseFailure.shift offset)) := by
  have hmem : package.functionOf m ∈ protocol.messages := hpackage ▸ functionOf_mem (hpackage ▸ hm)
  obtain ⟨source, hsound⟩ := Compiled.sound_of_compile hcompile hmem
  obtain ⟨before, tail, rfl, rfl⟩ := exists_append_of_le hoffset
  rw [List.drop_left, parse, parse, parseWith_append hsound.wellFormed]
  dsimp only
  cases parseWith (package.hidesInParser "Invalid") (package.build (package.functionOf m))
    (package.functionOf m) tail 0 with
  | error e => rfl
  | ok result =>
    cases result with
    | error failure => rfl
    | ok parsed => cases package.hidesInParser "ParseSuccess" <;> rfl

/-- The second text of a message with an ambiguous boundary is cut off, so its terminator is not
found, two bytes after the offset. -/
theorem parse_eq_shift_of_drop_joined :
    ∃ protocol, Compiled.compile (Compiled.joinedSpec (some "\n")) = .ok protocol ∧
      ∃ m ∈ protocol.messages, m.machine.ambiguous ≠ [] ∧
        (ofProtocol protocol).parse m (Utf8.ofString "x\nab") 2 =
          .ok (.error ⟨"TERMINAL", 4, "\n", ""⟩) := by
  obtain ⟨protocol, hprotocol, h⟩ :
      ∃ protocol, Compiled.compile (Compiled.joinedSpec (some "\n")) = .ok protocol ∧
        (protocol.messages.any fun m ↦ !m.machine.ambiguous.isEmpty &&
          gives ((ofProtocol protocol).parse m (Utf8.ofString "ab") 0) fun
            | .error f => f.state == "TERMINAL" && f.offset == 2 && f.expected == "\n" &&
                f.actual == ""
            | .ok _ => false) = true :=
    exists_of_gives (by decide +kernel)
  obtain ⟨m, hm, h⟩ := List.any_eq_true.mp h
  rw [Bool.and_eq_true] at h
  obtain ⟨result, hparse, hresult⟩ := exists_of_gives h.2
  refine ⟨protocol, hprotocol, m, hm, by simpa using h.1, ?_⟩
  have hmessages : (ofProtocol protocol).messages = protocol.messages := rfl
  have htwo : 2 ≤ (Utf8.ofString "x\nab").length := by decide
  have hshift := parse_eq_shift_of_drop hprotocol hmessages hm (Utf8.ofString "x\nab") htwo
  have hdrop : (Utf8.ofString "x\nab").drop 2 = Utf8.ofString "ab" := by decide
  rw [hdrop, hparse] at hshift
  cases result with
  | ok parsed => cases hresult
  | error failure =>
    obtain ⟨state, offset, expected, actual⟩ := failure
    simp only [Bool.and_eq_true, beq_iff_eq] at hresult
    obtain ⟨⟨⟨rfl, rfl⟩, rfl⟩, rfl⟩ := hresult
    exact hshift

end Package

end Codec

end TextProtocol
