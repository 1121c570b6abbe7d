import TextProtocol.Proofs.Codec.Record
import TextProtocol.Proofs.Compile.Message

/-!
# What parsers read

`Takes` says which bytes one state of a parser takes, given those that come after them, and `Reads`
does so for a row of states. Both are about the data from a position on, so that nothing before it
matters, and both are exact: `parseWith_iff_reads` turns a parse that succeeds into a `Reads` and
back.

A required field whose stop is nowhere found takes all that is left; an optional one is then absent.
-/

namespace TextProtocol

open Fault (bind_eq_ok_iff pure_eq_ok_iff)

/-! ## Data from a position on -/

namespace Wire

theorem between_append (before raw after : Bytes) :
    between (before ++ (raw ++ after)) before.length ((before ++ raw).length : Nat) = raw := by
  rw [between, placeOf_natCast, placeOf_natCast, List.drop_left, List.length_append,
    Nat.add_sub_cancel_left, List.take_left]

theorem standsAt_append {before tail pattern : Bytes} :
    standsAt (before ++ tail) before.length pattern = true ↔ pattern <+: tail := by
  rw [standsAt, placeOf_natCast, List.drop_left, List.length_append, Bool.and_eq_true,
    decide_eq_true_iff, List.isPrefixOf_iff_prefix]
  exact and_iff_right (Nat.le_add_right _ _)

end Wire

/-! ## The ends of fields -/

namespace Extraction

variable {x : Extraction} {tail : Bytes}

def EndsAt (x : Extraction) (tail : Bytes) (n : Nat) : Prop :=
  match x with
  | .fixedLength length => length.integer? = some (n : Int) ∧ n ≤ tail.length
  | .endOfBuffer => n = tail.length
  | x => Wire.findStop tail 0 (x.stops.map Utf8.ofString) = some n

/-- Where a required field ends: it goes on to the end of the data if no stop is found. -/
def RunsTo (x : Extraction) (tail : Bytes) (n : Nat) : Prop :=
  x.EndsAt tail n ∨ x.stops ≠ [] ∧
    Wire.findStop tail 0 (x.stops.map Utf8.ofString) = none ∧ n = tail.length

def Positive (x : Extraction) : Prop :=
  ∀ length, x = .fixedLength length → ∀ n, length.integer? = some n → 0 < n

/-- A field has a width, ends with the data, or has stops. -/
theorem cases_stops (x : Extraction) :
    (∃ length, x = .fixedLength length) ∨ x = .endOfBuffer ∨ x.stops ≠ [] := by
  cases x <;> simp [stops]

theorem endsAt_of_stops (h : x.stops ≠ []) {n : Nat} :
    x.EndsAt tail n ↔ Wire.findStop tail 0 (x.stops.map Utf8.ofString) = some n := by
  cases x with
  | endOfBuffer | fixedLength _ => exact absurd rfl h
  | _ => exact Iff.rfl

theorem EndsAt.unique {a b : Nat} (ha : x.EndsAt tail a) (hb : x.EndsAt tail b) : a = b := by
  rcases x.cases_stops with ⟨length, rfl⟩ | rfl | hstops
  · exact Int.ofNat.inj (Option.some.inj (ha.1.symm.trans hb.1))
  · exact Eq.trans ha hb.symm
  · rw [endsAt_of_stops hstops] at ha hb
    exact Option.some.inj (ha.symm.trans hb)

theorem EndsAt.le_length {n : Nat} (h : x.EndsAt tail n) : n ≤ tail.length := by
  rcases x.cases_stops with ⟨length, rfl⟩ | rfl | hstops
  · exact h.2
  · exact Nat.le_of_eq h
  · rw [endsAt_of_stops hstops, Wire.findStop_eq_some_iff] at h
    obtain ⟨⟨s, -, hs⟩, -⟩ := h
    exact hs.1

theorem RunsTo.le_length {n : Nat} (h : x.RunsTo tail n) : n ≤ tail.length := by
  rcases h with h | ⟨-, -, rfl⟩
  · exact h.le_length
  · exact Nat.le_refl _

/-- A field with a stop somewhere in the data ends. -/
theorem RunsTo.endsAt {n : Nat} (h : x.RunsTo tail n) {s : String} (hs : s ∈ x.stops) {i : Nat}
    (hi : Wire.OccursAt (Utf8.ofString s) tail i) : x.EndsAt tail n := by
  rcases h with h | ⟨-, hnone, -⟩
  · exact h
  · exact absurd hi (Wire.findStop_eq_none_iff.mp hnone i _ (List.mem_map_of_mem hs))

end Extraction

namespace Codec

variable {check : FieldCheck} {raw after data : Bytes} {values : Record} {c : Cursor}
  {state : State} {s : String} {follow : Option String} {f : Spec.Field}
  {make : Record → Except Fault Record} {states : List State} {taken : List Taken}

variable {lenient : Bool} {before tail : Bytes} {x : Extraction}

theorem standsAt_append_iff {text : String} :
    standsAt (before ++ tail) before.length text = true ↔ Utf8.ofString text <+: tail :=
  Wire.standsAt_append

theorem stopAfter_append (x : Extraction) :
    stopAfter (before ++ tail) before.length x =
      (Wire.findStop tail 0 (x.stops.map Utf8.ofString)).map (· + before.length) :=
  Wire.findStop_append before tail _

theorem widthOf_eq_ok_iff {length : Value} {n : Int} :
    widthOf length = .ok n ↔ length.integer? = some n := by
  rw [widthOf]
  cases length.integer? <;> simp

theorem requiredEnd_of_stops (h : x.stops ≠ []) (data : Bytes) (position : Int) :
    requiredEnd data position x =
      .ok (.ok ((stopAfter data position x).getD data.length : Nat)) := by
  cases x with
  | endOfBuffer | fixedLength _ => exact absurd rfl h
  | _ => rfl

theorem requiredEnd_eq_ok_iff (hx : x.Positive) {stop : Int} :
    requiredEnd (before ++ tail) before.length x = .ok (.ok stop) ↔
      ∃ n, x.RunsTo tail n ∧ stop = (before.length + n : Nat) := by
  rcases x.cases_stops with ⟨length, rfl⟩ | rfl | hstops
  · have hruns : ∀ n, Extraction.RunsTo (.fixedLength length) tail n ↔
        length.integer? = some (n : Int) ∧ n ≤ tail.length := fun n ↦ by
      simp [Extraction.RunsTo, Extraction.EndsAt, Extraction.stops]
    simp only [hruns, requiredEnd, bind_eq_ok_iff, widthOf_eq_ok_iff, pure_eq_ok_iff]
    constructor
    · rintro ⟨w, hw, h⟩
      have hpos := hx length rfl w hw
      split at h
      · cases h
      · rename_i hfits
        rw [List.length_append] at hfits
        refine ⟨w.toNat, ⟨by rw [hw]; congr; omega, by omega⟩, ?_⟩
        rw [← Except.ok.inj h]
        omega
    · rintro ⟨n, ⟨hn, hle⟩, rfl⟩
      refine ⟨n, hn, ?_⟩
      rw [if_neg (by rw [List.length_append]; omega)]
      rfl
  · have hruns : ∀ n, Extraction.RunsTo .endOfBuffer tail n ↔ n = tail.length := fun n ↦ by
      simp [Extraction.RunsTo, Extraction.EndsAt, Extraction.stops]
    simp only [hruns, requiredEnd, pure_eq_ok_iff, Except.ok.injEq, List.length_append]
    simp [eq_comm]
  · rw [requiredEnd_of_stops hstops, stopAfter_append]
    simp only [Except.ok.injEq, Extraction.RunsTo, Extraction.endsAt_of_stops hstops]
    cases Wire.findStop tail 0 (x.stops.map Utf8.ofString) with
    | none => simp [hstops, eq_comm]
    | some i =>
      rw [Option.map_some, Option.getD_some, Nat.add_comm]
      constructor
      · intro h
        exact ⟨i, .inl rfl, h.symm⟩
      · rintro ⟨n, h | ⟨-, h, -⟩, rfl⟩
        · rw [Option.some.inj h]
        · cases h

theorem optionalEnd_of_stops (h : x.stops ≠ []) (data : Bytes) (position : Int) :
    optionalEnd data position x =
      .ok (if position < ((stopAfter data position x).map Int.ofNat).getD (-1) then
        some (((stopAfter data position x).map Int.ofNat).getD (-1)) else none) := by
  cases x with
  | endOfBuffer | fixedLength _ => exact absurd rfl h
  | _ => rfl

theorem optionalEnd_of_endsAt {n : Nat} (hn : 0 < n) (h : x.EndsAt tail n) :
    optionalEnd (before ++ tail) before.length x = .ok (some (before.length + n : Nat)) := by
  rcases x.cases_stops with ⟨length, rfl⟩ | rfl | hstops
  · obtain ⟨hwidth, hle⟩ := h
    rw [optionalEnd, widthOf_eq_ok_iff.mpr hwidth]
    refine congrArg Except.ok (if_pos ?_)
    rw [List.length_append]
    omega
  · have hlength : n = tail.length := h
    rw [optionalEnd, List.length_append, if_pos (by omega), hlength]
    rfl
  · rw [Extraction.endsAt_of_stops hstops] at h
    rw [optionalEnd_of_stops hstops, stopAfter_append, h, Option.map_some, Option.map_some,
      Option.getD_some, Nat.add_comm, if_pos (by simp; omega)]
    rfl

theorem optionalEnd_of_not_endsAt (hx : x.Positive)
    (hwidth : ∀ length, x = .fixedLength length → length.integer?.isSome)
    (h : ∀ n, x.EndsAt tail n → n = 0) :
    optionalEnd (before ++ tail) before.length x = .ok none := by
  rcases x.cases_stops with ⟨length, rfl⟩ | rfl | hstops
  · obtain ⟨w, hw⟩ := Option.isSome_iff_exists.mp (hwidth length rfl)
    have hpos := hx length rfl w hw
    have hshort : ¬w.toNat ≤ tail.length := fun hle ↦ by
      have := h w.toNat ⟨by rw [hw]; congr; omega, hle⟩
      omega
    rw [optionalEnd, widthOf_eq_ok_iff.mpr hw]
    refine congrArg Except.ok (if_neg ?_)
    rw [List.length_append]
    omega
  · have hempty : tail.length = 0 := h tail.length rfl
    rw [optionalEnd, List.length_append, if_neg (by omega)]
    rfl
  · simp only [Extraction.endsAt_of_stops hstops] at h
    rw [optionalEnd_of_stops hstops, stopAfter_append]
    cases hfind : Wire.findStop tail 0 (x.stops.map Utf8.ofString) with
    | none => exact congrArg Except.ok (if_neg (by simp))
    | some i =>
      have hzero := h i hfind
      exact congrArg Except.ok (if_neg (by simp [hzero]))

/-- An optional field ends where it can, unless it would be empty. -/
theorem endsAt_or_of_optionalEnd (hx : x.Positive) {stop? : Option Int}
    (h : optionalEnd (before ++ tail) before.length x = .ok stop?) :
    (∃ n, 0 < n ∧ x.EndsAt tail n ∧ stop? = some ((before.length + n : Nat) : Int)) ∨
      (∀ length, x = .fixedLength length → length.integer?.isSome) ∧
        (∀ n, x.EndsAt tail n → n = 0) ∧ stop? = none := by
  by_cases hends : ∃ n, 0 < n ∧ x.EndsAt tail n
  · obtain ⟨n, hn, hends⟩ := hends
    rw [optionalEnd_of_endsAt hn hends, Except.ok.injEq] at h
    exact .inl ⟨n, hn, hends, h.symm⟩
  · have hzero : ∀ n, x.EndsAt tail n → n = 0 := fun n hn ↦
      Nat.eq_zero_of_not_pos fun hpos ↦ hends ⟨n, hpos, hn⟩
    have hwidth : ∀ length, x = .fixedLength length → length.integer?.isSome := by
      rintro length rfl
      rw [optionalEnd] at h
      obtain ⟨w, hw, -⟩ := bind_eq_ok_iff.mp h
      rw [widthOf_eq_ok_iff.mp hw]
      rfl
    rw [optionalEnd_of_not_endsAt hx hwidth hzero, Except.ok.injEq] at h
    exact .inr ⟨hwidth, hzero, h.symm⟩

/-! ## One state -/

/-- Whether an optional field is taken for absent: it would be empty, its follower does not come
after it, or its bytes are refused. -/
structure Absent (lenient : Bool) (check : FieldCheck) (x : Extraction) (follow : Option String)
    (tail : Bytes) : Prop where
  width : ∀ length, x = .fixedLength length → length.integer?.isSome
  refused : ∀ raw after, tail = raw ++ after → x.EndsAt tail raw.length → raw ≠ [] →
    (∀ s ∈ follow, Utf8.ofString s <+: after) →
      ∃ expected, valueIn lenient check raw = .ok (.error expected)

/-- The bytes that a state takes, those after them, and the value of its field if there is one. -/
inductive Takes (lenient : Bool) (m : Compiled.Message) :
    State → Bytes → Bytes → Option Taken → Prop
  | terminal {after : Bytes} : Takes lenient m (.terminal none) [] after none
  | text {state : State} {s : String} {after : Bytes} :
      state.expected? = some s → Takes lenient m state (Utf8.ofString s) after none
  | required {f : Spec.Field} {x : Extraction} {field : Compiled.Field} {raw after : Bytes}
      {v : Value} : fieldOf? m f = some field → x.RunsTo (raw ++ after) raw.length →
      valueIn lenient (checkOf field) raw = .ok (.ok v) →
      Takes lenient m (.extractField f x) raw after (some ⟨f, raw, v⟩)
  | present {f : Spec.Field} {x : Extraction} {follow : Option String} {field : Compiled.Field}
      {raw after : Bytes} {v : Value} : fieldOf? m f = some field →
      x.EndsAt (raw ++ after) raw.length → raw ≠ [] → (∀ s ∈ follow, Utf8.ofString s <+: after) →
      valueIn lenient (checkOf field) raw = .ok (.ok v) →
      Takes lenient m (.optionalField f x follow) raw after (some ⟨f, raw, v⟩)
  | absent {f : Spec.Field} {x : Extraction} {follow : Option String} {field : Compiled.Field}
      {after : Bytes} : fieldOf? m f = some field → Absent lenient (checkOf field) x follow after →
      Takes lenient m (.optionalField f x follow) [] after none

theorem valueIn_of_coerce {v : Value} (h : check.coerce raw = .ok (.ok v)) :
    valueIn lenient check raw = .ok (.ok v) := by
  rw [valueIn, h]
  rfl

theorem valueIn_eq_ok_iff {result : Except String Value} :
    valueIn false check raw = .ok result ↔ check.coerce raw = .ok result := by
  rw [valueIn]
  cases check.coerce raw with
  | error e => simp [bind, Except.bind]
  | ok r => cases r <;> simp [bind, Except.bind]

theorem valueIn_eq_error_iff {e : Fault} :
    valueIn lenient check raw = .error e ↔ check.coerce raw = .error e := by
  rw [valueIn]
  cases check.coerce raw with
  | error e => simp [bind, Except.bind]
  | ok r => cases r <;> simp [bind, Except.bind, pure, Except.pure]

theorem exists_append_of_le {n : Nat} (h : n ≤ tail.length) :
    ∃ raw after, tail = raw ++ after ∧ raw.length = n :=
  ⟨tail.take n, tail.drop n, (List.take_append_drop n tail).symm, List.length_take_of_le h⟩

theorem extract_eq_ok_iff (hx : x.Positive) :
    extract lenient (before ++ tail) state f check x ⟨before.length, values⟩ = .ok (.ok c) ↔
      ∃ raw after v, tail = raw ++ after ∧ x.RunsTo (raw ++ after) raw.length ∧
        valueIn lenient check raw = .ok (.ok v) ∧
        c = ⟨(before ++ raw).length, Value.putEntry values (memberName f.name) v⟩ := by
  rw [extract, bind_eq_ok_iff]
  constructor
  · rintro ⟨stop, hstop, h⟩
    cases stop with
    | error e => cases h
    | ok stop =>
      obtain ⟨n, hn, rfl⟩ := (requiredEnd_eq_ok_iff hx).mp hstop
      obtain ⟨raw, after, rfl, rfl⟩ := exists_append_of_le hn.le_length
      obtain ⟨result, hresult, h⟩ := bind_eq_ok_iff.mp h
      rw [← List.length_append, Wire.between_append] at hresult
      cases result with
      | error e => cases h
      | ok v =>
        cases h
        exact ⟨raw, after, v, rfl, hn, hresult, by rw [List.length_append]; rfl⟩
  · rintro ⟨raw, after, v, rfl, hruns, hv, rfl⟩
    refine ⟨_, (requiredEnd_eq_ok_iff hx).mpr ⟨raw.length, hruns, rfl⟩, ?_⟩
    dsimp only
    rw [← List.length_append, Wire.between_append, hv]
    rfl

theorem absent_of_endsAt (hends : x.EndsAt (raw ++ after) raw.length)
    (h : (∀ s ∈ follow, Utf8.ofString s <+: after) →
      ∃ expected, valueIn lenient check raw = .ok (.error expected)) :
    Absent lenient check x follow (raw ++ after) where
  width := by
    rintro length rfl
    rw [hends.1]
    rfl
  refused := by
    intro raw' after' heq hends' _ hfollow
    obtain ⟨rfl, rfl⟩ := List.append_inj heq (hends.unique hends')
    exact h hfollow

theorem absent_of_stop (hs : s ∈ x.stops) (hstands : Utf8.ofString s <+: tail) :
    Absent lenient check x follow tail := by
  have hstops : x.stops ≠ [] := List.ne_nil_of_mem hs
  refine ⟨?_, fun raw after _ hends hne _ ↦ ?_⟩
  · rintro length rfl
    exact absurd rfl hstops
  · rw [Extraction.endsAt_of_stops hstops, Wire.findStop_eq_some_iff] at hends
    exact absurd (Wire.occursAt_zero.mpr hstands)
      (hends.2 0 (List.length_pos_of_ne_nil hne) _ (List.mem_map_of_mem hs))

theorem follow_all_standsAt_iff :
    follow.all (standsAt (before ++ (raw ++ after)) ((before ++ raw).length : Nat)) = true ↔
      ∀ s ∈ follow, Utf8.ofString s <+: after := by
  rw [← List.append_assoc]
  cases follow with
  | none => simp
  | some s =>
    rw [Option.all_some, standsAt_append_iff]
    simp

theorem extractOptional_eq_ok_iff (hx : x.Positive) :
    extractOptional lenient (before ++ tail) f check x follow ⟨before.length, values⟩ = .ok c ↔
      (∃ raw after v, tail = raw ++ after ∧ x.EndsAt (raw ++ after) raw.length ∧ raw ≠ [] ∧
        (∀ s ∈ follow, Utf8.ofString s <+: after) ∧ valueIn lenient check raw = .ok (.ok v) ∧
        c = ⟨(before ++ raw).length, Value.putEntry values (memberName f.name) v⟩) ∨
      Absent lenient check x follow tail ∧ c = ⟨before.length, values⟩ := by
  rw [extractOptional, bind_eq_ok_iff]
  constructor
  · rintro ⟨stop?, hstop, h⟩
    rcases endsAt_or_of_optionalEnd hx hstop with ⟨n, hn, hends, rfl⟩ | ⟨hwidth, hzero, rfl⟩
    · obtain ⟨raw, after, rfl, rfl⟩ := exists_append_of_le hends.le_length
      dsimp only at h
      rw [← List.length_append] at h
      split at h
      · rename_i hstands
        rw [follow_all_standsAt_iff] at hstands
        obtain ⟨result, hresult, h⟩ := bind_eq_ok_iff.mp h
        rw [Wire.between_append] at hresult
        cases result with
        | error e =>
          cases h
          exact .inr ⟨absent_of_endsAt hends fun _ ↦ ⟨e, hresult⟩, rfl⟩
        | ok v =>
          cases h
          exact .inl ⟨raw, after, v, rfl, hends, List.ne_nil_of_length_pos hn, hstands, hresult,
            rfl⟩
      · rename_i hstands
        rw [follow_all_standsAt_iff] at hstands
        cases h
        exact .inr ⟨absent_of_endsAt hends fun hfollows ↦ absurd hfollows hstands, rfl⟩
    · cases h
      refine .inr ⟨⟨hwidth, fun raw after _ hends hne ↦ ?_⟩, rfl⟩
      exact absurd (List.eq_nil_of_length_eq_zero (hzero _ hends)) hne
  · rintro (⟨raw, after, v, rfl, hends, hne, hfollows, hv, rfl⟩ | ⟨habsent, rfl⟩)
    · refine ⟨_, optionalEnd_of_endsAt (List.length_pos_of_ne_nil hne) hends, ?_⟩
      dsimp only
      rw [← List.length_append, if_pos (follow_all_standsAt_iff.mpr hfollows), Wire.between_append,
        hv]
      rfl
    · by_cases hends : ∃ n, 0 < n ∧ x.EndsAt tail n
      · obtain ⟨n, hn, hends⟩ := hends
        obtain ⟨raw, after, rfl, rfl⟩ := exists_append_of_le hends.le_length
        refine ⟨_, optionalEnd_of_endsAt hn hends, ?_⟩
        dsimp only
        rw [← List.length_append]
        split
        · rename_i hstands
          obtain ⟨e, he⟩ := habsent.refused raw after rfl hends (List.ne_nil_of_length_pos hn)
            (follow_all_standsAt_iff.mp hstands)
          rw [Wire.between_append, he]
          rfl
        · rfl
      · refine ⟨none, optionalEnd_of_not_endsAt hx habsent.width fun n hn ↦ ?_, rfl⟩
        exact Nat.eq_zero_of_not_pos fun hpos ↦ hends ⟨n, hpos, hn⟩

theorem step_of_expected {m : Compiled.Message} (h : state.expected? = some s) (c : Cursor) :
    step lenient m data state c = .ok (expect data state s c) := by
  cases state with
  | expectFixed text | expectDelimiter text =>
    cases h
    rfl
  | terminal text =>
    cases h
    rfl
  | _ => cases h

theorem takes_iff_of_expected {m : Compiled.Message} (h : state.expected? = some s)
    {taken : Option Taken} :
    Takes lenient m state raw after taken ↔ raw = Utf8.ofString s ∧ taken = none := by
  constructor
  · intro ht
    cases ht with
    | text hs =>
      rw [h, Option.some.injEq] at hs
      exact ⟨by rw [hs], rfl⟩
    | _ => cases h
  · rintro ⟨rfl, rfl⟩
    exact .text h

theorem step_expected_eq_ok_iff {m : Compiled.Message} (h : state.expected? = some s) :
    step lenient m (before ++ tail) state ⟨before.length, values⟩ = .ok (.ok c) ↔
      ∃ raw after taken, tail = raw ++ after ∧ Takes lenient m state raw after taken ∧
        c = ⟨(before ++ raw).length, storeAll values taken.toList⟩ := by
  simp only [step_of_expected h, takes_iff_of_expected h, expect, Except.ok.injEq]
  split
  · rename_i hstands
    obtain ⟨after, rfl⟩ := standsAt_append_iff.mp hstands
    constructor
    · intro hc
      cases hc
      exact ⟨_, after, none, rfl, ⟨rfl, rfl⟩, by rw [List.length_append]; rfl⟩
    · rintro ⟨raw, after', taken, -, ⟨rfl, rfl⟩, rfl⟩
      rw [List.length_append]
      rfl
  · rename_i hstands
    constructor
    · intro hc
      cases hc
    · rintro ⟨raw, after, taken, rfl, ⟨rfl, rfl⟩, rfl⟩
      exact absurd (standsAt_append_iff.mpr (List.prefix_append _ _)) hstands

theorem step_extractField_eq_ok_iff {m : Compiled.Message} (hx : x.Positive) :
    step lenient m (before ++ tail) (.extractField f x) ⟨before.length, values⟩ = .ok (.ok c) ↔
      ∃ raw after taken, tail = raw ++ after ∧ Takes lenient m (.extractField f x) raw after taken ∧
        c = ⟨(before ++ raw).length, storeAll values taken.toList⟩ := by
  constructor
  · intro h
    rw [step] at h
    split at h
    · rename_i field hfield
      obtain ⟨raw, after, v, rfl, hruns, hv, rfl⟩ := (extract_eq_ok_iff hx).mp h
      exact ⟨raw, after, some ⟨f, raw, v⟩, rfl, .required hfield hruns hv, rfl⟩
    · cases h
  · rintro ⟨raw, after, taken, rfl, ht, rfl⟩
    cases ht with
    | text hs => cases hs
    | required hfield hruns hv =>
      simp only [step, hfield]
      exact (extract_eq_ok_iff hx).mpr ⟨raw, after, _, rfl, hruns, hv, rfl⟩

theorem step_optionalField_eq_ok_iff {m : Compiled.Message} (hx : x.Positive) :
    step lenient m (before ++ tail) (.optionalField f x follow) ⟨before.length, values⟩ =
        .ok (.ok c) ↔
      ∃ raw after taken, tail = raw ++ after ∧
        Takes lenient m (.optionalField f x follow) raw after taken ∧
        c = ⟨(before ++ raw).length, storeAll values taken.toList⟩ := by
  constructor
  · intro h
    rw [step] at h
    split at h
    · rename_i field hfield
      obtain ⟨next, hnext, h⟩ := bind_eq_ok_iff.mp h
      cases h
      rcases (extractOptional_eq_ok_iff hx).mp hnext with
        ⟨raw, after, v, rfl, hends, hne, hfollow, hv, rfl⟩ | ⟨habsent, rfl⟩
      · exact ⟨raw, after, some ⟨f, raw, v⟩, rfl, .present hfield hends hne hfollow hv, rfl⟩
      · exact ⟨[], tail, none, rfl, .absent hfield habsent, by rw [List.append_nil]; rfl⟩
    · cases h
  · rintro ⟨raw, after, taken, rfl, ht, rfl⟩
    cases ht with
    | text hs => cases hs
    | present hfield hends hne hfollow hv =>
      simp only [step, hfield]
      exact bind_eq_ok_iff.mpr ⟨_, (extractOptional_eq_ok_iff hx).mpr
        (.inl ⟨raw, after, _, rfl, hends, hne, hfollow, hv, rfl⟩), rfl⟩
    | absent hfield habsent =>
      simp only [step, hfield]
      exact bind_eq_ok_iff.mpr ⟨_, (extractOptional_eq_ok_iff hx).mpr (.inr ⟨habsent, rfl⟩), by
        rw [List.append_nil]; rfl⟩

/-- A state takes exactly what `Takes` says. -/
theorem step_eq_ok_iff {m : Compiled.Message} (hx : ∀ x, state.extraction? = some x → x.Positive) :
    step lenient m (before ++ tail) state ⟨before.length, values⟩ = .ok (.ok c) ↔
      ∃ raw after taken, tail = raw ++ after ∧ Takes lenient m state raw after taken ∧
        c = ⟨(before ++ raw).length, storeAll values taken.toList⟩ := by
  cases hexpected : state.expected? with
  | some s => exact step_expected_eq_ok_iff hexpected
  | none =>
    cases state with
    | expectFixed text | expectDelimiter text => cases hexpected
    | extractField f x => exact step_extractField_eq_ok_iff (hx x rfl)
    | optionalField f x follow => exact step_optionalField_eq_ok_iff (hx x rfl)
    | terminal text =>
      cases hexpected
      constructor
      · intro h
        cases h
        exact ⟨[], tail, none, rfl, .terminal, by rw [List.append_nil]; rfl⟩
      · rintro ⟨raw, after, taken, rfl, ht, rfl⟩
        cases ht with
        | terminal =>
          rw [List.append_nil]
          rfl
        | text hs => cases hs

/-! ## A row of states -/

/-- The bytes that a row of states reads, those after them, and the values of the fields in the
order in which they are read. -/
inductive Reads (lenient : Bool) (m : Compiled.Message) :
    List State → Bytes → Bytes → List Taken → Prop
  | nil {rest : Bytes} : Reads lenient m [] [] rest []
  | cons {state : State} {states : List State} {raw used rest : Bytes}
      {first : Option Taken} {taken : List Taken} :
      Takes lenient m state raw (used ++ rest) first → Reads lenient m states used rest taken →
      Reads lenient m (state :: states) (raw ++ used) rest (first.toList ++ taken)

/-- A row of states reads exactly what `Reads` says. -/
theorem steps_eq_ok_iff {m : Compiled.Message}
    (hx : ∀ state ∈ states, ∀ x, state.extraction? = some x → x.Positive) :
    steps lenient m (before ++ tail) states ⟨before.length, values⟩ = .ok (.ok c) ↔
      ∃ used rest taken, tail = used ++ rest ∧ Reads lenient m states used rest taken ∧
        c = ⟨(before ++ used).length, storeAll values taken⟩ := by
  induction states generalizing before tail values with
  | nil =>
    rw [steps]
    constructor
    · intro h
      cases h
      exact ⟨[], tail, [], rfl, .nil, by rw [List.append_nil]; rfl⟩
    · rintro ⟨used, rest, taken, rfl, hr, rfl⟩
      cases hr
      rw [List.append_nil]
      rfl
  | cons state states ih =>
    have hstate := hx state List.mem_cons_self
    have hstates : ∀ s ∈ states, ∀ x, s.extraction? = some x → x.Positive := fun s hs ↦
      hx s (List.mem_cons_of_mem _ hs)
    rw [steps, bind_eq_ok_iff]
    constructor
    · rintro ⟨next, hnext, h⟩
      cases next with
      | error e => cases h
      | ok next =>
        obtain ⟨raw, after, first, rfl, ht, rfl⟩ := (step_eq_ok_iff hstate).mp hnext
        rw [← List.append_assoc] at h
        obtain ⟨used, rest, taken, rfl, hr, rfl⟩ := (ih hstates).mp h
        refine ⟨raw ++ used, rest, first.toList ++ taken, (List.append_assoc ..).symm,
          .cons ht hr, ?_⟩
        rw [storeAll_append, List.append_assoc]
    · rintro ⟨_, rest, _, rfl, hr, rfl⟩
      cases hr with
      | @cons _ _ raw used _ first taken ht hr =>
        refine ⟨_, (step_eq_ok_iff hstate).mpr ⟨raw, used ++ rest, first, List.append_assoc .., ht,
          rfl⟩, ?_⟩
        dsimp only
        rw [List.append_assoc raw, ← List.append_assoc before raw]
        exact (ih hstates).mpr ⟨used, rest, taken, rfl, hr, by
          rw [storeAll_append, List.append_assoc]⟩

/-! ## Whole messages -/

variable {m : Compiled.Message}

theorem positive_of_wellFormed (hm : m.WellFormed) :
    ∀ state ∈ m.machine.states, ∀ x, state.extraction? = some x → x.Positive := by
  rintro state hstate x hx length rfl n hn
  obtain ⟨f, hf, hwidth⟩ := hm.fixedWidth?_of_extraction hstate hx
  obtain ⟨field, hfield, rfl⟩ := hm.exists_state_iff.mp ⟨state, hstate, hf⟩
  exact hm.width_pos hfield hwidth hn

/-- A parser that begins inside the data goes through its states. -/
theorem parseWith_of_not_lt {offset : Int} (h : ¬data.length < offset) :
    parseWith lenient make m data offset =
      steps lenient m data m.machine.states { position := offset } >>= fun
        | .error failure => .ok (.error failure)
        | .ok last => (make last.values).map fun r ↦ .ok ⟨r, last.position - offset⟩ := by
  rw [parseWith, if_neg h]
  refine congrArg (_ >>= ·) (funext fun result ↦ ?_)
  cases result with
  | error failure => rfl
  | ok last =>
    change (make last.values >>= fun r ↦ _) = (make last.values).map _
    cases make last.values <;> rfl

/-- A parse that succeeds begins in the data, goes through the states of the message, and makes a
record of their values. -/
theorem parseWith_eq_ok_iff {offset : Int} {p : Parsed} :
    parseWith lenient make m data offset = .ok (.ok p) ↔
      offset ≤ data.length ∧
        ∃ last, steps lenient m data m.machine.states { position := offset } = .ok (.ok last) ∧
          make last.values = .ok p.record ∧ p.consumed = last.position - offset := by
  by_cases hoffset : (data.length : Int) < offset
  · rw [parseWith, if_pos hoffset]
    constructor
    · intro h
      split at h
      · cases h
      · cases h
    · rintro ⟨hle, -⟩
      exact absurd hle (by omega)
  · rw [parseWith_of_not_lt hoffset, bind_eq_ok_iff, and_iff_right (by omega)]
    constructor
    · rintro ⟨result, hresult, h⟩
      cases result with
      | error failure => cases h
      | ok last =>
        dsimp only at h
        cases hmake : make last.values with
        | error e =>
          rw [hmake] at h
          cases h
        | ok r =>
          rw [hmake] at h
          cases h
          exact ⟨last, hresult, hmake, rfl⟩
    · rintro ⟨last, hlast, hmake, hconsumed⟩
      refine ⟨_, hlast, ?_⟩
      dsimp only
      rw [hmake, ← hconsumed]
      rfl

theorem parseWith_iff_reads (hm : m.WellFormed) {p : Parsed} :
    parseWith lenient make m (before ++ tail) before.length = .ok (.ok p) ↔
      ∃ used rest taken, tail = used ++ rest ∧ Reads lenient m m.machine.states used rest taken ∧
        make (storeAll [] taken) = .ok p.record ∧ p.consumed = used.length := by
  have hx := positive_of_wellFormed hm
  have hconsumed (used : Bytes) :
      ((before ++ used).length : Int) - before.length = used.length := by
    rw [List.length_append]
    omega
  rw [parseWith_eq_ok_iff, and_iff_right (by rw [List.length_append]; omega)]
  constructor
  · rintro ⟨last, hlast, hrecord, hp⟩
    obtain ⟨used, rest, taken, rfl, hr, rfl⟩ := (steps_eq_ok_iff hx).mp hlast
    exact ⟨used, rest, taken, rfl, hr, hrecord, hp.trans (hconsumed used)⟩
  · rintro ⟨used, rest, taken, rfl, hr, hrecord, hp⟩
    exact ⟨_, (steps_eq_ok_iff hx).mpr ⟨used, rest, taken, rfl, hr, rfl⟩, hrecord,
      hp.trans (hconsumed used).symm⟩

theorem exists_append_of_parseWith {offset : Nat} {p : Parsed}
    (h : parseWith lenient make m data offset = .ok (.ok p)) :
    ∃ before tail, data = before ++ tail ∧ before.length = offset :=
  exists_append_of_le (Int.ofNat_le.mp (parseWith_eq_ok_iff.mp h).1)

/-- States that begin with a text read that text first. -/
theorem Reads.exists_of_expected {used rest : Bytes} (h : Reads lenient m states used rest taken)
    (hs : states.head?.bind State.expected? = some s) :
    ∃ later, used = Utf8.ofString s ++ later := by
  cases h with
  | nil => cases hs
  | cons ht hr =>
    obtain ⟨rfl, -⟩ := (takes_iff_of_expected hs).mp ht
    exact ⟨_, rfl⟩

theorem Reads.prefix_of_expected {used rest : Bytes} (h : Reads lenient m states used rest taken)
    (hs : states.head?.bind State.expected? = some s) : Utf8.ofString s <+: used ++ rest := by
  obtain ⟨later, rfl⟩ := h.exists_of_expected hs
  rw [List.append_assoc]
  exact List.prefix_append ..

theorem Reads.used_eq_nil {used rest : Bytes}
    (h : Reads lenient m [.terminal none] used rest taken) : used = [] := by
  cases h with
  | cons ht hr =>
    cases hr
    cases ht with
    | terminal => rfl
    | text hs => cases hs

theorem Takes.congr_after (hstate : state.field? = none) {after' : Bytes} {first : Option Taken}
    (h : Takes lenient m state raw after first) : Takes lenient m state raw after' first := by
  cases h with
  | terminal => exact .terminal
  | text hs => exact .text hs
  | _ => cases hstate

end Codec

end TextProtocol
