import TextProtocol.Proofs.Fault
import TextProtocol.Proofs.Wire.Number
import TextProtocol.Proofs.Wire.Search

/-!
# Checked values and what is read

Reading the bytes of a value comes to what a check of the value finds, `coerce_render_eq`: a value
that passes is read back, and one that does not is refused for its first violation. The other way
round, what is read from some bytes passes the check, and is written as these bytes:
`demands_of_coerce` and `render_of_coerce`. Only numbers can be spelled in more than one way, so
there the bytes have to be canonical.

Reading does not look at stops, and takes an empty text where a check of an optional field does not.
These two demands are therefore conditions on the bytes, `Fits`. Checks with bounds that are no
numbers, or with a pattern that is none, are faults; the others are `Regular`. A regular check still
faults on some values, and `violations_eq_error_iff` says on which.
-/

namespace TextProtocol

/-- A text that is a pattern can be searched for, up to matches that contradict themselves. -/
theorem Pattern.foundIn_eq_error {p : String} {codes : List Nat} {e : Fault}
    (hp : Pattern.isPattern p = .ok true) (h : Pattern.foundIn p codes = .error e) :
    e = .inconsistent := by
  rw [Pattern.isPattern] at hp
  rw [Pattern.foundIn] at h
  cases hread : Pattern.read p with
  | error e' =>
    rw [hread] at hp
    cases e' <;> cases hp
  | ok expression =>
    simp only [hread] at h
    split at h
    · cases h
    · split at h
      · cases h
        rfl
      · cases h

theorem Pattern.isPattern_of_foundIn {p : String} {codes : List Nat} {b : Bool}
    (h : Pattern.foundIn p codes = .ok b) : Pattern.isPattern p = .ok true := by
  rw [Pattern.foundIn] at h
  rw [Pattern.isPattern]
  cases hread : Pattern.read p with
  | error e =>
    rw [hread] at h
    cases h
  | ok expression => rfl

theorem Text.length_codes (s : String) : (Text.codes s).length = s.length := by
  rw [Text.codes, List.length_map, String.length_toList]

/-- A value as it is read from its bytes: a buffer comes back as a byte string. -/
def Value.frozen : Value → Value
  | .buffer data => .bytes data
  | v => v

theorem Value.frozen_of_isNull {v : Value} (h : v.isNull = true) : v.frozen = v := by
  cases v with
  | buffer data => cases h
  | _ => rfl

/-! ## Bytes of values -/

namespace Wire

theorem encode_eq_ok_iff {v : Value} {raw : Bytes} :
    encode v = .ok raw ↔ fault? v = none ∧ render v = raw := by
  rw [encode]
  cases fault? v <;> simp

theorem encode_of_fault? {v : Value} (h : fault? v = none) : encode v = .ok (render v) :=
  encode_eq_ok_iff.mpr ⟨h, rfl⟩

theorem encode_eq_error_iff {v : Value} {e : Fault} : encode v = .error e ↔ fault? v = some e := by
  rw [encode]
  cases fault? v <;> simp

theorem fault?_of_isNull {v : Value} (h : v.isNull = true) : fault? v = none := by
  cases v with
  | null => rfl
  | _ => cases h

theorem fault?_int {n : Int} : fault? (.int n) = none ↔ Text.isWritable n = true := by
  change (if Text.isWritable n = true then none else some Fault.invalid) = none ↔ _
  simp

end Wire

namespace FieldCheck

open Fault (bind_eq_ok_iff bind_eq_error_iff bind_eq_error_iff_of_faults
  bind_eq_error_iff_of_forall bind_pure_eq_error_iff pure_eq_ok_iff)

variable {v bound : Value} {e : Fault} {stops : List Bytes} {violation : Violation} {raw : Bytes}
  {required : Bool}

/-! ## Text -/

theorem readText_ofString (s : String) : readText (Utf8.ofString s) = some s := by
  rw [readText, Utf8.ofString, Utf8.decode?_encode, Option.map_some, String.ofList_toList]

theorem ofString_of_readText {s : String} (h : readText raw = some s) : Utf8.ofString s = raw := by
  obtain ⟨text, htext, rfl⟩ := Option.map_eq_some_iff.mp h
  rw [Utf8.ofString, String.toList_ofList, Utf8.encode_of_decode? htext]

theorem render_text (s : String) : Wire.render (.text s) = Utf8.ofString s := rfl

theorem render_int (n : Int) : Wire.render (.int n) = Utf8.ofString (toString n) := rfl

theorem ofString_ne_nil {s : String} (h : s ≠ "") : Utf8.ofString s ≠ [] := by
  intro hnil
  have hread := readText_ofString s
  rw [hnil, readText, Utf8.decode?, Option.map_some, Option.some.injEq] at hread
  exact h hread.symm

theorem render_int_ne_nil (n : Int) : Wire.render (.int n) ≠ [] := by
  rw [render_int]
  refine ofString_ne_nil fun hempty ↦ ?_
  have hlist := congrArg String.toList hempty
  obtain ⟨k, rfl | rfl⟩ := n.eq_nat_or_neg
  · rw [toList_toString_natCast] at hlist
    exact Nat.toDigits_ne_nil hlist
  · by_cases hk : k = 0
    · subst hk
      exact absurd hlist (by decide)
    · rw [toList_toString_neg (by omega)] at hlist
      simp at hlist

/-! ## Demands on the bytes of a value -/

/-- The bytes of a value hide none of its stops, and are not empty if the field is optional. -/
def Fits (required : Bool) (stops : List Bytes) (raw : Bytes) : Prop :=
  Wire.hiddenStop? raw stops = none ∧ (required = true ∨ raw ≠ [])

instance (required : Bool) (stops : List Bytes) (raw : Bytes) :
    Decidable (Fits required stops raw) :=
  inferInstanceAs (Decidable (Wire.hiddenStop? raw stops = none ∧ (required = true ∨ raw ≠ [])))

theorem stopViolations_eq_nil_iff :
    stopViolations stops v = .ok [] ↔
      Wire.fault? v = none ∧ Wire.hiddenStop? (Wire.render v) stops = none := by
  simp only [stopViolations, bind_eq_ok_iff, pure_eq_ok_iff, List.map_eq_nil_iff,
    Option.toList_eq_nil_iff, Wire.encode_eq_ok_iff]
  constructor
  · rintro ⟨raw, ⟨hfault, rfl⟩, hstop⟩
    exact ⟨hfault, hstop⟩
  · rintro ⟨hfault, hstop⟩
    exact ⟨_, ⟨hfault, rfl⟩, hstop⟩

theorem emptyViolations_eq_nil_iff (h : Wire.fault? v = none) :
    emptyViolations required v = .ok [] ↔ required = true ∨ Wire.render v ≠ [] := by
  rw [emptyViolations, Wire.encode_of_fault? h]
  cases required with
  | true => exact iff_of_true rfl (.inl rfl)
  | false =>
    change Except.ok (if (Wire.render v).isEmpty then [Violation.empty] else []) = .ok [] ↔ _
    simp

/-- The bytes of a value that can be written and of which nothing else is asked. -/
theorem wireViolations_eq_nil_iff (h : Wire.fault? v = none) :
    wireViolations required stops v = .ok [] ↔ Fits required stops (Wire.render v) := by
  simp only [wireViolations, Fits, bind_eq_ok_iff, pure_eq_ok_iff, List.append_eq_nil_iff]
  constructor
  · rintro ⟨empty, hempty, found, hfound, rfl, rfl⟩
    exact ⟨(stopViolations_eq_nil_iff.mp hfound).2, (emptyViolations_eq_nil_iff h).mp hempty⟩
  · rintro ⟨hstop, hempty⟩
    exact ⟨[], (emptyViolations_eq_nil_iff h).mpr hempty, [],
      stopViolations_eq_nil_iff.mpr ⟨h, hstop⟩, rfl, rfl⟩

@[simp] theorem report_ne_nil : report bound violation ≠ .ok [] := by
  rw [report]
  cases bound.isShowable <;> simp

theorem lengthViolations_eq_nil_iff {length : Value} {n : Nat} :
    lengthViolations length n = .ok [] ↔
      length.isNull = true ∨ length.same (.nat n) = true := by
  rw [lengthViolations]
  cases length.isNull <;> cases length.same (.nat n) <;> simp

def Demands : FieldCheck → Value → Prop
  | .text minLength maxLength pattern, .text s =>
    textViolations minLength maxLength pattern (Text.codes s) = .ok []
  | .number minimum maximum, .int n =>
    numberViolations minimum maximum (.int n) = .ok [] ∧ Text.isWritable n = true
  | .boolean, .bool _ => True
  | .choice values, .text s => values.contains s = true
  | .bytes length, .bytes data | .bytes length, .buffer data =>
    length.isNull = true ∨ length.same (.nat data.length) = true
  | _, _ => False

theorem Demands.fault?_eq_none {c : FieldCheck} (h : c.Demands v) : Wire.fault? v = none := by
  cases v with
  | text | bool | bytes | buffer => rfl
  | int n =>
    cases c with
    | number => exact Wire.fault?_int.mpr h.2
    | _ => exact h.elim
  | _ => cases c <;> exact h.elim

theorem violations_eq_nil_iff_of_data {length : Value} {data : Bytes} (hv : v.data? = some data)
    (hfault : Wire.fault? v = none) :
    (bytes length).violations required stops v = .ok [] ↔
      (length.isNull = true ∨ length.same (.nat data.length) = true) ∧
        Fits required stops (Wire.render v) := by
  simp only [violations, hv, bind_eq_ok_iff]
  rw [← lengthViolations_eq_nil_iff, ← wireViolations_eq_nil_iff hfault]
  constructor
  · rintro ⟨found, hfound, h⟩
    cases found with
    | nil => exact ⟨hfound, h⟩
    | cons => cases h
  · rintro ⟨hfound, h⟩
    exact ⟨[], hfound, h⟩

/-- A value passes a check exactly if it meets the demands on it and on its bytes. -/
theorem violations_eq_nil_iff {c : FieldCheck} :
    c.violations required stops v = .ok [] ↔
      c.Demands v ∧ Fits required stops (Wire.render v) := by
  have hbool : ∀ b, Wire.render (.bool b) ≠ [] := by decide
  have hother {found : List Violation} (hfound : found ≠ []) (hv : ¬c.Demands v) :
      (pure found : Except Fault (List Violation)) = .ok [] ↔
        c.Demands v ∧ Fits required stops (Wire.render v) :=
    iff_of_false (by simpa using hfound) fun h ↦ hv h.1
  cases c with
  | text minLength maxLength pattern =>
    cases v with
    | text s =>
      simp only [violations, Value.codes?, Demands, Fits, bind_eq_ok_iff, pure_eq_ok_iff,
        List.append_eq_nil_iff]
      constructor
      · rintro ⟨empty, hempty, found, hfound, stopped, hstopped, ⟨rfl, rfl⟩, rfl⟩
        exact ⟨hfound, (stopViolations_eq_nil_iff.mp hstopped).2,
          (emptyViolations_eq_nil_iff rfl).mp hempty⟩
      · rintro ⟨hfound, hstop, hempty⟩
        exact ⟨[], (emptyViolations_eq_nil_iff rfl).mpr hempty, [], hfound, [],
          stopViolations_eq_nil_iff.mpr ⟨rfl, hstop⟩, ⟨rfl, rfl⟩, rfl⟩
    | unpaired t =>
      -- Its stops cannot be looked for, whatever else is found.
      simp only [violations, Value.codes?, Demands, false_and, iff_false, bind_eq_ok_iff]
      rintro ⟨empty, -, found, -, stopped, hstopped, h⟩
      rw [pure_eq_ok_iff, List.append_eq_nil_iff] at h
      rw [h.2] at hstopped
      cases (stopViolations_eq_nil_iff.mp hstopped).1
    | _ => exact hother (List.cons_ne_nil _ _) fun h ↦ h
  | number minimum maximum =>
    cases v with
    | int n =>
      simp only [violations, Demands, Fits, bind_eq_ok_iff, pure_eq_ok_iff,
        List.append_eq_nil_iff, ← Wire.fault?_int]
      constructor
      · rintro ⟨found, hfound, stopped, hstopped, rfl, rfl⟩
        obtain ⟨hfault, hstop⟩ := stopViolations_eq_nil_iff.mp hstopped
        exact ⟨⟨hfound, hfault⟩, hstop, .inr (render_int_ne_nil n)⟩
      · rintro ⟨⟨hfound, hfault⟩, hstop, -⟩
        exact ⟨[], hfound, [], stopViolations_eq_nil_iff.mpr ⟨hfault, hstop⟩, rfl, rfl⟩
    | _ => exact hother (List.cons_ne_nil _ _) fun h ↦ h
  | boolean =>
    cases v with
    | bool b =>
      simp only [violations, Demands, Fits, stopViolations_eq_nil_iff, true_and, hbool b, ne_eq,
        not_false_eq_true, or_true, and_true]
      exact and_iff_right rfl
    | _ => exact hother (List.cons_ne_nil _ _) fun h ↦ h
  | choice values =>
    cases v with
    | text s =>
      rw [violations]
      by_cases hmem : values.contains s = true
      · rw [if_pos (by exact hmem), wireViolations_eq_nil_iff rfl]
        exact (and_iff_right hmem).symm
      · rw [if_neg (by exact hmem)]
        exact hother (List.cons_ne_nil _ _) hmem
    | _ => exact hother (List.cons_ne_nil _ _) fun h ↦ h
  | bytes length =>
    cases v with
    | bytes data => exact violations_eq_nil_iff_of_data rfl rfl
    | buffer data => exact violations_eq_nil_iff_of_data rfl rfl
    | _ => exact hother (List.cons_ne_nil _ _) fun h ↦ h

/-! ## Reading -/

/-- The values of the kind that a check is for. Of the integers these are the ones that can be
written. -/
def Holds : FieldCheck → Value → Prop
  | .text .., .text _ | .text .., .unpaired _ | .choice _, .text _ | .choice _, .unpaired _
  | .boolean, .bool _ | .bytes _, .bytes _ | .bytes _, .buffer _ => True
  | .number .., .int n => Text.isWritable n = true
  | _, _ => False

theorem Demands.holds {c : FieldCheck} (h : c.Demands v) : c.Holds v := by
  cases c with
  | number =>
    cases v with
    | int n => exact h.2
    | _ => exact h.elim
  | _ =>
    cases v with
    | text | bool | bytes | buffer => first | exact trivial | exact h.elim
    | _ => exact h.elim

/-- Without stops nothing is asked of the bytes of a required value but that there are some. -/
theorem stopViolations_nil (h : Wire.fault? v = none) : stopViolations [] v = .ok [] := by
  rw [stopViolations, Wire.encode_of_fault? h]
  rfl

theorem wireViolations_nil (h : Wire.fault? v = none) : wireViolations true [] v = .ok [] := by
  rw [wireViolations, stopViolations_nil h]
  rfl

theorem violations_bytes {length : Value} {data : Bytes} (hdata : v.data? = some data)
    (h : Wire.fault? v = none) :
    (bytes length).violations true [] v = lengthViolations length data.length := by
  simp only [violations, hdata, wireViolations_nil h]
  cases lengthViolations length data.length with
  | error e => rfl
  | ok found => cases found <;> rfl

/-- Reading what is written for a value comes to what a check without stops finds: the value, what
the first violation expects, or the fault of the check. -/
theorem coerce_render_eq {c : FieldCheck} (h : c.Holds v) (hv : Wire.fault? v = none) :
    c.coerce (Wire.render v) = (c.violations true [] v).map (accept v.frozen) := by
  have happend (x : Except Fault (List Violation)) :
      (x >>= fun found ↦ pure (accept v.frozen found)) =
        (x >>= fun found ↦ stopViolations [] v >>= fun stopped ↦ pure (found ++ stopped)).map
          (accept v.frozen) := by
    rw [stopViolations_nil hv]
    cases x with
    | error e => rfl
    | ok found =>
      change Except.ok (accept v.frozen found) = .ok (accept v.frozen (found ++ []))
      rw [List.append_nil]
  cases c with
  | text minLength maxLength pattern =>
    cases v with
    | text s =>
      simp only [coerce, render_text, readText_ofString]
      exact happend _
    | unpaired => cases hv
    | _ => exact h.elim
  | number minimum maximum =>
    cases v with
    | int n =>
      rw [Holds] at h
      simp only [coerce, render_int, readText_ofString, Option.elim_some, readNumber_toString h]
      exact happend _
    | _ => exact h.elim
  | boolean =>
    cases v with
    | bool b => cases b <;> rw [coerce, Wire.render, readText_ofString] <;> rfl
    | _ => exact h.elim
  | choice values =>
    cases v with
    | text s =>
      rw [coerce, render_text, readText_ofString, violations]
      by_cases hmem : values.contains s = true
      · rw [if_pos (by exact hmem), wireViolations_nil hv]
        simp only [hmem, if_true]
        rfl
      · rw [if_neg (by exact hmem)]
        simp only [hmem]
        rfl
    | unpaired => cases hv
    | _ => exact h.elim
  | bytes length =>
    cases v with
    | bytes | buffer =>
      rw [coerce, Wire.render, violations_bytes rfl hv]
      cases lengthViolations length _ <;> rfl
    | _ => exact h.elim

/-- A value that meets the demands of a check is read back from its bytes. -/
theorem coerce_render {c : FieldCheck} (h : c.Demands v) :
    c.coerce (Wire.render v) = .ok (.ok v.frozen) := by
  rw [coerce_render_eq h.holds h.fault?_eq_none, violations_eq_nil_iff.mpr ⟨h, rfl, .inl rfl⟩]
  rfl

theorem accept_eq_ok_iff {w : Value} {found : List Violation} :
    accept v found = .ok w ↔ found = [] ∧ v = w := by
  cases found <;> simp [accept]

/-- Whether bytes are the one spelling that a check writes; only numbers have others. -/
def Canonical : FieldCheck → Bytes → Prop
  | .number .., raw => Wire.isCanonical raw = true
  | _, _ => True

/-- What is read meets the demands of the check, and is written as it was read if that was
canonical. -/
theorem coerce_inverse {c : FieldCheck} (h : c.coerce raw = .ok (.ok v)) :
    c.Demands v ∧ (c.Canonical raw → Wire.render v = raw) := by
  cases c with
  | text minLength maxLength pattern =>
    rw [coerce] at h
    split at h
    · simp at h
    · rename_i s hs
      obtain ⟨found, hfound, h⟩ := bind_eq_ok_iff.mp h
      rw [pure_eq_ok_iff, accept_eq_ok_iff] at h
      obtain ⟨rfl, rfl⟩ := h
      exact ⟨hfound, fun _ ↦ ofString_of_readText hs⟩
  | number minimum maximum =>
    rw [coerce] at h
    obtain ⟨read, hread, h⟩ := bind_eq_ok_iff.mp h
    split at h
    · simp at h
    · rename_i n
      obtain ⟨found, hfound, h⟩ := bind_eq_ok_iff.mp h
      rw [pure_eq_ok_iff, accept_eq_ok_iff] at h
      obtain ⟨rfl, rfl⟩ := h
      cases hs : readText raw with
      | none => rw [hs, Option.elim_none] at hread; simp at hread
      | some s =>
        rw [hs, Option.elim_some] at hread
        refine ⟨⟨hfound, isWritable_of_readNumber hread⟩, fun hcanonical ↦ ?_⟩
        have hraw := ofString_of_readText hs
        rw [Canonical, ← hraw, Utf8.ofString] at hcanonical
        rw [render_int, Utf8.ofString, toString_of_readNumber hread hcanonical]
        exact hraw
  | boolean =>
    rw [coerce, pure_eq_ok_iff] at h
    cases hs : readText raw with
    | none => rw [hs] at h; simp at h
    | some s =>
      rw [hs, Option.bind_some, readBoolean] at h
      have hraw := ofString_of_readText hs
      by_cases htrue : s = "true"
      · subst htrue
        cases h
        exact ⟨trivial, fun _ ↦ hraw⟩
      · by_cases hfalse : s = "false"
        · subst hfalse
          cases h
          exact ⟨trivial, fun _ ↦ hraw⟩
        · simp [htrue, hfalse] at h
  | choice values =>
    rw [coerce, pure_eq_ok_iff] at h
    split at h
    · rename_i s hs
      rw [accept_eq_ok_iff] at h
      obtain ⟨hmem, rfl⟩ := h
      split at hmem
      · rename_i hcontains
        exact ⟨hcontains, fun _ ↦ ofString_of_readText hs⟩
      · simp at hmem
    · simp [accept] at h
  | bytes length =>
    rw [coerce] at h
    obtain ⟨found, hfound, h⟩ := bind_eq_ok_iff.mp h
    rw [pure_eq_ok_iff, accept_eq_ok_iff] at h
    obtain ⟨rfl, rfl⟩ := h
    exact ⟨lengthViolations_eq_nil_iff.mp hfound, fun _ ↦ rfl⟩

theorem demands_of_coerce {c : FieldCheck} (h : c.coerce raw = .ok (.ok v)) : c.Demands v :=
  (coerce_inverse h).1

theorem render_of_coerce {c : FieldCheck} (h : c.coerce raw = .ok (.ok v))
    (hcanonical : c.Canonical raw) : Wire.render v = raw :=
  (coerce_inverse h).2 hcanonical

theorem Holds.isNull_eq_false {c : FieldCheck} (h : c.Holds v) : v.isNull = false := by
  cases v with
  | null => cases c <;> exact h.elim
  | _ => rfl

theorem Demands.isNull_eq_false {c : FieldCheck} (h : c.Demands v) : v.isNull = false :=
  h.holds.isNull_eq_false

/-! ## The errors of a value -/

/-- A value has no errors exactly if it is absent and may be, or meets all demands. -/
theorem run_eq_nil_iff {c : FieldCheck} {name : String} :
    c.run name required stops v = .ok [] ↔
      v.isNull = true ∧ required = false ∨
        c.Demands v ∧ Fits required stops (Wire.render v) := by
  cases hnull : v.isNull with
  | true =>
    have hdemands : ¬c.Demands v := fun h ↦ by
      rw [h.isNull_eq_false] at hnull
      exact absurd hnull (by decide)
    cases required <;> simp [run, hnull, hdemands]
  | false =>
    simp only [run, hnull, Bool.false_eq_true, if_false, false_and, false_or,
      ← violations_eq_nil_iff, bind_eq_ok_iff, pure_eq_ok_iff, List.map_eq_nil_iff, exists_eq_right]

/-! ## Faults of a check -/

/-- A bound that numbers can be compared with, or none. -/
def isLimit (bound : Value) : Bool :=
  bound.isNull || bound.number?.isSome

/-- A check whose bounds are numbers and whose pattern is one. -/
def Regular : FieldCheck → Prop
  | .text minLength maxLength pattern =>
    isLimit minLength = true ∧ isLimit maxLength = true ∧
      ∀ p, pattern = some p → Pattern.isPattern p = .ok true
  | .number minimum maximum => isLimit minimum = true ∧ isLimit maximum = true
  | _ => True

/-- A bound is not kept, and has too many digits to be shown. -/
def Unsayable (bound : Value) (broken : Except Fault Bool) : Prop :=
  broken = .ok true ∧ bound.isShowable = false

theorem report_eq_error_iff :
    report bound violation = .error e ↔ bound.isShowable = false ∧ e = .invalid := by
  rw [report]
  cases bound.isShowable <;> simp [eq_comm]

/-- How a comparison with a bound faults: the two cannot be compared, or the bound is broken and
cannot be shown. -/
theorem boundViolations_eq_error_iff {side : Side} {n : Value} :
    boundViolations side n bound violation = .error e ↔ bound.isNull = false ∧
      (side.isBroken n bound = .error e ∨
        Unsayable bound (side.isBroken n bound) ∧ e = .invalid) := by
  rw [boundViolations]
  cases bound.isNull with
  | true => simp [pure, Except.pure]
  | false =>
    rw [if_neg (by decide), bind_eq_error_iff, and_iff_right rfl, Unsayable]
    refine or_congr_right ⟨?_, ?_⟩
    · rintro ⟨b, hb, h⟩
      cases b with
      | true => exact ⟨⟨hb, (report_eq_error_iff.mp h).1⟩, (report_eq_error_iff.mp h).2⟩
      | false => cases h
    · rintro ⟨⟨hbroken, hshown⟩, he⟩
      exact ⟨true, hbroken, report_eq_error_iff.mpr ⟨hshown, he⟩⟩

theorem lengthViolations_eq_error_iff {length : Value} {size : Nat} :
    lengthViolations length size = .error e ↔
      Unsayable length (.ok (!length.isNull && !length.same (.nat size))) ∧ e = .invalid := by
  rw [lengthViolations, Unsayable, Except.ok.injEq]
  split
  · rename_i hwrong
    rw [report_eq_error_iff, and_iff_right hwrong]
  · rename_i hwrong
    exact iff_of_false (by rintro ⟨⟩) fun h ↦ hwrong h.1.1

theorem boundViolations_eq_error_iff_of_isLimit (h : isLimit bound = true) (side : Side) (n : Int)
    (violation : Violation) (e : Fault) :
    boundViolations side (.int n) bound violation = .error e ↔
      Unsayable bound (side.isBroken (.int n) bound) ∧ e = .invalid := by
  rw [boundViolations_eq_error_iff]
  cases bound with
  | null => exact iff_of_false (fun h ↦ by cases h.1) fun h ↦ by cases h.1.2
  | bool | int | real => cases side <;> simp [Value.isNull, Side.isBroken, Value.lt, Value.number?]
  | _ => cases h

/-- A check finds that a bound is not kept, and cannot show the bound. -/
def Balks : FieldCheck → Value → Prop
  | .text minLength maxLength _, v => ∃ codes, v.codes? = some codes ∧
    (Unsayable minLength ((Value.nat codes.length).lt minLength) ∨
      Unsayable maxLength (maxLength.lt (.nat codes.length)))
  | .number minimum maximum, v =>
    Unsayable minimum (v.lt minimum) ∨ Unsayable maximum (maximum.lt v)
  | .bytes length, v => ∃ data, v.data? = some data ∧
    Unsayable length (.ok (!length.isNull && !length.same (.nat data.length)))
  | _, _ => False

/-- The pattern of a check matches a text, and the match contradicts itself. -/
def Twists : FieldCheck → Value → Prop
  | .text _ _ (some p), v => ∃ codes, v.codes? = some codes ∧
    Pattern.foundIn p codes = .error .inconsistent
  | _, _ => False

/-- A text that passes all bounds is to be written for its stops, and cannot be. -/
def Garbles : FieldCheck → Value → Prop
  | .text .., .unpaired _ => True
  | _, _ => False

theorem patternViolations_eq_error_iff {minLength maxLength : Value} {pattern : Option String}
    (h : ∀ p, pattern = some p → Pattern.isPattern p = .ok true) {codes : List Nat}
    (hv : v.codes? = some codes) (e : Fault) :
    patternViolations pattern codes = .error e ↔
      (text minLength maxLength pattern).Twists v ∧ e = .inconsistent := by
  cases pattern with
  | none => exact iff_of_false (by rintro ⟨⟩) fun h ↦ h.1
  | some p =>
    simp only [patternViolations, bind_pure_eq_error_iff, Twists, hv, Option.some.injEq,
      exists_eq_left']
    constructor
    · intro hfound
      have he := Pattern.foundIn_eq_error (h p rfl) hfound
      exact ⟨he ▸ hfound, he⟩
    · rintro ⟨hfound, rfl⟩
      exact hfound

theorem Regular.textViolations_eq_error_iff {minLength maxLength : Value} {pattern : Option String}
    (h : (text minLength maxLength pattern).Regular) {codes : List Nat} (hv : v.codes? = some codes)
    (e : Fault) :
    textViolations minLength maxLength pattern codes = .error e ↔
      (text minLength maxLength pattern).Balks v ∧ e = .invalid ∨
        ¬(text minLength maxLength pattern).Balks v ∧
          (text minLength maxLength pattern).Twists v ∧ e = .inconsistent := by
  have hpattern (a b : List Violation) (e : Fault) :
      (patternViolations pattern codes >>= fun c ↦ pure (a ++ b ++ c)) = .error e ↔
        (text minLength maxLength pattern).Twists v ∧ e = .inconsistent := by
    rw [bind_pure_eq_error_iff, patternViolations_eq_error_iff h.2.2 hv]
  have hbounds (e : Fault) := bind_eq_error_iff_of_forall
    (boundViolations_eq_error_iff_of_isLimit h.1 .below codes.length (.tooShort minLength))
    (fun a _ ↦ bind_eq_error_iff_of_forall
      (boundViolations_eq_error_iff_of_isLimit h.2.1 .above codes.length (.tooLong maxLength)) (hpattern a))
    (e := e)
  refine (hbounds e).trans ?_
  simp only [Balks, Side.isBroken, hv, Option.some.injEq, exists_eq_left', Value.nat]
  grind

theorem Regular.numberViolations_eq_error_iff {minimum maximum : Value}
    (h : (number minimum maximum).Regular) (n : Int) (e : Fault) :
    numberViolations minimum maximum (.int n) = .error e ↔
      (number minimum maximum).Balks (.int n) ∧ e = .invalid := by
  rw [numberViolations, bind_eq_error_iff_of_forall
    (boundViolations_eq_error_iff_of_isLimit h.1 .below _ _) fun a e ↦ by
      rw [bind_pure_eq_error_iff, boundViolations_eq_error_iff_of_isLimit h.2], Balks]
  simp only [Side.isBroken]
  grind

def Stumbles (c : FieldCheck) (v : Value) (e : Fault) : Prop :=
  c.Balks v ∧ e = .invalid ∨ ¬c.Balks v ∧
    (c.Twists v ∧ e = .inconsistent ∨ ¬c.Twists v ∧ c.Garbles v ∧ e = .unencodable)

/-- Only texts are matched, and have stops that cannot be looked for. -/
theorem stumbles_iff {c : FieldCheck} (htwists : c.Twists v ↔ False)
    (hgarbles : c.Garbles v ↔ False) : c.Stumbles v e ↔ c.Balks v ∧ e = .invalid := by
  simp [Stumbles, htwists, hgarbles]

theorem stopViolations_eq_error_iff :
    stopViolations stops v = .error e ↔ Wire.fault? v = some e := by
  rw [stopViolations, bind_pure_eq_error_iff, Wire.encode_eq_error_iff]

theorem Regular.violations_eq_error_iff {c : FieldCheck} (hc : c.Regular) (hv : c.Holds v) :
    c.violations true [] v = .error e ↔ c.Stumbles v e := by
  cases c with
  | text minLength maxLength pattern =>
    have hstops (found : List Violation) (e : Fault) :
        (stopViolations [] v >>= fun stopped ↦ pure ([] ++ found ++ stopped)) = .error e ↔
          (text minLength maxLength pattern).Garbles v ∧ e = .unencodable := by
      rw [bind_pure_eq_error_iff, stopViolations_eq_error_iff]
      cases v with
      | text => exact iff_of_false (by rintro ⟨⟩) fun h ↦ h.1
      | unpaired => simp [Garbles, Wire.fault?, eq_comm]
      | _ => exact hv.elim
    have hcodes : ∃ codes, v.codes? = some codes := by
      cases v with
      | text | unpaired => exact ⟨_, rfl⟩
      | _ => exact hv.elim
    obtain ⟨codes, hcodes⟩ := hcodes
    simp only [violations, hcodes, emptyViolations, if_true, pure_bind]
    rw [bind_eq_error_iff_of_faults (hc.textViolations_eq_error_iff hcodes) hstops, Stumbles]
    by_cases hbalks : (text minLength maxLength pattern).Balks v <;>
      by_cases htwists : (text minLength maxLength pattern).Twists v <;> simp [hbalks, htwists]
  | number minimum maximum =>
    cases v with
    | int n =>
      rw [violations, stopViolations_nil (Wire.fault?_int.mpr hv),
        stumbles_iff (by rfl) (by rfl), ← hc.numberViolations_eq_error_iff]
      exact bind_pure_eq_error_iff
    | _ => exact hv.elim
  | boolean =>
    cases v with
    | bool b =>
      rw [stumbles_iff (by rfl) (by rfl)]
      exact iff_of_false (by rintro ⟨⟩) fun h ↦ h.1
    | _ => exact hv.elim
  | choice values =>
    cases v with
    | text =>
      rw [stumbles_iff (by rfl) (by rfl), violations]
      split <;> exact iff_of_false (by rintro ⟨⟩) fun h ↦ h.1
    | unpaired =>
      rw [stumbles_iff (by rfl) (by rfl)]
      exact iff_of_false (by rintro ⟨⟩) fun h ↦ h.1
    | _ => exact hv.elim
  | bytes length =>
    cases v with
    | bytes | buffer =>
      rw [stumbles_iff (by rfl) (by rfl), violations_bytes rfl rfl,
        lengthViolations_eq_error_iff]
      simp [Balks, Value.data?]
    | _ => exact hv.elim

/-! ## Verdicts -/

def verdict (v : Value) : List FieldError → Coerced
  | [] => .ok v
  | first :: _ => .error first.violation.expected

theorem run_eq_map {c : FieldCheck} (h : c.Holds v) (name : String) :
    c.run name true [] v = (c.violations true [] v).map (List.map (⟨name, ·⟩)) := by
  rw [run, h.isNull_eq_false]
  cases c.violations true [] v <;> rfl

theorem map_eq_error_iff {α β : Type} {x : Except Fault α} {f : α → β} :
    x.map f = .error e ↔ x = .error e := by
  cases x <;> simp [Except.map]

/-- Of the values of a kind only the texts with a lone surrogate cannot be written. -/
theorem Holds.encode_eq_error_iff {c : FieldCheck} (h : c.Holds v) :
    Wire.encode v = .error e ↔ (∃ t, v = .unpaired t) ∧ e = .unencodable := by
  rw [Wire.encode_eq_error_iff]
  cases v with
  | unpaired t => simp [Wire.fault?, eq_comm]
  | int n =>
    cases c with
    | number => simp [Wire.fault?_int.mpr h]
    | _ => exact h.elim
  | text | bool | bytes | buffer => exact iff_of_false (by rintro ⟨⟩) (by rintro ⟨⟨_, ⟨⟩⟩, _⟩)
  | _ => cases c <;> exact h.elim

/-- Reading and checking are inverse to each other. What is written for a value is read as the value
if the check finds no errors; otherwise what is expected is what the first error says, and a fault
of the check is one of reading. There are three faults: of a bound with too many digits, of a
pattern whose match contradicts itself and of a text with a lone surrogate, which cannot be written
either. Whatever is read passes the check, and is written as it was read unless it is a number in
another spelling. -/
theorem coerce_inverts_run {c : FieldCheck} (hc : c.Regular) (name : String) :
    (∀ v, c.Holds v →
      (∀ raw, Wire.encode v = .ok raw →
        c.coerce raw = (c.run name true [] v).map (verdict v.frozen)) ∧
      (∀ e, Wire.encode v = .error e ↔ (∃ t, v = .unpaired t) ∧ e = .unencodable) ∧
      ∀ e, c.run name true [] v = .error e ↔ c.Stumbles v e) ∧
    ∀ raw v, c.coerce raw = .ok (.ok v) →
      c.Holds v ∧ c.run name true [] v = .ok [] ∧ (c.Canonical raw → Wire.encode v = .ok raw) := by
  refine ⟨fun v hv ↦ ⟨fun raw hraw ↦ ?_, fun e ↦ hv.encode_eq_error_iff, fun e ↦ ?_⟩,
    fun raw v h ↦ ?_⟩
  · -- Both sides are what the violations are mapped to.
    obtain ⟨hfault, rfl⟩ := Wire.encode_eq_ok_iff.mp hraw
    rw [run_eq_map hv, coerce_render_eq hv hfault]
    cases c.violations true [] v with
    | error e => rfl
    | ok found => cases found <;> rfl
  · rw [run_eq_map hv, map_eq_error_iff, hc.violations_eq_error_iff hv]
  · have hdemands := demands_of_coerce h
    refine ⟨hdemands.holds, run_eq_nil_iff.mpr (.inr ⟨hdemands, rfl, .inl rfl⟩), fun hraw ↦ ?_⟩
    exact Wire.encode_eq_ok_iff.mpr ⟨hdemands.fault?_eq_none, render_of_coerce h hraw⟩

/-- A digit other than zero: twelve is refused as the check refuses it, and what is read from a
spelling with zeros passes the check. -/
theorem coerce_inverts_run_digit :
    (number (.int 1) (.int 9)).Regular ∧
      (number (.int 1) (.int 9)).coerce (Wire.render (.int 12)) = .ok (.error "a number <= 9") ∧
      (number (.int 1) (.int 9)).run "digit" true [] (.int 7) = .ok [] := by
  have hregular : (number (.int 1) (.int 9)).Regular := ⟨rfl, rfl⟩
  obtain ⟨hwritten, hread⟩ := coerce_inverts_run hregular "digit"
  have hseven : (number (.int 1) (.int 9)).coerce (Utf8.ofString "007") = .ok (.ok (.int 7)) := by
    rw [coerce, readText_ofString]
    rfl
  exact ⟨hregular, (hwritten (.int 12) rfl).1 _ (by rfl), (hread _ _ hseven).2.1⟩

/-- A pattern with a match whose first group ends before it starts: a text that matches is neither
accepted nor refused, by the check or by reading. -/
theorem coerce_twisted_pattern :
    (text .null .null (some "(?:(?:(a)|b)(c))++")).Regular ∧
      (text .null .null (some "(?:(?:(a)|b)(c))++")).run "a" true [] (.text "acbc") =
        .error .inconsistent ∧
      (text .null .null (some "(?:(?:(a)|b)(c))++")).coerce (Utf8.ofString "acbc") =
        .error .inconsistent := by
  refine ⟨⟨rfl, rfl, ?_⟩, Fault.eq_error_of_faults (by decide +kernel),
    Fault.eq_error_of_faults (by decide +kernel)⟩
  rintro p ⟨⟩
  obtain ⟨b, hb, rfl⟩ := Fault.exists_of_gives (P := id)
    (x := Pattern.isPattern "(?:(?:(a)|b)(c))++") (by decide +kernel)
  exact hb

end FieldCheck

end TextProtocol
