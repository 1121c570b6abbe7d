import TextProtocol.Proofs.Codec.Defaults
import TextProtocol.Proofs.Field.Example

/-!
# Test domains and the checks of fields

Property tests draw the values of a field from its test domain and hand them to a serializer, which
checks them. All values that a domain describes pass the check, whatever the kind of the field, its
stops and its bounds. What makes this work is `Settled`: the stops of the field are not empty, and a
field that is read by width has none.

Bounds have to count as integers. A bound that is no integer is compared as a number when the domain
is made, but packages carry it as a text, and comparing with that is a fault.
-/

namespace TextProtocol

open Fault (bind_eq_ok_iff pure_eq_ok_iff mapError_eq_ok_iff gives exists_of_gives faults
  eq_error_of_faults)
open Value (isCountable eq_null_or_of_isCountable isNull_eq_false_of_integer? lt_of_integer?
  same_of_integer? eq_of_integer?)
open Domain (within_iff)

/-! ## Settled fields -/

/-- What the test domain of a field rests on. -/
structure Compiled.Field.Settled (f : Compiled.Field) : Prop where
  findings : ∃ own, Check.fieldFindings f.definition = .ok own ∧ ∀ x ∈ own, x.severity ≠ .error
  constraints_eq : Constraints.ofField f.definition = .ok f.constraints
  domain_eq : Domain.ofField f.definition f.constraints f.stops = .ok f.domain
  stops_ne : ∀ s ∈ f.stops, s ≠ ""
  stops_eq_nil : ∀ length, f.definition.type = some (.bytes length) → length.isNull = false →
    f.stops = []

theorem Compiled.settled_of_checks {source : Spec.Message} {found : List Diagnostic}
    (hfound : Check.ofMessage source = .ok found) (hsound : found.any (·.isError) = false)
    {fields : List Spec.Field} (hfields : Spec.itemsOf source.fields = .ok fields)
    {reading : Segment.Reading} (hreading : Segment.ofFormat source.format fields = .ok reading)
    {f : Compiled.Field} (hf : f.definition ∈ fields)
    (hconstraints : Constraints.ofField f.definition = .ok f.constraints)
    (hstops : f.stops = (Machine.ofSegments reading.segments (separator source.delimiter)
      (separator source.terminator)).stopsOf f.name)
    (hdomain : Domain.ofField f.definition f.constraints f.stops = .ok f.domain) : f.Settled := by
  obtain ⟨declared, format, names, hdeclared, hformat, -, hnodup, -, hown⟩ :=
    Check.ofMessage_spec hfound hsound
  rw [hfields, Except.ok.injEq] at hdeclared
  subst hdeclared
  obtain ⟨items, hitems⟩ : ∃ items, Segment.ofItems fields items = .ok reading := by
    rw [Segment.ofFormat.eq_def, hformat] at hreading
    dsimp only at hreading
    split at hreading
    · cases hreading
    · rename_i items _
      exact ⟨items, mapError_eq_ok_iff.mp hreading⟩
  have hstands := Segment.stands_ofItems hitems
  obtain ⟨hliteral, hsame⟩ := Segment.withoutTerminator_spec
    (Segment.separator? (separator source.terminator)) fun text ↦ hstands (.literal text)
  refine ⟨hown _ hf, hconstraints, hdomain, fun s hs ↦ ?_, fun length htype hnull ↦ ?_⟩
  · rw [hstops] at hs
    obtain ⟨g, rest, -, hsuffix, hs⟩ := Machine.exists_of_mem_stopsOf hs
    refine Extraction.ne_of_mem_stops_derive (Segment.separator?_ne _) (Segment.separator?_ne _)
      (fun text htext ↦ ?_) hs
    exact hliteral text (hsuffix.subset (List.mem_cons_of_mem _ htext))
  · rw [hstops]
    refine List.eq_nil_iff_forall_not_mem.mpr fun s hs ↦ ?_
    obtain ⟨g, rest, hname, hsuffix, hs⟩ := Machine.exists_of_mem_stopsOf hs
    -- The only field of that name is the one that is read by its length.
    have hg : g ∈ reading.segments.filterMap Segment.field? := by
      rw [← hsame]
      exact List.mem_filterMap.mpr ⟨_, hsuffix.subset List.mem_cons_self, rfl⟩
    obtain ⟨segment, hsegment, hfield⟩ := List.mem_filterMap.mp hg
    have heq : g = f.definition := by
      cases segment with
      | literal text => cases hfield
      | field h =>
        cases hfield
        exact List.inj_on_of_nodup_map hnodup (hstands (.field g) hsegment) hf hname
    rw [heq, Extraction.derive_of_bytes htype hnull] at hs
    cases hs

namespace Compiled.Field.Settled

variable {f : Compiled.Field} {length : Value}

theorem length_eq (h : f.Settled) (htype : f.definition.type = some (.bytes length)) :
    f.constraints.length = length := by
  have hc := h.constraints_eq
  rw [Constraints.ofField, htype, pure_eq_ok_iff] at hc
  rw [← hc]

theorem length_pos (h : f.Settled) (htype : f.definition.type = some (.bytes length)) {n : Int}
    (hn : length.integer? = some n) : 0 < n := by
  obtain ⟨own, hfindings, hsound⟩ := h.findings
  refine Check.fixedWidth_pos hfindings hsound ?_ hn
  rw [Spec.Field.fixedWidth?, htype]
  exact if_neg (by simp [isNull_eq_false_of_integer? hn])

/-- The search for an example of a settled field without a default ends well. -/
theorem endsWell (h : f.Settled) (hempty : f.domain.empty = false)
    (hpattern : ∀ p, f.constraints.pattern = some p → p = "")
    (hbounds : ∀ b ∈ f.constraints.length :: f.constraints.bounds, isCountable b = true)
    (hdefault : f.definition.defaultValue.isNull = true)
    (hmaximum : f.constraints.maximum ≠ .bool false) :
    Example.EndsWell f.domain f.definition.type
      (Example.ofField f.definition f.constraints f.domain) := by
  obtain ⟨own, hfindings, hsound⟩ := h.findings
  refine Example.endsWell_ofField h.domain_eq hempty hdefault hpattern
    (fun b hb ↦ hbounds b (List.mem_cons_of_mem _ hb)) hmaximum
    (fun n hn ↦ Check.lengths_nonneg hfindings hsound h.constraints_eq (.inl hn))
    fun length htype ↦ ?_
  refine ⟨?_, fun n ↦ h.length_pos htype⟩
  rw [← h.length_eq htype]
  exact hbounds _ List.mem_cons_self

end Compiled.Field.Settled

namespace Codec

variable {low high : Value} {stops : List String} {pattern : Option String}

/-! ## Bounds that are met -/

/-- An integer between two bounds, each of which is absent or counts as an integer. -/
def Between (low high : Value) (n : Int) : Prop :=
  (isCountable low = true ∧ ∀ k, low.integer? = some k → k ≤ n) ∧
    isCountable high = true ∧ ∀ k, high.integer? = some k → n ≤ k

theorem bounds_eq_nil_iff {n : Int} {bound : Value} (violation : Violation) :
    (FieldCheck.boundViolations .below (.int n) (carried bound) violation = .ok [] ↔
      isCountable bound = true ∧ ∀ k, bound.integer? = some k → k ≤ n) ∧
    (FieldCheck.boundViolations .above (.int n) (carried bound) violation = .ok [] ↔
      isCountable bound = true ∧ ∀ k, bound.integer? = some k → n ≤ k) := by
  cases hbound : isCountable bound with
  | true =>
    rw [carried_of_isCountable hbound, and_iff_right rfl, and_iff_right rfl]
    rcases eq_null_or_of_isCountable hbound with rfl | ⟨k, hk⟩
    · exact ⟨⟨fun _ k hk ↦ (by cases hk), fun _ ↦ rfl⟩, fun _ k hk ↦ (by cases hk), fun _ ↦ rfl⟩
    · have hn : (Value.int n).integer? = some n := rfl
      simp only [FieldCheck.boundViolations, FieldCheck.Side.isBroken,
        isNull_eq_false_of_integer? hk, lt_of_integer? hn hk, lt_of_integer? hk hn, hk]
      by_cases hlt : n < k <;> by_cases hgt : k < n <;> simp [hlt, hgt] <;> omega
  | false =>
    cases bound with
    | null | bool b | int k => cases hbound
    | _ => exact ⟨⟨fun h ↦ (by cases h), fun h ↦ (by cases h.1)⟩,
        fun h ↦ (by cases h), fun h ↦ (by cases h.1)⟩

theorem patternViolations_eq_nil (h : ∀ p, pattern = some p → p = "") (codes : List Nat) :
    FieldCheck.patternViolations pattern codes = .ok [] := by
  cases pattern with
  | none => rfl
  | some p =>
    rw [h p rfl, FieldCheck.patternViolations, Pattern.foundIn_empty]
    rfl

theorem numberViolations_eq_nil_iff {n : Int} :
    FieldCheck.numberViolations (carried low) (carried high) (.int n) = .ok [] ↔
      Between low high n := by
  rw [Between, ← (bounds_eq_nil_iff (.below (carried low))).1,
    ← (bounds_eq_nil_iff (.above (carried high))).2, FieldCheck.numberViolations, bind_eq_ok_iff]
  constructor
  · rintro ⟨below, hbelow, h⟩
    obtain ⟨above, habove, h⟩ := bind_eq_ok_iff.mp h
    rw [pure_eq_ok_iff, List.append_eq_nil_iff] at h
    exact ⟨h.1 ▸ hbelow, h.2 ▸ habove⟩
  · rintro ⟨hbelow, habove⟩
    exact ⟨[], hbelow, bind_eq_ok_iff.mpr ⟨[], habove, rfl⟩⟩

theorem between_of_textViolations {codes : List Nat}
    (h : FieldCheck.textViolations (carried low) (carried high) pattern codes = .ok []) :
    Between low high codes.length := by
  rw [FieldCheck.textViolations, bind_eq_ok_iff] at h
  obtain ⟨short, hshort, h⟩ := h
  obtain ⟨long, hlong, h⟩ := bind_eq_ok_iff.mp h
  obtain ⟨unmatched, -, h⟩ := bind_eq_ok_iff.mp h
  rw [pure_eq_ok_iff, List.append_eq_nil_iff, List.append_eq_nil_iff] at h
  rw [h.1.1] at hshort
  rw [h.1.2] at hlong
  exact ⟨(bounds_eq_nil_iff _).1.mp hshort, (bounds_eq_nil_iff _).2.mp hlong⟩

theorem textViolations_of_between {codes : List Nat} (hpattern : ∀ p, pattern = some p → p = "")
    (h : Between low high codes.length) :
    FieldCheck.textViolations (carried low) (carried high) pattern codes = .ok [] := by
  rw [FieldCheck.textViolations, Value.nat, (bounds_eq_nil_iff _).1.mpr h.1,
    (bounds_eq_nil_iff _).2.mpr h.2, patternViolations_eq_nil hpattern]
  rfl

/-! ## Described values -/

variable {f : Compiled.Field} {v : Value}

theorem accepts_iff_of_isNull (hnull : v.isNull = false) :
    Accepts f v ↔ (checkOf f).Demands v ∧
      FieldCheck.Fits f.definition.isRequired (stopsOf f) (Wire.render v) := by
  rw [Accepts, FieldCheck.run_eq_nil_iff, hnull]
  simp

/-- A text of the domain meets the bounds on its length, and is empty only if the field is
required. -/
theorem textViolations_of_within {required : Bool} {c : Constraints} {d : Domain}
    (hmin : isCountable c.minLength = true) (hmax : isCountable c.maxLength = true)
    (hpattern : ∀ p, c.pattern = some p → p = "") (hd : Domain.ofText required c stops = .ok d)
    {s : String} (hs : Domain.Within d.minSize d.maxSize s.length) :
    FieldCheck.textViolations (carried c.minLength) (carried c.maxLength) c.pattern
        (Text.codes s) = .ok [] ∧ (required = true ∨ s ≠ "") := by
  obtain ⟨-, low, high, hlow, hhigh, hlowEq, hhighEq, -⟩ := Domain.ofText_spec hmin hmax hd
  obtain ⟨hge, hle⟩ := (within_iff hlow hhigh).mp hs
  constructor
  · have hbelow : ∀ k, c.minLength.integer? = some k → k ≤ s.length := by
      intro k hk
      rw [hk, Option.getD_some] at hlowEq
      split at hlowEq <;> omega
    have habove : ∀ k, c.maxLength.integer? = some k → s.length ≤ k := by
      intro k hk
      rw [hk, Option.getD_some] at hhighEq
      omega
    rw [← Text.length_codes] at hbelow habove
    exact textViolations_of_between hpattern ⟨⟨hmin, hbelow⟩, hmax, habove⟩
  · cases required with
    | true => exact .inl rfl
    | false =>
      right
      rintro rfl
      rw [if_neg (by decide)] at hlowEq
      have : (("".length : Nat) : Int) = 0 := rfl
      omega

theorem isWritable_of_isShowable {bound : Value} (h : bound.isShowable = true) {n : Int}
    (hn : bound.integer? = some n) : Text.isWritable n = true := by
  obtain rfl | ⟨-, rfl⟩ | ⟨-, rfl⟩ := eq_of_integer? hn
  · exact h
  · decide
  · decide

/-- Between bounds that can be written, and the ones that stand in for them, all integers can be
written. -/
theorem isWritable_of_le (hlow : low.isShowable = true) (hhigh : high.isShowable = true) {n : Int}
    (hge : low.integer?.getD (-Domain.numberBound) ≤ n)
    (hle : n ≤ high.integer?.getD Domain.numberBound) : Text.isWritable n = true := by
  have hwritable {bound : Value} (h : bound.isShowable = true) {k : Int}
      (hk : Text.isWritable k = true) :
      Text.isWritable (bound.integer?.getD k) = true := by
    cases hbound : bound.integer? with
    | none => exact hk
    | some m => exact isWritable_of_isShowable h hbound
  have hleast := hwritable hlow (show Text.isWritable (-Domain.numberBound) = true by decide)
  have hgreatest := hwritable hhigh (show Text.isWritable Domain.numberBound = true by decide)
  rcases Int.le_total 0 n with hpos | hneg
  · exact FieldCheck.isWritable_of_natAbs_le (by omega) hgreatest
  · exact FieldCheck.isWritable_of_natAbs_le (by omega) hleast

/-- A number of the domain meets its bounds, is spelled in safe characters, and can be written if
the bounds can. -/
theorem numberViolations_of_within {c : Constraints} {d : Domain}
    (hmin : isCountable c.minimum = true) (hmax : isCountable c.maximum = true)
    (hd : Domain.ofNumber c stops = .ok d) (hempty : d.empty = false) {n : Int}
    (hn : Domain.Within d.minimum d.maximum n) :
    FieldCheck.numberViolations (carried c.minimum) (carried c.maximum) (.int n) = .ok [] ∧
      (∀ c ∈ (toString n).toList, Domain.IsSafe stops c) ∧
      (c.minimum.isShowable = true → c.maximum.isShowable = true →
        Text.isWritable n = true) := by
  obtain ⟨-, hhigh, low, hlow, hleast, hminus, hrange⟩ := Domain.ofNumber_spec hmin hmax hd
  obtain ⟨hge, hle⟩ := (within_iff hlow hhigh).mp hn
  have hge := Int.le_trans hleast hge
  refine ⟨?_, ?_, fun hminimum hmaximum ↦ isWritable_of_le hminimum hmaximum hge hle⟩
  · have hbelow : ∀ k, c.minimum.integer? = some k → k ≤ n := by
      intro k hk
      rwa [hk, Option.getD_some] at hge
    have habove : ∀ k, c.maximum.integer? = some k → n ≤ k := by
      intro k hk
      rwa [hk, Option.getD_some] at hle
    exact numberViolations_eq_nil_iff.mpr ⟨⟨hmin, hbelow⟩, hmax, habove⟩
  · refine Domain.isSafe_of_mem_toString (hrange hempty).2 fun hneg ↦ ?_
    cases hbanned : Domain.isBanned stops '-' with
    | false => rfl
    | true =>
      have := hminus hbanned
      omega

theorem hiddenStop?_of_textHidesStop {text : String} (h : Domain.textHidesStop text stops = false) :
    Wire.hiddenStop? (Utf8.ofString text) (stops.map Utf8.ofString) = none := by
  simpa [Domain.textHidesStop, Domain.hidesStop] using h

/-- Whether the values of a field are words of its own, and not made of safe characters. -/
def isWorded (f : Compiled.Field) : Bool :=
  match f.definition.type with
  | some .boolean | some (.enum _) => true
  | _ => false

/-- The values that the domain of a field describes avoid its stops, unless they are words. -/
theorem avoids_of_describes (h : f.Settled) (hempty : f.domain.empty = false)
    (hbounds : ∀ b ∈ f.constraints.length :: f.constraints.bounds, isCountable b = true)
    (hword : isWorded f = false) (hv : f.domain.Describes f.definition.type v) :
    ∀ s ∈ stopsOf f, Wire.Avoids (Wire.render v) s := by
  have hd := h.domain_eq
  rw [Domain.ofField] at hd
  rw [isWorded] at hword
  simp only [Constraints.bounds, List.forall_mem_cons] at hbounds
  obtain ⟨-, hminLength, hmaxLength, hminimum, hmaximum, -⟩ := hbounds
  cases htype : f.definition.type with
  | none =>
    rw [htype] at hd
    cases hd
  | some t =>
    rw [htype] at hd hv hword
    cases t with
    | string limit =>
      cases v with
      | text s =>
        have hchars := hv.1
        rw [(Domain.ofText_spec hminLength hmaxLength hd).1] at hchars
        have hsafe := fun c hc ↦ Domain.isSafe_of_mem_safeAlphabet (hchars c hc)
        exact Domain.avoids_of_subset h.stops_ne hsafe (List.Subset.refl _)
      | _ => exact hv.elim
    | number low high =>
      cases v with
      | int n =>
        have hsafe := (numberViolations_of_within hminimum hmaximum hd hempty hv).2.1
        exact Domain.avoids_of_subset h.stops_ne hsafe (List.Subset.refl _)
      | _ => exact hv.elim
    | boolean => cases hword
    | enum values => cases hword
    | bytes length =>
      cases v with
      | bytes data =>
        cases hnull : length.isNull with
        | true =>
          have hbytes := hv.1 hnull
          have halphabet : f.domain.alphabet = Domain.safeAlphabet f.stops := by
            rw [← Except.ok.inj hd, Domain.ofBytes, if_pos hnull]
          rw [halphabet] at hbytes
          have hsafe : ∀ c ∈ (Domain.safeAlphabet f.stops).toList, Domain.IsSafe f.stops c :=
            fun c ↦ Domain.isSafe_of_mem_safeAlphabet
          exact Domain.avoids_of_subset h.stops_ne hsafe hbytes
        | false =>
          -- Bytes of a given length are read by it, and may be any.
          rw [stopsOf, h.stops_eq_nil length htype hnull]
          exact fun s hs ↦ absurd hs List.not_mem_nil
      | _ => exact hv.elim

/-- Bytes of the domain have the length that is asked for, and are empty only if the field is
required. -/
theorem length_of_describes {required : Bool} {length : Value} (hcount : isCountable length = true)
    (hpos : ∀ n, length.integer? = some n → 0 < n) {data : Bytes}
    (hdata : (Domain.ofBytes required length stops).Describes (some (.bytes length))
      (.bytes data)) :
    (length.isNull = true ∨ length.same (.nat data.length) = true) ∧
      (required = true ∨ data ≠ []) := by
  have hwithin := hdata.2
  rcases eq_null_or_of_isCountable hcount with rfl | ⟨n, hn⟩
  · refine ⟨.inl rfl, ?_⟩
    cases required with
    | true => exact .inl rfl
    | false =>
      right
      rintro rfl
      have hshort : Value.lt (.int 0) (.int 1) = .ok false := hwithin.1
      exact absurd hshort (by decide)
  · rw [Domain.ofBytes, isNull_eq_false_of_integer? hn] at hwithin
    obtain ⟨hge, hle⟩ := (within_iff hn hn).mp hwithin
    have hlength : (Value.nat data.length).integer? = some (data.length : Int) := rfl
    have := hpos n hn
    refine ⟨.inr ?_, .inr ?_⟩
    · rw [same_of_integer? hn hlength, beq_iff_eq]
      omega
    · rintro rfl
      rw [List.length_nil] at hge
      omega

/-- The values that the domain of a field describes pass its check. -/
theorem accepts_of_describes (h : f.Settled) (hempty : f.domain.empty = false)
    (hpattern : ∀ p, f.constraints.pattern = some p → p = "")
    (hbounds : ∀ b ∈ f.constraints.length :: f.constraints.bounds, isCountable b = true)
    (hv : f.domain.Describes f.definition.type v) (hwritten : Wire.fault? v = none) :
    Accepts f v := by
  have hfree (hword : isWorded f = false) : Wire.hiddenStop? (Wire.render v) (stopsOf f) = none :=
    Wire.hiddenStop?_of_avoids (avoids_of_describes h hempty hbounds hword hv)
  have hd := h.domain_eq
  rw [Domain.ofField] at hd
  rw [isWorded] at hfree
  simp only [Constraints.bounds, List.forall_mem_cons] at hbounds
  obtain ⟨hlength, hminLength, hmaxLength, hminimum, hmaximum, -⟩ := hbounds
  cases htype : f.definition.type with
  | none =>
    rw [htype] at hd
    cases hd
  | some t =>
    rw [htype] at hd hv hfree
    cases t with
    | string limit =>
      cases v with
      | text s =>
        obtain ⟨hviolations, hne⟩ :=
          textViolations_of_within hminLength hmaxLength hpattern hd hv.2
        rw [accepts_iff_of_isNull rfl, checkOf, htype]
        exact ⟨hviolations, hfree rfl, hne.imp_right FieldCheck.ofString_ne_nil⟩
      | _ => exact hv.elim
    | number low high =>
      cases v with
      | int n =>
        have hviolations := (numberViolations_of_within hminimum hmaximum hd hempty hv).1
        rw [accepts_iff_of_isNull rfl, checkOf, htype]
        exact ⟨⟨hviolations, Wire.fault?_int.mp hwritten⟩, hfree rfl,
          .inr (FieldCheck.render_int_ne_nil n)⟩
      | _ => exact hv.elim
    | boolean =>
      cases v with
      | bool b =>
        rw [← Except.ok.inj hd, List.any_eq_false] at hempty
        have hword {word : String} (hmem : word ∈ Domain.booleanWords) :=
          hiddenStop?_of_textHidesStop (eq_false_of_ne_true (hempty word hmem))
        rw [accepts_iff_of_isNull rfl, checkOf, htype]
        refine ⟨trivial, ?_⟩
        cases b with
        | true => exact ⟨hword (by decide), .inr (by decide)⟩
        | false => exact ⟨hword (by decide), .inr (by decide)⟩
      | _ => exact hv.elim
    | enum values =>
      cases v with
      | text s =>
        have hmem : s ∈ f.domain.values := hv
        rw [← Except.ok.inj hd, List.mem_filter, Bool.and_eq_true, Bool.not_eq_true',
          Bool.not_eq_true', String.isEmpty_eq_false_iff] at hmem
        obtain ⟨hvalue, hne, hhidden⟩ := hmem
        rw [accepts_iff_of_isNull rfl, checkOf, htype]
        exact ⟨List.contains_iff_mem.mpr hvalue, hiddenStop?_of_textHidesStop hhidden,
          .inr (FieldCheck.ofString_ne_nil hne)⟩
      | _ => exact hv.elim
    | bytes length =>
      cases v with
      | bytes data =>
        rw [← Except.ok.inj hd] at hv
        rw [h.length_eq htype] at hlength
        obtain ⟨hsize, hne⟩ := length_of_describes hlength (fun n ↦ h.length_pos htype) hv
        have hcheck : checkOf f = .bytes length := by
          rw [checkOf, htype]
          dsimp only
          rw [h.length_eq htype, carried_of_isCountable hlength]
        rw [accepts_iff_of_isNull rfl, hcheck]
        exact ⟨hsize, hfree rfl, hne⟩
      | _ => exact hv.elim

/-- The bounds of a field some value of which meets its demands count as integers. -/
theorem isCountable_of_demands (hc : Constraints.ofField f.definition = .ok f.constraints)
    (hv : (checkOf f).Demands v) :
    ∀ b ∈ f.constraints.length :: f.constraints.bounds, isCountable b = true := by
  have hnull : isCountable .null = true := rfl
  rw [Constraints.ofField] at hc
  rw [checkOf] at hv
  cases htype : f.definition.type with
  | none =>
    rw [htype] at hc
    cases hc
  | some t =>
    rw [htype] at hc hv
    cases t with
    | string limit =>
      obtain ⟨maxLength, -, hc⟩ := bind_eq_ok_iff.mp hc
      rw [pure_eq_ok_iff] at hc
      cases v with
      | text s =>
        have hbetween := between_of_textViolations hv
        rw [← hc] at hbetween ⊢
        simp [Constraints.bounds, hnull, hbetween.1.1, hbetween.2.1]
      | _ => exact hv.elim
    | number low high =>
      obtain ⟨minimum, -, hc⟩ := bind_eq_ok_iff.mp hc
      obtain ⟨maximum, -, hc⟩ := bind_eq_ok_iff.mp hc
      rw [pure_eq_ok_iff] at hc
      cases v with
      | int n =>
        have hbetween := numberViolations_eq_nil_iff.mp hv.1
        rw [← hc] at hbetween ⊢
        simp [Constraints.bounds, hnull, hbetween.1.1, hbetween.2.1]
      | _ => exact hv.elim
    | boolean | enum values =>
      rw [pure_eq_ok_iff] at hc
      rw [← hc]
      simp [Constraints.bounds, hnull]
    | bytes length =>
      rw [pure_eq_ok_iff] at hc
      have hlength : isCountable f.constraints.length = true := by
        cases hgiven : f.constraints.length.isNull with
        | true => rw [isCountable, hgiven, Bool.true_or]
        | false =>
          have hinteger : ∃ n, f.constraints.length.integer? = some n := by
            cases v with
            | bytes data | buffer data => exact ⟨_, integer?_of_carried hgiven hv⟩
            | _ => exact hv.elim
          obtain ⟨n, hn⟩ := hinteger
          rw [isCountable, hn, Option.isSome_some, Bool.or_true]
      rw [← hc] at hlength ⊢
      simpa [Constraints.bounds, hnull] using hlength

/-- The values that the domain of a field describes can be written if its bounds can. -/
theorem fault?_of_describes (h : f.Settled) (hempty : f.domain.empty = false)
    (hbounds : ∀ b ∈ f.constraints.length :: f.constraints.bounds, isCountable b = true)
    (hshown : ∀ b ∈ f.constraints.bounds, b.isShowable = true)
    (hv : f.domain.Describes f.definition.type v) : Wire.fault? v = none := by
  obtain hwritten | ⟨n, low, high, rfl, htype, hn⟩ := hv.fault?_eq_none_or
  · exact hwritten
  · have hd := h.domain_eq
    rw [Domain.ofField, htype] at hd
    simp only [Constraints.bounds, List.forall_mem_cons] at hbounds hshown
    obtain ⟨-, -, -, hminimum, hmaximum, -⟩ := hbounds
    obtain ⟨-, -, hlow, hhigh, -⟩ := hshown
    have hwritable := (numberViolations_of_within hminimum hmaximum hd hempty hn).2.2
    exact Wire.fault?_int.mpr (hwritable hlow hhigh)

/-! ## Domains of messages without errors -/

/-- For every field of a message without errors, with the constraints and the stops it has there, no
pattern, and a domain that is not empty: a value that the domain describes passes the check of the
field exactly if the bounds of the field count as integers and the value can be written, as it can
if the bounds can. If the bounds count as integers and there is no default, the search for an
example ends well, but for an upper bound of numbers that is a truth value, which is then the
example. -/
theorem accepts_described_iff {source : Spec.Message} {found : List Diagnostic}
    (hfound : Check.ofMessage source = .ok found) (hsound : found.any (·.isError) = false)
    {fields : List Spec.Field} (hfields : Spec.itemsOf source.fields = .ok fields)
    {reading : Segment.Reading} (hreading : Segment.ofFormat source.format fields = .ok reading)
    {f : Compiled.Field} (hf : f.definition ∈ fields)
    (hconstraints : Constraints.ofField f.definition = .ok f.constraints)
    (hstops : f.stops = (Machine.ofSegments reading.segments (Compiled.separator source.delimiter)
      (Compiled.separator source.terminator)).stopsOf f.name)
    (hdomain : Domain.ofField f.definition f.constraints f.stops = .ok f.domain)
    (hempty : f.domain.empty = false) (hpattern : ∀ p, f.constraints.pattern = some p → p = "") :
    (∀ v, f.domain.Describes f.definition.type v →
      (Accepts f v ↔ (∀ b ∈ f.constraints.length :: f.constraints.bounds, isCountable b = true) ∧
        Wire.fault? v = none)) ∧
    ((∀ b ∈ f.constraints.length :: f.constraints.bounds, isCountable b = true) →
      (∀ v, f.domain.Describes f.definition.type v →
        (∀ b ∈ f.constraints.bounds, b.isShowable = true) → Wire.fault? v = none) ∧
      (f.definition.defaultValue.isNull = true →
        (f.constraints.maximum ≠ .bool false → Example.EndsWell f.domain f.definition.type
          (Example.ofField f.definition f.constraints f.domain)) ∧
        (f.constraints.maximum = .bool false →
          Example.ofField f.definition f.constraints f.domain = .ok (.ok (.bool false))))) := by
  have hsettled := Compiled.settled_of_checks hfound hsound hfields hreading hf hconstraints hstops
    hdomain
  refine ⟨fun v hv ↦ ⟨fun haccepts ↦ ?_, fun h ↦ ?_⟩, fun hbounds ↦ ⟨fun v hv hshown ↦ ?_,
    fun hdefault ↦ ⟨fun hmaximum ↦ ?_, fun hmaximum ↦ ?_⟩⟩⟩
  · have hdemands := ((accepts_iff_of_isNull hv.isNull_eq_false).mp haccepts).1
    exact ⟨isCountable_of_demands hconstraints hdemands, hdemands.fault?_eq_none⟩
  · exact accepts_of_describes hsettled hempty hpattern h.1 hv h.2
  · exact fault?_of_describes hsettled hempty hbounds hshown hv
  · exact hsettled.endsWell hempty hpattern hbounds hdefault hmaximum
  · exact Example.ofField_of_false hconstraints hdomain hempty hdefault
      (hbounds _ (by simp [Constraints.bounds])) hmaximum

/-- A line of a number, a text that may be absent and another number, with commas between them. -/
def labelLine : Spec.Message :=
  Compiled.positionLine "\x7bx\x7d\x7blabel\x7d\x7bz\x7d" (some ",") .null

theorem accepts_described_iff_label :
    ∃ found, Check.ofMessage labelLine = .ok found ∧ found.any (·.isError) = false ∧
      ∃ f : Compiled.Field, f.definition.isRequired = false ∧ f.stops = [",", "\r\n"] ∧
        f.domain.Describes f.definition.type (.text "ab") ∧ Accepts f (.text "ab") ∧
        Example.EndsWell f.domain f.definition.type
          (Example.ofField f.definition f.constraints f.domain) := by
  obtain ⟨found, hfound, h⟩ : ∃ found, Check.ofMessage labelLine = .ok found ∧
      (!found.any (·.isError) &&
        gives (Spec.itemsOf labelLine.fields) fun fields ↦
        gives (Segment.ofFormat labelLine.format fields) fun reading ↦
        fields.any fun d ↦ gives (Constraints.ofField d) fun c ↦
          decide ([",", "\r\n"] = (Machine.ofSegments reading.segments
            (Compiled.separator labelLine.delimiter)
            (Compiled.separator labelLine.terminator)).stopsOf d.name) &&
          gives (Domain.ofField d c [",", "\r\n"]) fun domain ↦
            !d.isRequired && !domain.empty && c.pattern.isNone && d.defaultValue.isNull &&
            c.maximum.isNull && (c.length :: c.bounds).all isCountable && d.isString &&
            "ab".toList.all domain.alphabet.toList.contains &&
            decide (Domain.Within domain.minSize domain.maxSize "ab".length)) = true :=
    exists_of_gives (by decide +kernel)
  simp only [Bool.and_eq_true, Bool.not_eq_true'] at h
  obtain ⟨hsound, h⟩ := h
  obtain ⟨fields, hfields, h⟩ := exists_of_gives h
  obtain ⟨reading, hreading, h⟩ := exists_of_gives h
  obtain ⟨d, hd, h⟩ := List.any_eq_true.mp h
  obtain ⟨c, hc, h⟩ := exists_of_gives h
  rw [Bool.and_eq_true, decide_eq_true_iff] at h
  obtain ⟨hstops, h⟩ := h
  obtain ⟨domain, hdomain, h⟩ := exists_of_gives h
  simp only [Bool.and_eq_true, Bool.not_eq_true', decide_eq_true_iff] at h
  obtain ⟨⟨⟨⟨⟨⟨⟨⟨hoptional, hempty⟩, hpattern⟩, hdefault⟩, hmaximum⟩, hbounds⟩, hstring⟩, hmembers⟩,
    hwithin⟩ := h
  have hbounds := List.all_eq_true.mp hbounds
  obtain ⟨haccepts, hexample⟩ := accepts_described_iff hfound hsound hfields hreading
    (f := { definition := d, constraints := c, stops := [",", "\r\n"], domain }) hd hc hstops
    hdomain hempty (by simp [Option.isNone_iff_eq_none.mp hpattern])
  have hdescribes : domain.Describes d.type (.text "ab") := by
    obtain ⟨limit, htype⟩ := Spec.Field.exists_of_isString hstring
    rw [htype]
    exact ⟨fun ch hch ↦ List.contains_iff_mem.mp (List.all_eq_true.mp hmembers ch hch), hwithin⟩
  refine ⟨found, hfound, hsound, _, hoptional, rfl, hdescribes,
    (haccepts _ hdescribes).mpr ⟨hbounds, rfl⟩, ((hexample hbounds).2 hdefault).1 fun hfalse ↦ ?_⟩
  have hnull : (Value.bool false).isNull = true := hfalse ▸ hmaximum
  cases hnull

/-- A bound that is no integer: the domain describes a number that the check of its field does not
get to compare. -/
theorem mismatch_of_described_number :
    ∃ p, Compiled.compile (Compiled.numberSpec (.real (.ofDecimal false 15 (-1)))) = .ok p ∧
      ∃ m ∈ p.messages, ∃ f ∈ m.fields, f.domain.empty = false ∧ f.constraints.pattern = none ∧
        f.domain.Describes f.definition.type (.int 2) ∧
        (checkOf f).run (f.name.getD "") f.definition.isRequired (stopsOf f) (.int 2) =
          .error .mismatch := by
  obtain ⟨p, hp, h⟩ : ∃ p,
      Compiled.compile (Compiled.numberSpec (.real (.ofDecimal false 15 (-1)))) = .ok p ∧
      (p.messages.any fun m ↦ m.fields.any fun f ↦
        !f.domain.empty && f.constraints.pattern.isNone && f.definition.isNumber &&
        decide (Domain.Within f.domain.minimum f.domain.maximum 2) &&
        faults ((checkOf f).run (f.name.getD "") f.definition.isRequired (stopsOf f) (.int 2))
          .mismatch) = true :=
    exists_of_gives (by decide +kernel)
  obtain ⟨m, hm, h⟩ := List.any_eq_true.mp h
  obtain ⟨f, hf, h⟩ := List.any_eq_true.mp h
  simp only [Bool.and_eq_true, Bool.not_eq_true', Option.isNone_iff_eq_none,
    decide_eq_true_iff] at h
  obtain ⟨⟨⟨⟨hempty, hpattern⟩, hnumber⟩, hwithin⟩, hrun⟩ := h
  obtain ⟨low, high, htype⟩ := Spec.Field.exists_of_isNumber hnumber
  refine ⟨p, hp, m, hm, f, hf, hempty, hpattern, ?_, eq_error_of_faults hrun⟩
  rw [htype]
  exact hwithin

end Codec

end TextProtocol
