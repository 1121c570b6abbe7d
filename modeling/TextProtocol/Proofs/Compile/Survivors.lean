import TextProtocol.Proofs.Compile.Checks
import TextProtocol.Proofs.Compile.Sample
import TextProtocol.Proofs.Field.Example

/-!
# The messages of a compiled protocol

A protocol is compiled from the messages in which nothing is wrong, in their order, and each of them
comes out as it would alone; the others are dropped. A specification is refused if it has an error
as a whole or if no message is left, and then everything that was found is reported.

That is not all that can happen. A check fails if a field makes it fail, and a message in which
nothing is wrong does not compile if it is `Overgrown` or `Unwritable`: the example for one of its
fields would be longer than texts get, or has no bytes. `compile_outcome` tells the cases apart for
all well-typed specifications.
-/

namespace TextProtocol

open Fault (bind_eq_ok_iff pure_eq_ok_iff bind_pure_eq_error_iff mapM_eq_ok_iff
  exists_of_mem_items exists_of_mem_results exists_of_mapM_eq_error map_results_eq)
open Value (eq_null_or_of_isCountable integer?_int isNull_eq_false_of_integer? lt_of_integer?
  same_of_integer? exists_max_of_integer? exists_min_of_integer? integer?_orElse
  integer?_ite_isNull)
open Check (Countable Flawless)
open Example (sizeLimit)

/-! ## Domains -/

namespace Domain

variable {c : Constraints}

theorem exists_ofLeastSize (stops : List String) {minSize : Value} {low : Int}
    (hlow : minSize.integer? = some low) (hc : Countable c) :
    ∃ d, ofLeastSize c stops minSize = .ok d := by
  obtain ⟨maxSize, hmaxSize, hhigh⟩ := exists_min_of_integer?
    (integer?_ite_isNull hc.maxLength (low + sizeSlack)) (integer?_int (low + sizeSlack))
  rw [ofLeastSize, plus_of_integer? hlow]
  change ∃ d, (Value.min _ (.int (low + sizeSlack)) >>= fun maxSize ↦ _) = .ok d
  rw [hmaxSize]
  change ∃ d, (maxSize.lt minSize >>= fun crossed ↦ _) = .ok d
  rw [lt_of_integer? hhigh hlow, lt_of_integer? (integer?_int 0) hlow]
  by_cases hcrossed : min (c.maxLength.integer?.getD (low + sizeSlack)) (low + sizeSlack) < low
  · rw [decide_eq_true hcrossed]
    exact ⟨_, rfl⟩
  · rw [decide_eq_false hcrossed]
    exact ⟨_, rfl⟩

theorem exists_ofText (required : Bool) (stops : List String) (hc : Countable c) :
    ∃ d, ofText required c stops = .ok d := by
  have hleast := integer?_orElse hc.minLength
  rw [ofText_eq]
  cases required with
  | true => exact exists_ofLeastSize stops hleast hc
  | false =>
    obtain ⟨minSize, hminSize, hlow⟩ := exists_max_of_integer? hleast (integer?_int 1)
    rw [if_neg (by decide), hminSize]
    exact exists_ofLeastSize stops hlow hc

theorem exists_ofNumber (stops : List String) (hc : Countable c) :
    ∃ d, ofNumber c stops = .ok d := by
  have hleast := integer?_ite_isNull hc.minimum (-numberBound)
  have hhigh := integer?_ite_isNull hc.maximum numberBound
  rw [ofNumber]
  split
  · obtain ⟨v, hv, hmax⟩ := exists_max_of_integer? hleast (integer?_int 0)
    rw [hv]
    change ∃ d, (Value.lt _ v >>= fun empty ↦ _) = .ok d
    rw [lt_of_integer? hhigh hmax]
    exact ⟨_, rfl⟩
  · change ∃ d, (Value.lt _ _ >>= fun empty ↦ _) = .ok d
    rw [lt_of_integer? hhigh hleast]
    exact ⟨_, rfl⟩

/-- A field whose bounds count as integers has a domain. -/
theorem exists_ofField {f : Spec.Field} (hf : f.isWellTyped = true) (hc : Countable c)
    (stops : List String) : ∃ d, ofField f c stops = .ok d := by
  obtain ⟨t, htype, -⟩ := f.exists_type hf
  rw [ofField, htype]
  cases t with
  | string limit => exact exists_ofText f.isRequired stops hc
  | number low high => exact exists_ofNumber stops hc
  | boolean => exact ⟨_, rfl⟩
  | enum values => exact ⟨_, rfl⟩
  | bytes length => exact ⟨_, rfl⟩

end Domain

/-! ## Examples -/

namespace Example

variable {c : Constraints} {d : Domain} {e : Fault}

theorem size_nonneg {least limit : Option Int} (hlimit : ∀ n, limit = some n → 0 ≤ n) :
    0 ≤ limit.elim (max (least.getD 0) 1) (min (max (least.getD 0) 1)) := by
  cases limit with
  | none =>
    rw [Option.elim_none]
    omega
  | some k =>
    have := hlimit k rfl
    rw [Option.elim_some]
    omega

/-- The size of an example text is beyond those of texts only if the least length is. -/
theorem sizeLimit_le_iff {least limit : Option Int}
    (hle : ∀ a b, least = some a → limit = some b → a ≤ b) :
    sizeLimit ≤ limit.elim (max (least.getD 0) 1) (min (max (least.getD 0) 1)) ↔
      ∃ n, least = some n ∧ sizeLimit ≤ n := by
  have hone : 1 < sizeLimit := by decide
  cases least with
  | none =>
    refine iff_of_false ?_ (by rintro ⟨_, ⟨⟩, -⟩)
    cases limit <;> simp <;> omega
  | some a =>
    simp only [Option.getD_some, Option.some.injEq, exists_eq_left']
    cases limit with
    | none =>
      rw [Option.elim_none]
      omega
    | some b =>
      have := hle a b rfl rfl
      rw [Option.elim_some]
      omega

/-- An example text of a size fails only if the size is beyond those of texts. -/
theorem ofSize_eq_error_iff {required : Bool} {first : Char} {size : Value} {n : Int}
    (hn : size.integer? = some n) (hnonneg : 0 ≤ n) :
    ofSize required first size = .error e ↔ e = .overflow ∧ sizeLimit ≤ n := by
  rw [ofSize, same_of_integer? hn (integer?_int 0), repetitions_of_integer? hn hnonneg]
  by_cases hshort : n < sizeLimit
  · rw [if_pos hshort]
    refine iff_of_false ?_ (by omega)
    split
    · rintro ⟨⟩
    · rintro ⟨⟩
  · have hpos : (n == 0) = false := by
      have : 0 < sizeLimit := by decide
      rw [beq_eq_false_iff_ne]
      omega
    rw [hpos, if_neg hshort, and_iff_left (Int.not_lt.mp hshort)]
    exact ⟨fun h ↦ (Except.error.inj h).symm, fun h ↦ h ▸ rfl⟩

/-- The search for an example text fails only if there is no pattern, some character is safe and the
least length is beyond the sizes of texts. -/
theorem ofText_eq_error_iff {required : Bool} (hc : Countable c)
    (hnonneg : ∀ n, c.maxLength.integer? = some n → 0 ≤ n)
    (hle : ∀ a b, c.minLength.integer? = some a → c.maxLength.integer? = some b → a ≤ b) :
    ofText required c d = .error e ↔ e = .overflow ∧ c.pattern.getD "" = "" ∧ d.alphabet ≠ "" ∧
      ∃ n, c.minLength.integer? = some n ∧ sizeLimit ≤ n := by
  by_cases hpattern : c.pattern.getD "" = ""
  · have hempty : ∀ p, c.pattern = some p → p = "" := by
      intro p hp
      rwa [hp] at hpattern
    cases halphabet : d.alphabet.toList with
    | nil =>
      rw [ofText_of_nil hempty halphabet]
      refine iff_of_false (by rintro ⟨⟩) ?_
      rintro ⟨-, -, hne, -⟩
      exact hne (String.toList_inj.mp halphabet)
    | cons first rest =>
      have hne : d.alphabet ≠ "" := by
        intro hnil
        rw [hnil] at halphabet
        cases halphabet
      obtain ⟨size, htext, hsize⟩ :=
        exists_ofSize required hc.minLength hc.maxLength hempty halphabet
      rw [htext, ofSize_eq_error_iff hsize (size_nonneg hnonneg), sizeLimit_le_iff hle]
      simp only [hpattern, ne_eq, hne, not_false_eq_true, true_and]
  · have hany : c.pattern.any (!·.isEmpty) = true := by
      cases hp : c.pattern with
      | none =>
        rw [hp] at hpattern
        exact absurd rfl hpattern
      | some p =>
        rw [hp] at hpattern
        simpa using hpattern
    rw [ofText, hany]
    exact iff_of_false (by rintro ⟨⟩) fun h ↦ hpattern h.2.1

/-- Example bytes of a length fail only if it is beyond the sizes of texts. -/
theorem ofLength_eq_error_iff {length : Value} {n : Int} (hn : length.integer? = some n)
    (hpos : 0 < n) : ofLength length = .error e ↔ e = .overflow ∧ sizeLimit ≤ n := by
  rcases ofLength_spec hn hpos with ⟨data, hdata, -, hshort⟩ | ⟨hfault, hlarge⟩
  · rw [hdata]
    exact iff_of_false (by rintro ⟨⟩) (by omega)
  · rw [hfault, and_iff_left hlarge]
    exact ⟨fun h ↦ (Except.error.inj h).symm, fun h ↦ h ▸ rfl⟩

end Example

/-- A field whose example would be longer than texts get: it has no default, and it is a text of a
least length beyond their sizes, without a pattern but with a character that is safe, or it is bytes
of such a length. -/
inductive Oversized (stops : List String) (f : Spec.Field) : Prop
  | text {limit : Value} {n : Int} (htype : f.type = some (.string limit))
      (hdefault : f.defaultValue.isNull = true) (hpattern : f.pattern = "")
      (hsafe : Domain.safeAlphabet stops ≠ "")
      (hn : (f.rule.getD {}).minLength.integer? = some n) (hlarge : sizeLimit ≤ n)
  | bytes {length : Value} {n : Int} (htype : f.type = some (.bytes length))
      (hn : length.integer? = some n) (hlarge : sizeLimit ≤ n)

section Oversized

variable {stops : List String} {f : Spec.Field}

theorem not_oversized {t : Spec.FieldType} (htype : f.type = some t)
    (hstring : ∀ limit, t ≠ .string limit) (hbytes : ∀ length, t ≠ .bytes length) :
    ¬Oversized stops f := by
  rintro (⟨htext, -, -, -, -, -⟩ | ⟨hlength, -, -⟩)
  · exact hstring _ (Option.some.inj (htype.symm.trans htext))
  · exact hbytes _ (Option.some.inj (htype.symm.trans hlength))

theorem oversized_string_iff {limit : Value} (htype : f.type = some (.string limit))
    (hdefault : f.defaultValue.isNull = true) :
    Oversized stops f ↔ f.pattern = "" ∧ Domain.safeAlphabet stops ≠ "" ∧
      ∃ n, (f.rule.getD {}).minLength.integer? = some n ∧ sizeLimit ≤ n := by
  constructor
  · rintro (⟨-, -, hpattern, hsafe, hn, hlarge⟩ | ⟨hbytes, -, -⟩)
    · exact ⟨hpattern, hsafe, _, hn, hlarge⟩
    · cases htype.symm.trans hbytes
  · rintro ⟨hpattern, hsafe, n, hn, hlarge⟩
    exact .text htype hdefault hpattern hsafe hn hlarge

theorem oversized_bytes_iff {length : Value} (htype : f.type = some (.bytes length)) :
    Oversized stops f ↔ ∃ n, length.integer? = some n ∧ sizeLimit ≤ n := by
  constructor
  · rintro (⟨htext, -, -, -, -, -⟩ | ⟨hbytes, hn, hlarge⟩)
    · cases htype.symm.trans htext
    · cases htype.symm.trans hbytes
      exact ⟨_, hn, hlarge⟩
  · rintro ⟨n, hn, hlarge⟩
    exact .bytes htype hn hlarge

end Oversized

namespace Example

/-- The bounds of a domain of numbers can be compared with each other and with one. -/
theorem exists_number_between {c : Constraints} {stops : List String} {d : Domain}
    (hc : Countable c) (hd : Domain.ofNumber c stops = .ok d) :
    ∃ v w, Value.max (.int 1) d.minimum = .ok v ∧ v.min d.maximum = .ok w := by
  obtain ⟨-, hmax, least, hmin, -⟩ := Domain.ofNumber_spec hc.minimum hc.maximum hd
  obtain ⟨v, hv, hinteger⟩ := exists_max_of_integer? (integer?_int 1) hmin
  obtain ⟨w, hw, -⟩ := exists_min_of_integer? hinteger hmax
  exact ⟨v, w, hv, hw⟩

/-- The search for an example of a field in which nothing is found fails only if the example would
be longer than texts get. -/
theorem ofField_eq_error_iff {f : Spec.Field} {c : Constraints} {stops : List String} {d : Domain}
    {e : Fault} (hf : f.isWellTyped = true) (hown : Check.fieldFindings f = .ok [])
    (hc : Constraints.ofField f = .ok c) (hd : Domain.ofField f c stops = .ok d) :
    ofField f c d = .error e ↔ e = .overflow ∧ Oversized stops f := by
  have hnone : ∀ x ∈ ([] : List Finding), x.severity ≠ .error := by simp
  obtain ⟨c', hc', hcountable⟩ := Check.exists_constraints hf
  cases hc.symm.trans hc'
  obtain ⟨t, htype, ht⟩ := f.exists_type hf
  rw [Domain.ofField, htype] at hd
  rw [ofField, htype]
  cases hnull : f.defaultValue.isNull with
  | false =>
    -- The default is the example. Bytes have none, and the other kind of oversized field is
    -- without one by definition.
    refine iff_of_false (by rintro ⟨⟩) ?_
    rintro ⟨-, ⟨-, hdefault, -⟩ | ⟨hbytes, -⟩⟩
    · rw [hnull] at hdefault
      cases hdefault
    · rw [Check.isNull_defaultValue_of_bytes hown hnone hbytes] at hnull
      cases hnull
  | true =>
    cases t with
    | string limit =>
      have hnonneg (n : Int) (hn : c.maxLength.integer? = some n) : 0 ≤ n :=
        Check.lengths_nonneg hown hnone hc (.inr hn)
      have hle (a b : Int) (ha : c.minLength.integer? = some a)
          (hb : c.maxLength.integer? = some b) : a ≤ b :=
        Check.minLength_le_maxLength hown hnone hc ha hb
      obtain ⟨hpattern, hminLength⟩ := Check.constraints_of_string htype hc
      obtain ⟨halphabet, -⟩ := Domain.ofText_spec hcountable.minLength hcountable.maxLength hd
      rw [oversized_string_iff htype hnull, ← halphabet, ← hminLength, Spec.Field.pattern,
        ← hpattern]
      exact ofText_eq_error_iff hcountable hnonneg hle
    | number low high =>
      obtain ⟨v, w, hv, hw⟩ := exists_number_between hcountable hd
      refine iff_of_false ?_ fun h ↦ not_oversized htype (fun _ h ↦ by cases h)
        (fun _ h ↦ by cases h) h.2
      cases hempty : d.empty with
      | true => rintro ⟨⟩
      | false =>
        simp only [hv, Bool.not_true, Bool.false_eq_true, if_false]
        change ¬(v.min d.maximum >>= fun w ↦ pure (Except.ok w)) = .error e
        rw [hw]
        rintro ⟨⟩
    | boolean =>
      exact iff_of_false (by rintro ⟨⟩) fun h ↦ not_oversized htype (fun _ h ↦ by cases h)
        (fun _ h ↦ by cases h) h.2
    | enum values =>
      exact iff_of_false (by rintro ⟨⟩) fun h ↦ not_oversized htype (fun _ h ↦ by cases h)
        (fun _ h ↦ by cases h) h.2
    | bytes length =>
      rw [oversized_bytes_iff htype]
      rcases eq_null_or_of_isCountable ht with rfl | ⟨n, hn⟩
      · exact iff_of_false (by rintro ⟨⟩) (by rintro ⟨-, _, ⟨⟩, -⟩)
      · have hnull := isNull_eq_false_of_integer? hn
        have hwidth : f.fixedWidth? = some length := by
          rw [Spec.Field.fixedWidth?, htype]
          simp only [hnull, Bool.false_eq_true, if_false]
        have hpos := Check.fixedWidth_pos hown hnone hwidth hn
        simp only [hnull, hn, Option.some.injEq, exists_eq_left', Bool.not_true, Bool.false_eq_true,
          if_false]
        exact Iff.trans bind_pure_eq_error_iff (ofLength_eq_error_iff hn hpos)

end Example

/-! ## Messages -/

namespace Segment

/-- Items whose placeholders all name fields have segments. -/
theorem exists_ofItems {fields : List Spec.Field} {items : List Format.Item}
    (h : ∀ name ∈ items.filterMap Format.Item.name?, some name ∈ fields.map (·.name)) :
    ∃ segments, ofItems fields items = .ok { segments } := by
  induction items with
  | nil => exact ⟨[], rfl⟩
  | cons item items ih =>
    cases item with
    | literal text =>
      obtain ⟨segments, hsegments⟩ := ih h
      refine ⟨if text.isEmpty then segments else .literal text :: segments, ?_⟩
      rw [ofItems, hsegments]
      change Except.ok (if text.isEmpty then _ else _) = _
      split <;> rfl
    | placeholder name column =>
      rw [show (Format.Item.placeholder name column :: items).filterMap Format.Item.name? =
        name :: items.filterMap Format.Item.name? from rfl, List.forall_mem_cons] at h
      obtain ⟨f, hf, hname⟩ := List.mem_map.mp h.1
      obtain ⟨segments, hsegments⟩ := ih h.2
      have hnamed : (named? fields name).isSome = true := by
        rw [named?, List.find?_isSome]
        exact ⟨f, List.mem_reverse.mpr hf, by simp [hname]⟩
      obtain ⟨g, hg⟩ := Option.isSome_iff_exists.mp hnamed
      rw [ofItems, hg, hsegments]
      exact ⟨_, rfl⟩

/-- The names of ambiguous fields are names of fields. -/
theorem exists_of_mem_ambiguous {delimiter terminator : Option String} {segments : List Segment}
    {name : Option String} (h : name ∈ ambiguous delimiter terminator segments) :
    ∃ f ∈ segments.filterMap field?, f.name = name := by
  induction segments with
  | nil => cases h
  | cons segment rest ih =>
    cases segment with
    | literal text => exact ih h
    | field f =>
      rw [show (Segment.field f :: rest).filterMap field? = f :: rest.filterMap field? from rfl,
        List.exists_mem_cons_iff]
      rw [ambiguous] at h
      split at h
      · rcases List.mem_cons.mp h with rfl | h
        · exact .inl rfl
        · exact .inr (ih h)
      · exact .inr (ih h)

end Segment

namespace Compiled

variable {source : Spec.Message} {machine : Machine} {segments : List Segment}
  {ofSpec : List Diagnostic} {found : List (List Diagnostic)}

/-- A field in which nothing is found compiles, unless its example would be longer than texts
get. -/
theorem compileField_eq_error_iff {f : Spec.Field} {e : Fault} (hf : f.isWellTyped = true)
    (hown : Check.fieldFindings f = .ok []) :
    compileField machine f = .error e ↔ e = .overflow ∧ Oversized (machine.stopsOf f.name) f := by
  obtain ⟨c, hc, hcountable⟩ := Check.exists_constraints hf
  obtain ⟨d, hd⟩ := Domain.exists_ofField hf hcountable (machine.stopsOf f.name)
  rw [← Example.ofField_eq_error_iff hf hown hc hd, compileField, hc]
  change (Domain.ofField f c (machine.stopsOf f.name) >>= fun domain ↦ _) = _ ↔ _
  rw [hd]
  exact bind_pure_eq_error_iff

theorem exists_ambiguityReasons {names : List (Option String)}
    (h : ∀ name ∈ names, name.isSome = true) : ∃ reasons, ambiguityReasons names = .ok reasons := by
  cases names with
  | nil => exact ⟨[], rfl⟩
  | cons name names =>
    obtain ⟨texts, htexts⟩ := Fault.exists_results
      (f := fun n : Option String ↦ n.elim (.error Fault.mismatch) Except.ok) fun n hn ↦ by
        obtain ⟨text, rfl⟩ := Option.isSome_iff_exists.mp (h n hn)
        exact ⟨text, rfl⟩
    rw [ambiguityReasons, htexts]
    · exact ⟨_, rfl⟩
    · rintro ⟨⟩

def machineOf? (m : Spec.Message) : Option Machine :=
  match Spec.itemsOf m.fields with
  | .error _ => none
  | .ok fields => match Segment.ofFormat m.format fields with
    | .error _ => none
    | .ok reading => some (Machine.ofSegments reading.segments (separator m.delimiter)
        (separator m.terminator))

/-- A message with a field whose example would be longer than texts get. -/
def Overgrown (m : Spec.Message) : Prop :=
  ∃ machine f, machineOf? m = some machine ∧ some f ∈ m.fields.getD [] ∧
    Oversized (machine.stopsOf f.name) f

def exampleOf? (machine : Machine) (f : Spec.Field) : Option Value :=
  match compileField machine f with
  | .ok r => if r.field.sample.isNull then none else some r.field.sample
  | .error _ => none

/-- A message whose example cannot be written: all its fields have one, and that of some field has
no bytes. -/
def Unwritable (m : Spec.Message) (e : Fault) : Prop :=
  ∃ machine f v, machineOf? m = some machine ∧ some f ∈ m.fields.getD [] ∧
    (∀ g, some g ∈ m.fields.getD [] → (exampleOf? machine g).isSome = true) ∧
    exampleOf? machine f = some v ∧ Step.renderValue v = .error e

/-- How a message in which nothing is wrong fails to compile. -/
def Spoiled (m : Spec.Message) (e : Fault) : Prop :=
  Overgrown m ∧ e = .overflow ∨ Unwritable m e

/-- A message in which nothing is wrong is assembled from its fields. -/
theorem exists_assemble {m : Spec.Message} (h : Flawless m) :
    ∃ fields segments, Spec.itemsOf m.fields = .ok fields ∧ (fields.map (·.name)).Nodup ∧
      (∀ f ∈ fields, Check.fieldFindings f = .ok []) ∧
      machineOf? m = some (Machine.ofSegments segments (separator m.delimiter)
        (separator m.terminator)) ∧
      (∀ f, f ∈ segments.filterMap Segment.field? ↔ f ∈ fields) ∧
      (∀ text, .literal text ∈ segments → text ≠ "") ∧
      compileMessage m = (assemble m fields segments).mapError .fault := by
  obtain ⟨fields, format, names, hfields, hformat, hnames, hnodup, hsame, hown⟩ := h
  rw [Format.placeholderNames] at hnames
  cases hitems : Format.tokenize format with
  | error e =>
    rw [hitems] at hnames
    cases hnames
  | ok items =>
    rw [hitems] at hnames
    cases hnames
    have hdefined : ∀ name ∈ items.filterMap Format.Item.name?, some name ∈ fields.map (·.name) :=
      fun name hname ↦ (hsame _).mpr (List.mem_map_of_mem hname)
    obtain ⟨segments, hsegments⟩ := Segment.exists_ofItems hdefined
    have hread : Segment.ofFormat m.format fields = .ok { segments } := by
      rw [Segment.ofFormat.eq_def, hformat]
      simp only [hitems, hsegments]
      rfl
    have hpresent : Spec.itemsOf m.fields = .ok fields := by
      rw [hfields]
    refine ⟨fields, segments, hfields, hnodup,
      fun f hf ↦ Check.ofField_eq_nil_iff.mp (hown f hf), ?_, fun f ↦ ?_,
      fun text ↦ Segment.stands_ofItems hsegments (.literal text), ?_⟩
    · rw [machineOf?, hpresent]
      simp only [hread]
    · refine Segment.mem_fields_iff (Segment.map_named?_ofItems hsegments rfl) hnodup fun f hf ↦ ?_
      exact (hsame _).mp (List.mem_map_of_mem hf)
    · rw [compileMessage, hpresent]
      change (Except.mapError _ (Segment.ofFormat m.format fields) >>= fun reading ↦ _) = _
      rw [hread]
      rfl

def sampleBytesOf (source : Spec.Message) (segments : List Segment) (fields : List Field) :
    Except Fault (Option Bytes) :=
  let machine := Machine.ofSegments segments (separator source.delimiter)
    (separator source.terminator)
  (sampleOf fields).mapM
    (Step.renderAll (Step.ofSegments machine.segments (separator source.delimiter)
      machine.terminator))

/-- A message is assembled from fields with names, unless one of these fields does not compile or
the example cannot be rendered. -/
theorem assemble_cases (fields : List Spec.Field)
    (hmachine : Machine.ofSegments segments (separator source.delimiter)
      (separator source.terminator) = machine)
    (hliteral : ∀ text, .literal text ∈ segments → text ≠ "")
    (hnames : ∀ f ∈ segments.filterMap Segment.field?, f.name.isSome = true) :
    (∃ f ∈ fields, ∃ e, compileField machine f = .error e ∧
      assemble source fields segments = .error e) ∨
    ∃ results : List FieldResult, fields.map (compileField machine) = results.map .ok ∧
      ((∃ e, sampleBytesOf source segments (results.map (·.field)) = .error e ∧
        assemble source fields segments = .error e) ∨
      ∃ bytes compiled, sampleBytesOf source segments (results.map (·.field)) = .ok bytes ∧
        assemble source fields segments = .ok compiled) := by
  have hambiguous : ∀ name ∈ machine.ambiguous, name.isSome = true := by
    intro name hname
    rw [← hmachine] at hname
    obtain ⟨f, hf, rfl⟩ := Segment.exists_of_mem_ambiguous hname
    rw [(Segment.withoutTerminator_spec _ hliteral).2] at hf
    exact hnames f hf
  obtain ⟨reasons, hreasons⟩ := exists_ambiguityReasons hambiguous
  obtain ⟨finish, hassemble⟩ : ∃ finish : List FieldResult → Option Bytes → Message × _,
      assemble source fields segments = fields.mapM (compileField machine) >>= fun results ↦
        sampleBytesOf source segments (results.map (·.field)) >>= fun bytes ↦
          pure (finish results bytes) := by
    rw [assemble, hmachine, hreasons]
    simp only [sampleBytesOf, hmachine]
    exact ⟨_, rfl⟩
  rw [hassemble]
  cases hresults : fields.mapM (compileField machine) with
  | error e =>
    obtain ⟨f, hf, herror⟩ := exists_of_mapM_eq_error hresults
    exact .inl ⟨f, hf, e, herror, rfl⟩
  | ok results =>
    refine .inr ⟨results, mapM_eq_ok_iff.mp hresults, ?_⟩
    cases hbytes : sampleBytesOf source segments (results.map (·.field)) with
    | error e =>
      refine .inl ⟨e, rfl, ?_⟩
      rw [Fault.ok_bind, hbytes]
      rfl
    | ok bytes =>
      refine .inr ⟨bytes, finish results bytes, rfl, ?_⟩
      rw [Fault.ok_bind, hbytes]
      rfl

/-- Some field of a message has an example that cannot be rendered if that of the message cannot. -/
theorem exists_of_sampleBytesOf_eq_error {fields : List Field} {e : Fault}
    (hnodup : (fields.map (·.name)).Nodup) (hliteral : ∀ text, .literal text ∈ segments → text ≠ "")
    (hsegments : ∀ d ∈ segments.filterMap Segment.field?, ∃ f ∈ fields, f.definition = d)
    (h : sampleBytesOf source segments fields = .error e) :
    (∀ f ∈ fields, f.sample.isNull = false) ∧
      ∃ f ∈ fields, Step.renderValue f.sample = .error e := by
  rw [sampleBytesOf] at h
  cases hsample : sampleOf fields with
  | none =>
    rw [hsample] at h
    cases h
  | some values =>
    obtain ⟨hall, rfl⟩ := (sampleOf_eq_some_iff hnodup).mp hsample
    refine ⟨hall, ?_⟩
    rw [hsample] at h
    have hplan := bind_pure_eq_error_iff.mp h
    rw [Step.renderAll, bind_pure_eq_error_iff] at hplan
    obtain ⟨step, hstep, hplan⟩ := exists_of_mapM_eq_error hplan
    cases step with
    | literal | delimiter | terminator => cases hplan
    | field d =>
      rw [Step.field_mem_ofSegments_iff] at hstep
      have hmem := (Segment.withoutTerminator_spec _ hliteral).2 ▸ hstep
      obtain ⟨f, hf, rfl⟩ := hsegments d hmem
      rw [render_samples hnodup hf (hall f hf)] at hplan
      exact ⟨f, hf, hplan⟩

theorem exists_of_sampleBytesOf_eq_ok {fields : List Field} {bytes : Option Bytes}
    (hnodup : (fields.map (·.name)).Nodup) (hliteral : ∀ text, .literal text ∈ segments → text ≠ "")
    (hall : ∀ f ∈ fields, f.sample.isNull = false)
    (h : sampleBytesOf source segments fields = .ok bytes) {f : Field} (hf : f ∈ fields)
    (hmem : f.definition ∈ segments.filterMap Segment.field?) :
    ∃ part, Step.renderValue f.sample = .ok part := by
  rw [sampleBytesOf, (sampleOf_eq_some_iff hnodup).mpr ⟨hall, rfl⟩] at h
  obtain ⟨own, hplan, -⟩ := bind_eq_ok_iff.mp h
  obtain ⟨parts, hparts, -⟩ := bind_eq_ok_iff.mp hplan
  obtain ⟨part, -, hpart⟩ := exists_of_mem_items (mapM_eq_ok_iff.mp hparts)
    (Step.field_mem_ofSegments_iff.mpr ((Segment.withoutTerminator_spec _ hliteral).2.symm ▸ hmem))
  rw [render_samples hnodup hf (hall f hf)] at hpart
  exact ⟨part, hpart⟩

theorem exampleOf?_eq_some_iff {f : Spec.Field} {r : FieldResult}
    (h : compileField machine f = .ok r) {v : Value} :
    exampleOf? machine f = some v ↔ r.field.sample.isNull = false ∧ r.field.sample = v := by
  rw [exampleOf?, h]
  cases hnull : r.field.sample.isNull <;> simp [hnull]

/-- A message in which nothing is wrong compiles, unless it is spoiled. -/
theorem compileMessage_cases {m : Spec.Message} (hm : m.isWellTyped = true) (h : Flawless m) :
    (∃ compiled, compileMessage m = .ok compiled) ∧ (∀ e, ¬Spoiled m e) ∨
      ∃ e, compileMessage m = .error (.fault e) ∧ Spoiled m e := by
  obtain ⟨fields, segments, hfields, hnodup, hown, hmachine, hsegments, hliteral, hcompile⟩ :=
    exists_assemble h
  obtain ⟨fields', format, hsome, -, hwell⟩ := Check.exists_fields hm
  rw [hsome, Check.itemsOf_map_some, Except.ok.injEq] at hfields
  subst hfields
  have hmem {f : Spec.Field} := Check.mem_getD_map_some hsome (f := f)
  have hnames : ∀ f ∈ segments.filterMap Segment.field?, f.name.isSome = true := by
    intro f hf
    have := hwell f ((hsegments f).mp hf)
    simp only [Spec.Field.isWellTyped, Bool.and_eq_true] at this
    exact this.1.1
  rcases assemble_cases fields' rfl hliteral hnames with
    ⟨f, hf, e, herror, hassemble⟩ | ⟨results, hresults, hends⟩
  · obtain ⟨rfl, hsize⟩ := (compileField_eq_error_iff (hwell f hf) (hown f hf)).mp herror
    refine .inr ⟨.overflow, by rw [hcompile, hassemble]; rfl, .inl ⟨?_, rfl⟩⟩
    exact ⟨_, f, hmachine, hmem.mpr hf, hsize⟩
  -- All fields compile, so that no example is too long; each result has its own field.
  have hcompiled {f : Spec.Field} (hf : f ∈ fields') := exists_of_mem_items hresults hf
  have hresult {r : FieldResult} (hr : r ∈ results) := exists_of_mem_results hresults hr
  have hnodup' : ((results.map (·.field)).map (·.name)).Nodup := by
    rw [List.map_map, map_results_eq hresults (g := (·.name)) fun f r hr ↦ by
      rw [Function.comp_apply, Field.name, (compileField_spec hr).1]]
    exact hnodup
  rcases hends with ⟨e, hbytes, hassemble⟩ | ⟨bytes, compiled, hbytes, hassemble⟩
  · refine .inr ⟨e, by rw [hcompile, hassemble]; rfl, .inr ?_⟩
    obtain ⟨hall, field, hfield, herror⟩ := exists_of_sampleBytesOf_eq_error hnodup' hliteral
      (fun d hd ↦ by
        obtain ⟨r, hr, hd⟩ := hcompiled ((hsegments d).mp hd)
        exact ⟨r.field, List.mem_map_of_mem hr, (compileField_spec hd).1⟩) hbytes
    obtain ⟨r, hr, rfl⟩ := List.mem_map.mp hfield
    obtain ⟨f, hf, hrun⟩ := hresult hr
    refine ⟨_, f, r.field.sample, hmachine, hmem.mpr hf, fun g hg ↦ ?_, ?_, herror⟩
    · obtain ⟨r', hr', hrun'⟩ := hcompiled (hmem.mp hg)
      rw [(exampleOf?_eq_some_iff hrun').mpr ⟨hall _ (List.mem_map_of_mem hr'), rfl⟩]
      rfl
    · exact (exampleOf?_eq_some_iff hrun).mpr ⟨hall _ hfield, rfl⟩
  · refine .inl ⟨⟨compiled, by rw [hcompile, hassemble]; rfl⟩, ?_⟩
    -- Each way to be spoiled would have stopped one of the two steps that succeeded.
    rintro e (⟨⟨machine, f, hmachine', hf, hsize⟩, -⟩ |
      ⟨machine, f, v, hmachine', hf, hexamples, hv, herror⟩)
    · cases hmachine.symm.trans hmachine'
      obtain ⟨r, -, hrun⟩ := hcompiled (hmem.mp hf)
      rw [(compileField_eq_error_iff (hwell f (hmem.mp hf)) (hown f (hmem.mp hf))).mpr
        ⟨rfl, hsize⟩] at hrun
      cases hrun
    · cases hmachine.symm.trans hmachine'
      have hall : ∀ field ∈ results.map (·.field), field.sample.isNull = false := by
        intro field hfield
        obtain ⟨r, hr, rfl⟩ := List.mem_map.mp hfield
        obtain ⟨g, hg, hrun⟩ := hresult hr
        obtain ⟨w, hw⟩ := Option.isSome_iff_exists.mp (hexamples g (hmem.mpr hg))
        exact ((exampleOf?_eq_some_iff hrun).mp hw).1
      obtain ⟨r, hr, hrun⟩ := hcompiled (hmem.mp hf)
      obtain ⟨-, rfl⟩ := (exampleOf?_eq_some_iff hrun).mp hv
      obtain ⟨part, hpart⟩ := exists_of_sampleBytesOf_eq_ok hnodup' hliteral hall hbytes
        (List.mem_map_of_mem hr) (by
          rw [(compileField_spec hrun).1]
          exact (hsegments f).mpr (hmem.mp hf))
      rw [herror] at hpart
      cases hpart

theorem source_of_compileMessage {m : Message} {warnings : List Diagnostic}
    (h : compileMessage source = .ok (m, warnings)) : m.source = source := by
  obtain ⟨definitions, -, -, reading, -, -, -, -, -, h⟩ := compileMessage_spec h
  rw [assemble] at h
  obtain ⟨boundary, -, h⟩ := bind_eq_ok_iff.mp h
  obtain ⟨results, -, h⟩ := bind_eq_ok_iff.mp h
  obtain ⟨sampleBytes, -, h⟩ := bind_eq_ok_iff.mp h
  rw [pure_eq_ok_iff, Prod.mk.injEq] at h
  rw [← h.1]

/-! ## Protocols -/

/-- The messages that are compiled are those in which nothing is wrong, in their order, unless one
of them is spoiled. -/
theorem compileSound_cases (metadata : Spec.Metadata)
    {checked : List (Spec.Message × List Diagnostic)}
    (hchecked : ∀ e ∈ checked, e.1.isWellTyped = true ∧ Check.ofMessage e.1 = .ok e.2) :
    (∃ compiled, compileSound (some metadata) checked = .ok compiled ∧
      compiled.map (·.1.source) = (checked.map (·.1)).filter (Flawless ·) ∧
      (∀ e ∈ compiled, compileMessage e.1.source = .ok e) ∧
      ∀ e ∈ checked, Flawless e.1 → ∀ fault, ¬Spoiled e.1 fault) ∨
      ∃ fault, compileSound (some metadata) checked = .error (.fault fault) ∧
        ∃ e ∈ checked, Flawless e.1 ∧ Spoiled e.1 fault := by
  induction checked with
  | nil => exact .inl ⟨[], rfl, rfl, by simp, by simp⟩
  | cons head rest ih =>
    obtain ⟨m, found⟩ := head
    rw [List.forall_mem_cons] at hchecked
    obtain ⟨⟨hm, hfound⟩, hrest⟩ := hchecked
    rw [compileSound]
    by_cases hflawless : Flawless m
    · have hsound := (Check.any_isError_ofMessage hfound).mpr hflawless
      rw [if_neg (by simp [hsound])]
      rcases compileMessage_cases hm hflawless with
        ⟨⟨first, hfirst⟩, hsound⟩ | ⟨fault, hfault, hspoiled⟩
      · rw [hfirst]
        rcases ih hrest with
          ⟨compiled, hcompiled, hsources, hown, hothers⟩ | ⟨fault, hfault, e, he, hspoiled⟩
        · refine .inl ⟨first :: compiled, ?_, ?_, ?_, ?_⟩
          · rw [hcompiled]
            rfl
          · rw [List.map_cons, List.map_cons, List.filter_cons_of_pos (by simpa using hflawless),
              hsources, source_of_compileMessage hfirst]
          · refine List.forall_mem_cons.mpr ⟨?_, hown⟩
            rw [source_of_compileMessage hfirst, hfirst]
          · exact List.forall_mem_cons.mpr ⟨fun _ ↦ hsound, hothers⟩
        · refine .inr ⟨fault, ?_, e, List.mem_cons_of_mem _ he, hspoiled⟩
          rw [hfault]
          rfl
      · refine .inr ⟨fault, ?_, (m, found), List.mem_cons_self, hflawless, hspoiled⟩
        rw [hfault]
        rfl
    · have herror : found.any (·.isError) = true := by
        by_contra hsound
        exact hflawless ((Check.any_isError_ofMessage hfound).mp (by simpa using hsound))
      rw [if_pos herror]
      change (∃ compiled, compileSound (some metadata) rest = .ok compiled ∧ _) ∨
        ∃ fault, compileSound (some metadata) rest = _ ∧ _
      rcases ih hrest with
        ⟨compiled, hcompiled, hsources, hown, hothers⟩ | ⟨fault, hfault, e, he, hspoiled⟩
      · refine .inl ⟨compiled, hcompiled, ?_, hown, ?_⟩
        · rw [List.map_cons, List.filter_cons_of_neg (by simpa using hflawless), hsources]
        · exact List.forall_mem_cons.mpr ⟨fun h ↦ absurd h hflawless, hothers⟩
      · exact .inr ⟨fault, hfault, e, List.mem_cons_of_mem _ he, hspoiled⟩

/-- Errors that no message is to blame for are those of the specification as a whole. -/
theorem any_isProtocolWide {spec : Spec} (hofSpec : Check.ofSpec spec = .ok ofSpec)
    {checked : List (Spec.Message × List Diagnostic)}
    (hchecked : ∀ e ∈ checked, e.1.isWellTyped = true ∧ Check.ofMessage e.1 = .ok e.2) :
    (ofSpec ++ checked.flatMap (·.2)).any isProtocolWide = ofSpec.any (·.isError) := by
  have hwide : ofSpec.any isProtocolWide = ofSpec.any (·.isError) := by
    rw [Bool.eq_iff_iff, List.any_eq_true, List.any_eq_true]
    refine exists_congr fun d ↦ and_congr_right fun hd ↦ ?_
    rw [isProtocolWide, Bool.and_eq_true, and_iff_left_iff_imp]
    intro herror
    rw [Check.messageName_of_ofSpec hofSpec hd herror]
    rfl
  have hnone : (checked.flatMap (·.2)).any isProtocolWide = false := by
    rw [List.any_eq_false]
    intro d hd
    obtain ⟨e, he, hd⟩ := List.mem_flatMap.mp hd
    obtain ⟨hwell, hfound⟩ := hchecked e he
    simp only [Spec.Message.isWellTyped, Bool.and_eq_true] at hwell
    obtain ⟨name, hname⟩ := Option.isSome_iff_exists.mp hwell.1.1
    rw [isProtocolWide, Check.messageName_of_ofMessage hfound hd, hname]
    simp
  rw [List.any_append, hwide, hnone, Bool.or_false]

/-- When a specification is to be refused: it has an error as a whole, or all its messages have
one. -/
def Refusable (ofSpec : List Diagnostic) (found : List (List Diagnostic)) : Prop :=
  ofSpec.any (·.isError) = true ∨ ∀ ds ∈ found, ds.any (·.isError) = true

/-- How compiling ends once all checks have. A specification that is to be refused is, with all that
was found. Otherwise its messages are compiled in which nothing is wrong, each to a message with the
property `P`, unless one of them is spoiled. -/
inductive Outcome (messages : List Spec.Message) (ofSpec : List Diagnostic)
    (found : List (List Diagnostic)) (P : Message → Prop) : Except Failure Protocol → Prop
  | refused (h : Refusable ofSpec found) :
      Outcome messages ofSpec found P (.error (.refused (ofSpec ++ found.flatten)))
  | compiled {p : Protocol} (h : ¬Refusable ofSpec found)
      (hsources : p.messages.map (·.source) = messages.filter (Flawless ·))
      (hown : ∀ m ∈ p.messages, P m) (hsound : ∀ m ∈ messages, Flawless m → ∀ e, ¬Spoiled m e) :
      Outcome messages ofSpec found P (.ok p)
  | spoiled {m : Spec.Message} {e : Fault} (h : ¬Refusable ofSpec found) (hm : m ∈ messages)
      (hflawless : Flawless m) (hspoiled : Spoiled m e) :
      Outcome messages ofSpec found P (.error (.fault e))

theorem exists_checked {messages : List Spec.Message}
    (h : messages.map Check.ofMessage = found.map .ok) :
    ∃ checked : List (Spec.Message × List Diagnostic),
      (messages.mapM fun m ↦ do return (m, ← Check.ofMessage m)) = .ok checked ∧
      checked.map (·.1) = messages ∧ checked.map (·.2) = found ∧
      ∀ e ∈ checked, Check.ofMessage e.1 = .ok e.2 := by
  induction messages generalizing found with
  | nil =>
    rw [List.map_nil, eq_comm, List.map_eq_nil_iff] at h
    exact ⟨[], rfl, rfl, h.symm, by simp⟩
  | cons m messages ih =>
    cases found with
    | nil => cases h
    | cons ds found =>
      rw [List.map_cons, List.map_cons, List.cons.injEq] at h
      obtain ⟨checked, hchecked, hmessages, hfound, hpairs⟩ := ih h.2
      refine ⟨(m, ds) :: checked, ?_, by rw [List.map_cons, hmessages],
        by rw [List.map_cons, hfound], List.forall_mem_cons.mpr ⟨h.1, hpairs⟩⟩
      rw [List.mapM_cons, h.1, hchecked]
      rfl

/-- Some message has no errors exactly if nothing is wrong in some message. -/
theorem exists_flawless_iff {messages : List Spec.Message}
    (h : messages.map Check.ofMessage = found.map .ok) :
    messages.filter (Flawless ·) = [] ↔ ∀ ds ∈ found, ds.any (·.isError) = true := by
  simp only [List.filter_eq_nil_iff, decide_eq_true_eq]
  constructor
  · intro hnone ds hds
    obtain ⟨m, hm, hfound⟩ := exists_of_mem_results h hds
    by_contra hsound
    exact hnone m hm ((Check.any_isError_ofMessage hfound).mp (by simpa using hsound))
  · intro hall m hm hflawless
    obtain ⟨ds, hds, hfound⟩ := exists_of_mem_items h hm
    have hsound := (Check.any_isError_ofMessage hfound).mpr hflawless
    rw [hall ds hds] at hsound
    cases hsound

theorem outcome_of_checks {spec : Spec} (hspec : spec.isWellTyped = true)
    {messages : List Spec.Message} (hmessages : spec.messages = some (messages.map some))
    (hwell : ∀ m ∈ messages, m.isWellTyped = true) (hofSpec : Check.ofSpec spec = .ok ofSpec)
    (hfound : messages.map Check.ofMessage = found.map .ok) :
    Outcome messages ofSpec found (fun m ↦ ∃ warnings, compileMessage m.source = .ok (m, warnings))
      (compile spec) := by
  simp only [Spec.isWellTyped, Bool.and_eq_true] at hspec
  obtain ⟨⟨⟨⟨hmetadata, hconnection⟩, -⟩, htypes⟩, hhandling⟩ := hspec
  obtain ⟨metadata, hmetadata⟩ := Option.isSome_iff_exists.mp hmetadata
  obtain ⟨connection, hconnection⟩ := Option.isSome_iff_exists.mp hconnection
  obtain ⟨types, htypes, -⟩ := Check.exists_of_hasAll htypes
  obtain ⟨handling, hhandling, -⟩ := (Option.any_eq_true _ _).mp hhandling
  obtain ⟨checked, hchecked, hsources, hdiagnostics, hpairs⟩ := exists_checked hfound
  have hpairs' : ∀ e ∈ checked, e.1.isWellTyped = true ∧ Check.ofMessage e.1 = .ok e.2 := by
    intro e he
    exact ⟨hwell _ (hsources ▸ List.mem_map_of_mem he), hpairs e he⟩
  have hflatten : checked.flatMap (·.2) = found.flatten := by
    rw [← hdiagnostics, List.flatMap_def]
  have hwide := any_isProtocolWide hofSpec hpairs'
  rw [compile, hofSpec, hmessages, Check.itemsOf_map_some]
  change Outcome _ _ _ _ (Except.mapError _
    (messages.mapM fun m ↦ do return (m, ← Check.ofMessage m)) >>= fun checked ↦ _)
  rw [hchecked]
  change Outcome _ _ _ _ (if (ofSpec ++ checked.flatMap (·.2)).any isProtocolWide = true then
    _ else _)
  rw [hwide, hflatten]
  cases herror : ofSpec.any (·.isError) with
  | true => exact .refused (.inl herror)
  | false =>
    have hrefusable : Refusable ofSpec found ↔ messages.filter (Flawless ·) = [] := by
      rw [Refusable, herror, exists_flawless_iff hfound]
      simp
    rw [if_neg (by decide), hmetadata, hconnection, hhandling, htypes, Check.itemsOf_map_some]
    rcases compileSound_cases metadata hpairs' with
      ⟨compiled, hcompiled, hcompiledSources, hown, hsound⟩ |
      ⟨fault, hfault, e, he, hflawless, hspoiled⟩
    · rw [hsources] at hcompiledSources
      rw [hcompiled]
      cases compiled with
      | nil =>
        change Outcome _ _ _ _ (.error (.refused (ofSpec ++ found.flatten ++ [])))
        rw [List.append_nil]
        exact .refused (hrefusable.mpr hcompiledSources.symm)
      | cons first later =>
        refine .compiled ?_ ?_ ?_ ?_
        · rw [hrefusable, ← hcompiledSources]
          exact List.cons_ne_nil _ _
        · rw [List.map_map]
          exact hcompiledSources
        · intro m hm
          obtain ⟨e, he, rfl⟩ := List.mem_map.mp hm
          exact ⟨e.2, hown e he⟩
        · intro m hm
          rw [← hsources] at hm
          obtain ⟨e, he, rfl⟩ := List.mem_map.mp hm
          exact hsound e he
    · rw [hfault]
      refine .spoiled ?_ (hsources ▸ List.mem_map_of_mem he) hflawless hspoiled
      rw [hrefusable, List.filter_eq_nil_iff]
      intro hnone
      exact hnone e.1 (hsources ▸ List.mem_map_of_mem he) (by simpa using hflawless)

/-- A message of a protocol comes out the same if it is compiled alone. -/
theorem exists_compile_alone {spec : Spec} (hspec : spec.isWellTyped = true)
    {ds warnings : List Diagnostic} (hofSpec : Check.ofSpec spec = .ok ofSpec)
    (hsound : ofSpec.any (·.isError) = false) {m : Message} (hwell : m.source.isWellTyped = true)
    (hds : Check.ofMessage m.source = .ok ds) (hflawless : Flawless m.source)
    (hunspoiled : ∀ e, ¬Spoiled m.source e) (hown : compileMessage m.source = .ok (m, warnings)) :
    ∃ q, compile { spec with messages := some [some m.source] } = .ok q ∧ q.messages = [m] := by
  obtain ⟨ofAlone, hofAlone, halone⟩ := Check.exists_ofSpec_alone hofSpec hsound m.source
  have hreduced : Spec.isWellTyped { spec with messages := some [some m.source] } = true := by
    simp only [Spec.isWellTyped, Bool.and_eq_true] at hspec ⊢
    exact ⟨⟨⟨hspec.1.1.1, by simp [Spec.hasAll, hwell]⟩, hspec.1.2⟩, hspec.2⟩
  have hfound : [m.source].map Check.ofMessage = [ds].map .ok := by
    rw [List.map_singleton, hds, List.map_singleton]
  have houtcome := outcome_of_checks hreduced rfl (by simpa using hwell) hofAlone hfound
  generalize compile { spec with messages := some [some m.source] } = result at houtcome
  cases houtcome with
  | refused h =>
    rcases h with h | h
    · rw [halone] at h
      cases h
    · rw [List.forall_mem_singleton, (Check.any_isError_ofMessage hds).mpr hflawless] at h
      cases h
  | spoiled _ hm _ hspoiled =>
    rw [List.mem_singleton.mp hm] at hspoiled
    exact absurd hspoiled (hunspoiled _)
  | @compiled p _ hsources hcompiled _ =>
    refine ⟨p, rfl, ?_⟩
    rw [List.filter_cons_of_pos (by simpa using hflawless), List.filter_nil] at hsources
    obtain ⟨m', hmessages, hsource⟩ := List.map_eq_singleton_iff.mp hsources
    obtain ⟨warnings', hown'⟩ := hcompiled m' (by rw [hmessages]; exact List.mem_cons_self)
    rw [hsource, hown] at hown'
    cases hown'
    exact hmessages

/-- A protocol of two lines, of which the second has no field for its placeholder. -/
def halfBroken : Spec where
  metadata := some { name := some "half", port := .int 1 }
  messages := some ([
    { name := some "number", direction := some .response, format := some "\x7bn\x7d"
      fields := some [some { name := some "n", type := some (.number .null .null) }]
      terminator := some "\\n" },
    { name := some "text", direction := some .response, format := some "\x7bt\x7d" }].map some)

/-- A line with a text that is to be longer than texts get. -/
def endlessLine : Spec.Message where
  name := some "endless"
  direction := some .request
  format := some "\x7ba\x7d"
  fields := some [some {
    name := some "a", type := some (.string .null)
    rule := some { minLength := .int 9223372036854775808 } }]
  terminator := some "\\n"

/-- A protocol of one line, with a text that is to be longer than texts get. -/
def endless : Spec where
  metadata := some { name := some "endless", port := .int 1 }
  messages := some [some endlessLine]

def overflows : Except Failure Protocol → Bool
  | .error (.fault .overflow) => true
  | _ => false

theorem eq_error_of_overflows {x : Except Failure Protocol} (h : overflows x = true) :
    x = .error (.fault .overflow) := by
  rw [overflows.eq_def] at h
  split at h
  · rfl
  · cases h

end Compiled

end TextProtocol
