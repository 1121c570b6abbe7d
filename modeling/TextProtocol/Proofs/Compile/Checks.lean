import TextProtocol.Proofs.Compile.Findings

/-!
# When checks end

The checks of a specification compare bounds and look at patterns. With nothing missing and with
bounds that count as integers, `isWellTyped`, every comparison has a result, and only patterns and
numbers with too many digits are left to make a check fail: `Baffles` says when they do.

All that is ever found in a field is an error. So a message without errors is one in which nothing
is wrong at all, `Flawless`, but for placeholders that occur twice.
-/

namespace TextProtocol

open Fault (bind_eq_ok_iff bind_eq_error_iff bind_eq_error_iff_of_forall pure_eq_ok_iff
  bind_pure_eq_error_iff throw_eq_error_iff mapM_eq_ok_iff exists_results exists_of_mem_items
  exists_of_mem_results exists_of_mapM_eq_error)
open Value (isCountable eq_null_or_of_isCountable integer?_int isNull_eq_false_of_integer?
  lt_of_integer? exists_max_of_integer? exists_min_of_integer?)

/-! ## Well-typed specifications

Only as much is asked for as checks look at. -/

namespace Spec

/-- Whether a list is there with all its items, and these have a property. -/
def hasAll {α : Type} (P : α → Bool) (o : Option (List (Option α))) : Bool :=
  o.any fun items ↦ items.all fun item ↦ item.any P

/-- Whether the bounds of a type of fields count as integers, as far as they are there. -/
def FieldType.isWellTyped : FieldType → Bool
  | .string maxLength => isCountable maxLength
  | .number low high => isCountable low && isCountable high
  | .bytes length => isCountable length
  | .boolean | .enum _ => true

/-- Whether the bounds of a rule count as integers, as far as they are there. -/
def Rule.isWellTyped (r : Rule) : Bool :=
  isCountable r.minLength && isCountable r.maxLength && isCountable r.minimum &&
    isCountable r.maximum

/-- Whether a field has a name and a type, and bounds that count as integers. -/
def Field.isWellTyped (f : Field) : Bool :=
  f.name.isSome && f.type.any FieldType.isWellTyped && f.rule.all Rule.isWellTyped

/-- Whether a message has a name, a format and well-typed fields. -/
def Message.isWellTyped (m : Message) : Bool :=
  m.name.isSome && m.format.isSome && hasAll Field.isWellTyped m.fields

/-- Whether a declared type lists its values and fields. -/
def TypeDefinition.isWellTyped (t : TypeDefinition) : Bool :=
  hasAll (fun _ ↦ true) t.values && hasAll (fun _ ↦ true) t.fields

/-- Whether the numbers that say how to try again count as integers, as far as they are there. -/
def ErrorHandling.isWellTyped (h : ErrorHandling) : Bool :=
  isCountable h.retryAttempts && isCountable h.retryDelay

end Spec

/-- Whether nothing is missing in a specification that has to be there, and bounds count as
integers. -/
def Spec.isWellTyped (s : Spec) : Bool :=
  s.metadata.isSome && s.connection.isSome && hasAll Message.isWellTyped s.messages &&
    hasAll TypeDefinition.isWellTyped s.types && s.errorHandling.any ErrorHandling.isWellTyped

/-- The pattern of a field; the empty one, which matches everywhere, if it has none. -/
def Spec.Field.pattern (f : Spec.Field) : String :=
  (f.rule.getD {}).pattern.getD ""

theorem Spec.Field.exists_type {f : Spec.Field} (hf : f.isWellTyped = true) :
    ∃ t, f.type = some t ∧ t.isWellTyped = true := by
  rw [isWellTyped, Bool.and_eq_true, Bool.and_eq_true] at hf
  cases ht : f.type with
  | none =>
    rw [ht] at hf
    cases hf.1.2
  | some t =>
    rw [ht] at hf
    exact ⟨t, rfl, hf.1.2⟩

theorem Spec.Field.isWellTyped_rule {f : Spec.Field} (hf : f.isWellTyped = true) :
    (f.rule.getD {}).isWellTyped = true := by
  rw [isWellTyped, Bool.and_eq_true] at hf
  cases hr : f.rule with
  | none => rfl
  | some r =>
    rw [hr] at hf
    exact hf.2

namespace Check

variable {f : Spec.Field} {e : Fault} {m : Spec.Message} {c : Constraints} {found : List Diagnostic}
  {t : Spec.FieldType}

theorem itemsOf_map_some {α : Type} (items : List α) :
    Spec.itemsOf (some (items.map some)) = .ok items := by
  rw [Spec.itemsOf, mapM_eq_ok_iff, List.map_map]
  rfl

theorem exists_of_hasAll {α : Type} {P : α → Bool} {o : Option (List (Option α))}
    (h : Spec.hasAll P o = true) :
    ∃ items : List α, o = some (items.map some) ∧ ∀ a ∈ items, P a = true := by
  cases o with
  | none => cases h
  | some list =>
    rw [Spec.hasAll, Option.any_some] at h
    induction list with
    | nil => exact ⟨[], rfl, by simp⟩
    | cons item list ih =>
      rw [List.all_cons, Bool.and_eq_true] at h
      obtain ⟨items, heq, hitems⟩ := ih h.2
      rw [Option.some.injEq] at heq
      cases item with
      | none => cases h.1
      | some a =>
        exact ⟨a :: items, by rw [heq, List.map_cons], List.forall_mem_cons.mpr ⟨h.1, hitems⟩⟩

/-! ## Comparing bounds -/

section Bounds

variable {v low high : Value} {n : Int}

/-- A check of a bound that passes over missing ones ends, if it does for integers. -/
theorem exists_unless_null (hv : isCountable v = true) (missing : Bool) {x : Except Fault Bool}
    (hx : ∀ n, v.integer? = some n → ∃ b, x = .ok b) :
    ∃ b, (if v.isNull then .ok missing else x) = .ok b := by
  rcases eq_null_or_of_isCountable hv with rfl | ⟨n, hn⟩
  · exact ⟨missing, rfl⟩
  · rw [isNull_eq_false_of_integer? hn]
    exact hx n hn

theorem exists_negative (hv : isCountable v = true) : ∃ b, negative v = .ok b :=
  exists_unless_null hv false fun _ hn ↦ ⟨_, lt_of_integer? hn rfl⟩

theorem exists_missingOrBelow (hv : isCountable v = true) (bound : Int) :
    ∃ b, missingOrBelow v bound = .ok b :=
  exists_unless_null hv true fun _ hn ↦ ⟨_, lt_of_integer? hn rfl⟩

theorem exists_isBelow (hv : isCountable v = true) (n : Int) : ∃ b, isBelow (.int n) v = .ok b :=
  exists_unless_null hv false fun _ hn ↦ ⟨_, lt_of_integer? rfl hn⟩

theorem exists_isAbove (hv : isCountable v = true) (n : Int) : ∃ b, isAbove (.int n) v = .ok b :=
  exists_unless_null hv false fun _ hn ↦ ⟨_, lt_of_integer? hn rfl⟩

theorem exists_nonPositive (hv : isCountable v = true) : ∃ b, nonPositive v = .ok b := by
  rcases eq_null_or_of_isCountable hv with rfl | ⟨n, hn⟩
  · exact ⟨false, rfl⟩
  · rw [nonPositive, isNull_eq_false_of_integer? hn, lt_of_integer? hn (integer?_int 0)]
    exact ⟨_, rfl⟩

theorem exists_crossed (hlow : isCountable low = true) (hhigh : isCountable high = true) :
    ∃ b, crossed low high = .ok b := by
  rcases eq_null_or_of_isCountable hlow with rfl | ⟨a, ha⟩
  · exact ⟨false, rfl⟩
  · rw [crossed, isNull_eq_false_of_integer? ha, Bool.false_or]
    exact exists_unless_null hhigh false fun _ hb ↦ ⟨_, lt_of_integer? hb ha⟩

/-- The tighter of two bounds counts as an integer if one is picked out of integers. -/
theorem exists_tighter {pick : Value → Value → Except Fault Value}
    (hpick : ∀ a b, low.integer? = some a → high.integer? = some b →
      ∃ v n, pick low high = .ok v ∧ v.integer? = some n)
    (hlow : isCountable low = true) (hhigh : isCountable high = true) :
    ∃ v, (if low.isNull then .ok high else if high.isNull then .ok low else pick low high) = .ok v ∧
      isCountable v = true := by
  rcases eq_null_or_of_isCountable hlow with rfl | ⟨a, ha⟩
  · exact ⟨high, rfl, hhigh⟩
  · rw [isNull_eq_false_of_integer? ha]
    rcases eq_null_or_of_isCountable hhigh with rfl | ⟨b, hb⟩
    · exact ⟨low, rfl, hlow⟩
    · obtain ⟨v, n, hv, hn⟩ := hpick a b ha hb
      rw [isNull_eq_false_of_integer? hb]
      exact ⟨v, hv, by rw [isCountable, hn, Option.isSome_some, Bool.or_true]⟩

theorem exists_tighterMin (hlow : isCountable low = true) (hhigh : isCountable high = true) :
    ∃ v, Constraints.tighterMin low high = .ok v ∧ isCountable v = true :=
  exists_tighter (fun _ _ ha hb ↦ (exists_max_of_integer? ha hb).imp fun _ h ↦ ⟨_, h⟩) hlow hhigh

theorem exists_tighterMax (hlow : isCountable low = true) (hhigh : isCountable high = true) :
    ∃ v, Constraints.tighterMax low high = .ok v ∧ isCountable v = true :=
  exists_tighter (fun _ _ ha hb ↦ (exists_min_of_integer? ha hb).imp fun _ h ↦ ⟨_, h⟩) hlow hhigh

end Bounds

/-- Constraints whose bounds count as integers, as far as they are there. -/
structure Countable (c : Constraints) : Prop where
  minLength : isCountable c.minLength = true := by rfl
  maxLength : isCountable c.maxLength = true := by rfl
  minimum : isCountable c.minimum = true := by rfl
  maximum : isCountable c.maximum = true := by rfl

theorem exists_constraints (hf : f.isWellTyped = true) :
    ∃ c, Constraints.ofField f = .ok c ∧ Countable c := by
  obtain ⟨t, htype, ht⟩ := f.exists_type hf
  have hrule := f.isWellTyped_rule hf
  simp only [Spec.Rule.isWellTyped, Bool.and_eq_true] at hrule
  obtain ⟨⟨⟨hminLength, hmaxLength⟩, hminimum⟩, hmaximum⟩ := hrule
  rw [Constraints.ofField, htype]
  cases t with
  | string limit =>
    obtain ⟨v, hv, hcountable⟩ := exists_tighterMax ht hmaxLength
    simp only [hv]
    exact ⟨_, rfl, { minLength := hminLength, maxLength := hcountable }⟩
  | number low high =>
    rw [Spec.FieldType.isWellTyped, Bool.and_eq_true] at ht
    obtain ⟨v, hv, hcountable⟩ := exists_tighterMin ht.1 hminimum
    obtain ⟨w, hw, hcountable'⟩ := exists_tighterMax ht.2 hmaximum
    simp only [hv, hw]
    exact ⟨_, rfl, { minimum := hcountable, maximum := hcountable' }⟩
  | boolean => exact ⟨_, rfl, {}⟩
  | enum values => exact ⟨_, rfl, {}⟩
  | bytes length => exact ⟨_, rfl, {}⟩

/-- The constraints of a text have their pattern and the least length from the rule. -/
theorem constraints_of_string {limit : Value} (htype : f.type = some (.string limit))
    (hc : Constraints.ofField f = .ok c) :
    c.pattern = (f.rule.getD {}).pattern ∧ c.minLength = (f.rule.getD {}).minLength := by
  rw [Constraints.ofField, htype] at hc
  obtain ⟨v, -, hc⟩ := bind_eq_ok_iff.mp hc
  cases hc
  exact ⟨rfl, rfl⟩

/-! ## Findings on fields -/

theorem isPattern_empty : Pattern.isPattern "" = .ok true := by
  obtain ⟨b, hb, rfl⟩ := Fault.exists_of_gives (P := id) (x := Pattern.isPattern "")
    (by decide +kernel)
  exact hb

theorem exists_condition_typeProbes (hf : f.isWellTyped = true) :
    ∀ p ∈ typeProbes f.type, ∃ b, p.condition = .ok b := by
  obtain ⟨t, htype, ht⟩ := f.exists_type hf
  rw [htype]
  cases t with
  | string limit =>
    rw [typeProbes, List.forall_mem_singleton]
    exact exists_negative ht
  | number low high =>
    rw [Spec.FieldType.isWellTyped, Bool.and_eq_true] at ht
    rw [typeProbes, List.forall_mem_singleton]
    exact exists_crossed ht.1 ht.2
  | bytes length =>
    rw [typeProbes, List.forall_mem_singleton]
    exact exists_nonPositive ht
  | boolean => exact fun p hp ↦ by cases hp
  | enum values =>
    intro p hp
    rcases List.mem_cons.mp hp with rfl | hp
    · exact ⟨_, rfl⟩
    · obtain ⟨v, -, rfl⟩ := List.mem_map.mp hp
      exact ⟨_, rfl⟩

/-- The last of some probes, if only it may be for something that cannot be looked for. -/
theorem runAll_concat_eq_error_iff {α : Type} {front : List (Probe α)} {last : Probe α}
    (h : ∀ p ∈ front, ∃ b, p.condition = .ok b) (hlast : last.shown = []) :
    runAll (front ++ [last]) = .error e ↔
      (∃ p ∈ front ++ [last], p.Unsayable) ∧ e = .invalid ∨
        (∀ p ∈ front ++ [last], ¬p.Unsayable) ∧ last.condition = .error e := by
  have hsayable : ¬last.Unsayable := by
    rintro ⟨-, v, hv, -⟩
    rw [hlast] at hv
    cases hv
  have hrun (first : List α) (e : Fault) :
      (runAll [last] >>= fun later ↦ pure (first ++ later)) = .error e ↔
        last.condition = .error e := by
    rw [bind_pure_eq_error_iff, runAll, bind_pure_eq_error_iff, List.mapM_cons, List.mapM_nil]
    refine Iff.trans bind_pure_eq_error_iff ?_
    rw [Probe.run_eq_error_iff, or_iff_left fun h ↦ hsayable h.1]
  rw [runAll_append, bind_eq_error_iff_of_forall (fun _ ↦ runAll_eq_error_iff h) hrun]
  simp [List.mem_append, or_imp, forall_and, hsayable, or_and_right, exists_or]

/-- What is looked for in a rule can be looked for, but for the last, which is a bad pattern. -/
theorem exists_ruleProbes_eq {r : Spec.Rule} (hr : r.isWellTyped = true) :
    ∃ front last, ruleProbes r = front ++ [last] ∧ (∀ p ∈ front, ∃ b, p.condition = .ok b) ∧
      last.shown = [] ∧
      ∀ e, last.condition = .error e ↔ Pattern.isPattern (r.pattern.getD "") = .error e := by
  simp only [Spec.Rule.isWellTyped, Bool.and_eq_true] at hr
  obtain ⟨⟨⟨hminLength, hmaxLength⟩, hminimum⟩, hmaximum⟩ := hr
  refine ⟨[_, _, _, _], _, rfl, ?_, rfl, fun e ↦ ?_⟩
  · simp only [List.forall_mem_cons]
    exact ⟨exists_negative hminLength, exists_negative hmaxLength,
      exists_crossed hminLength hmaxLength, exists_crossed hminimum hmaximum,
      fun p hp ↦ by cases hp⟩
  · rw [map_eq_pure_bind, bind_pure_eq_error_iff]

/-- How the check of the type and the rule of a field fails: a bound is refused that cannot be
shown, or else the pattern cannot be looked at. -/
theorem ownProbes_eq_error_iff (hf : f.isWellTyped = true) :
    runAll (ownProbes f) = .error e ↔
      (∃ p ∈ ownProbes f, p.Unsayable) ∧ e = .invalid ∨
        (∀ p ∈ ownProbes f, ¬p.Unsayable) ∧ Pattern.isPattern f.pattern = .error e := by
  have htype := exists_condition_typeProbes hf
  have hwell := f.isWellTyped_rule hf
  rw [ownProbes, Spec.Field.pattern]
  cases hr : f.rule with
  | none =>
    have hempty : Pattern.isPattern (((none : Option Spec.Rule).getD {}).pattern.getD "") =
        .ok true := isPattern_empty
    rw [Option.elim_none, List.append_nil, runAll_eq_error_iff htype, hempty]
    simp
  | some r =>
    rw [hr, Option.getD_some] at hwell
    obtain ⟨front, last, hsplit, hfront, hlast, hpattern⟩ := exists_ruleProbes_eq hwell
    have hbounds : ∀ p ∈ typeProbes f.type ++ front, ∃ b, p.condition = .ok b := by
      simp only [List.mem_append, or_imp, forall_and]
      exact ⟨htype, hfront⟩
    rw [Option.elim_some, hsplit, ← List.append_assoc, runAll_concat_eq_error_iff hbounds hlast,
      hpattern, Option.getD_some]

theorem exists_condition_mergedProbes (hc : Countable c) :
    ∀ p ∈ mergedProbes c, ∃ b, p.condition = .ok b := by
  simp only [mergedProbes, List.forall_mem_cons]
  exact ⟨exists_crossed hc.minLength hc.maxLength, exists_crossed hc.minimum hc.maximum,
    fun p hp ↦ by cases hp⟩

/-- Whether a string does not match a pattern is a matter of searching it. -/
theorem isUnmatched_eq_error_iff {pattern : String} {codes : List Nat}
    (h : Pattern.isPattern pattern = .ok true) :
    isUnmatched codes pattern = .error e ↔ Pattern.foundIn pattern codes = .error e := by
  rw [isUnmatched]
  cases hempty : pattern.isEmpty with
  | true =>
    rw [String.isEmpty_iff] at hempty
    rw [hempty, Pattern.foundIn_empty]
    exact iff_of_false (by rintro ⟨⟩) (by rintro ⟨⟩)
  | false =>
    rw [if_neg (by decide), h]
    exact bind_pure_eq_error_iff

/-- How the check of a default value fails. A bound that it does not keep cannot be shown, or else
it cannot be searched with the pattern, or else something is found and the value itself cannot be
shown. -/
inductive DefaultBaffles (f : Spec.Field) (t : Spec.FieldType) (c : Constraints) : Fault → Prop
  | bound {p : Probe DefaultProblem} (hfits : fits f.defaultValue t = true)
      (hp : p ∈ defaultProbes f.defaultValue t c) (h : p.Unsayable) : DefaultBaffles f t c .invalid
  | pattern {limit : Value} {codes : List Nat} {e : Fault} (ht : t = .string limit)
      (hcodes : f.defaultValue.codes? = some codes)
      (hbounds : ∀ p ∈ defaultProbes f.defaultValue t c, ¬p.Unsayable)
      (h : Pattern.foundIn f.pattern codes = .error e) : DefaultBaffles f t c e
  | shown {found : List Finding} (hfound : valueFindings f t = .ok found) (hne : found ≠ [])
      (h : f.defaultValue.isShowable = false) : DefaultBaffles f t c .invalid

/-- What is looked for in a string can be looked for, but for the last, which is its pattern. -/
theorem exists_stringProbes_eq (hc : Countable c) (codes : List Nat)
    (hpattern : Pattern.isPattern (c.pattern.getD "") = .ok true) :
    ∃ front last, stringProbes c codes = front ++ [last] ∧
      (∀ p ∈ front, ∃ b, p.condition = .ok b) ∧ last.shown = [] ∧
      ∀ e, last.condition = .error e ↔ Pattern.foundIn (c.pattern.getD "") codes = .error e := by
  refine ⟨[_, _], _, rfl, ?_, rfl, fun e ↦ isUnmatched_eq_error_iff hpattern⟩
  simp only [List.forall_mem_cons]
  exact ⟨exists_isAbove hc.maxLength _, exists_isBelow hc.minLength _, fun p hp ↦ by cases hp⟩

/-- What is looked for in a default value of the right kind is looked for without fail, but for a
bound that cannot be shown and a string that cannot be searched with its pattern. -/
theorem defaultProbes_eq_error_iff (htype : f.type = some t) (hc : Constraints.ofField f = .ok c)
    (hcountable : Countable c) (hfits : fits f.defaultValue t = true)
    (hpattern : Pattern.isPattern f.pattern = .ok true) :
    runAll (defaultProbes f.defaultValue t c) = .error e ↔
      (∃ p ∈ defaultProbes f.defaultValue t c, p.Unsayable) ∧ e = .invalid ∨
        (∀ p ∈ defaultProbes f.defaultValue t c, ¬p.Unsayable) ∧ ∃ limit codes, t = .string limit ∧
          f.defaultValue.codes? = some codes ∧ Pattern.foundIn f.pattern codes = .error e := by
  have hother (ht : ∀ limit, t ≠ .string limit) : ¬∃ limit codes, t = .string limit ∧
      f.defaultValue.codes? = some codes ∧ Pattern.foundIn f.pattern codes = .error e := by
    rintro ⟨limit, -, hlimit, -⟩
    exact ht limit hlimit
  cases t with
  | string limit =>
    obtain ⟨codes, hcodes⟩ := Option.isSome_iff_exists.mp hfits
    have hown : c.pattern.getD "" = f.pattern := by
      rw [(constraints_of_string htype hc).1, Spec.Field.pattern]
    obtain ⟨front, last, hsplit, hfront, hlast, hfound⟩ :=
      exists_stringProbes_eq hcountable codes (hown ▸ hpattern)
    rw [hown] at hfound
    rw [defaultProbes, hcodes, Option.elim_some, hsplit, runAll_concat_eq_error_iff hfront hlast,
      hfound]
    simp
  | number low high =>
    rw [runAll_eq_error_iff, or_iff_left fun h ↦ hother (by rintro _ ⟨⟩) h.2]
    cases hv : f.defaultValue with
    | int n =>
      simp only [defaultProbes, numberProbes, List.forall_mem_cons]
      exact ⟨exists_isBelow hcountable.minimum n, exists_isAbove hcountable.maximum n,
        fun p hp ↦ by cases hp⟩
    | _ =>
      rw [hv] at hfits
      cases hfits
  | boolean | enum values | bytes length =>
    rw [runAll_eq_error_iff (fun p hp ↦ by cases hp),
      or_iff_left fun h ↦ hother (by rintro _ ⟨⟩) h.2]

theorem valueFindings_eq_error_iff (hc : Constraints.ofField f = .ok c) :
    valueFindings f t = .error e ↔
      fits f.defaultValue t = true ∧ runAll (defaultProbes f.defaultValue t c) = .error e := by
  rw [valueFindings]
  cases hfits : fits f.defaultValue t with
  | false => exact iff_of_false (by rintro ⟨⟩) (by rintro ⟨⟨⟩, -⟩)
  | true =>
    rw [hc]
    exact Iff.trans bind_pure_eq_error_iff (and_iff_right rfl).symm

/-- The default of a field is looked at without fail, but for one that makes its check fail. -/
theorem defaultFindings_eq_error_iff (htype : f.type = some t) (hc : Constraints.ofField f = .ok c)
    (hcountable : Countable c) (hpattern : Pattern.isPattern f.pattern = .ok true) :
    defaultFindings f = .error e ↔ f.defaultValue.isNull = false ∧ DefaultBaffles f t c e := by
  cases hnull : f.defaultValue.isNull with
  | true =>
    rw [defaultFindings, hnull]
    exact iff_of_false (by rintro ⟨⟩) (by rintro ⟨⟨⟩, -⟩)
  | false =>
    rw [defaultFindings, hnull, htype, and_iff_right rfl]
    simp only [Bool.false_eq_true, if_false, Option.elim_some, bind_eq_error_iff]
    constructor
    · rintro (h | ⟨found, hfound, h⟩)
      · obtain ⟨hfits, h⟩ := (valueFindings_eq_error_iff hc).mp h
        rcases (defaultProbes_eq_error_iff htype hc hcountable hfits hpattern).mp h with
          ⟨⟨p, hp, hsay⟩, rfl⟩ | ⟨hbounds, limit, codes, ht, hcodes, h⟩
        · exact .bound hfits hp hsay
        · exact .pattern ht hcodes hbounds h
      · split at h
        · cases h
        · rename_i hshown
          rw [throw_eq_error_iff] at h
          subst h
          simp only [Bool.or_eq_true, List.isEmpty_iff, not_or, Bool.not_eq_true] at hshown
          exact .shown hfound hshown.1 hshown.2
    · intro h
      cases h with
      | bound hfits hp hsay =>
        refine .inl ((valueFindings_eq_error_iff hc).mpr ⟨hfits, ?_⟩)
        exact (defaultProbes_eq_error_iff htype hc hcountable hfits hpattern).mpr
          (.inl ⟨⟨_, hp, hsay⟩, rfl⟩)
      | pattern ht hcodes hbounds h =>
        have hfits : fits f.defaultValue t = true := by
          rw [ht, fits, hcodes]
          rfl
        refine .inl ((valueFindings_eq_error_iff hc).mpr ⟨hfits, ?_⟩)
        exact (defaultProbes_eq_error_iff htype hc hcountable hfits hpattern).mpr
          (.inr ⟨hbounds, _, _, ht, hcodes, h⟩)
      | shown hfound hne hshown =>
        refine .inr ⟨_, hfound, ?_⟩
        rw [if_neg (by simp [hne, hshown]), throw_eq_error_iff]

/-- How a field makes its own check fail. A bound that is refused, by itself or after bounds were
merged, has too many digits to be shown; or the pattern cannot be looked at; or the default makes
its check fail. What comes later is looked at only if nothing has been found before. -/
inductive Baffles (f : Spec.Field) : Fault → Prop
  | bound {p : Probe Finding} (hp : p ∈ ownProbes f) (h : p.Unsayable) : Baffles f .invalid
  | pattern {e : Fault} (hbounds : ∀ p ∈ ownProbes f, ¬p.Unsayable)
      (h : Pattern.isPattern f.pattern = .error e) : Baffles f e
  | merged {c : Constraints} {p : Probe Finding}
      (hown : ∀ p ∈ ownProbes f, p.condition = .ok false) (hc : Constraints.ofField f = .ok c)
      (hp : p ∈ mergedProbes c) (h : p.Unsayable) : Baffles f .invalid
  | default {t : Spec.FieldType} {c : Constraints} {e : Fault}
      (hown : ∀ p ∈ ownProbes f, p.condition = .ok false) (htype : f.type = some t)
      (hc : Constraints.ofField f = .ok c) (hmerged : ∀ p ∈ mergedProbes c, ¬p.Unsayable)
      (hdefault : f.defaultValue.isNull = false) (h : DefaultBaffles f t c e) : Baffles f e

theorem isPattern_of_ownProbes (h : ∀ p ∈ ownProbes f, p.condition = .ok false) :
    Pattern.isPattern f.pattern = .ok true := by
  rw [Spec.Field.pattern]
  cases hr : f.rule with
  | none => exact isPattern_empty
  | some r => exact (ruleProbes_spec (ruleProbes_of_ownProbes h hr)).1

/-- The check of a field fails exactly as the field makes it fail. -/
theorem fieldFindings_eq_error_iff (hf : f.isWellTyped = true) :
    fieldFindings f = .error e ↔ Baffles f e := by
  obtain ⟨t, htype, -⟩ := f.exists_type hf
  obtain ⟨c, hc, hcountable⟩ := exists_constraints hf
  have hmerged {e : Fault} :=
    runAll_eq_error_iff (exists_condition_mergedProbes hcountable) (e := e)
  -- After nothing was found, constraints are merged and the default is looked at.
  have hlater (hown : ∀ p ∈ ownProbes f, p.condition = .ok false) {e : Fault} :
      (Constraints.ofField f >>= fun c ↦ runAll (mergedProbes c) >>= fun merged ↦
        defaultFindings f >>= fun ofDefault ↦ pure (merged ++ ofDefault)) = .error e ↔
      (∃ p ∈ mergedProbes c, p.Unsayable) ∧ e = .invalid ∨
        (¬∃ p ∈ mergedProbes c, p.Unsayable) ∧ f.defaultValue.isNull = false ∧
          DefaultBaffles f t c e := by
    have hdefault (merged : List Finding) (e : Fault) :
        (defaultFindings f >>= fun ofDefault ↦ pure (merged ++ ofDefault)) = .error e ↔
          f.defaultValue.isNull = false ∧ DefaultBaffles f t c e := by
      rw [bind_pure_eq_error_iff,
        defaultFindings_eq_error_iff htype hc hcountable (isPattern_of_ownProbes hown)]
    rw [hc]
    exact bind_eq_error_iff_of_forall (fun _ ↦ hmerged) hdefault
  rw [fieldFindings, bind_eq_error_iff, ownProbes_eq_error_iff hf]
  constructor
  · rintro ((⟨⟨p, hp, h⟩, rfl⟩ | ⟨hbounds, h⟩) | ⟨own, hown, h⟩)
    · exact .bound hp h
    · exact .pattern hbounds h
    · cases own with
      | cons => cases h
      | nil =>
        rw [runAll_eq_nil_iff] at hown
        rcases (hlater hown).mp h with ⟨⟨p, hp, hsay⟩, rfl⟩ | ⟨hbounds, hdefault, h⟩
        · exact .merged hown hc hp hsay
        · exact .default hown htype hc (fun p hp hsay ↦ hbounds ⟨p, hp, hsay⟩) hdefault h
  · intro h
    cases h with
    | bound hp h => exact .inl (.inl ⟨⟨_, hp, h⟩, rfl⟩)
    | pattern hbounds h => exact .inl (.inr ⟨hbounds, h⟩)
    | merged hown hc' hp h =>
      cases hc.symm.trans hc'
      exact .inr ⟨[], runAll_eq_nil_iff.mpr hown, (hlater hown).mpr (.inl ⟨⟨_, hp, h⟩, rfl⟩)⟩
    | default hown htype' hc' hbounds hdefault h =>
      cases hc.symm.trans hc'
      cases htype.symm.trans htype'
      refine .inr ⟨[], runAll_eq_nil_iff.mpr hown, (hlater hown).mpr (.inr ⟨?_, hdefault, h⟩)⟩
      rintro ⟨p, hp, hsay⟩
      exact hbounds p hp hsay

/-! ## Severity of findings on fields -/

theorem severity_of_defaultFindings {found : List Finding} (h : defaultFindings f = .ok found)
    {x : Finding} (hx : x ∈ found) : x.severity = .error := by
  cases hnull : f.defaultValue.isNull with
  | true =>
    rw [defaultFindings, hnull] at h
    cases h
    cases hx
  | false =>
    obtain ⟨t, -, h, -⟩ := (defaultFindings_eq_ok_iff hnull).mp h
    rw [valueFindings] at h
    split at h
    · cases h
      cases List.mem_singleton.mp hx
      rfl
    · obtain ⟨c, -, h⟩ := bind_eq_ok_iff.mp h
      obtain ⟨problems, -, h⟩ := bind_eq_ok_iff.mp h
      rw [pure_eq_ok_iff] at h
      subst h
      obtain ⟨problem, -, rfl⟩ := List.mem_map.mp hx
      rfl

theorem severity_of_fieldFindings {found : List Finding} (h : fieldFindings f = .ok found)
    {x : Finding} (hx : x ∈ found) : x.severity = .error := by
  rcases fieldFindings_eq_ok_iff.mp h with
    ⟨-, hown⟩ | ⟨-, c, -, merged, ofDefault, hmerged, hdefault, rfl⟩
  · obtain ⟨p, hp, rfl⟩ := exists_of_mem_runAll hown hx
    exact (onRules_of_mem_ownProbes hp).1
  · rcases List.mem_append.mp hx with hx | hx
    · obtain ⟨p, hp, rfl⟩ := exists_of_mem_runAll hmerged hx
      exact (onRules_of_mem_mergedProbes hp).1
    · exact severity_of_defaultFindings hdefault hx

/-! ## Messages in which nothing is wrong -/

/-- A message in which nothing is wrong: its format can be read, its fields have different names,
which are those of the placeholders, and nothing is found in them. -/
def Flawless (m : Spec.Message) : Prop :=
  ∃ fields format names, Spec.itemsOf m.fields = .ok fields ∧ m.format = some format ∧
    Format.placeholderNames format = .ok names ∧ (fields.map (·.name)).Nodup ∧
    (∀ name, name ∈ fields.map (·.name) ↔ name ∈ names.map some) ∧
    ∀ f ∈ fields, ofField f m.name = .ok []

def isFlawless (m : Spec.Message) : Bool :=
  match Spec.itemsOf m.fields, m.format.map Format.placeholderNames with
  | .ok fields, some (.ok names) =>
    decide ((fields.map (·.name)).Nodup ∧
      (∀ f ∈ fields, f.name ∈ names.map some) ∧ ∀ name ∈ names, some name ∈ fields.map (·.name)) &&
      fields.all fun f ↦ Fault.gives (ofField f m.name) (·.isEmpty)
  | _, _ => false

theorem flawless_iff : Flawless m ↔ isFlawless m = true := by
  constructor
  · rintro ⟨fields, format, names, hfields, hformat, hnames, hnodup, hsame, hown⟩
    rw [isFlawless, hfields, hformat, Option.map_some, hnames]
    simp only [Bool.and_eq_true, decide_eq_true_eq, List.all_eq_true]
    refine ⟨⟨hnodup, fun f hf ↦ (hsame _).mp (List.mem_map_of_mem hf), fun name hname ↦ ?_⟩, ?_⟩
    · exact (hsame _).mpr (List.mem_map_of_mem hname)
    · intro f hf
      rw [hown f hf]
      rfl
  · intro h
    rw [isFlawless.eq_def] at h
    split at h
    · rename_i fields names hfields hnames
      obtain ⟨format, hformat, hnames⟩ := Option.map_eq_some_iff.mp hnames
      simp only [Bool.and_eq_true, decide_eq_true_eq, List.all_eq_true] at h
      obtain ⟨⟨hnodup, hdeclared, hplaced⟩, hown⟩ := h
      refine ⟨fields, format, names, hfields, hformat, hnames, hnodup, fun name ↦ ⟨?_, ?_⟩, ?_⟩
      · intro hname
        obtain ⟨f, hf, rfl⟩ := List.mem_map.mp hname
        exact hdeclared f hf
      · intro hname
        obtain ⟨text, htext, rfl⟩ := List.mem_map.mp hname
        exact hplaced text htext
      · intro f hf
        obtain ⟨found, hfound, hempty⟩ := Fault.exists_of_gives (hown f hf)
        rw [hfound, List.isEmpty_iff.mp hempty]
    · cases h

instance : DecidablePred Flawless :=
  fun _ ↦ decidable_of_iff _ flawless_iff.symm

theorem ofField_eq_nil_iff {name : Option String} :
    ofField f name = .ok [] ↔ fieldFindings f = .ok [] := by
  rw [ofField, bind_eq_ok_iff]
  simp

theorem any_isError_ofField {name : Option String} (h : ofField f name = .ok found) :
    found.any (·.isError) = false ↔ found = [] := by
  rw [ofField] at h
  obtain ⟨findings, hfindings, h⟩ := bind_eq_ok_iff.mp h
  rw [pure_eq_ok_iff] at h
  subst h
  rw [List.any_map, List.any_eq_false, List.map_eq_nil_iff, List.eq_nil_iff_forall_not_mem]
  refine forall₂_congr fun x hx ↦ ?_
  simp [Diagnostic.isError, severity_of_fieldFindings hfindings hx]

theorem any_isError_ofMessage (h : ofMessage m = .ok found) :
    found.any (·.isError) = false ↔ Flawless m := by
  obtain ⟨fields, ofFormat, ofFields, hfields, hformat, hown, rfl⟩ := ofMessage_eq_ok_iff.mp h
  have hnone : ofFields.flatten.any (·.isError) = false ↔
      ∀ f ∈ fields, ofField f m.name = .ok [] := by
    rw [List.any_flatten, List.any_eq_false]
    constructor
    · intro hsound f hf
      obtain ⟨found, hmem, hfound⟩ := exists_of_mem_items hown hf
      rw [hfound, (any_isError_ofField hfound).mp (by simpa using hsound found hmem)]
    · intro hnil found hmem
      obtain ⟨f, hf, hfound⟩ := exists_of_mem_results hown hmem
      rw [Bool.not_eq_true]
      exact (any_isError_ofField hfound).mpr (Except.ok.inj (hfound.symm.trans (hnil f hf)))
  rw [List.any_append, List.any_append, Bool.or_eq_false_iff, Bool.or_eq_false_iff,
    any_isError_repeated, any_isError_formatDiagnostics hformat, hnone]
  constructor
  · rintro ⟨⟨hnodup, format, names, hformat, hnames, hsame⟩, hnil⟩
    exact ⟨fields, format, names, hfields, hformat, hnames, hnodup, hsame, hnil⟩
  · rintro ⟨fields', format, names, hfields', hformat, hnames, hnodup, hsame, hnil⟩
    cases hfields.symm.trans hfields'
    exact ⟨⟨hnodup, format, names, hformat, hnames, hsame⟩, hnil⟩

theorem messageName_of_ofMessage (h : ofMessage m = .ok found) {d : Diagnostic} (hd : d ∈ found) :
    d.messageName = m.name := by
  obtain ⟨fields, ofFormat, ofFields, -, hformat, hown, rfl⟩ := ofMessage_eq_ok_iff.mp h
  rcases List.mem_append.mp hd with hd | hd
  · rcases List.mem_append.mp hd with hd | hd
    · obtain ⟨n, -, rfl⟩ := List.mem_map.mp hd
      rfl
    · rw [formatDiagnostics] at hformat
      split at hformat
      · cases hformat
      · split at hformat
        · cases hformat
          cases List.mem_singleton.mp hd
          rfl
        · cases hformat
          simp only [placeholderDiagnostics, List.mem_append, List.mem_map] at hd
          rcases hd with (⟨n, -, rfl⟩ | ⟨n, -, rfl⟩) | ⟨n, -, rfl⟩ <;> rfl
  · obtain ⟨found, hfound, hd⟩ := List.mem_flatten.mp hd
    obtain ⟨f, -, heq⟩ := exists_of_mem_results hown hfound
    rw [ofField] at heq
    obtain ⟨findings, -, heq⟩ := bind_eq_ok_iff.mp heq
    rw [pure_eq_ok_iff] at heq
    subst heq
    obtain ⟨x, -, rfl⟩ := List.mem_map.mp hd
    rfl

/-- A message with a field that makes its own check fail. -/
def Baffling (m : Spec.Message) (e : Fault) : Prop :=
  ∃ f, some f ∈ m.fields.getD [] ∧ Baffles f e

theorem exists_fields (hm : m.isWellTyped = true) :
    ∃ (fields : List Spec.Field) (format : String), m.fields = some (fields.map some) ∧
      m.format = some format ∧ ∀ f ∈ fields, f.isWellTyped = true := by
  rw [Spec.Message.isWellTyped, Bool.and_eq_true, Bool.and_eq_true] at hm
  obtain ⟨⟨-, hformat⟩, hfields⟩ := hm
  obtain ⟨format, hformat⟩ := Option.isSome_iff_exists.mp hformat
  obtain ⟨fields, hfields, hwell⟩ := exists_of_hasAll hfields
  exact ⟨fields, format, hfields, hformat, hwell⟩

theorem mem_getD_map_some {fields : List Spec.Field} (hfields : m.fields = some (fields.map some)) :
    some f ∈ m.fields.getD [] ↔ f ∈ fields := by
  rw [hfields]
  simp

/-- The check of a message fails only as one of its fields makes it fail. -/
theorem baffling_of_ofMessage (hm : m.isWellTyped = true) (h : ofMessage m = .error e) :
    Baffling m e := by
  obtain ⟨fields, format, hfields, hformat, hwell⟩ := exists_fields hm
  have hends : ∃ ofFormat, formatDiagnostics m (fields.map (·.name)) = .ok ofFormat := by
    rw [formatDiagnostics, hformat]
    dsimp only
    cases Format.placeholderNames format with
    | error e => exact ⟨_, rfl⟩
    | ok names => exact ⟨_, rfl⟩
  obtain ⟨ofFormat, hofFormat⟩ := hends
  rw [ofMessage, hfields, itemsOf_map_some] at h
  change (formatDiagnostics m (fields.map (·.name)) >>= fun ofFormat ↦ _) = _ at h
  rw [hofFormat] at h
  obtain ⟨f, hf, hfield⟩ := exists_of_mapM_eq_error (bind_pure_eq_error_iff.mp h)
  rw [ofField, bind_pure_eq_error_iff, fieldFindings_eq_error_iff (hwell f hf)] at hfield
  exact ⟨f, (mem_getD_map_some hfields).mpr hf, hfield⟩

/-- The check of a message does not end if one of its fields makes it fail. -/
theorem not_baffling_of_ofMessage (hm : m.isWellTyped = true) (h : ofMessage m = .ok found)
    (e : Fault) : ¬Baffling m e := by
  rintro ⟨f, hf, hbaffles⟩
  obtain ⟨fields, format, hfields, -, hwell⟩ := exists_fields hm
  rw [mem_getD_map_some hfields] at hf
  obtain ⟨fields', -, ofFields, hpresent, -, hown, -⟩ := ofMessage_eq_ok_iff.mp h
  rw [hfields, itemsOf_map_some, Except.ok.injEq] at hpresent
  subst hpresent
  obtain ⟨own, -, hofField⟩ := exists_of_mem_items hown hf
  rw [ofField, (fieldFindings_eq_error_iff (hwell f hf)).mpr hbaffles] at hofField
  cases hofField

/-! ## Specifications -/

def findingsBeside (s : Spec) : Except Fault (List Finding) := do
  let types ← Spec.itemsOf s.types
  let typeProblems ← types.mapM typeFindings
  let handling ← s.errorHandling.elim (.error .absent) pure
  let retryProblems ← retryFindings handling
  let connection ← s.connection.elim (.error .absent) pure
  return (repeated (types.map (·.name))).map .repeatedType ++ typeProblems.flatten ++
    retryProblems ++ findIf (connection.transport == some .udp) .udpTransport

def findingsOnMessages (messages : List Spec.Message) : List Finding :=
  findIf messages.isEmpty .noMessages ++ (repeated (messages.map (·.name))).map .repeatedMessage

theorem ofSpec_eq (s : Spec) : ofSpec s = do
    let messages ← Spec.itemsOf s.messages
    let beside ← findingsBeside s
    let findings := findingsOnMessages messages ++ beside
    return findings.map (⟨·, none, none⟩) ++ unanswered messages := by
  simp only [ofSpec, findingsBeside, findingsOnMessages, bind_assoc, pure_bind, List.append_assoc]

theorem exists_typeFindings {t : Spec.TypeDefinition} (ht : t.isWellTyped = true) :
    ∃ found, typeFindings t = .ok found := by
  rw [Spec.TypeDefinition.isWellTyped, Bool.and_eq_true] at ht
  obtain ⟨values, hvalues, -⟩ := exists_of_hasAll ht.1
  obtain ⟨fields, hfields, -⟩ := exists_of_hasAll ht.2
  rw [typeFindings, hvalues, hfields, itemsOf_map_some, itemsOf_map_some]
  split
  · exact ⟨_, rfl⟩
  · exact ⟨_, rfl⟩
  · exact ⟨_, rfl⟩

theorem exists_retryFindings {h : Spec.ErrorHandling} (hh : h.isWellTyped = true) :
    ∃ found, retryFindings h = .ok found := by
  rw [Spec.ErrorHandling.isWellTyped, Bool.and_eq_true] at hh
  obtain ⟨attempts, hattempts⟩ := exists_missingOrBelow hh.1 1
  obtain ⟨delay, hdelay⟩ := exists_missingOrBelow hh.2 0
  rw [retryFindings, hattempts, hdelay]
  split
  · exact ⟨_, rfl⟩
  · exact ⟨_, rfl⟩

/-- The checks of a well-typed specification as a whole end. -/
theorem exists_ofSpec {s : Spec} (hs : s.isWellTyped = true) : ∃ ds, ofSpec s = .ok ds := by
  simp only [Spec.isWellTyped, Bool.and_eq_true] at hs
  obtain ⟨⟨⟨⟨-, hconnection⟩, hmessages⟩, htypes⟩, hhandling⟩ := hs
  obtain ⟨connection, hconnection⟩ := Option.isSome_iff_exists.mp hconnection
  obtain ⟨messages, hmessages, -⟩ := exists_of_hasAll hmessages
  obtain ⟨types, htypes, hwell⟩ := exists_of_hasAll htypes
  obtain ⟨typeProblems, htypeProblems⟩ :=
    exists_results fun t ht ↦ exists_typeFindings (hwell t ht)
  cases hh : s.errorHandling with
  | none =>
    rw [hh] at hhandling
    cases hhandling
  | some handling =>
    rw [hh] at hhandling
    obtain ⟨retryProblems, hretryProblems⟩ := exists_retryFindings hhandling
    have hbeside : ∃ beside, findingsBeside s = .ok beside := by
      rw [findingsBeside, htypes, itemsOf_map_some, hh, hconnection]
      change ∃ beside, (types.mapM typeFindings >>= fun problems ↦
        retryFindings handling >>= fun retry ↦ _) = _
      rw [htypeProblems, hretryProblems]
      exact ⟨_, rfl⟩
    obtain ⟨beside, hbeside⟩ := hbeside
    rw [ofSpec_eq, hmessages, itemsOf_map_some, hbeside]
    exact ⟨_, rfl⟩

theorem not_isError_of_mem_unanswered {messages : List Spec.Message} {d : Diagnostic}
    (hd : d ∈ unanswered messages) : d.isError = false := by
  rw [unanswered] at hd
  split at hd
  · cases hd
  · obtain ⟨m, -, rfl⟩ := List.mem_map.mp hd
    rfl

/-- No message is to blame for an error in a specification as a whole. -/
theorem messageName_of_ofSpec {s : Spec} {ds : List Diagnostic} (h : ofSpec s = .ok ds)
    {d : Diagnostic} (hd : d ∈ ds) (herror : d.isError = true) : d.messageName = none := by
  rw [ofSpec_eq] at h
  obtain ⟨messages, -, h⟩ := bind_eq_ok_iff.mp h
  obtain ⟨beside, -, h⟩ := bind_eq_ok_iff.mp h
  rw [pure_eq_ok_iff] at h
  subst h
  rcases List.mem_append.mp hd with hd | hd
  · obtain ⟨x, -, rfl⟩ := List.mem_map.mp hd
    rfl
  · rw [not_isError_of_mem_unanswered hd] at herror
    cases herror

/-- A specification that has no errors as a whole has none with one message in place of all. -/
theorem exists_ofSpec_alone {s : Spec} {ds : List Diagnostic} (h : ofSpec s = .ok ds)
    (hsound : ds.any (·.isError) = false) (m : Spec.Message) :
    ∃ ds', ofSpec { s with messages := some [some m] } = .ok ds' ∧
      ds'.any (·.isError) = false := by
  rw [ofSpec_eq] at h
  obtain ⟨messages, -, h⟩ := bind_eq_ok_iff.mp h
  obtain ⟨beside, hbeside, h⟩ := bind_eq_ok_iff.mp h
  rw [pure_eq_ok_iff] at h
  subst h
  refine ⟨beside.map (⟨·, none, none⟩) ++ unanswered [m], ?_, ?_⟩
  · have hsame : findingsBeside { s with messages := some [some m] } = .ok beside := hbeside
    rw [ofSpec_eq, hsame]
    have hnone : findingsOnMessages [m] = [] := by simp [findingsOnMessages, findIf, repeated]
    change Except.ok ((findingsOnMessages [m] ++ beside).map _ ++ _) = _
    rw [hnone]
    rfl
  · rw [List.any_eq_false] at hsound ⊢
    intro d hd
    rcases List.mem_append.mp hd with hd | hd
    · refine hsound d (List.mem_append_left _ ?_)
      rw [List.map_append]
      exact List.mem_append_right _ hd
    · rw [not_isError_of_mem_unanswered hd]
      decide

end Check

end TextProtocol
