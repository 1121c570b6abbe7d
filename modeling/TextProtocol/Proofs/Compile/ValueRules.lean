import TextProtocol.Proofs.Compile.Findings
import TextProtocol.Proofs.Json.Numerals
import TextProtocol.Proofs.Wire.Coercion

/-!
# Defaults at compile time and at run time

Two sets of rules say which values a field may have. `Check.defaultFindings` is for defaults, when a
specification is checked, and `FieldCheck.violations` for the values of messages, when they are
written. They list different things in a different order, and they do not treat all patterns alike:
the empty one is skipped for defaults.

They refuse the same values nonetheless, `Check.ofField_agrees_run`, as long as nothing is wrong
with what the field asks of its values.
-/

namespace TextProtocol

open Fault (bind_eq_ok_iff pure_eq_ok_iff exists_of_gives)

/-! ## Bounds -/

namespace FieldCheck

variable {n bound : Value} {codes : List Nat}

/-- A bound that is looked for in a default is one that values are compared with. -/
theorem exists_comparison_of_run {α : Type} {broken : Except Fault Bool} {finding : α}
    {own : List α} (h : Check.Probe.run ⟨if bound.isNull then .ok false else broken, [bound],
      finding⟩ = .ok own) (violation : Violation) :
    ∃ found, (if bound.isNull = true then pure [] else broken >>= fun b ↦
      if b = true then report bound violation else pure []) = .ok found ∧
        (found = [] ↔ own = []) := by
  rw [Check.Probe.run] at h
  cases hnull : bound.isNull with
  | true =>
    rw [hnull] at h
    cases h
    exact ⟨[], rfl, iff_of_true rfl rfl⟩
  | false =>
    rw [hnull] at h
    obtain ⟨b, hb, h⟩ := bind_eq_ok_iff.mp h
    have hbroken : broken = .ok b := hb
    rw [if_neg Bool.false_ne_true, hbroken, Fault.ok_bind]
    cases b with
    | false =>
      cases h
      exact ⟨[], rfl, iff_of_true rfl rfl⟩
    | true =>
      rw [if_pos rfl, report]
      rw [if_neg (by decide), List.all_cons, List.all_nil, Bool.and_true] at h
      split at h
      · rename_i hshown
        cases h
        rw [if_pos hshown]
        exact ⟨_, rfl, by simp⟩
      · cases h

theorem exists_patternViolations {pattern : Option String} {own : List DefaultProblem}
    (hone : ∀ p, pattern = some p → Pattern.isPattern p = .ok true)
    (h : Check.Probe.run ⟨Check.isUnmatched codes (pattern.getD ""), [],
      .unmatched (pattern.getD "")⟩ = .ok own) :
    ∃ found, patternViolations pattern codes = .ok found ∧ (found = [] ↔ own = []) := by
  obtain ⟨unmatched, hunmatched, h⟩ := bind_eq_ok_iff.mp h
  have hown : own = [] ↔ unmatched = false := by
    cases unmatched <;> cases h <;> simp
  rw [hown]
  dsimp only at hunmatched
  cases pattern with
  | none =>
    cases hunmatched
    exact ⟨[], rfl, iff_of_true rfl rfl⟩
  | some p =>
    rw [Option.getD_some, Check.isUnmatched] at hunmatched
    rw [patternViolations]
    -- An empty pattern is not looked at for defaults, but for other values it is.
    by_cases hempty : p.isEmpty = true
    · rw [if_pos hempty, pure_eq_ok_iff] at hunmatched
      rw [String.isEmpty_iff.mp hempty, Pattern.foundIn_empty]
      exact ⟨[], rfl, iff_of_true rfl hunmatched.symm⟩
    · rw [if_neg hempty, hone p rfl, Fault.ok_bind, if_pos rfl] at hunmatched
      obtain ⟨matched, hmatched, hunmatched⟩ := bind_eq_ok_iff.mp hunmatched
      rw [pure_eq_ok_iff] at hunmatched
      rw [hmatched, ← hunmatched]
      cases matched <;> exact ⟨_, rfl, by simp⟩

end FieldCheck

/-! ## Values -/

def Constraints.toCheck (c : Constraints) : Spec.FieldType → FieldCheck
  | .string _ => .text c.minLength c.maxLength c.pattern
  | .number .. => .number c.minimum c.maximum
  | .boolean => .boolean
  | .enum _ => .choice c.values
  | .bytes _ => .bytes c.length

/-- A text with a lone surrogate, as the value of a field of texts. -/
def Spec.FieldType.Strays : Spec.FieldType → Value → Prop
  | .string _, .unpaired _ => True
  | _, _ => False

namespace Check

variable {c : Constraints} {t : Spec.FieldType} {v : Value} {problems : List DefaultProblem}

theorem exists_textViolations {codes : List Nat}
    (hpattern : ∀ p, c.pattern = some p → Pattern.isPattern p = .ok true)
    (h : runAll (stringProbes c codes) = .ok problems) :
    ∃ found, FieldCheck.textViolations c.minLength c.maxLength c.pattern codes = .ok found ∧
      (found = [] ↔ problems = []) := by
  obtain ⟨longer, _, hlonger, hrest, rfl⟩ := runAll_cons_eq_ok_iff.mp h
  obtain ⟨shorter, _, hshorter, hlast, rfl⟩ := runAll_cons_eq_ok_iff.mp hrest
  obtain ⟨unmatched, none, hunmatched, hnone, rfl⟩ := runAll_cons_eq_ok_iff.mp hlast
  obtain rfl : [] = none := Except.ok.inj hnone
  obtain ⟨long, hlong, hlongIff⟩ :=
    FieldCheck.exists_comparison_of_run hlonger (.tooLong c.maxLength)
  obtain ⟨short, hshort, hshortIff⟩ :=
    FieldCheck.exists_comparison_of_run hshorter (.tooShort c.minLength)
  obtain ⟨other, hother, hotherIff⟩ := FieldCheck.exists_patternViolations hpattern hunmatched
  refine ⟨short ++ long ++ other, bind_eq_ok_iff.mpr ⟨short, hshort,
    bind_eq_ok_iff.mpr ⟨long, hlong, bind_eq_ok_iff.mpr ⟨other, hother, rfl⟩⟩⟩, ?_⟩
  simp only [List.append_eq_nil_iff, hlongIff, hshortIff, hotherIff, and_true]
  rw [and_comm (a := shorter = []), and_assoc]

theorem exists_numberViolations (h : runAll (numberProbes c v) = .ok problems) :
    ∃ found, FieldCheck.numberViolations c.minimum c.maximum v = .ok found ∧
      (found = [] ↔ problems = []) := by
  obtain ⟨below, _, hbelow, hrest, rfl⟩ := runAll_cons_eq_ok_iff.mp h
  obtain ⟨above, none, habove, hnone, rfl⟩ := runAll_cons_eq_ok_iff.mp hrest
  obtain rfl : [] = none := Except.ok.inj hnone
  obtain ⟨low, hlow, hlowIff⟩ := FieldCheck.exists_comparison_of_run hbelow (.below c.minimum)
  obtain ⟨high, hhigh, hhighIff⟩ := FieldCheck.exists_comparison_of_run habove (.above c.maximum)
  refine ⟨low ++ high, bind_eq_ok_iff.mpr ⟨low, hlow, bind_eq_ok_iff.mpr ⟨high, hhigh, rfl⟩⟩, ?_⟩
  simp only [List.append_eq_nil_iff, hlowIff, hhighIff, and_true]

theorem violations_of_not_fits (hfits : fits v t = false) (hheld : Json.isHeld v = true)
    (hvalues : ∀ values, t = .enum values → c.values = values) :
    ∃ found, (c.toCheck t).violations true [] v = .ok found ∧ found ≠ [] := by
  cases t with
  | string limit =>
    cases v with
    | text | unpaired => cases hfits
    | _ => exact ⟨[.notText], rfl, List.cons_ne_nil _ _⟩
  | number low high =>
    cases v with
    | int n => cases hfits
    | _ => exact ⟨[.notInteger], rfl, List.cons_ne_nil _ _⟩
  | boolean =>
    cases v with
    | bool b => cases hfits
    | _ => exact ⟨[.notBoolean], rfl, List.cons_ne_nil _ _⟩
  | enum values =>
    refine ⟨[.notAmong c.values], if_neg ?_, List.cons_ne_nil _ _⟩
    rw [hvalues values rfl]
    exact Bool.eq_false_iff.mp hfits
  | bytes length =>
    cases v with
    | bytes | buffer => cases hheld
    | _ => exact ⟨[.notBytes], rfl, List.cons_ne_nil _ _⟩

/-- A value that fits a type has violations exactly if it has problems as a default, unless it
cannot be written at all. -/
theorem violations_of_fits (hfits : fits v t = true) (hheld : Json.isHeld v = true)
    (hpattern : ∀ p, c.pattern = some p → Pattern.isPattern p = .ok true)
    (hvalues : ∀ values, t = .enum values → c.values = values)
    (h : runAll (defaultProbes v t c) = .ok problems) :
    (t.Strays v → (c.toCheck t).violations true [] v = .error .unencodable) ∧
    (¬t.Strays v → ∃ found, (c.toCheck t).violations true [] v = .ok found ∧
      (found = [] ↔ problems = [])) := by
  cases t with
  | string limit =>
    cases v with
    | text s =>
      refine ⟨fun hstrays ↦ hstrays.elim, fun _ ↦ ?_⟩
      obtain ⟨found, hfound, hiff⟩ := exists_textViolations hpattern h
      refine ⟨found, bind_eq_ok_iff.mpr ⟨[], rfl, bind_eq_ok_iff.mpr ⟨found, hfound, ?_⟩⟩, hiff⟩
      exact congrArg Except.ok (List.append_nil found)
    | unpaired s =>
      refine ⟨fun _ ↦ ?_, fun hstrays ↦ absurd trivial hstrays⟩
      obtain ⟨found, hfound, -⟩ := exists_textViolations hpattern h
      change (FieldCheck.textViolations c.minLength c.maxLength c.pattern s.codes >>= fun _ ↦ _) = _
      rw [hfound]
      rfl
    | _ => cases hfits
  | number low high =>
    cases v with
    | int n =>
      refine ⟨fun hstrays ↦ hstrays.elim, fun _ ↦ ?_⟩
      obtain ⟨found, hfound, hiff⟩ := exists_numberViolations h
      refine ⟨found, bind_eq_ok_iff.mpr ⟨found, hfound, ?_⟩, hiff⟩
      rw [FieldCheck.stopViolations_nil (Wire.fault?_int.mpr hheld)]
      exact congrArg Except.ok (List.append_nil found)
    | _ => cases hfits
  | boolean =>
    cases v with
    | bool b =>
      cases h
      exact ⟨fun hstrays ↦ hstrays.elim, fun _ ↦ ⟨[], rfl, iff_of_true rfl rfl⟩⟩
    | _ => cases hfits
  | enum values =>
    cases v with
    | text s =>
      cases h
      have hmem : c.values.contains s = true := by rwa [hvalues values rfl]
      exact ⟨fun hstrays ↦ hstrays.elim, fun _ ↦ ⟨[], if_pos hmem, iff_of_true rfl rfl⟩⟩
    | _ => cases hfits
  | bytes length => cases hfits

/-! ## Fields -/

theorem cases_of_constraints {f : Spec.Field} (h : Constraints.ofField f = .ok c) :
    ∃ t, f.type = some t ∧ (∀ p, c.pattern = some p → (f.rule.getD {}).pattern = some p) ∧
      (∀ values, t = .enum values → c.values = values) ∧
      (c.length = .null ∨ t = .bytes c.length) := by
  rw [Constraints.ofField] at h
  split at h
  · rename_i limit htype
    obtain ⟨maxLength, -, h⟩ := bind_eq_ok_iff.mp h
    cases h
    exact ⟨_, htype, fun _ hp ↦ hp, fun _ ht ↦ (by cases ht), .inl rfl⟩
  · rename_i low high htype
    obtain ⟨minimum, -, h⟩ := bind_eq_ok_iff.mp h
    obtain ⟨maximum, -, h⟩ := bind_eq_ok_iff.mp h
    cases h
    exact ⟨_, htype, fun _ hp ↦ (by cases hp), fun _ ht ↦ (by cases ht), .inl rfl⟩
  · rename_i values htype
    cases h
    exact ⟨_, htype, fun _ hp ↦ (by cases hp), fun _ ht ↦ (by cases ht; rfl), .inl rfl⟩
  · rename_i length htype
    cases h
    exact ⟨_, htype, fun _ hp ↦ (by cases hp), fun _ ht ↦ (by cases ht), .inr rfl⟩
  · rename_i htype
    cases h
    exact ⟨_, htype, fun _ hp ↦ (by cases hp), fun _ ht ↦ (by cases ht), .inl rfl⟩
  · cases h

/-- The findings on a default are the errors of its check, as far as there are any, unless the
default cannot be written at all. -/
theorem defaultFindings_agree_run {f : Spec.Field} {found : List Finding}
    (h : defaultFindings f = .ok found) (htype : f.type = some t)
    (hc : Constraints.ofField f = .ok c) (hnull : f.defaultValue.isNull = false)
    (hheld : Json.isHeld f.defaultValue = true)
    (hpattern : ∀ p, c.pattern = some p → Pattern.isPattern p = .ok true)
    (hvalues : ∀ values, t = .enum values → c.values = values) (name : String) :
    (t.Strays f.defaultValue →
      (c.toCheck t).run name true [] f.defaultValue = .error .unencodable) ∧
    (¬t.Strays f.defaultValue →
      ∃ errors, (c.toCheck t).run name true [] f.defaultValue = .ok errors ∧
        (errors = [] ↔ found = [])) := by
  suffices hviolations :
      (t.Strays f.defaultValue →
        (c.toCheck t).violations true [] f.defaultValue = .error .unencodable) ∧
      (¬t.Strays f.defaultValue → ∃ violations,
        (c.toCheck t).violations true [] f.defaultValue = .ok violations ∧
          (violations = [] ↔ found = [])) by
    rw [FieldCheck.run, hnull, if_neg Bool.false_ne_true]
    refine ⟨fun hstrays ↦ by rw [hviolations.1 hstrays]; rfl, fun hstrays ↦ ?_⟩
    obtain ⟨violations, hviolations, hiff⟩ := hviolations.2 hstrays
    exact ⟨violations.map (⟨name, ·⟩), by rw [hviolations]; rfl, List.map_eq_nil_iff.trans hiff⟩
  obtain ⟨t', htype', h, -⟩ := (defaultFindings_eq_ok_iff hnull).mp h
  cases htype.symm.trans htype'
  rw [valueFindings] at h
  cases hfits : fits f.defaultValue t with
  | false =>
    have hstrays : ¬t.Strays f.defaultValue := by
      intro hstrays
      cases t with
      | string limit =>
        cases hv : f.defaultValue with
        | unpaired s =>
          rw [hv] at hfits
          cases hfits
        | _ =>
          rw [hv] at hstrays
          exact hstrays
      | _ => exact hstrays
    obtain ⟨violations, hviolations, hne⟩ := violations_of_not_fits hfits hheld hvalues
    simp only [hfits, Bool.not_false, if_true, pure_eq_ok_iff] at h
    exact ⟨fun h ↦ absurd h hstrays,
      fun _ ↦ ⟨violations, hviolations, iff_of_false hne (by simp [← h])⟩⟩
  | true =>
    simp only [hfits, Bool.false_eq_true, if_false, Bool.not_true] at h
    obtain ⟨c', hc', h⟩ := bind_eq_ok_iff.mp h
    cases hc.symm.trans hc'
    obtain ⟨problems, hproblems, h⟩ := bind_eq_ok_iff.mp h
    rw [pure_eq_ok_iff] at h
    subst h
    rw [List.map_eq_nil_iff]
    exact violations_of_fits hfits hheld hpattern hvalues hproblems

end Check

/-- Whether the bounds among the constraints of a field do not contradict each other. -/
structure Constraints.Consistent (c : Constraints) (t : Spec.FieldType) : Prop where
  minLength_nonneg : ∀ n, c.minLength.integer? = some n → 0 ≤ n
  maxLength_nonneg : ∀ n, c.maxLength.integer? = some n → 0 ≤ n
  minLength_le : ∀ a b, c.minLength.integer? = some a → c.maxLength.integer? = some b → a ≤ b
  minimum_le : ∀ a b, c.minimum.integer? = some a → c.maximum.integer? = some b → a ≤ b
  values_distinct : ∀ values, t = .enum values → c.values ≠ [] ∧ c.values.Nodup
  length_pos : ∀ n, c.length.integer? = some n → 0 < n

namespace Check

theorem consistent_of_fieldFindings {f : Spec.Field} {t : Spec.FieldType} {c : Constraints}
    (h : fieldFindings f = .ok []) (htype : f.type = some t) (hc : Constraints.ofField f = .ok c) :
    c.Consistent t := by
  have hsound : ∀ x ∈ ([] : List Finding), x.severity ≠ .error := by simp
  have hown := ownProbes_of_fieldFindings h (not_onRules_of_severity hsound)
  obtain ⟨t', htype', -, hvalues, hlength⟩ := cases_of_constraints hc
  cases htype.symm.trans htype'
  rw [ownProbes, htype] at hown
  refine
    { minLength_nonneg := fun n hn ↦ lengths_nonneg h hsound hc (.inl hn)
      maxLength_nonneg := fun n hn ↦ lengths_nonneg h hsound hc (.inr hn)
      minLength_le := fun a b ↦ minLength_le_maxLength h hsound hc
      minimum_le := fun a b ↦ le_of_crossed (not_crossed h hsound hc).2
      values_distinct := fun values ht ↦ ?_
      length_pos := fun n hn ↦ ?_ }
  · rw [hvalues values ht]
    subst ht
    rw [typeProbes, List.cons_append, List.forall_mem_cons] at hown
    refine ⟨List.isEmpty_eq_false_iff.mp (Except.ok.inj hown.1), repeated_eq_nil_iff.mp ?_⟩
    refine List.eq_nil_iff_forall_not_mem.mpr fun v hv ↦ ?_
    cases hown.2 _ (List.mem_append_left _ (List.mem_map_of_mem hv))
  · rcases hlength with hnull | ht
    · rw [hnull] at hn
      cases hn
    · rw [ht] at hown
      exact pos_of_nonPositive (hown _ (List.mem_append_left _ List.mem_cons_self)) hn

/-- A number from one to nine by its type and up to five by its rule, with a default of seven. -/
def narrow : Spec.Field where
  name := some "n"
  type := some (.number (.int 1) (.int 9))
  rule := some { maximum := .int 5 }
  defaultValue := .int 7

/-- A text that has a lone surrogate for its default. -/
def stray : Spec.Field where
  name := some "a"
  type := some (.string .null)
  defaultValue := .unpaired ⟨[0xD800], rfl⟩

end Check

end TextProtocol
