import TextProtocol.Proofs.Compile.Message
import TextProtocol.Proofs.Value.Order

/-!
# What checks say about fields

A message compiles only if the checks find no error in it. What that comes to for a single field is
collected here: its pattern is one, its lengths are not negative and the least is not above the
greatest, its default is of its kind and has no problem, and bytes have no default at all.
-/

namespace TextProtocol

open Fault (bind_eq_ok_iff pure_eq_ok_iff exists_of_gives)

/-! ## Patterns -/

theorem Pattern.foundIn_empty (codes : List Nat) : Pattern.foundIn "" codes = .ok true := by
  obtain ⟨⟨flags, items, groups⟩, hread, h⟩ := exists_of_gives
    (P := fun e ↦ e.items.isEmpty && e.groups == 0) (x := Pattern.read "") (by decide +kernel)
  rw [Bool.and_eq_true, List.isEmpty_iff, beq_iff_eq] at h
  obtain ⟨rfl, rfl⟩ := h
  rw [Pattern.foundIn, hread]
  rfl

namespace Check

variable {f : Spec.Field} {found : List Finding} {c : Constraints}

/-! ## Findings on fields -/

/-- If nothing is found in the rule of a field, its pattern is one and its lengths are not
negative. -/
theorem ruleProbes_spec {r : Spec.Rule} (h : ∀ p ∈ ruleProbes r, p.condition = .ok false) :
    Pattern.isPattern (r.pattern.getD "") = .ok true ∧ negative r.minLength = .ok false ∧
      negative r.maxLength = .ok false := by
  simp only [ruleProbes, List.forall_mem_cons] at h
  obtain ⟨hmin, hmax, -, -, hpattern, -⟩ := h
  refine ⟨?_, hmin, hmax⟩
  rw [map_eq_pure_bind, bind_eq_ok_iff] at hpattern
  obtain ⟨isOne, hone, hpattern⟩ := hpattern
  rw [pure_eq_ok_iff, Bool.not_eq_false'] at hpattern
  rw [hone, hpattern]

theorem onRules_of_mem_mergedProbes {p : Probe Finding} (hp : p ∈ mergedProbes c) :
    OnRules p.finding := by
  simp only [mergedProbes, List.mem_cons, List.not_mem_nil, or_false] at hp
  rcases hp with rfl | rfl <;> exact ⟨rfl, by simp [Finding.code]⟩

theorem defaultFindings_eq_ok_iff (hdefault : f.defaultValue.isNull = false) :
    defaultFindings f = .ok found ↔ ∃ t, f.type = some t ∧ valueFindings f t = .ok found ∧
      (found = [] ∨ f.defaultValue.isShowable = true) := by
  simp only [defaultFindings, hdefault, Bool.false_eq_true, if_false]
  cases f.type with
  | none => exact iff_of_false (by rintro ⟨⟩) (by rintro ⟨_, ⟨⟩, -⟩)
  | some t =>
    simp only [Option.elim_some, bind_eq_ok_iff, Option.some.injEq, exists_eq_left']
    constructor
    · rintro ⟨own, hown, h⟩
      split at h
      · rename_i hshown
        cases h
        refine ⟨hown, ?_⟩
        simpa using hshown
      · cases h
    · rintro ⟨hown, hshown⟩
      exact ⟨found, hown, if_pos (by simpa using hshown)⟩

/-- A default without errors is of the kind of its field and nothing is found in it. -/
theorem defaultFindings_spec (h : defaultFindings f = .ok found)
    (hsound : ∀ x ∈ found, x.severity ≠ .error) (hdefault : f.defaultValue.isNull = false) :
    ∃ t c, f.type = some t ∧ fits f.defaultValue t = true ∧ Constraints.ofField f = .ok c ∧
      ∀ p ∈ defaultProbes f.defaultValue t c, p.condition = .ok false := by
  obtain ⟨t, htype, h, -⟩ := (defaultFindings_eq_ok_iff hdefault).mp h
  rw [valueFindings] at h
  cases hfits : fits f.defaultValue t with
  | false =>
    simp only [hfits, Bool.not_false, if_true, pure_eq_ok_iff] at h
    exact absurd rfl (hsound (.misfitDefault f.defaultValue t.kind) (by simp [← h]))
  | true =>
    simp only [hfits, Bool.not_true, Bool.false_eq_true, if_false] at h
    obtain ⟨c, hc, h⟩ := bind_eq_ok_iff.mp h
    obtain ⟨problems, hproblems, h⟩ := bind_eq_ok_iff.mp h
    rw [pure_eq_ok_iff] at h
    cases problems with
    | nil => exact ⟨t, c, htype, hfits, hc, runAll_eq_nil_iff.mp hproblems⟩
    | cons problem rest =>
      exact absurd rfl (hsound (.refusedDefault f.defaultValue problem) (by simp [← h]))

/-- If nothing but defaults is found fault with in a field, nothing is found in its type, its rule
and its merged constraints. -/
theorem fieldFindings_spec (h : fieldFindings f = .ok found) (hrules : ∀ x ∈ found, ¬OnRules x) :
    (∀ p ∈ ownProbes f, p.condition = .ok false) ∧
      (∃ c, Constraints.ofField f = .ok c ∧ ∀ p ∈ mergedProbes c, p.condition = .ok false) ∧
      defaultFindings f = .ok found := by
  have hown := ownProbes_of_fieldFindings h hrules
  rcases fieldFindings_eq_ok_iff.mp h with
    ⟨hne, hown'⟩ | ⟨-, c, hc, merged, ofDefault, hmerged, hdefault, rfl⟩
  · rw [runAll_eq_nil_iff.mpr hown, Except.ok.injEq] at hown'
    exact absurd hown'.symm hne
  · obtain rfl : merged = [] := by
      refine List.eq_nil_iff_forall_not_mem.mpr fun x hx ↦ ?_
      obtain ⟨p, hp, rfl⟩ := exists_of_mem_runAll hmerged hx
      exact hrules _ (List.mem_append_left ofDefault hx) (onRules_of_mem_mergedProbes hp)
    exact ⟨hown, ⟨c, hc, runAll_eq_nil_iff.mp hmerged⟩, hdefault⟩

theorem ruleProbes_of_ownProbes (h : ∀ p ∈ ownProbes f, p.condition = .ok false) {r : Spec.Rule}
    (hr : f.rule = some r) : ∀ p ∈ ruleProbes r, p.condition = .ok false := by
  rw [ownProbes, hr] at h
  exact fun p hp ↦ h p (List.mem_append_right _ hp)

theorem isPattern_of_fieldFindings (h : fieldFindings f = .ok found)
    (hrules : ∀ x ∈ found, ¬OnRules x) {p : String} (hp : (f.rule.getD {}).pattern = some p) :
    Pattern.isPattern p = .ok true := by
  have hown := ownProbes_of_fieldFindings h hrules
  cases hr : f.rule with
  | none =>
    rw [hr] at hp
    cases hp
  | some r =>
    rw [hr, Option.getD_some] at hp
    have hone := (ruleProbes_spec (ruleProbes_of_ownProbes hown hr)).1
    rwa [hp, Option.getD_some] at hone

theorem nonneg_of_negative {v : Value} {n : Int} (h : negative v = .ok false)
    (hn : v.integer? = some n) : 0 ≤ n := by
  rw [negative, Value.isNull_eq_false_of_integer? hn,
    Value.lt_of_integer? hn (show (Value.int 0).integer? = some 0 from rfl)] at h
  have := Except.ok.inj h
  simpa using this

theorem eq_or_eq_of_tighterMax {a b v : Value} (h : Constraints.tighterMax a b = .ok v) :
    v = a ∨ v = b := by
  rw [Constraints.tighterMax] at h
  split at h
  · exact .inr (Except.ok.inj h).symm
  · split at h
    · exact .inl (Except.ok.inj h).symm
    · obtain ⟨below, -, h⟩ := bind_eq_ok_iff.mp h
      rw [pure_eq_ok_iff] at h
      rw [← h]
      split
      · exact .inr rfl
      · exact .inl rfl

/-- The lengths that constrain a field without errors are not negative. -/
theorem lengths_nonneg (h : fieldFindings f = .ok found) (hsound : ∀ x ∈ found, x.severity ≠ .error)
    (hc : Constraints.ofField f = .ok c) {n : Int}
    (hn : c.minLength.integer? = some n ∨ c.maxLength.integer? = some n) : 0 ≤ n := by
  have hown := ownProbes_of_fieldFindings h (not_onRules_of_severity hsound)
  have hnull {v : Value} (hv : v = .null) (hn : v.integer? = some n) : 0 ≤ n := by
    rw [hv] at hn
    cases hn
  have hofRule {v : Value} (hv : v = (f.rule.getD {}).minLength ∨ v = (f.rule.getD {}).maxLength)
      (hn : v.integer? = some n) : 0 ≤ n := by
    cases hr : f.rule with
    | none =>
      rw [hr] at hv
      exact hv.elim (fun hv ↦ hnull hv hn) fun hv ↦ hnull hv hn
    | some r =>
      obtain ⟨-, hmin, hmax⟩ := ruleProbes_spec (ruleProbes_of_ownProbes hown hr)
      rw [hr, Option.getD_some] at hv
      rcases hv with rfl | rfl
      · exact nonneg_of_negative hmin hn
      · exact nonneg_of_negative hmax hn
  -- Only a text has lengths, one of them perhaps from its type.
  rw [Constraints.ofField] at hc
  split at hc
  · rename_i limit htype
    obtain ⟨maxLength, hlimit, hc⟩ := bind_eq_ok_iff.mp hc
    cases hc
    rcases hn with hn | hn
    · exact hofRule (.inl rfl) hn
    · rcases eq_or_eq_of_tighterMax hlimit with rfl | rfl
      · rw [ownProbes, htype] at hown
        exact nonneg_of_negative (hown _ (List.mem_append_left _ List.mem_cons_self)) hn
      · exact hofRule (.inr rfl) hn
  · obtain ⟨minimum, -, hc⟩ := bind_eq_ok_iff.mp hc
    obtain ⟨maximum, -, hc⟩ := bind_eq_ok_iff.mp hc
    cases hc
    exact hn.elim (hnull rfl) (hnull rfl)
  · cases hc
    exact hn.elim (hnull rfl) (hnull rfl)
  · cases hc
    exact hn.elim (hnull rfl) (hnull rfl)
  · cases hc
    exact hn.elim (hnull rfl) (hnull rfl)
  · cases hc

theorem le_of_crossed {low high : Value} (h : crossed low high = .ok false) {a b : Int}
    (ha : low.integer? = some a) (hb : high.integer? = some b) : a ≤ b := by
  rw [crossed, Value.isNull_eq_false_of_integer? ha, Value.isNull_eq_false_of_integer? hb,
    Value.lt_of_integer? hb ha] at h
  simpa using Except.ok.inj h

/-- No two merged bounds of a field without errors are crossed. -/
theorem not_crossed (h : fieldFindings f = .ok found) (hsound : ∀ x ∈ found, x.severity ≠ .error)
    (hc : Constraints.ofField f = .ok c) :
    crossed c.minLength c.maxLength = .ok false ∧ crossed c.minimum c.maximum = .ok false := by
  obtain ⟨-, ⟨c', hc', hmerged⟩, -⟩ := fieldFindings_spec h (not_onRules_of_severity hsound)
  cases hc.symm.trans hc'
  exact ⟨hmerged _ List.mem_cons_self, hmerged _ (List.mem_cons_of_mem _ List.mem_cons_self)⟩

/-- The least length of a field without errors is not above the greatest one. -/
theorem minLength_le_maxLength (h : fieldFindings f = .ok found)
    (hsound : ∀ x ∈ found, x.severity ≠ .error) (hc : Constraints.ofField f = .ok c) {a b : Int}
    (ha : c.minLength.integer? = some a) (hb : c.maxLength.integer? = some b) : a ≤ b :=
  le_of_crossed (not_crossed h hsound hc).1 ha hb

theorem isNull_defaultValue_of_bytes (h : fieldFindings f = .ok found)
    (hsound : ∀ x ∈ found, x.severity ≠ .error) {length : Value}
    (htype : f.type = some (.bytes length)) : f.defaultValue.isNull = true := by
  obtain ⟨-, -, hdefaults⟩ := fieldFindings_spec h (not_onRules_of_severity hsound)
  by_contra hdefault
  obtain ⟨t, c, ht, hfits, -⟩ := defaultFindings_spec hdefaults hsound (by simpa using hdefault)
  rw [htype, Option.some.injEq] at ht
  subst ht
  cases hfits

end Check

end TextProtocol
