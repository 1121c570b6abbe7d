import TextProtocol.Wire.Search

/-!
# Where searches end

The searches on the wire are the earliest of their kind: `indexOf?` gives the first occurrence of a
pattern and `findStop` the first place at which any stop stands. Both facts are stated through
`IsEarliest`, so that two searches over different data are compared by comparing the places at
which the stops stand in them.
-/

namespace TextProtocol.Wire

variable {data pattern : Bytes} {i : Nat}

/-! ## Occurrences -/

def OccursAt (pattern data : Bytes) (i : Nat) : Prop :=
  i ≤ data.length ∧ pattern <+: data.drop i

@[simp] theorem occursAt_zero : OccursAt pattern data 0 ↔ pattern <+: data := by
  simp [OccursAt]

@[simp] theorem occursAt_cons_succ {b : UInt8} :
    OccursAt pattern (b :: data) (i + 1) ↔ OccursAt pattern data i := by
  simp [OccursAt]

theorem OccursAt.add_length_le (h : OccursAt pattern data i) :
    i + pattern.length ≤ data.length := by
  have hlen := h.2.length_le
  rw [List.length_drop] at hlen
  have := h.1
  omega

/-- Whether a pattern stands within the first part of some data depends on that part alone. -/
theorem occursAt_append (rest : Bytes) (h : i + pattern.length ≤ data.length) :
    OccursAt pattern (data ++ rest) i ↔ OccursAt pattern data i := by
  have hi : i ≤ data.length := by omega
  have hfit : pattern.length ≤ (data.drop i).length := by rw [List.length_drop]; omega
  constructor
  · rintro ⟨-, hpre⟩
    rw [List.drop_append_of_le_length hi] at hpre
    exact ⟨hi, List.prefix_of_prefix_length_le hpre (List.prefix_append _ _) hfit⟩
  · rintro ⟨-, hpre⟩
    refine ⟨by rw [List.length_append]; omega, ?_⟩
    rw [List.drop_append_of_le_length hi]
    exact hpre.trans (List.prefix_append _ _)

theorem occursAt_length_append (raw stop rest : Bytes) :
    OccursAt stop (raw ++ (stop ++ rest)) raw.length := by
  simp [OccursAt]

/-! ## Earliest places -/

/-- An optional place is the earliest one with a property, or there is none. -/
def IsEarliest (P : Nat → Prop) : Option Nat → Prop
  | none => ∀ i, ¬P i
  | some i => P i ∧ ∀ j < i, ¬P j

theorem IsEarliest.unique {P : Nat → Prop} {a b : Option Nat} (ha : IsEarliest P a)
    (hb : IsEarliest P b) : a = b := by
  match a, b with
  | none, none => rfl
  | none, some j => exact absurd hb.1 (ha j)
  | some i, none => exact absurd ha.1 (hb i)
  | some i, some j =>
    have hij : ¬i < j := fun h ↦ hb.2 i h ha.1
    have hji : ¬j < i := fun h ↦ ha.2 j h hb.1
    rw [show i = j from by omega]

theorem IsEarliest.congr {P Q : Nat → Prop} {a : Option Nat} (h : ∀ i, P i ↔ Q i)
    (ha : IsEarliest P a) : IsEarliest Q a := by
  have : P = Q := funext fun i ↦ propext (h i)
  rwa [← this]

theorem IsEarliest.earlier {P Q : Nat → Prop} {a b : Option Nat} (ha : IsEarliest P a)
    (hb : IsEarliest Q b) : IsEarliest (fun i ↦ P i ∨ Q i) (earlier a b) := by
  match a, b with
  | none, none => exact fun i h ↦ h.elim (ha i) (hb i)
  | none, some j => exact ⟨.inr hb.1, fun k hk h ↦ h.elim (ha k) (hb.2 k hk)⟩
  | some i, none => exact ⟨.inl ha.1, fun k hk h ↦ h.elim (ha.2 k hk) (hb k)⟩
  | some i, some j =>
    refine ⟨?_, fun k hk h ↦ ?_⟩
    · rcases Nat.le_total i j with hij | hij
      · rw [Nat.min_eq_left hij]; exact .inl ha.1
      · rw [Nat.min_eq_right hij]; exact .inr hb.1
    · have hki : k < i := by omega
      have hkj : k < j := by omega
      exact h.elim (ha.2 k hki) (hb.2 k hkj)

theorem indexOf?_isEarliest (pattern data : Bytes) :
    IsEarliest (OccursAt pattern data) (indexOf? pattern data) := by
  induction data with
  | nil =>
    rw [indexOf?]
    split
    · rename_i hnil
      rw [List.isEmpty_iff] at hnil
      exact ⟨by simp [hnil], by simp⟩
    · rename_i hnil
      intro i h
      have := h.add_length_le
      simp_all
  | cons b data ih =>
    rw [indexOf?]
    split
    · rename_i hpre
      exact ⟨occursAt_zero.mpr (List.isPrefixOf_iff_prefix.mp hpre), by simp⟩
    · rename_i hpre
      have hzero : ¬OccursAt pattern (b :: data) 0 := fun h ↦
        hpre (List.isPrefixOf_iff_prefix.mpr (occursAt_zero.mp h))
      cases hrest : indexOf? pattern data with
      | none =>
        rw [hrest] at ih
        intro i h
        cases i with
        | zero => exact hzero h
        | succ i => exact ih i (occursAt_cons_succ.mp h)
      | some k =>
        rw [hrest] at ih
        refine ⟨occursAt_cons_succ.mpr ih.1, fun j hj h ↦ ?_⟩
        cases j with
        | zero => exact hzero h
        | succ j => exact ih.2 j (Nat.lt_of_succ_lt_succ hj) (occursAt_cons_succ.mp h)

theorem occursAt_drop {start : Nat} (h : start ≤ data.length) :
    OccursAt pattern (data.drop start) i ↔ OccursAt pattern data (start + i) := by
  rw [OccursAt, OccursAt, List.length_drop, List.drop_drop, Nat.le_sub_iff_add_le' h]

theorem indexFrom?_isEarliest (pattern data : Bytes) (start : Nat) :
    IsEarliest (fun i ↦ start ≤ i ∧ OccursAt pattern data i) (indexFrom? pattern data start) := by
  rw [indexFrom?, placeOf_natCast]
  by_cases hstart : start ≤ data.length
  · have hrest := indexOf?_isEarliest pattern (data.drop start)
    rw [if_pos hstart]
    -- A place from `start` on is a place in the data that is left there.
    have hfree {j : Nat} (hj : ¬OccursAt pattern (data.drop start) (j - start)) :
        ¬(start ≤ j ∧ OccursAt pattern data j) := by
      rintro ⟨hle, h⟩
      refine hj ((occursAt_drop hstart).mpr ?_)
      rwa [Nat.add_sub_cancel' hle]
    cases hfound : indexOf? pattern (data.drop start) with
    | none =>
      rw [hfound] at hrest
      exact fun j ↦ hfree (hrest (j - start))
    | some i =>
      rw [hfound] at hrest
      change OccursAt pattern (data.drop start) i ∧ _ at hrest
      rw [occursAt_drop hstart, Nat.add_comm] at hrest
      refine ⟨⟨Nat.le_add_left start i, hrest.1⟩, fun j (hj : j < i + start) h ↦ ?_⟩
      have hlt : j - start < i := Nat.sub_lt_right_of_lt_add h.1 hj
      exact hfree (hrest.2 (j - start) hlt) h
  · rw [if_neg hstart]
    intro i h
    have := h.2.1
    omega

/-- The fold over the stops keeps the earliest place of the stops seen so far. -/
theorem foldl_earlier_isEarliest (data : Bytes) (start : Nat) (stops : List Bytes) :
    ∀ {P : Nat → Prop} {best : Option Nat}, IsEarliest P best →
      IsEarliest (fun i ↦ P i ∨ start ≤ i ∧ ∃ s ∈ stops, OccursAt s data i)
        (stops.foldl (fun best stop ↦ earlier best (indexFrom? stop data start)) best) := by
  induction stops with
  | nil => intro P best h; exact h.congr fun i ↦ by simp
  | cons stop stops ih =>
    intro P best h
    rw [List.foldl_cons]
    refine (ih (h.earlier (indexFrom?_isEarliest stop data start))).congr fun i ↦ ?_
    simp [or_assoc, and_or_left]

theorem findStop_natCast_isEarliest (data : Bytes) (start : Nat) (stops : List Bytes) :
    IsEarliest (fun i ↦ start ≤ i ∧ ∃ s ∈ stops, OccursAt s data i)
      (findStop data start stops) := by
  have hnone : IsEarliest (fun _ ↦ False) none := fun _ h ↦ h
  exact (foldl_earlier_isEarliest data start stops hnone).congr fun i ↦ by simp

theorem findStop_natCast_eq_some_iff (data : Bytes) (start : Nat) (stops : List Bytes) (i : Nat) :
    findStop data start stops = some i ↔
      (start ≤ i ∧ ∃ s ∈ stops, OccursAt s data i) ∧
        ∀ j < i, start ≤ j → ∀ s ∈ stops, ¬OccursAt s data j := by
  have hfound := findStop_natCast_isEarliest data start stops
  constructor
  · intro h
    rw [h] at hfound
    exact ⟨hfound.1, fun j hji hj s hs ho ↦ hfound.2 j hji ⟨hj, s, hs, ho⟩⟩
  · rintro ⟨hplace, hfirst⟩
    refine hfound.unique ⟨hplace, ?_⟩
    rintro j hji ⟨hj, s, hs, ho⟩
    exact hfirst j hji hj s hs ho

theorem findStop_natCast_eq_none_iff (data : Bytes) (start : Nat) (stops : List Bytes) :
    findStop data start stops = none ↔ ∀ i, start ≤ i → ∀ s ∈ stops, ¬OccursAt s data i := by
  have hfound := findStop_natCast_isEarliest data start stops
  constructor
  · intro h i hi s hs ho
    rw [h] at hfound
    exact hfound i ⟨hi, s, hs, ho⟩
  · intro h
    refine hfound.unique ?_
    rintro i ⟨hi, s, hs, ho⟩
    exact h i hi s hs ho

/-- A search from some place on fails exactly if no stop stands there or later, and otherwise yields
the first place from there on at which one does. The order in which the stops are listed, and how
often, does not matter. -/
theorem findStop_earliest (data : Bytes) (start : Nat) (stops : List Bytes) :
    (findStop data start stops = none ↔ ∀ i, start ≤ i → ∀ s ∈ stops, ¬OccursAt s data i) ∧
    (∀ i, findStop data start stops = some i ↔
      (start ≤ i ∧ ∃ s ∈ stops, OccursAt s data i) ∧
        ∀ j < i, start ≤ j → ∀ s ∈ stops, ¬OccursAt s data j) ∧
    ∀ others : List Bytes, (∀ s, s ∈ others ↔ s ∈ stops) →
      findStop data start others = findStop data start stops := by
  refine ⟨findStop_natCast_eq_none_iff data start stops,
    findStop_natCast_eq_some_iff data start stops, fun others hsame ↦ ?_⟩
  have hothers := findStop_natCast_isEarliest data start others
  simp only [hsame] at hothers
  exact hothers.unique (findStop_natCast_isEarliest data start stops)

/-- A search yields a place exactly if it is the earliest at which a stop stands. -/
theorem findStop_eq_some_iff {stops : List Bytes} :
    findStop data 0 stops = some i ↔
      (∃ s ∈ stops, OccursAt s data i) ∧ ∀ j < i, ∀ s ∈ stops, ¬OccursAt s data j := by
  simpa using findStop_natCast_eq_some_iff data 0 stops i

theorem findStop_eq_none_iff {stops : List Bytes} :
    findStop data 0 stops = none ↔ ∀ i, ∀ s ∈ stops, ¬OccursAt s data i := by
  simpa using findStop_natCast_eq_none_iff data 0 stops

theorem earlier_map_add (k : Nat) (a b : Option Nat) :
    earlier (a.map (· + k)) (b.map (· + k)) = (earlier a b).map (· + k) := by
  match a, b with
  | none, b => rfl
  | some i, none => rfl
  | some i, some j => simp [earlier, Nat.add_min_add_right]

theorem drop_append_add (before data : Bytes) (k : Nat) :
    (before ++ data).drop (k + before.length) = data.drop k := by
  rw [Nat.add_comm, ← List.drop_drop, List.drop_left]

theorem indexFrom?_append_add (stop before data : Bytes) (k : Nat) :
    indexFrom? stop (before ++ data) ((k + before.length : Nat) : Int) =
      (indexFrom? stop data k).map (· + before.length) := by
  rw [indexFrom?, indexFrom?, placeOf_natCast, placeOf_natCast, drop_append_add, List.length_append]
  by_cases hk : k ≤ data.length
  · rw [if_pos (by omega), if_pos hk, Option.map_map]
    refine congrArg (fun g ↦ (indexOf? stop (data.drop k)).map g) (funext fun i ↦ ?_)
    exact (Nat.add_assoc i k before.length).symm
  · rw [if_neg (by omega), if_neg hk, Option.map_none]

/-- A search in the data that follows some other does not look at the other. -/
theorem findStop_append_add (before data : Bytes) (stops : List Bytes) (k : Nat) :
    findStop (before ++ data) ((k + before.length : Nat) : Int) stops =
      (findStop data k stops).map (· + before.length) := by
  simp only [findStop, indexFrom?_append_add]
  suffices h : ∀ best : Option Nat,
      stops.foldl (fun best stop ↦ earlier best ((indexFrom? stop data k).map (· + before.length)))
          (best.map (· + before.length)) =
        (stops.foldl (fun best stop ↦ earlier best (indexFrom? stop data k)) best).map
          (· + before.length) from h none
  induction stops with
  | nil => intro best; rfl
  | cons stop stops ih =>
    intro best
    rw [List.foldl_cons, List.foldl_cons, earlier_map_add, ih]

/-- A search that begins after some data is a search of what follows it. -/
theorem findStop_append (before data : Bytes) (stops : List Bytes) :
    findStop (before ++ data) before.length stops =
      (findStop data 0 stops).map (· + before.length) := by
  have h := findStop_append_add before data stops 0
  rwa [Nat.zero_add] at h

end TextProtocol.Wire
