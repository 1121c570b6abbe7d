import TextProtocol.Field.Example
import TextProtocol.Proofs.Field.Domain

/-!
# Examples are in their domains

The example of a field without a default is picked apart from its test domain, with rules of its own
for sizes. It is in the domain all the same, unless no character is safe, and unless the domain asks
for sizes beyond those of texts, which is a fault.
-/

namespace TextProtocol.Example

open Fault (bind_eq_ok_iff)
open Value (isCountable integer?_orElse lt_of_integer? same_of_integer? eq_of_integer?
  eq_null_or_of_isCountable isNull_eq_false_of_integer? max_of_integer? min_of_integer?
  exists_max_of_integer? exists_min_of_integer?)

variable {c : Constraints} {d : Domain} {stops : List String} {required : Bool}

/-- The least number of repetitions that is beyond the sizes of texts. -/
def sizeLimit : Int :=
  9223372036854775808

/-- How the search for an example ends: with a value of the domain; without one, since no character
is safe; or in a fault, since the domain has no values that are short enough. -/
def EndsWell (d : Domain) (t : Option Spec.FieldType) : Except Fault (Except NoExample Value) → Prop
  | .ok (.ok v) => d.Describes t v
  | .ok (.error reason) => reason = .noSafeCharacters ∧ d.alphabet = ""
  | .error fault => fault = .overflow ∧ ∃ n, d.minSize.integer? = some n ∧ sizeLimit ≤ n

theorem repetitions_of_integer? {size : Value} {n : Int} (h : size.integer? = some n)
    (hn : 0 ≤ n) : repetitions size = if n < sizeLimit then .ok n.toNat else .error .overflow := by
  have hlow : -9223372036854775808 ≤ n := by omega
  rw [repetitions, h]
  simp only [hlow, true_and]
  rfl

/-! ## Texts -/

def ofSize (required : Bool) (first : Char) (size : Value) :
    Except Fault (Except NoExample Value) :=
  if size.same (.int 0) && !required then return .error .onlyEmptyText
  else do
    let n ← repetitions size
    return .ok (.text (String.ofList (List.replicate n first)))

theorem any_pattern (h : ∀ p, c.pattern = some p → p = "") :
    c.pattern.any (!·.isEmpty) = false := by
  cases hp : c.pattern with
  | none => rfl
  | some p =>
    rw [h p hp]
    rfl

theorem ofText_of_nil (hpattern : ∀ p, c.pattern = some p → p = "")
    (halphabet : d.alphabet.toList = []) :
    ofText required c d = .ok (.error .noSafeCharacters) := by
  rw [ofText, any_pattern hpattern, halphabet]
  rfl

/-- The size of an example text: the least one that is not zero, as far as that is allowed. -/
theorem exists_ofSize (required : Bool) {first : Char} {rest : List Char}
    (hmin : isCountable c.minLength = true) (hmax : isCountable c.maxLength = true)
    (hpattern : ∀ p, c.pattern = some p → p = "") (halphabet : d.alphabet.toList = first :: rest) :
    ∃ size, ofText required c d = ofSize required first size ∧ size.integer? =
      some (c.maxLength.integer?.elim (max (c.minLength.integer?.getD 0) 1)
        (min (max (c.minLength.integer?.getD 0) 1))) := by
  obtain ⟨wanted, hwanted, hinteger⟩ := exists_max_of_integer? (integer?_orElse hmin)
    (show (Value.int 1).integer? = some 1 from rfl)
  rw [ofText, any_pattern hpattern, halphabet, hwanted]
  rcases eq_null_or_of_isCountable hmax with hnull | ⟨k, hk⟩
  · rw [hnull]
    exact ⟨wanted, rfl, hinteger⟩
  · obtain ⟨size, hsize, hinteger⟩ := exists_min_of_integer? hinteger hk
    rw [isNull_eq_false_of_integer? hk]
    refine ⟨size, ?_, hk ▸ hinteger⟩
    change (wanted.min c.maxLength >>= ofSize required first) = _
    rw [hsize]
    rfl

/-- The size of an example text is one of the sizes of the domain. Only a domain of sizes beyond
those of texts has an example beyond them. -/
theorem size_within {least low high slack : Int} {limit : Option Int} (hslack : 1 ≤ slack)
    (hleast : 0 ≤ least) (hlow : low = if required then least else max least 1)
    (hhigh : high = min (limit.getD (low + slack)) (low + slack)) (hle : low ≤ high) :
    low ≤ limit.elim (max least 1) (min (max least 1)) ∧
      limit.elim (max least 1) (min (max least 1)) ≤ high ∧
      (sizeLimit ≤ limit.elim (max least 1) (min (max least 1)) → sizeLimit ≤ low) := by
  have hlimit : 1 < sizeLimit := by decide
  cases limit with
  | none =>
    rw [Option.getD_none] at hhigh
    rw [Option.elim_none]
    split at hlow <;> omega
  | some k =>
    rw [Option.getD_some] at hhigh
    rw [Option.elim_some]
    split at hlow <;> omega

theorem endsWell_ofText {limit : Value} (hmin : isCountable c.minLength = true)
    (hmax : isCountable c.maxLength = true) (hnonneg : ∀ n, c.minLength.integer? = some n → 0 ≤ n)
    (hpattern : ∀ p, c.pattern = some p → p = "") (hd : Domain.ofText required c stops = .ok d)
    (hempty : d.empty = false) : EndsWell d (some (.string limit)) (ofText required c d) := by
  obtain ⟨-, low, high, hlow, hhigh, hlowEq, hhighEq, hle⟩ := Domain.ofText_spec hmin hmax hd
  have hleast : 0 ≤ c.minLength.integer?.getD 0 := by
    cases hk : c.minLength.integer? with
    | none => exact Int.le_refl 0
    | some k => exact hnonneg k hk
  have hpositive : required = false → 1 ≤ low := by
    intro hoptional
    rw [hlowEq, hoptional]
    exact Int.le_max_right ..
  cases halphabet : d.alphabet.toList with
  | nil =>
    rw [ofText_of_nil hpattern halphabet]
    exact ⟨rfl, String.toList_inj.mp halphabet⟩
  | cons first rest =>
    obtain ⟨size, htext, hsize⟩ := exists_ofSize required hmin hmax hpattern halphabet
    obtain ⟨hge, hbelow, hlarge⟩ :=
      size_within (by decide) hleast hlowEq hhighEq (hle.mp hempty).1
    generalize c.maxLength.integer?.elim _ _ = n at hsize hge hbelow hlarge
    have hnonneg : 0 ≤ n := by
      split at hlowEq <;> omega
    have hsome : (size.same (.int 0) && !required) = false := by
      rw [same_of_integer? hsize (show (Value.int 0).integer? = some 0 from rfl)]
      cases required with
      | true => exact Bool.and_false _
      | false =>
        have := hpositive rfl
        simp
        omega
    rw [htext, ofSize, hsome, if_neg (by decide), repetitions_of_integer? hsize hnonneg]
    by_cases hshort : n < sizeLimit
    · rw [if_pos hshort]
      refine ⟨?_, (Domain.within_iff hlow hhigh).mpr ?_⟩
      · intro c hc
        rw [String.toList_ofList] at hc
        rw [List.eq_of_mem_replicate hc, halphabet]
        exact List.mem_cons_self
      · rw [String.length_ofList, List.length_replicate, Int.toNat_of_nonneg hnonneg]
        exact ⟨hge, hbelow⟩
    · rw [if_neg hshort]
      exact ⟨rfl, low, hlow, hlarge (Int.not_lt.mp hshort)⟩

/-- A text has an example of its own only if the domain is not empty and there is no pattern. -/
theorem empty_eq_false_of_ofText {v : Value} (hmin : isCountable c.minLength = true)
    (hmax : isCountable c.maxLength = true)
    (hnonneg : ∀ n, c.minLength.integer? = some n ∨ c.maxLength.integer? = some n → 0 ≤ n)
    (hle : ∀ a b, c.minLength.integer? = some a → c.maxLength.integer? = some b → a ≤ b)
    (hd : Domain.ofText required c stops = .ok d) (h : ofText required c d = .ok (.ok v)) :
    d.empty = false ∧ ∀ p, c.pattern = some p → p = "" := by
  have hpattern : ∀ p, c.pattern = some p → p = "" := by
    intro p hp
    rw [ofText, hp, Option.any_some] at h
    cases hempty : p.isEmpty with
    | true => exact String.isEmpty_iff.mp hempty
    | false =>
      rw [hempty] at h
      cases h
  refine ⟨?_, hpattern⟩
  obtain ⟨halphabet, low, high, -, -, hlow, hhigh, hempty⟩ := Domain.ofText_spec hmin hmax hd
  rw [hempty, ← halphabet]
  cases hlist : d.alphabet.toList with
  | nil =>
    rw [ofText_of_nil hpattern hlist] at h
    cases h
  | cons first rest =>
    obtain ⟨size, htext, hsize⟩ := exists_ofSize required hmin hmax hpattern hlist
    -- An optional field has no example of size zero.
    have hsome : (size.same (.int 0) && !required) = false := by
      rw [htext, ofSize] at h
      cases hsame : size.same (.int 0) && !required with
      | false => rfl
      | true =>
        rw [if_pos hsame] at h
        cases h
    rw [same_of_integer? hsize (show (Value.int 0).integer? = some 0 from rfl)] at hsome
    constructor
    · cases hlimit : c.maxLength.integer? with
      | none =>
        rw [hlimit, Option.getD_none] at hhigh
        have : (1 : Int) ≤ Domain.sizeSlack := by decide
        omega
      | some k =>
        have hk := hnonneg k (.inr hlimit)
        have hleast : c.minLength.integer?.getD 0 ≤ k := by
          cases hmin : c.minLength.integer? with
          | none => exact hk
          | some a => exact hle a k hmin hlimit
        rw [hlimit, Option.getD_some] at hhigh
        rw [hlimit, Option.elim_some] at hsome
        have : (1 : Int) ≤ Domain.sizeSlack := by decide
        cases required with
        | true =>
          rw [if_pos rfl] at hlow
          omega
        | false =>
          rw [if_neg (by decide)] at hlow
          simp at hsome
          omega
    · rintro - hnil
      rw [hnil] at hlist
      cases hlist

/-! ## Numbers and bytes -/

/-- The example of a number is an integer of the range, unless the upper bound is a truth value for
zero, which would be the example itself. -/
theorem exists_number (hmin : isCountable c.minimum = true) (hmax : isCountable c.maximum = true)
    (hmaximum : c.maximum ≠ .bool false) (hd : Domain.ofNumber c stops = .ok d)
    (hempty : d.empty = false) :
    ∃ n, (Value.max (.int 1) d.minimum >>= (·.min d.maximum)) = .ok (.int n) ∧
      Domain.Within d.minimum d.maximum n := by
  obtain ⟨heq, hhigh, low, hlow, -, -, hrange⟩ := Domain.ofNumber_spec hmin hmax hd
  have hle := (hrange hempty).1
  generalize c.maximum.integer?.getD Domain.numberBound = high at hhigh hle
  have hone : (Value.int 1).integer? = some 1 := rfl
  have hwithin {n : Int} (hge : low ≤ n) (hbelow : n ≤ high) :
      Domain.Within d.minimum d.maximum n :=
    (Domain.within_iff hlow hhigh).mpr ⟨hge, hbelow⟩
  rw [max_of_integer? hone hlow]
  by_cases hlarge : 1 < low
  · obtain hint | ⟨-, heq⟩ | ⟨-, heq⟩ := eq_of_integer? hlow
    · refine ⟨low, ?_, hwithin (Int.le_refl low) hle⟩
      rw [if_pos hlarge]
      change d.minimum.min d.maximum = _
      rw [min_of_integer? hlow hhigh, if_neg (by omega), hint]
    · omega
    · omega
  · rw [if_neg hlarge]
    change ∃ n, Value.min (.int 1) d.maximum = .ok (.int n) ∧ _
    rw [min_of_integer? hone hhigh]
    by_cases hsmall : high < 1
    · refine ⟨high, ?_, hwithin hle (Int.le_refl high)⟩
      rw [if_pos hsmall]
      obtain hint | ⟨-, hzero⟩ | ⟨hfalse, -⟩ := eq_of_integer? hhigh
      · rw [hint]
      · omega
      · exfalso
        rw [hfalse] at heq
        split at heq
        · cases heq
        · exact hmaximum heq.symm
    · rw [if_neg hsmall]
      exact ⟨1, rfl, hwithin (by omega) (by omega)⟩

/-- Example bytes of a length have that length, unless it is beyond the sizes of texts. -/
theorem ofLength_spec {length : Value} {n : Int} (hn : length.integer? = some n) (hpos : 0 < n) :
    (∃ data, ofLength length = .ok (.bytes data) ∧ (data.length : Int) = n ∧ n < sizeLimit) ∨
      ofLength length = .error .overflow ∧ sizeLimit ≤ n := by
  have hbound : (Value.int 26).integer? = some 26 := rfl
  rw [ofLength, lt_of_integer? hbound hn]
  by_cases hlong : 26 < n
  · rw [decide_eq_true hlong, repetitions_of_integer? hn (Int.le_of_lt hpos)]
    by_cases hshort : n < sizeLimit
    · rw [if_pos hshort]
      refine .inl ⟨List.replicate n.toNat 65, rfl, ?_, hshort⟩
      rw [List.length_replicate]
      omega
    · rw [if_neg hshort]
      exact .inr ⟨rfl, Int.not_lt.mp hshort⟩
  · rw [decide_eq_false hlong, hn]
    have hlimit : 26 < sizeLimit := by decide
    refine .inl ⟨_, rfl, ?_, by omega⟩
    rw [List.length_map, List.length_range]
    omega

/-- The bytes of one safe character are in the domain of bytes without a length. -/
theorem describes_encodeChar {length : Value} (hnull : length.isNull = true) {first : Char}
    {rest : List Char}
    (h : (Domain.ofBytes required length stops).alphabet.toList = first :: rest) :
    (Domain.ofBytes required length stops).Describes (some (.bytes length))
      (.bytes (Utf8.encodeChar first)) := by
  rw [Domain.ofBytes, if_pos hnull] at h ⊢
  have hmem : first ∈ (Domain.safeAlphabet stops).toList := h ▸ List.mem_cons_self
  constructor
  · intro _ b hb
    exact List.mem_flatMap.mpr ⟨first, hmem, hb⟩
  · have hone : (Utf8.encodeChar first).length = 1 := by
      rw [Utf8.encodeChar, if_pos (Domain.isSafe_of_mem_safeAlphabet hmem).1]
      rfl
    rw [hone]
    cases required <;> exact ⟨rfl, rfl⟩

/-! ## Fields -/

/-- The search for an example of a field without a default ends well, if the bounds of the field
count as integers and it has no pattern. -/
theorem endsWell_ofField {f : Spec.Field} (hd : Domain.ofField f c stops = .ok d)
    (hempty : d.empty = false) (hdefault : f.defaultValue.isNull = true)
    (hpattern : ∀ p, c.pattern = some p → p = "")
    (hbounds : ∀ b ∈ [c.minLength, c.maxLength, c.minimum, c.maximum], isCountable b = true)
    (hmaximum : c.maximum ≠ .bool false) (hnonneg : ∀ n, c.minLength.integer? = some n → 0 ≤ n)
    (hwidth : ∀ length, f.type = some (.bytes length) →
      isCountable length = true ∧ ∀ n, length.integer? = some n → 0 < n) :
    EndsWell d f.type (ofField f c d) := by
  rw [ofField, hdefault]
  rw [Domain.ofField] at hd
  cases htype : f.type with
  | none =>
    rw [htype] at hd
    cases hd
  | some t =>
    rw [htype] at hd
    cases t with
    | string limit =>
      exact endsWell_ofText (hbounds _ (by simp)) (hbounds _ (by simp)) hnonneg hpattern hd hempty
    | number low high =>
      obtain ⟨n, hn, hwithin⟩ :=
        exists_number (hbounds _ (by simp)) (hbounds _ (by simp)) hmaximum hd hempty
      obtain ⟨least, hleast, hn⟩ := bind_eq_ok_iff.mp hn
      simp only [hempty, hleast, Bool.not_true, Bool.false_eq_true, if_false]
      change EndsWell d _ (least.min d.maximum >>= fun v ↦ pure (.ok v))
      rw [hn]
      exact hwithin
    | boolean =>
      have hvalues : d.values = Domain.booleanWords := by
        cases hd
        rfl
      simp only [hempty, Bool.not_true, Bool.false_eq_true, if_false]
      change "true" ∈ d.values
      rw [hvalues]
      exact List.mem_cons_self
    | enum values =>
      cases hd
      dsimp only at hempty ⊢
      cases hvalues : c.values.filter fun v ↦ !v.isEmpty && !Domain.textHidesStop v stops with
      | nil =>
        rw [hvalues] at hempty
        cases hempty
      | cons v rest => exact List.mem_cons_self
    | bytes length =>
      cases hd
      obtain ⟨hcount, hpos⟩ := hwidth length htype
      rcases eq_null_or_of_isCountable hcount with rfl | ⟨n, hn⟩
      · cases halphabet : (Domain.ofBytes f.isRequired .null stops).alphabet.toList with
        | nil => exact ⟨rfl, String.toList_inj.mp halphabet⟩
        | cons first rest => exact describes_encodeChar rfl halphabet
      · have hnull := isNull_eq_false_of_integer? hn
        have hsizes : Domain.ofBytes f.isRequired length stops =
            { minSize := length, maxSize := length } := by
          rw [Domain.ofBytes, hnull]
          rfl
        simp only [hsizes, hnull, Bool.not_true, Bool.false_eq_true, if_false]
        rcases ofLength_spec hn (hpos n hn) with ⟨data, hdata, hlength, -⟩ | ⟨hfault, hlarge⟩
        · rw [hdata]
          refine ⟨fun h ↦ ?_, (Domain.within_iff hn hn).mpr ?_⟩
          · rw [hnull] at h
            cases h
          · omega
        · rw [hfault]
          exact ⟨rfl, n, hn, hlarge⟩

/-- Only numbers have an upper bound; if it is the truth value for zero, it is the example. -/
theorem ofField_of_false {f : Spec.Field} (hc : Constraints.ofField f = .ok c)
    (hd : Domain.ofField f c stops = .ok d) (hempty : d.empty = false)
    (hdefault : f.defaultValue.isNull = true) (hmin : isCountable c.minimum = true)
    (hmaximum : c.maximum = .bool false) : ofField f c d = .ok (.ok (.bool false)) := by
  rw [Constraints.ofField] at hc
  rw [Domain.ofField] at hd
  rw [ofField, hdefault]
  cases htype : f.type with
  | none =>
    rw [htype] at hd
    cases hd
  | some t =>
    rw [htype] at hc hd
    cases t with
    | number low high =>
      have hmax : isCountable c.maximum = true := hmaximum ▸ rfl
      obtain ⟨heq, -, least, hleast, -, -, hrange⟩ := Domain.ofNumber_spec hmin hmax hd
      have hle := (hrange hempty).1
      rw [hmaximum] at heq hle
      have hsmall : ¬1 < least := by
        have : least ≤ 0 := hle
        omega
      have hone : (Value.int 1).integer? = some 1 := rfl
      simp only [hempty, max_of_integer? hone hleast, if_neg hsmall, heq, Bool.not_true,
        Bool.false_eq_true, if_false]
      rfl
    | string limit =>
      obtain ⟨maxLength, -, hc⟩ := bind_eq_ok_iff.mp hc
      cases hc
      cases hmaximum
    | boolean | enum values | bytes length =>
      cases hc
      cases hmaximum

/-- A field without a default has an example only if its domain is not empty and it has no
pattern. -/
theorem empty_eq_false_of_ofField {f : Spec.Field} {v : Value} (hc : Constraints.ofField f = .ok c)
    (hd : Domain.ofField f c stops = .ok d) (hmin : isCountable c.minLength = true)
    (hmax : isCountable c.maxLength = true)
    (hnonneg : ∀ n, c.minLength.integer? = some n ∨ c.maxLength.integer? = some n → 0 ≤ n)
    (hle : ∀ a b, c.minLength.integer? = some a → c.maxLength.integer? = some b → a ≤ b)
    (hdefault : f.defaultValue.isNull = true) (h : ofField f c d = .ok (.ok v)) :
    d.empty = false ∧ ∀ p, c.pattern = some p → p = "" := by
  rw [ofField, hdefault] at h
  simp only [Bool.not_true, Bool.false_eq_true, if_false] at h
  rw [Domain.ofField] at hd
  rw [Constraints.ofField] at hc
  cases htype : f.type with
  | none =>
    rw [htype] at hd
    cases hd
  | some t =>
    rw [htype] at hd hc h
    cases t with
    | string limit => exact empty_eq_false_of_ofText hmin hmax hnonneg hle hd h
    | number low high =>
      obtain ⟨minimum, -, hc⟩ := bind_eq_ok_iff.mp hc
      obtain ⟨maximum, -, hc⟩ := bind_eq_ok_iff.mp hc
      cases hc
      refine ⟨?_, fun p hp ↦ by cases hp⟩
      cases hempty : d.empty with
      | false => rfl
      | true =>
        rw [hempty] at h
        cases h
    | boolean =>
      cases hc
      refine ⟨?_, fun p hp ↦ by cases hp⟩
      cases hempty : d.empty with
      | false => rfl
      | true =>
        rw [hempty] at h
        cases h
    | enum values =>
      cases hc
      cases hd
      refine ⟨?_, fun p hp ↦ by cases hp⟩
      dsimp only at h ⊢
      split at h
      · cases h
      · rename_i heq
        rw [heq]
        rfl
    | bytes length =>
      cases hc
      cases hd
      refine ⟨?_, fun p hp ↦ by cases hp⟩
      cases hnull : length.isNull with
      | true =>
        dsimp only at h
        rw [if_pos hnull] at h
        split at h
        · cases h
        · rename_i heq
          rw [Domain.ofBytes, if_pos hnull] at heq ⊢
          dsimp only at heq ⊢
          rw [Bool.and_eq_false_iff]
          right
          rw [String.isEmpty_eq_false_iff]
          rintro hnil
          rw [hnil] at heq
          cases heq
      | false =>
        rw [Domain.ofBytes, if_neg (by simp [hnull])]

end TextProtocol.Example
