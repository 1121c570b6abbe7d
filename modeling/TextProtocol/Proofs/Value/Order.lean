import TextProtocol.Proofs.Fault
import TextProtocol.Value.Order

/-!
# Comparing integers

Bounds are values of any kind, and not all of them can be compared. Those that count as integers
compare as these integers do, and the greater and the lesser of two such values count as the greater
and the lesser integer.
-/

namespace TextProtocol.Value

variable {a b v : Value} {x y n : Int}

/-- Whether a bound is of a kind that integers are compared with: there is none, or it is an integer
or a Boolean. -/
def isCountable (bound : Value) : Bool :=
  bound.isNull || bound.integer?.isSome

theorem eq_null_or_of_isCountable (h : isCountable v = true) :
    v = .null ∨ ∃ n, v.integer? = some n := by
  cases v with
  | null => exact .inl rfl
  | bool b => exact .inr ⟨_, rfl⟩
  | int n => exact .inr ⟨n, rfl⟩
  | _ => cases h

theorem integer?_int (n : Int) : (Value.int n).integer? = some n := rfl

theorem isNull_eq_false_of_integer? (h : v.integer? = some n) : v.isNull = false := by
  cases v with
  | null => cases h
  | _ => rfl

/-- Values that count as integers compare as these do. -/
theorem lt_of_integer? (ha : a.integer? = some x) (hb : b.integer? = some y) :
    a.lt b = .ok (decide (x < y)) := by
  cases a with
  | bool p | int p =>
    cases b with
    | bool q | int q =>
      cases ha
      cases hb
      simp [lt, number?, Number.lt]
    | _ => cases hb
  | _ => cases ha

theorem same_of_integer? (ha : a.integer? = some x) (hb : b.integer? = some y) :
    a.same b = (x == y) := by
  cases a with
  | bool p | int p =>
    cases b with
    | bool q | int q =>
      cases ha
      cases hb
      simp [same, number?, Number.eq]
    | _ => cases hb
  | _ => cases ha

/-- What counts as an integer is one, or a Boolean that counts as zero or one. -/
theorem eq_of_integer? (h : v.integer? = some n) :
    v = .int n ∨ v = .bool true ∧ n = 1 ∨ v = .bool false ∧ n = 0 := by
  cases v with
  | bool b =>
    cases b with
    | true => exact .inr (.inl ⟨rfl, (Option.some.inj h).symm⟩)
    | false => exact .inr (.inr ⟨rfl, (Option.some.inj h).symm⟩)
  | int k =>
    cases h
    exact .inl rfl
  | _ => cases h

theorem max_of_integer? (ha : a.integer? = some x) (hb : b.integer? = some y) :
    a.max b = .ok (if x < y then b else a) := by
  rw [Value.max, lt_of_integer? ha hb]
  by_cases h : x < y
  · rw [decide_eq_true h, if_pos h]
    rfl
  · rw [decide_eq_false h, if_neg h]
    rfl

theorem min_of_integer? (ha : a.integer? = some x) (hb : b.integer? = some y) :
    a.min b = .ok (if y < x then b else a) := by
  rw [Value.min, lt_of_integer? hb ha]
  by_cases h : y < x
  · rw [decide_eq_true h, if_pos h]
    rfl
  · rw [decide_eq_false h, if_neg h]
    rfl

theorem exists_max_of_integer? (ha : a.integer? = some x) (hb : b.integer? = some y) :
    ∃ v, a.max b = .ok v ∧ v.integer? = some (Max.max x y) := by
  refine ⟨_, max_of_integer? ha hb, ?_⟩
  split
  · rw [hb, Int.max_eq_right (by omega)]
  · rw [ha, Int.max_eq_left (by omega)]

theorem exists_min_of_integer? (ha : a.integer? = some x) (hb : b.integer? = some y) :
    ∃ v, a.min b = .ok v ∧ v.integer? = some (Min.min x y) := by
  refine ⟨_, min_of_integer? ha hb, ?_⟩
  split
  · rw [hb, Int.min_eq_right (by omega)]
  · rw [ha, Int.min_eq_left (by omega)]

theorem integer?_orElse (h : isCountable v = true) :
    (v.orElse (.int 0)).integer? = some (v.integer?.getD 0) := by
  cases v with
  | null => rfl
  | bool b => cases b <;> rfl
  | int n =>
    by_cases hn : n = 0
    · subst hn
      rfl
    · have htruthy : (Value.int n).truthy = true := by simpa [truthy] using hn
      rw [orElse, if_pos htruthy]
      rfl
  | _ => cases h

/-- A bound that is not there counts as what is put in its place. -/
theorem integer?_ite_isNull (h : isCountable v = true) (k : Int) :
    (if v.isNull then Value.int k else v).integer? = some (v.integer?.getD k) := by
  rcases eq_null_or_of_isCountable h with rfl | ⟨n, hn⟩
  · rfl
  · rw [isNull_eq_false_of_integer? hn, hn]
    exact hn

end TextProtocol.Value
