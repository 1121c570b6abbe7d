import TextProtocol.Proofs.Text.Utf8
import TextProtocol.Wire.Check

/-!
# Numbers on the wire

A number is written in decimal and read back as the same number. Reading accepts more than writing
produces: leading zeros, and a minus sign before zero. `isCanonical` leaves these out, and what is
left is exactly what is written for the number that is read.
-/

namespace TextProtocol.Wire

/-- Whether the bytes of a number have no leading zero and no minus sign before a zero. -/
def isCanonical : Bytes → Bool
  | 0x2D :: digits => digits.head? != some 0x30
  | digits => digits.head? != some 0x30 || digits == [0x30]

end TextProtocol.Wire

namespace TextProtocol.FieldCheck

open Text (maxDigits isWritable)

variable {c : Char} {digits : List Char} {n : Int}

/-! ## Digits -/

theorem toNat_of_isDigit (h : c.isDigit = true) : 48 ≤ c.toNat ∧ c.toNat ≤ 57 :=
  Char.isDigit_iff_toNat.mp h

theorem foldl_digits_eq (h : digits.all Char.isDigit = true) :
    ∀ start : Nat, digits.foldl (fun (n : Int) c ↦ 10 * n + (c.toNat - 48)) start =
      Nat.ofDigitChars 10 digits start := by
  induction digits with
  | nil => intro start; simp
  | cons c digits ih =>
    intro start
    rw [List.all_cons, Bool.and_eq_true] at h
    have hc := toNat_of_isDigit h.1
    have hstep : (10 * (start : Int) + (c.toNat - 48)) =
        ((10 * start + (c.toNat - 48) : Nat) : Int) := by
      omega
    rw [List.foldl_cons, Nat.ofDigitChars_cons, hstep, ih h.2]
    rfl

theorem digitChar_sub (h : c.isDigit = true) : (c.toNat - 48).digitChar = c := by
  have hc := toNat_of_isDigit h
  rw [← Char.toNat_inj, Nat.toNat_digitChar_of_lt_ten (by omega)]
  omega

/-- Digits that are read after a number other than zero are appended to its own. -/
theorem toDigits_ofDigitChars_of_pos (h : digits.all Char.isDigit = true) :
    ∀ {n : Nat}, 0 < n →
      Nat.toDigits 10 (Nat.ofDigitChars 10 digits n) = Nat.toDigits 10 n ++ digits := by
  induction digits with
  | nil => intro n _; rw [Nat.ofDigitChars_nil, List.append_nil]
  | cons c digits ih =>
    intro n hn
    rw [List.all_cons, Bool.and_eq_true] at h
    have hc := toNat_of_isDigit h.1
    have hlt : c.toNat - '0'.toNat < 10 := show c.toNat - 48 < 10 by omega
    have hpos : 0 < 10 * n + (c.toNat - '0'.toNat) := by omega
    rw [Nat.ofDigitChars_cons, ih h.2 hpos, ← Nat.toDigits_append_toDigits (by omega) hn hlt,
      Nat.toDigits_of_lt_base hlt, show (c.toNat - '0'.toNat).digitChar = c from digitChar_sub h.1,
      List.append_assoc, List.singleton_append]

/-- Digits without a leading zero are the digits of their value. -/
theorem toDigits_ofDigitChars (h : (c :: digits).all Char.isDigit = true)
    (hlead : c ≠ '0' ∨ digits = []) :
    Nat.toDigits 10 (Nat.ofDigitChars 10 (c :: digits) 0) = c :: digits := by
  rw [List.all_cons, Bool.and_eq_true] at h
  have hc := toNat_of_isDigit h.1
  have hlt : c.toNat - '0'.toNat < 10 := show c.toNat - 48 < 10 by omega
  have hfirst : Nat.toDigits 10 (c.toNat - '0'.toNat) = [c] := by
    rw [Nat.toDigits_of_lt_base hlt,
      show (c.toNat - '0'.toNat).digitChar = c from digitChar_sub h.1]
  rw [Nat.ofDigitChars_cons, Nat.mul_zero, Nat.zero_add]
  by_cases hnil : digits = []
  · subst hnil
    rw [Nat.ofDigitChars_nil, hfirst]
  · have hzero : c.toNat ≠ 48 := fun h48 ↦
      (hlead.resolve_right hnil) (Char.toNat_inj.mp h48)
    have hpos : 0 < c.toNat - '0'.toNat := show 0 < c.toNat - 48 by omega
    rw [toDigits_ofDigitChars_of_pos h.2 hpos, hfirst, List.singleton_append]

/-- A number has at most as many digits as it was spelled with. -/
theorem length_toDigits_ofDigitChars_le (h : (c :: digits).all Char.isDigit = true) :
    (Nat.toDigits 10 (Nat.ofDigitChars 10 (c :: digits) 0)).length ≤ (c :: digits).length := by
  induction digits generalizing c with
  | nil => exact Nat.le_of_eq (congrArg List.length (toDigits_ofDigitChars h (.inr rfl)))
  | cons d digits ih =>
    by_cases hc : c = '0'
    · subst hc
      rw [List.all_cons, Bool.and_eq_true] at h
      have hzero : Nat.ofDigitChars 10 ('0' :: d :: digits) 0 =
          Nat.ofDigitChars 10 (d :: digits) 0 := by
        rw [Nat.ofDigitChars_cons, Nat.mul_zero, Nat.sub_self]
      rw [hzero]
      exact Nat.le_succ_of_le (ih h.2)
    · exact Nat.le_of_eq (congrArg List.length (toDigits_ofDigitChars h (.inl hc)))

/-! ## Reading -/

/-- A text that spells an integer: digits of ASCII, perhaps after a minus sign. -/
def Spells (text digits : List Char) : Prop :=
  digits ≠ [] ∧ digits.all Char.isDigit = true ∧ (text = digits ∨ text = '-' :: digits)

/-- A numeral is read as its number, unless it has too many digits. -/
theorem readNumber_of_spells {text : List Char} (h : Spells text digits) :
    ∃ k : Int, readNumber text = (if maxDigits < digits.length then .error .invalid
        else .ok (some k)) ∧
      (text = '-' :: digits ∧ k = -(Nat.ofDigitChars 10 digits 0 : Int) ∨
        text = digits ∧ k = Nat.ofDigitChars 10 digits 0) := by
  obtain ⟨hne, hall, htext⟩ := h
  have hdigits : (digits.isEmpty || !digits.all Char.isDigit) = false := by simp [hne, hall]
  have hvalue := foldl_digits_eq hall 0
  rcases htext with rfl | rfl
  · have hplain : ∀ rest, text = '-' :: rest → False := by
      rintro rest rfl
      exact absurd (List.all_eq_true.mp hall '-' List.mem_cons_self) (by decide)
    rw [readNumber.eq_2 _ hplain, hdigits]
    exact ⟨_, rfl, .inr ⟨rfl, hvalue⟩⟩
  · rw [readNumber, hdigits]
    exact ⟨_, rfl, .inl ⟨rfl, congrArg Neg.neg hvalue⟩⟩

theorem spells_of_readNumber {text : List Char} (h : readNumber text ≠ .ok none) :
    ∃ digits, Spells text digits := by
  have hspells {digits : List Char} {read : Except Fault (Option Int)}
      (h : (if digits.isEmpty || !digits.all Char.isDigit then .ok none else read) ≠ .ok none) :
      digits ≠ [] ∧ digits.all Char.isDigit = true := by
    split at h
    · exact absurd rfl h
    · simp_all
  by_cases hminus : text.head? = some '-'
  · obtain ⟨digits, rfl⟩ := List.head?_eq_some_iff.mp hminus
    rw [readNumber] at h
    exact ⟨digits, (hspells h).1, (hspells h).2, .inr rfl⟩
  · rw [readNumber.eq_2 _ fun rest heq ↦ hminus (by rw [heq]; rfl)] at h
    exact ⟨text, (hspells h).1, (hspells h).2, .inl rfl⟩

theorem readNumber_eq_error_iff {text : List Char} {e : Fault} :
    readNumber text = .error e ↔
      (∃ digits, Spells text digits ∧ maxDigits < digits.length) ∧ e = .invalid := by
  constructor
  · intro h
    obtain ⟨digits, hdigits⟩ := @spells_of_readNumber text (by simp [h])
    obtain ⟨k, hk, -⟩ := readNumber_of_spells hdigits
    rw [hk] at h
    split at h
    · rename_i hlong
      cases h
      exact ⟨⟨digits, hdigits, hlong⟩, rfl⟩
    · cases h
  · rintro ⟨⟨digits, hdigits, hlong⟩, rfl⟩
    obtain ⟨k, hk, -⟩ := readNumber_of_spells hdigits
    rw [hk, if_pos hlong]

/-- What is read as a number: digits, perhaps after a minus sign, and not too many of them. -/
theorem readNumber_cases {text : List Char} (h : readNumber text = .ok (some n)) :
    ∃ c digits, (c :: digits).all Char.isDigit = true ∧ (c :: digits).length ≤ maxDigits ∧
      (text = '-' :: c :: digits ∧ n = -(Nat.ofDigitChars 10 (c :: digits) 0 : Int) ∨
        text = c :: digits ∧ n = Nat.ofDigitChars 10 (c :: digits) 0) := by
  obtain ⟨digits, hdigits⟩ := @spells_of_readNumber text (by simp [h])
  obtain ⟨k, hk, htext⟩ := readNumber_of_spells hdigits
  obtain ⟨c, digits, rfl⟩ := List.exists_cons_of_ne_nil hdigits.1
  rw [hk] at h
  split at h
  · cases h
  · rename_i hshort
    cases h
    exact ⟨c, digits, hdigits.2.1, Nat.not_lt.mp hshort, htext⟩

theorem isWritable_iff : isWritable n = true ↔ (Nat.toDigits 10 n.natAbs).length ≤ maxDigits := by
  rw [isWritable, decide_eq_true_iff, Nat.toString_eq_ofList_toDigits, String.length_ofList]

/-- A number that is no further from zero than one that can be written can be written. -/
theorem isWritable_of_natAbs_le {m : Int} (h : n.natAbs ≤ m.natAbs) (hm : isWritable m = true) :
    isWritable n = true := by
  rw [isWritable_iff, Nat.length_toDigits_le_iff (by decide) (by decide)] at hm ⊢
  exact Nat.lt_of_le_of_lt h hm

theorem isWritable_of_readNumber {text : List Char} (h : readNumber text = .ok (some n)) :
    isWritable n = true := by
  obtain ⟨c, digits, hall, hlen, hn⟩ := readNumber_cases h
  have hvalue : n.natAbs = Nat.ofDigitChars 10 (c :: digits) 0 := by
    rcases hn with ⟨-, rfl⟩ | ⟨-, rfl⟩
    · rw [Int.natAbs_neg, Int.natAbs_natCast]
    · rw [Int.natAbs_natCast]
  rw [isWritable_iff, hvalue]
  exact Nat.le_trans (length_toDigits_ofDigitChars_le hall) hlen

theorem toList_toString_natCast (k : Nat) : (toString (k : Int)).toList = Nat.toDigits 10 k :=
  Nat.toList_repr

theorem toList_toString_neg {k : Nat} (h : 0 < k) :
    (toString (-(k : Int))).toList = '-' :: Nat.toDigits 10 k := by
  obtain ⟨k, rfl⟩ : ∃ j, k = j + 1 := ⟨k - 1, by omega⟩
  rw [show (-((k + 1 : Nat) : Int)) = Int.negSucc k from rfl, Int.toString_eq_repr, Int.repr,
    String.toList_append, Nat.toList_repr]
  rfl

theorem all_isDigit_toDigits (k : Nat) : (Nat.toDigits 10 k).all Char.isDigit = true := by
  rw [List.all_eq_true]
  exact fun c hc ↦ Nat.isDigit_of_mem_toDigits (by omega) (by omega) hc

theorem readNumber_toString (h : isWritable n = true) :
    readNumber (toString n).toList = .ok (some n) := by
  rw [isWritable_iff] at h
  obtain ⟨j, rfl | rfl⟩ := n.eq_nat_or_neg
  · rw [Int.natAbs_natCast] at h
    rw [toList_toString_natCast]
    obtain ⟨k, hk, ⟨hminus, -⟩ | ⟨-, rfl⟩⟩ := readNumber_of_spells
      ⟨Nat.toDigits_ne_nil, all_isDigit_toDigits j, .inl rfl⟩
    · simp at hminus
    · rw [hk, if_neg (by omega), Nat.ofDigitChars_ten_toDigits]
  · rw [Int.natAbs_neg, Int.natAbs_natCast] at h
    by_cases hj : j = 0
    · subst hj
      rfl
    · rw [toList_toString_neg (by omega)]
      obtain ⟨k, hk, ⟨-, rfl⟩ | ⟨hplain, -⟩⟩ := readNumber_of_spells
        ⟨Nat.toDigits_ne_nil, all_isDigit_toDigits j, .inr rfl⟩
      · rw [hk, if_neg (by omega), Nat.ofDigitChars_ten_toDigits]
      · simp at hplain

theorem encodeChar_of_isDigit (h : c.isDigit = true) :
    Utf8.encodeChar c = [UInt8.ofNat c.toNat] := by
  have hc := toNat_of_isDigit h
  rw [Utf8.encodeChar, if_pos (by omega)]

theorem ofNat_digit_eq_zero_iff (h : c.isDigit = true) : UInt8.ofNat c.toNat = 0x30 ↔ c = '0' := by
  have hc := toNat_of_isDigit h
  rw [← UInt8.toNat_inj, Utf8.toNat_ofNat_byte (by omega), ← Char.toNat_inj]
  rfl

/-- The first digit of a canonical number is not a zero, unless it is the only one. -/
theorem lead_of_isCanonical (hc : c.isDigit = true)
    (h : Wire.isCanonical (Utf8.encode (c :: digits)) = true) : c ≠ '0' ∨ digits = [] := by
  have hcode := toNat_of_isDigit hc
  have hsign : UInt8.ofNat c.toNat ≠ 0x2D := by
    rw [Ne, ← UInt8.toNat_inj, Utf8.toNat_ofNat_byte (by omega)]
    change c.toNat ≠ 45
    omega
  rw [Utf8.encode, List.flatMap_cons, encodeChar_of_isDigit hc, List.singleton_append,
    Wire.isCanonical.eq_2 _ fun _ heq ↦ hsign (List.cons.inj heq).1] at h
  rw [Bool.or_eq_true, List.head?_cons, bne_iff_ne, ne_eq, Option.some.injEq,
    ofNat_digit_eq_zero_iff hc, beq_iff_eq, List.cons.injEq] at h
  refine h.imp id fun hnil ↦ ?_
  have := Utf8.decode?_encode digits
  rw [Utf8.encode, hnil.2, Utf8.decode?] at this
  exact (Option.some.inj this).symm

theorem toString_of_readNumber {text : List Char} (h : readNumber text = .ok (some n))
    (hcanonical : Wire.isCanonical (Utf8.encode text) = true) : (toString n).toList = text := by
  obtain ⟨c, digits, hall, -, ⟨rfl, rfl⟩ | ⟨rfl, rfl⟩⟩ := readNumber_cases h
  · have hc : c.isDigit = true := List.all_eq_true.mp hall c (by simp)
    have hlead : c ≠ '0' := by
      rintro rfl
      rw [Utf8.encode, List.flatMap_cons, List.flatMap_cons] at hcanonical
      simp [Wire.isCanonical, Utf8.encodeChar] at hcanonical
    have hdigits := toDigits_ofDigitChars hall (.inl hlead)
    have hpos : 0 < Nat.ofDigitChars 10 (c :: digits) 0 := by
      rcases Nat.eq_zero_or_pos (Nat.ofDigitChars 10 (c :: digits) 0) with hzero | hpos
      · rw [hzero, Nat.toDigits_zero, List.cons.injEq] at hdigits
        exact absurd hdigits.1.symm hlead
      · exact hpos
    rw [toList_toString_neg hpos, hdigits]
  · have hc : c.isDigit = true := List.all_eq_true.mp hall c (by simp)
    rw [toList_toString_natCast, toDigits_ofDigitChars hall (lead_of_isCanonical hc hcanonical)]

end TextProtocol.FieldCheck
