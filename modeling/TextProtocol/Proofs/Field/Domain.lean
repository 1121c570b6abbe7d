import TextProtocol.Field.Domain
import TextProtocol.Proofs.Value.Order
import TextProtocol.Proofs.Wire.Coercion
import TextProtocol.Proofs.Wire.StopCheck

/-!
# What test domains describe

A test domain is computed from characters: letters and digits that occur in no stop. The checks that
its values have to pass look at bytes, and at stops that begin in a value and end after it. The two
meet in `avoids_of_isSafe`: the first byte of a stop belongs to its first character, so it does not
occur in a text of ASCII that does without the characters of the stops.

`Describes` says which values are in a domain. What the bounds of a domain come to is given by
`ofText_spec` and `ofNumber_spec`, for constraints whose bounds count as integers.
-/

namespace TextProtocol

open Fault (bind_eq_ok_iff pure_eq_ok_iff)
open Value (isCountable eq_null_or_of_isCountable isNull_eq_false_of_integer? lt_of_integer?
  exists_max_of_integer? exists_min_of_integer? integer?_orElse integer?_ite_isNull)

namespace Domain

variable {stops : List String} {d : Domain} {t : Option Spec.FieldType}

/-! ## Safe characters -/

def IsSafe (stops : List String) (c : Char) : Prop :=
  c.toNat < 0x80 ∧ isBanned stops c = false

theorem not_mem_of_isBanned {c : Char} (h : isBanned stops c = false) {s : String}
    (hs : s ∈ stops) : c ∉ s.toList := by
  rw [isBanned, List.any_eq_false] at h
  simpa using h s hs

/-- The first byte of a stop does not occur in a text of safe characters. -/
theorem avoids_of_isSafe {text : List Char} (htext : ∀ c ∈ text, IsSafe stops c) {s : String}
    (hs : s ∈ stops) (hne : s ≠ "") : Wire.Avoids (Utf8.encode text) (Utf8.ofString s) := by
  obtain ⟨first, rest, hlist⟩ : ∃ first rest, s.toList = first :: rest :=
    List.exists_cons_of_ne_nil fun hnil ↦ hne (String.toList_inj.mp hnil)
  obtain ⟨b, bs, hbytes, hnext⟩ := Utf8.next_encodeChar first (Utf8.encode rest)
  refine ⟨b, bs ++ Utf8.encode rest, ?_, fun hmem ↦ ?_⟩
  · rw [Utf8.ofString, hlist, Utf8.encode, List.flatMap_cons, hbytes]
    rfl
  · obtain ⟨c, hc, hb⟩ := List.mem_flatMap.mp hmem
    obtain ⟨hascii, hfree⟩ := htext c hc
    rw [Utf8.encodeChar, if_pos hascii, List.mem_singleton] at hb
    have hcode : b.toNat = c.toNat := by rw [hb, Utf8.toNat_ofNat_byte (by omega)]
    -- A byte of ASCII at the beginning of a character is all of it.
    rw [Utf8.next_one (by omega), hcode, Char.ofNat_toNat, Prod.mk.injEq, Option.some.injEq]
      at hnext
    refine not_mem_of_isBanned hfree hs ?_
    rw [hlist, hnext.1]
    exact List.mem_cons_self

/-- Bytes that all occur in a text of safe characters avoid all stops. -/
theorem avoids_of_subset (hstops : ∀ s ∈ stops, s ≠ "") {text : List Char}
    (htext : ∀ c ∈ text, IsSafe stops c) {raw : Bytes} (hraw : raw ⊆ Utf8.encode text) :
    ∀ stop ∈ stops.map Utf8.ofString, Wire.Avoids raw stop := by
  intro stop hstop
  obtain ⟨s, hs, rfl⟩ := List.mem_map.mp hstop
  exact (avoids_of_isSafe htext hs (hstops s hs)).mono hraw

theorem isSafe_of_mem_safeAlphabet {c : Char} (h : c ∈ (safeAlphabet stops).toList) :
    IsSafe stops c := by
  have hascii : (alphanumerics.all fun c ↦ decide (c.toNat < 0x80)) = true := by decide
  rw [safeAlphabet, String.toList_ofList, List.mem_filter, Bool.not_eq_true'] at h
  exact ⟨of_decide_eq_true (List.all_eq_true.mp hascii c h.1), h.2⟩

theorem mem_digits_of_isDigit {c : Char} (h : c.isDigit = true) : c ∈ "0123456789".toList := by
  have hdigit : ∀ k < 10, k.digitChar ∈ "0123456789".toList := by decide
  have hcode := FieldCheck.toNat_of_isDigit h
  rw [← FieldCheck.digitChar_sub h]
  exact hdigit _ (by omega)

/-- A number is spelled in safe characters if digits are safe and, in case it is negative, the minus
sign is. -/
theorem isSafe_of_mem_toString {n : Int}
    (hdigits : "0123456789".toList.any (isBanned stops) = false)
    (hminus : n < 0 → isBanned stops '-' = false) : ∀ c ∈ (toString n).toList, IsSafe stops c := by
  have hdigit (k : Nat) : ∀ c ∈ Nat.toDigits 10 k, IsSafe stops c := by
    intro c hc
    have hdigit := List.all_eq_true.mp (FieldCheck.all_isDigit_toDigits k) c hc
    have hcode := FieldCheck.toNat_of_isDigit hdigit
    refine ⟨by omega, ?_⟩
    simpa using List.any_eq_false.mp hdigits c (mem_digits_of_isDigit hdigit)
  intro c hc
  by_cases hneg : n < 0
  · obtain ⟨k, rfl⟩ : ∃ k : Nat, n = -(k : Int) := ⟨n.natAbs, by omega⟩
    rw [FieldCheck.toList_toString_neg (by omega)] at hc
    rcases List.mem_cons.mp hc with rfl | hc
    · exact ⟨by decide, hminus hneg⟩
    · exact hdigit k c hc
  · obtain ⟨k, rfl⟩ := Int.eq_ofNat_of_zero_le (Int.not_lt.mp hneg)
    rw [FieldCheck.toList_toString_natCast] at hc
    exact hdigit k c hc

/-! ## Values of a domain -/

def Within (low high : Value) (n : Int) : Prop :=
  Value.lt (.int n) low = .ok false ∧ Value.lt high (.int n) = .ok false

instance (x : Except Fault Bool) : Decidable (x = .ok false) :=
  match x with
  | .ok false => isTrue rfl
  | .ok true | .error _ => isFalse nofun

instance (low high : Value) (n : Int) : Decidable (Within low high n) :=
  inferInstanceAs (Decidable
    (Value.lt (.int n) low = .ok false ∧ Value.lt high (.int n) = .ok false))

theorem within_iff {low high : Value} {x y n : Int} (hlow : low.integer? = some x)
    (hhigh : high.integer? = some y) : Within low high n ↔ x ≤ n ∧ n ≤ y := by
  have hn : (Value.int n).integer? = some n := rfl
  rw [Within, lt_of_integer? hn hlow, lt_of_integer? hhigh hn]
  simp

/-- The values that a domain describes for a type of field: texts of its characters and sizes,
numbers in its range, its words for Booleans, its values of an enumeration, and bytes of its sizes,
which are those of its characters where no length is given. -/
def Describes (d : Domain) : Option Spec.FieldType → Value → Prop
  | some (.string _), .text s =>
    (∀ c ∈ s.toList, c ∈ d.alphabet.toList) ∧ Within d.minSize d.maxSize s.length
  | some (.number ..), .int n => Within d.minimum d.maximum n
  | some .boolean, .bool b => (if b then "true" else "false") ∈ d.values
  | some (.enum _), .text s => s ∈ d.values
  | some (.bytes length), .bytes data =>
    (length.isNull = true → ∀ b ∈ data, b ∈ Utf8.ofString d.alphabet) ∧
      Within d.minSize d.maxSize data.length
  | _, _ => False

theorem Describes.isNull_eq_false {v : Value} (h : d.Describes t v) : v.isNull = false := by
  cases v with
  | null =>
    cases t with
    | none => exact h.elim
    | some t => cases t <;> exact h.elim
  | _ => rfl

theorem Describes.frozen_eq {v : Value} (h : d.Describes t v) : v.frozen = v := by
  cases v with
  | buffer data =>
    cases t with
    | none => exact h.elim
    | some t => cases t <;> exact h.elim
  | _ => rfl

/-- Of the values of a domain only numbers may have too many digits to be written. -/
theorem Describes.fault?_eq_none_or {v : Value} (h : d.Describes t v) :
    Wire.fault? v = none ∨ ∃ n low high, v = .int n ∧ t = some (.number low high) ∧
      Within d.minimum d.maximum n := by
  cases t with
  | none => exact h.elim
  | some t =>
    cases t with
    | number low high =>
      cases v with
      | int n => exact .inr ⟨n, low, high, rfl, rfl, h⟩
      | _ => exact h.elim
    | _ =>
      cases v with
      | text | bool | bytes => exact .inl rfl
      | _ => exact h.elim

/-! ## The bounds of a domain -/

theorem plus_of_integer? {v : Value} {m : Int} (h : v.integer? = some m) (n : Int) :
    plus v n = .ok (.int (m + n)) := by
  cases v with
  | bool | int =>
    cases h
    rfl
  | _ => cases h

def ofLeastSize (c : Constraints) (stops : List String) (minSize : Value) :
    Except Fault Domain := do
  let limit ← plus minSize sizeSlack
  let maxSize ← (if c.maxLength.isNull then limit else c.maxLength).min limit
  let empty ← if ← maxSize.lt minSize then pure true
    else pure ((← Value.lt (.int 0) minSize) && (safeAlphabet stops).isEmpty)
  return { alphabet := safeAlphabet stops, minSize, maxSize, empty }

theorem ofText_eq (required : Bool) (c : Constraints) (stops : List String) :
    ofText required c stops =
      (if required then pure (c.minLength.orElse (.int 0))
        else (c.minLength.orElse (.int 0)).max (.int 1)) >>= ofLeastSize c stops := by
  cases required <;> rfl

theorem ofLeastSize_spec {c : Constraints} {minSize : Value} {low : Int}
    (hlow : minSize.integer? = some low) (hmax : isCountable c.maxLength = true)
    (h : ofLeastSize c stops minSize = .ok d) :
    d.alphabet = safeAlphabet stops ∧ d.minSize = minSize ∧ ∃ high, d.maxSize.integer? = some high ∧
      high = min (c.maxLength.integer?.getD (low + sizeSlack)) (low + sizeSlack) ∧
      (d.empty = false ↔ low ≤ high ∧ (0 < low → safeAlphabet stops ≠ "")) := by
  have hlimit : (Value.int (low + sizeSlack)).integer? = some (low + sizeSlack) := rfl
  have hupper := integer?_ite_isNull hmax (low + sizeSlack)
  obtain ⟨maxSize, hmaxSize, hhigh⟩ := exists_min_of_integer? hupper hlimit
  rw [ofLeastSize, plus_of_integer? hlow] at h
  obtain ⟨limit, heq, h⟩ := bind_eq_ok_iff.mp h
  cases heq
  rw [hmaxSize] at h
  obtain ⟨size, heq, h⟩ := bind_eq_ok_iff.mp h
  cases heq
  rw [lt_of_integer? hhigh hlow] at h
  obtain ⟨crossed, heq, h⟩ := bind_eq_ok_iff.mp h
  cases heq
  by_cases hcrossed : min (c.maxLength.integer?.getD (low + sizeSlack)) (low + sizeSlack) < low
  · rw [decide_eq_true hcrossed] at h
    cases h
    refine ⟨rfl, rfl, _, hhigh, rfl, nofun, fun hle ↦ ?_⟩
    exact absurd hcrossed (Int.not_lt.mpr hle.1)
  · have hzero : (Value.int 0).integer? = some 0 := rfl
    rw [decide_eq_false hcrossed, lt_of_integer? hzero hlow] at h
    cases h
    refine ⟨rfl, rfl, _, hhigh, rfl, ?_⟩
    rw [Bool.and_eq_false_iff, decide_eq_false_iff_not, String.isEmpty_eq_false_iff,
      and_iff_right (Int.not_lt.mp hcrossed), Decidable.imp_iff_not_or]

/-- The sizes of a domain of texts: as the constraints say, not empty if the field is optional, and
with a limit of its own. -/
theorem ofText_spec {required : Bool} {c : Constraints} (hmin : isCountable c.minLength = true)
    (hmax : isCountable c.maxLength = true) (h : ofText required c stops = .ok d) :
    d.alphabet = safeAlphabet stops ∧ ∃ low high : Int,
      d.minSize.integer? = some low ∧ d.maxSize.integer? = some high ∧
      low = (if required then c.minLength.integer?.getD 0
        else max (c.minLength.integer?.getD 0) 1) ∧
      high = min (c.maxLength.integer?.getD (low + sizeSlack)) (low + sizeSlack) ∧
      (d.empty = false ↔ low ≤ high ∧ (0 < low → safeAlphabet stops ≠ "")) := by
  have hleast := integer?_orElse hmin
  rw [ofText_eq] at h
  obtain ⟨minSize, hminSize, h⟩ := bind_eq_ok_iff.mp h
  have hlow : minSize.integer? = some
      (if required then c.minLength.integer?.getD 0 else max (c.minLength.integer?.getD 0) 1) := by
    cases required with
    | true =>
      cases hminSize
      exact hleast
    | false =>
      have hone : (Value.int 1).integer? = some 1 := rfl
      obtain ⟨v, hv, hmax⟩ := exists_max_of_integer? hleast hone
      rw [if_neg (by decide), hv] at hminSize
      cases hminSize
      exact hmax
  obtain ⟨halphabet, hsize, high, hhigh, heq, hempty⟩ := ofLeastSize_spec hlow hmax h
  exact ⟨halphabet, _, high, hsize ▸ hlow, hhigh, rfl, heq, hempty⟩

/-- The range of a domain of numbers: as the constraints say, and without negative numbers if their
sign is not safe. -/
theorem ofNumber_spec {c : Constraints} (hmin : isCountable c.minimum = true)
    (hmax : isCountable c.maximum = true) (h : ofNumber c stops = .ok d) :
    d.maximum = (if c.maximum.isNull then .int numberBound else c.maximum) ∧
      d.maximum.integer? = some (c.maximum.integer?.getD numberBound) ∧
      ∃ low : Int, d.minimum.integer? = some low ∧
        c.minimum.integer?.getD (-numberBound) ≤ low ∧ (isBanned stops '-' = true → 0 ≤ low) ∧
        (d.empty = false → low ≤ c.maximum.integer?.getD numberBound ∧
          "0123456789".toList.any (isBanned stops) = false) := by
  have hleast := integer?_ite_isNull hmin (-numberBound)
  have hhigh := integer?_ite_isNull hmax numberBound
  -- Negative numbers are left out where their sign is not safe; the rest is the same.
  obtain ⟨v, low, hlow, hge, hminus, h⟩ : ∃ v low, v.integer? = some low ∧
      c.minimum.integer?.getD (-numberBound) ≤ low ∧ (isBanned stops '-' = true → 0 ≤ low) ∧
      ((if c.maximum.isNull then Value.int numberBound else c.maximum).lt v >>= fun empty ↦
        pure { minimum := v, maximum := if c.maximum.isNull then .int numberBound else c.maximum,
               empty := empty || "0123456789".toList.any (isBanned stops) }) = .ok d := by
    rw [ofNumber] at h
    split at h
    · have hzero : (Value.int 0).integer? = some 0 := rfl
      obtain ⟨v, hv, hmax⟩ := exists_max_of_integer? hleast hzero
      rw [hv] at h
      exact ⟨v, _, hmax, Int.le_max_left .., fun _ ↦ Int.le_max_right .., h⟩
    · rename_i hminus
      exact ⟨_, _, hleast, Int.le_refl _, fun h ↦ absurd h hminus, h⟩
  rw [lt_of_integer? hhigh hlow] at h
  cases h
  refine ⟨rfl, hhigh, low, hlow, hge, hminus, fun hempty ↦ ?_⟩
  rw [Bool.or_eq_false_iff, decide_eq_false_iff_not] at hempty
  exact ⟨Int.not_lt.mp hempty.1, hempty.2⟩

end Domain

end TextProtocol
