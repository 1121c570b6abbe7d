import Mathlib.Data.List.TakeDrop
import TextProtocol.Json.Reader
import TextProtocol.Proofs.Fault
import TextProtocol.Proofs.Wire.Number

/-!
# Numerals of documents

Documents have no byte strings, and the reader refuses a numeral with too many digits. So an integer
that comes from a document can be written again, which is not so for all integers.
-/

namespace TextProtocol.Json

open Fault (bind_eq_ok_iff pure_eq_ok_iff)

variable {v : Value} {cs rest : List Char}

/-- Whether a value can come from a document: no byte string can, and of the integers only those
that can be written. -/
def isHeld : Value → Bool
  | .int n => Text.isWritable n
  | .bytes _ | .buffer _ => false
  | _ => true

theorem isHeld_ofCodes (codes : List Nat) : isHeld (.ofCodes codes) = true := by
  rw [Value.ofCodes]
  split <;> rfl

/-- An integer that is spelled with few enough digits can be written. -/
theorem isWritable_of_digits {n : Int} {digits : List Char} (hdigits : digits.all isDigit = true)
    (hne : digits ≠ []) (hlength : digits.length ≤ Text.maxDigits)
    (hn : n.natAbs = digitsValue digits) : Text.isWritable n = true := by
  obtain ⟨c, digits, rfl⟩ := List.exists_cons_of_ne_nil hne
  rw [FieldCheck.isWritable_iff, hn]
  exact Nat.le_trans (FieldCheck.length_toDigits_ofDigitChars_le hdigits) hlength

theorem isHeld_of_readNumeral (h : readNumeral cs = some (.ok v, rest)) : isHeld v = true := by
  unfold readNumeral at h
  split at h
  rename_i negative body _
  split at h
  rename_i whole after hwhole
  have hdigits : whole.all isDigit = true := by
    split at hwhole
    · cases hwhole
      rfl
    · rw [List.span_eq_takeWhile_dropWhile] at hwhole
      cases hwhole
      exact List.all_takeWhile
  split at h
  · cases h
  · rename_i hne
    -- What comes after the whole part matters only in so far as there may be nothing.
    split at h
    split at h
    split at h
    · split at h
      · cases h
      · rename_i hlength
        cases h
        refine isWritable_of_digits hdigits (fun hnil ↦ hne (by rw [hnil]; rfl))
          (Nat.not_lt.mp hlength) ?_
        split
        · rw [Int.natAbs_neg, Int.natAbs_natCast]
        · rw [Int.natAbs_natCast]
    · cases h
      rfl

theorem isHeld_of_readScalar {p q : Nat} (h : readScalar cs p = .ok (v, rest, q)) :
    isHeld v = true := by
  have hwords : ∀ w ∈ words, isHeld w.2 = true := by decide
  rw [readScalar] at h
  split at h
  · rename_i word hfind
    cases h
    exact hwords _ (List.mem_of_find?_eq_some hfind)
  · split at h
    · rename_i hread
      cases h
      exact isHeld_of_readNumeral hread
    · cases h
    · cases h

theorem exists_list_of_readItems {fuel levels : Nat} {items : List Value} {p q : Nat}
    (h : readItems fuel levels items cs p = .ok (v, rest, q)) : ∃ all, v = .list all := by
  induction fuel generalizing items cs p with
  | zero =>
    rw [readItems] at h
    cases h
  | succ fuel ih =>
    rw [readItems] at h
    obtain ⟨⟨first, left, r⟩, -, h⟩ := bind_eq_ok_iff.mp h
    dsimp only at h
    split at h
    · cases h
      exact ⟨_, rfl⟩
    · exact ih h
    · cases h

theorem exists_object_of_readEntries {fuel levels : Nat} {entries : List (String × Value)}
    {p q : Nat} (h : readEntries fuel levels entries cs p = .ok (v, rest, q)) :
    ∃ all, v = .object all := by
  induction fuel generalizing entries cs p with
  | zero =>
    rw [readEntries] at h
    cases h
  | succ fuel ih =>
    rw [readEntries.eq_def] at h
    dsimp only at h
    split at h
    · obtain ⟨⟨key, left, r⟩, -, h⟩ := bind_eq_ok_iff.mp h
      dsimp only at h
      split at h
      · obtain ⟨⟨entry, left', r'⟩, -, h⟩ := bind_eq_ok_iff.mp h
        dsimp only at h
        split at h
        · cases h
          exact ⟨_, rfl⟩
        · exact ih h
        · cases h
      · cases h
    · cases h

theorem isHeld_of_readValue {fuel levels : Nat} {p q : Nat}
    (h : readValue fuel levels cs p = .ok (v, rest, q)) : isHeld v = true := by
  cases fuel with
  | zero =>
    rw [readValue] at h
    cases h
  | succ fuel =>
    rw [readValue.eq_def] at h
    dsimp only at h
    split at h
    · obtain ⟨⟨codes, left, r⟩, -, h⟩ := bind_eq_ok_iff.mp h
      cases h
      exact isHeld_ofCodes codes
    · split at h
      · cases h
      · cases h
        rfl
      · obtain ⟨all, rfl⟩ := exists_list_of_readItems h
        rfl
    · split at h
      · cases h
      · cases h
        rfl
      · obtain ⟨all, rfl⟩ := exists_object_of_readEntries h
        rfl
    · exact isHeld_of_readScalar h

theorem isHeld_of_read {document : List Char} (h : read document = .ok v) : isHeld v = true := by
  unfold read at h
  split at h
  · cases h
  · obtain ⟨⟨first, left, r⟩, hread, h⟩ := bind_eq_ok_iff.mp h
    dsimp only at h
    split at h
    · cases h
      exact isHeld_of_readValue hread
    · cases h

end TextProtocol.Json
