import Mathlib.Algebra.Group.Nat.Defs
import TextProtocol.Text.Hex

/-!
# Text between quotation marks

Between quotation marks a backslash takes the next character with it. `bareChars` shows a text to a
reader who knows that much and nothing of what escapes mean; whether a literal ends where it should
depends on no more. A text that is `Contained` can stand between two marks: it does not end the
literal early, does not escape the mark after it, and stays on one line.
-/

namespace TextProtocol.Text

/-! ## Bare characters -/

/-- The characters of a text that no backslash stands before, and a gap for each escape. A backslash
at the very end escapes nothing and is bare. -/
def bareChars : List Char → List (Option Char)
  | '\\' :: _ :: rest => none :: bareChars rest
  | c :: rest => some c :: bareChars rest
  | [] => []

theorem bareChars_of_ne {c : Char} (h : c ≠ '\\') (rest : List Char) :
    bareChars (c :: rest) = some c :: bareChars rest := by
  rw [bareChars]
  exact fun _ _ heq _ ↦ h heq

/-- Texts are looked at one by one, unless the first ends inside an escape. -/
theorem bareChars_append {text : List Char} (h : some '\\' ∉ bareChars text) (rest : List Char) :
    bareChars (text ++ rest) = bareChars text ++ bareChars rest := by
  fun_induction bareChars text with
  | case1 c text ih =>
    rw [List.cons_append, List.cons_append, bareChars,
      ih fun hmem ↦ h (List.mem_cons_of_mem _ hmem), List.cons_append]
  | case2 c text hescape ih =>
    have hc : c ≠ '\\' := by
      rintro rfl
      exact h List.mem_cons_self
    rw [List.cons_append, bareChars_of_ne hc, ih fun hmem ↦ h (List.mem_cons_of_mem _ hmem),
      List.cons_append]
  | case3 => rfl

theorem bareChars_eq_map {text : List Char} (h : '\\' ∉ text) : bareChars text = text.map some := by
  induction text with
  | nil => rfl
  | cons c text ih =>
    rw [List.mem_cons, not_or] at h
    rw [bareChars_of_ne (Ne.symm h.1), ih h.2, List.map_cons]

/-! ## Contained texts -/

structure Contained (mark : Char) (text : List Char) : Prop where
  /-- No mark ends the literal early. -/
  unclosed : some mark ∉ bareChars text
  /-- The mark at the end is not escaped. -/
  finished : some '\\' ∉ bareChars text
  oneLine : '\n' ∉ text ∧ '\r' ∉ text

namespace Contained

variable {mark : Char}

theorem nil : Contained mark [] where
  unclosed := List.not_mem_nil
  finished := List.not_mem_nil
  oneLine := ⟨List.not_mem_nil, List.not_mem_nil⟩

theorem append {a b : List Char} (ha : Contained mark a) (hb : Contained mark b) :
    Contained mark (a ++ b) where
  unclosed := by
    rw [bareChars_append ha.finished, List.mem_append, not_or]
    exact ⟨ha.unclosed, hb.unclosed⟩
  finished := by
    rw [bareChars_append ha.finished, List.mem_append, not_or]
    exact ⟨ha.finished, hb.finished⟩
  oneLine := by
    rw [List.mem_append, not_or, List.mem_append, not_or]
    exact ⟨⟨ha.oneLine.1, hb.oneLine.1⟩, ha.oneLine.2, hb.oneLine.2⟩

theorem flatMap {α : Type} {write : α → List Char} {items : List α}
    (h : ∀ a ∈ items, Contained mark (write a)) : Contained mark (items.flatMap write) := by
  induction items with
  | nil => exact nil
  | cons a items ih =>
    rw [List.forall_mem_cons] at h
    rw [List.flatMap_cons]
    exact h.1.append (ih h.2)

theorem plain {text : List Char}
    (h : ∀ c ∈ text, c ≠ mark ∧ c ≠ '\\' ∧ c ≠ '\n' ∧ c ≠ '\r') : Contained mark text := by
  have hbare : bareChars text = text.map some :=
    bareChars_eq_map fun hmem ↦ (h _ hmem).2.1 rfl
  refine ⟨?_, ?_, fun hmem ↦ (h _ hmem).2.2.1 rfl, fun hmem ↦ (h _ hmem).2.2.2 rfl⟩
  · rw [hbare]
    simpa using fun hmem ↦ (h _ hmem).1 rfl
  · rw [hbare]
    simpa using fun hmem ↦ (h _ hmem).2.1 rfl

/-- An escape: any character after the backslash, and then characters without a meaning of their
own. -/
theorem escape {c : Char} {tail : List Char} (hc : c ≠ '\n' ∧ c ≠ '\r')
    (htail : ∀ d ∈ tail, d ≠ mark ∧ d ≠ '\\' ∧ d ≠ '\n' ∧ d ≠ '\r') :
    Contained mark ('\\' :: c :: tail) := by
  have htail := plain htail
  have hbare : bareChars ('\\' :: c :: tail) = none :: bareChars tail := by rw [bareChars]
  refine ⟨?_, ?_, ?_, ?_⟩
  · rw [hbare]
    simpa using htail.unclosed
  · rw [hbare]
    simpa using htail.finished
  · simpa [Ne.symm hc.1] using htail.oneLine.1
  · simpa [Ne.symm hc.2] using htail.oneLine.2

theorem head_ne {text : List Char} (h : Contained mark text) (hmark : mark ≠ '\\') :
    text.head? ≠ some mark := by
  cases text with
  | nil => simp
  | cons c text =>
    rintro hc
    obtain rfl : c = mark := Option.some.inj hc
    exact h.unclosed (by rw [bareChars_of_ne hmark]; exact List.mem_cons_self)

end Contained

/-! ## Hexadecimal digits -/

theorem hexValue?_hexDigit {n : Nat} (h : n < 16) : hexValue? (hexDigit n) = some n := by
  revert n
  decide

theorem length_hexPadded (w n : Nat) : (hexPadded w n).length = w := by
  induction w generalizing n with
  | zero => rfl
  | succ w ih => rw [hexPadded, List.length_append, ih, List.length_singleton]

theorem exists_of_mem_hexPadded {w n : Nat} {c : Char} (h : c ∈ hexPadded w n) :
    ∃ k < 16, c = hexDigit k := by
  induction w generalizing n with
  | zero => cases h
  | succ w ih =>
    rw [hexPadded, List.mem_append, List.mem_singleton] at h
    exact h.elim ih fun hc ↦ ⟨n % 16, Nat.mod_lt n (by decide), hc⟩

theorem hexPadded_harmless {w n : Nat} {mark : Char} (hmark : mark = '"' ∨ mark = '\'') :
    ∀ c ∈ hexPadded w n, c ≠ mark ∧ c ≠ '\\' ∧ c ≠ '\n' ∧ c ≠ '\r' := by
  intro c hc
  obtain ⟨k, hk, rfl⟩ := exists_of_mem_hexPadded hc
  have hall : ∀ k < 16, hexDigit k ≠ '"' ∧ hexDigit k ≠ '\'' ∧ hexDigit k ≠ '\\' ∧
      hexDigit k ≠ '\n' ∧ hexDigit k ≠ '\r' := by
    decide
  obtain ⟨hdouble, hsingle, hrest⟩ := hall k hk
  rcases hmark with rfl | rfl
  · exact ⟨hdouble, hrest⟩
  · exact ⟨hsingle, hrest⟩

theorem readHex?_concat (digits : List Char) (d : Char) :
    readHex? (digits ++ [d]) = (readHex? digits).bind fun n ↦ (hexValue? d).map (16 * n + ·) := by
  rw [readHex?, List.foldlM_append, ← readHex?]
  simp

/-- Digits are read back as the number that they were written for. -/
theorem readHex?_hexPadded {w n : Nat} (h : n < 16 ^ w) : readHex? (hexPadded w n) = some n := by
  induction w generalizing n with
  | zero =>
    obtain rfl : n = 0 := by simpa using h
    rfl
  | succ w ih =>
    rw [hexPadded, readHex?_concat, ih (by omega), hexValue?_hexDigit (Nat.mod_lt n (by decide))]
    simp only [Option.bind_some, Option.map_some, Option.some.injEq]
    omega

end TextProtocol.Text
