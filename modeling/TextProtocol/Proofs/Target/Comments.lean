import Mathlib.Data.List.Infix
import TextProtocol.Proofs.Script.Literals
import TextProtocol.Target.Parser.Python

/-!
# Comments and docstrings

A description becomes a comment in three steps: its words are put on one line, three quotation marks
become three apostrophes, and the sign that ends a comment is pulled apart. What a replacement takes
out does not come back by itself, `Text.not_infix_replaceAfter`, nor by the replacement after it.

In Python the comment stands between three quotation marks at each end. The steps take care of what
is inside, and not of the end of the comment or of backslashes; `isLiteralLine_commentText_iff` says
which comments make up a literal all the same.
-/

namespace TextProtocol.Text

/-! ## Replacing text -/

section Replacing

variable {old new pat text : List Char} {a : Char} {skip : Nat}

theorem mem_replaceAfter {c : Char} (h : c ∈ replaceAfter old new skip text) :
    c ∈ new ∨ c ∈ text := by
  fun_induction replaceAfter old new skip text with
  | case1 => cases h
  | case2 skip d rest ih => exact (ih h).imp_right (List.mem_cons_of_mem d)
  | case3 d rest hold ih =>
    rcases List.mem_append.mp h with hnew | hrest
    · exact .inl hnew
    · exact (ih hrest).imp_right (List.mem_cons_of_mem d)
  | case4 d rest hold ih =>
    rcases List.mem_cons.mp h with rfl | hrest
    · exact .inr List.mem_cons_self
    · exact (ih hrest).imp_right (List.mem_cons_of_mem d)

/-- A text without the first character of a replacement is where it was before. -/
theorem prefix_of_prefix_replaceAfter (ha : a ∉ pat)
    (h : pat <+: replaceAfter old (a :: new) 0 text) : pat <+: text := by
  induction pat generalizing text with
  | nil => exact List.nil_prefix
  | cons b pat ih =>
    rw [List.mem_cons, not_or] at ha
    cases text with
    | nil => simp [replaceAfter] at h
    | cons c rest =>
      rw [replaceAfter] at h
      split at h
      · exact absurd (List.cons_prefix_cons.mp h).1.symm ha.1
      · obtain ⟨rfl, hrest⟩ := List.cons_prefix_cons.mp h
        exact List.cons_prefix_cons.mpr ⟨rfl, ih ha.2 hrest⟩

/-- A text begins in the front part of another or stands in the rest of it. -/
theorem not_infix_append {front rest : List Char} (hrest : ¬pat <:+: rest)
    (hfront : ∀ s, s ≠ [] → s <:+ front → ¬pat <+: s ++ rest) : ¬pat <:+: front ++ rest := by
  induction front with
  | nil => exact hrest
  | cons c front ih =>
    rw [List.cons_append, List.infix_cons_iff, not_or]
    exact ⟨hfront _ (List.cons_ne_nil c front) (List.suffix_refl _),
      ih fun s hne hs ↦ hfront s hne (hs.trans (List.suffix_cons c front))⟩

/-- A replaced text comes to hold `pat` neither inside a replacement nor on its borders. -/
theorem not_infix_replaceAfter {b : Char} (ha : a ∉ pat)
    (hinside : ∀ s, s ≠ [] → s <:+ a :: new → ∀ rest, ¬b :: pat <+: s ++ rest)
    (hcopied : ∀ s, s <:+ text → ¬old <+: s → ¬b :: pat <+: s) :
    ¬b :: pat <:+: replaceAfter old (a :: new) skip text := by
  fun_induction replaceAfter old (a :: new) skip text with
  | case1 => simp
  | case2 skip d rest ih => exact ih fun s hs ↦ hcopied s (hs.trans (List.suffix_cons d rest))
  | case3 d rest hold ih =>
    have hrest := ih fun s hs ↦ hcopied s (hs.trans (List.suffix_cons d rest))
    exact not_infix_append hrest fun s hne hs ↦ hinside s hne hs _
  | case4 d rest hold ih =>
    have hrest := ih fun s hs ↦ hcopied s (hs.trans (List.suffix_cons d rest))
    rw [List.infix_cons_iff, not_or]
    refine ⟨fun hstart ↦ ?_, hrest⟩
    obtain ⟨rfl, hpat⟩ := List.cons_prefix_cons.mp hstart
    refine hcopied (b :: rest) (List.suffix_refl _) (by simpa using hold) ?_
    exact List.cons_prefix_cons.mpr ⟨rfl, prefix_of_prefix_replaceAfter ha hpat⟩

theorem not_prefix_of_notMem {b : Char} (hb : b ∉ new) :
    ∀ s, s ≠ [] → s <:+ new → ∀ rest, ¬b :: pat <+: s ++ rest := by
  intro s hne hs rest hstart
  obtain ⟨c, s, rfl⟩ := List.exists_cons_of_ne_nil hne
  obtain ⟨rfl, -⟩ := List.cons_prefix_cons.mp hstart
  exact hb (hs.subset List.mem_cons_self)

end Replacing

/-! ## Lines of words -/

theorem not_isBlank_of_mem_wordsFrom {run text word : List Char} {c : Char}
    (hrun : ∀ c ∈ run, isBlank c = false) (hword : word ∈ wordsFrom run text) (hc : c ∈ word) :
    isBlank c = false := by
  fun_induction wordsFrom run text with
  | case1 run hempty => cases hword
  | case2 run hempty =>
    obtain rfl := List.mem_singleton.mp hword
    exact hrun c (List.mem_reverse.mp hc)
  | case3 run d text hblank hempty ih => exact ih (by simp) hword
  | case4 run d text hblank hempty ih =>
    rcases List.mem_cons.mp hword with rfl | hword
    · exact hrun c (List.mem_reverse.mp hc)
    · exact ih (by simp) hword
  | case5 run d text hblank ih => exact ih (by simpa using ⟨by simpa using hblank, hrun⟩) hword

theorem eq_or_mem_of_mem_intersperse {α : Type} {sep a : α} {items : List α}
    (h : a ∈ items.intersperse sep) : a = sep ∨ a ∈ items := by
  fun_induction List.intersperse sep items with
  | case1 => cases h
  | case2 b => exact .inr h
  | case3 b items hne ih => grind

/-- The characters that end a line, for one reader of text or another. -/
def lineBreaks : List Char :=
  ['\n', '\r', '\x0b', '\x0c', '\x1c', '\x1d', '\x1e', '\u0085', '\u2028', '\u2029']

end TextProtocol.Text

namespace TextProtocol.Target

open Script (tripled Closes Complete)

/-! ## Comments -/

theorem toList_commentText (d : String) :
    (commentText d).toList = Text.replaceAfter ['*', '/'] ['*', ' ', '/'] 0
      (Text.replaceAfter (tripled '"') (tripled '\'') 0
        ((Text.words d.toList).intersperse [' ']).flatten) := by
  rw [commentText, String.toList_ofList]
  rfl

theorem not_isBlank_of_mem_commentText {d : String} {c : Char}
    (hc : c ∈ (commentText d).toList) (hspace : c ≠ ' ') : Text.isBlank c = false := by
  have hall : (['*', ' ', '/'] ++ tripled '\'').all (fun c ↦ c == ' ' || !Text.isBlank c) =
      true := by
    decide
  have hsigns {c : Char} (hc : c ∈ ['*', ' ', '/'] ++ tripled '\'') (hspace : c ≠ ' ') :
      Text.isBlank c = false := by
    simpa [hspace] using List.all_eq_true.mp hall c hc
  rw [toList_commentText] at hc
  rcases Text.mem_replaceAfter hc with hc | hc
  · exact hsigns (List.mem_append_left _ hc) hspace
  rcases Text.mem_replaceAfter hc with hc | hc
  · exact hsigns (List.mem_append_right _ hc) hspace
  obtain ⟨word, hword, hc⟩ := List.mem_flatten.mp hc
  rcases Text.eq_or_mem_of_mem_intersperse hword with rfl | hword
  · exact absurd (List.mem_singleton.mp hc) hspace
  · exact Text.not_isBlank_of_mem_wordsFrom (by simp) hword hc

theorem not_infix_commentText (d : String) : ¬['*', '/'] <:+: (commentText d).toList := by
  rw [toList_commentText]
  refine Text.not_infix_replaceAfter (by decide) (fun s hne hs rest ↦ ?_) fun s _ hnot ↦ hnot
  -- No end of `* /` can begin the sign, whatever comes after it.
  simp only [List.suffix_cons_iff, List.suffix_nil] at hs
  rcases hs with rfl | rfl | rfl | rfl <;> simp at *

/-- Comments do not hold three quotation marks in a row. -/
theorem not_tripled_infix_commentText (d : String) : ¬tripled '"' <:+: (commentText d).toList := by
  have hfirst : ∀ text, ¬tripled '"' <:+: Text.replaceAfter (tripled '"') (tripled '\'') 0 text :=
    fun text ↦ Text.not_infix_replaceAfter (by decide) (Text.not_prefix_of_notMem (by decide))
      fun s _ hnot ↦ hnot
  -- The last step writes no mark, so three of them would have been there before it.
  rw [toList_commentText]
  exact Text.not_infix_replaceAfter (by decide) (Text.not_prefix_of_notMem (by decide))
    fun s hs _ hstart ↦ hfirst _ (hstart.isInfix.trans hs.isInfix)

/-! ## Docstrings -/

theorem toList_docLine (doc : String) :
    (fill [("doc", doc)] r#"    """⟨doc⟩""""#).toList =
      "    ".toList ++ (tripled '"' ++ (doc.toList ++ tripled '"')) := by
  rw [fill, String.toList_ofList]
  simp [fillChars, tripled]

/-- Comments stay on their line and do not hold the sign that ends a comment. As the docstring of a
class they are one string literal, if they hold no zero character, do not end in a quotation mark
or in half an escape, and no escape in them lacks its digits or its name. -/
theorem isLiteralLine_commentText_iff (d : String) (more : List Char) :
    (∀ c ∈ Text.lineBreaks, c ∉ (commentText d).toList) ∧
      ¬"*/".toList <:+: (commentText d).toList ∧
      (Script.IsLiteralLine (fill [("doc", commentText d)] r#"    """⟨doc⟩""""#).toList
          (commentText d).toList more ↔
        '\x00' ∉ (commentText d).toList ∧ Closes '"' (commentText d).toList ∧
          Complete (commentText d).toList) := by
  refine ⟨fun c hc hmem ↦ ?_, not_infix_commentText d, ?_⟩
  · have hall : Text.lineBreaks.all (fun c ↦ c != ' ' && Text.isBlank c) = true := by decide
    obtain ⟨hspace, hblank⟩ : c ≠ ' ' ∧ Text.isBlank c = true := by
      simpa using List.all_eq_true.mp hall c hc
    rw [not_isBlank_of_mem_commentText hmem hspace] at hblank
    cases hblank
  · have hlone := Script.readLine_docstring_iff (not_tripled_infix_commentText d) more
    have hmeaning : (Script.Quote.mk [] (commentText d).toList).written?.isSome = true ↔
        Complete (commentText d).toList := by
      rw [← Script.isSome_unescape_iff]
      simp [Script.Quote.written?]
    rw [toList_docLine]
    constructor
    · rintro ⟨hallowed, hread, hmeaningful⟩
      exact ⟨by simp_all, hlone.mp hread, hmeaning.mp hmeaningful⟩
    · rintro ⟨hallowed, hcloses, hcomplete⟩
      exact ⟨by simp_all [tripled], hlone.mpr hcloses, hmeaning.mpr hcomplete⟩

/-- A description that ends in a quotation mark breaks the literal. -/
theorem commentText_breaks_literal :
    Script.readLine ((fill [("doc", commentText "say \"hi\"")]
      r#"    """⟨doc⟩""""#).toList ++ ['\n']) = none := by
  decide

end TextProtocol.Target
