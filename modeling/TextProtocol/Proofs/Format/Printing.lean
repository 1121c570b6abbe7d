import TextProtocol.Proofs.Format.Grammar

/-!
# Printing formats

Every row of items can be written down as a format, if its literals are not empty, no two of them
stand side by side and its names are names: `tokenize_print`. Braces and backslashes of literal text
are written behind a backslash. The tokenizer takes such a pair for one character, and so does
`unescape`, since no escape of more than two characters begins with a brace or a backslash.
-/

namespace TextProtocol.Format

/-! ## Escaping -/

/-- A character as literal text writes it. -/
def escapeChar (c : Char) : List Char :=
  if c = '\x7b' ∨ c = '\x7d' ∨ c = '\\' then ['\\', c] else [c]

/-- A character of literal text as it is written. -/
theorem exists_glyph (c : Char) : ∃ g : Glyph, g.source = escapeChar c := by
  by_cases hc : c = '\x7b' ∨ c = '\x7d' ∨ c = '\\'
  · exact ⟨.escape c, by rw [escapeChar, if_pos hc, Glyph.source]⟩
  · rw [not_or, not_or] at hc
    exact ⟨.plain c hc, by rw [escapeChar, if_neg (by simp [hc]), Glyph.source]⟩

theorem exists_glyphs_of_chars (cs : List Char) :
    ∃ run : List Glyph, run.flatMap Glyph.source = cs.flatMap escapeChar ∧
      run.length = cs.length := by
  induction cs with
  | nil => exact ⟨[], rfl, rfl⟩
  | cons c cs ih =>
    obtain ⟨g, hg⟩ := exists_glyph c
    obtain ⟨run, hrun, hlength⟩ := ih
    exact ⟨g :: run, by rw [List.flatMap_cons, List.flatMap_cons, hg, hrun],
      by rw [List.length_cons, List.length_cons, hlength]⟩

theorem unescapeChars_of_ne {c : Char} (hc : c ≠ '\\') (rest : List Char) :
    unescapeChars (c :: rest) = c :: unescapeChars rest := by
  rw [unescapeChars]
  · exact fun _ _ _ heq _ ↦ hc heq
  · exact fun _ _ heq _ ↦ hc heq

theorem unescapeChars_escape {c d : Char} (h : escapeChar? c = some d) (hx : c ≠ 'x')
    (rest : List Char) : unescapeChars ('\\' :: c :: rest) = d :: unescapeChars rest := by
  rw [unescapeChars]
  · rw [h]
  · exact fun _ _ _ heq _ ↦ hx heq

/-- Resolving escapes undoes escaping. -/
theorem unescapeChars_flatMap_escapeChar (cs : List Char) :
    unescapeChars (cs.flatMap escapeChar) = cs := by
  induction cs with
  | nil => rfl
  | cons c cs ih =>
    rw [List.flatMap_cons, escapeChar]
    split
    · rename_i hc
      have hself : escapeChar? c = some c := by rcases hc with rfl | rfl | rfl <;> rfl
      have hx : c ≠ 'x' := by rcases hc with rfl | rfl | rfl <;> decide
      rw [List.cons_append, List.singleton_append, unescapeChars_escape hself hx, ih]
    · rename_i hc
      rw [not_or, not_or] at hc
      rw [List.singleton_append, unescapeChars_of_ne hc.2.2, ih]

/-! ## Printing -/

namespace Item

def print : Item → List Char
  | .literal text => text.toList.flatMap escapeChar
  | .placeholder name _ => '\x7b' :: (name.toList ++ ['\x7d'])

def unplaced : Item → Item
  | .literal text => .literal text
  | .placeholder name _ => .placeholder name 0

def Writable : Item → Prop
  | .literal text => text ≠ ""
  | .placeholder name _ => IsName name.toList

theorem exists_part {a : Item} (h : a.Writable) :
    ∃ p : Part, p.source = a.print ∧ p.isText = a.isLiteral ∧
      ∀ column, (p.item column).unplaced = a.unplaced := by
  cases a with
  | literal text =>
    obtain ⟨run, hsource, hlength⟩ := exists_glyphs_of_chars text.toList
    have written : run ≠ [] := by
      rw [← List.length_pos_iff, hlength, List.length_pos_iff]
      exact fun hnil ↦ h (String.toList_inj.mp hnil)
    refine ⟨.text run written, hsource, rfl, fun column ↦ ?_⟩
    rw [Part.item, hsource, unescape, String.toList_ofList, unescapeChars_flatMap_escapeChar,
      String.ofList_toList]
  | placeholder name column =>
    refine ⟨.slot ⟨[], name.toList, [], by simp, h, by simp⟩, rfl, rfl, fun column ↦ ?_⟩
    rw [Part.item, String.ofList_toList]
    rfl

theorem exists_parts {items : List Item} (h : ∀ a ∈ items, a.Writable) :
    ∃ parts : List Part, parts.flatMap Part.source = items.flatMap print ∧
      parts.map Part.isText = items.map isLiteral ∧
      ∀ column, (Part.items column parts).map unplaced = items.map unplaced := by
  induction items with
  | nil => exact ⟨[], rfl, rfl, fun _ ↦ rfl⟩
  | cons a items ih =>
    rw [List.forall_mem_cons] at h
    obtain ⟨p, hsource, htext, hitem⟩ := exists_part h.1
    obtain ⟨parts, hsources, htexts, hitems⟩ := ih h.2
    refine ⟨p :: parts, ?_, ?_, fun column ↦ ?_⟩
    · rw [List.flatMap_cons, List.flatMap_cons, hsource, hsources]
    · rw [List.map_cons, List.map_cons, htext, htexts]
    · rw [Part.items, List.map_cons, List.map_cons, hitem, hitems]

end Item

/-- Every row of writable items without literals side by side is what some format means, and
printing gives such a format. -/
theorem tokenize_print {items : List Item} (hwritable : ∀ a ∈ items, a.Writable)
    (hapart : items.IsChain fun a b ↦ ¬(a.isLiteral = true ∧ b.isLiteral = true)) :
    ∃ read, tokenize (String.ofList (items.flatMap Item.print)) = .ok read ∧
      read.map Item.unplaced = items.map Item.unplaced := by
  obtain ⟨parts, hsource, htexts, hitems⟩ := Item.exists_parts hwritable
  have hmaximal : Part.Maximal parts := (Part.maximal_iff htexts).mpr hapart
  refine ⟨Part.items 1 parts, ?_, hitems 1⟩
  rw [tokenize, String.toList_ofList, ← hsource, tokenizeFrom_parts 1 hmaximal]

/-- Literals that spell an escape and end in a backslash, around a placeholder. -/
def escapesAround : List Item :=
  [.literal "\\x41\x7b", .placeholder "item-type" 0, .literal "\x7d\\"]

theorem tokenize_print_escapes :
    (∀ a ∈ escapesAround, a.Writable) ∧
      String.ofList (escapesAround.flatMap Item.print) =
        "\\\\x41\\\x7b\x7bitem-type\x7d\\\x7d\\\\" ∧
      ∃ read, tokenize "\\\\x41\\\x7b\x7bitem-type\x7d\\\x7d\\\\" = .ok read ∧
        read.map Item.unplaced = escapesAround := by
  have hwritable : ∀ a ∈ escapesAround, a.Writable := by
    simp [escapesAround, Item.Writable, IsName]
  have hprint : String.ofList (escapesAround.flatMap Item.print) =
      "\\\\x41\\\x7b\x7bitem-type\x7d\\\x7d\\\\" := by
    decide
  have hread := tokenize_print hwritable (by simp [escapesAround, Item.isLiteral])
  rw [hprint] at hread
  exact ⟨hwritable, hprint, hread⟩

end TextProtocol.Format
