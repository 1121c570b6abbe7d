import TextProtocol.Proofs.Format.Grammar

/-!
# Where a text stops being a format

A text that is no format goes on like one for a while. `Begins` says of a text that it is how some
format begins. There are three ways to fail, `Fails`: the text ends within a placeholder, it ends
with a backslash outside of placeholders, or there is a first character with which no format can go
on. The tokenizer tells the three apart, and what it reports in the last case is the column of that
character, `tokenize_eq_error`.

What was read completely can be left out of account, `begins_append_iff`: pieces of a format end by
themselves, whatever comes after them.
-/

namespace TextProtocol.Format

/-! ## Beginnings of formats -/

/-- Whether a text consists of pieces. -/
def IsFormat (cs : List Char) : Prop :=
  ∃ pieces : List Piece, pieces.flatMap Piece.source = cs

def Begins (cs : List Char) : Prop :=
  ∃ more, IsFormat (cs ++ more)

/-- Whether a text ends within a placeholder: after a format a brace has been opened and not been
closed. -/
def EndsInside (cs : List Char) : Prop :=
  ∃ before inside, cs = before ++ '\x7b' :: inside ∧ IsFormat before ∧ '\x7d' ∉ inside

/-- Whether `c` is the first character with which a text cannot go on to be a format, after
`before`. -/
def IsFirstImpossible (cs before : List Char) (c : Char) : Prop :=
  before ++ [c] <+: cs ∧ Begins before ∧ ¬Begins (before ++ [c])

/-- The column of what comes after a text: one more than there are characters since the last line
break. -/
def columnAfter (before : List Char) : Nat :=
  (before.reverse.takeWhile (· != '\n')).length + 1

theorem foldl_advance_eq_columnAfter (before : List Char) :
    before.foldl advance 1 = columnAfter before := by
  induction before using List.reverseRecOn with
  | nil => rfl
  | append_singleton before c ih =>
    have hlast : columnAfter (before ++ [c]) = if c = '\n' then 1 else columnAfter before + 1 := by
      by_cases hc : c = '\n' <;> simp [columnAfter, hc]
    rw [List.foldl_append, ih, List.foldl_cons, List.foldl_nil, hlast]
    simp [advance]

theorem isFormat_nil : IsFormat [] :=
  ⟨[], rfl⟩

theorem IsFormat.append {cs ds : List Char} (hcs : IsFormat cs) (hds : IsFormat ds) :
    IsFormat (cs ++ ds) := by
  obtain ⟨pieces, rfl⟩ := hcs
  obtain ⟨more, rfl⟩ := hds
  exact ⟨pieces ++ more, List.flatMap_append⟩

theorem IsFormat.begins {cs : List Char} (h : IsFormat cs) : Begins cs :=
  ⟨[], by rwa [List.append_nil]⟩

theorem Begins.of_append {cs more : List Char} (h : Begins (cs ++ more)) : Begins cs := by
  obtain ⟨later, h⟩ := h
  exact ⟨more ++ later, by rwa [← List.append_assoc]⟩

theorem Piece.source_inj {p q : Piece} {rest rest' : List Char}
    (h : p.source ++ rest = q.source ++ rest') : p = q ∧ rest = rest' := by
  cases p with
  | glyph g =>
    cases q with
    | glyph g' =>
      obtain ⟨rfl, hrest⟩ := Glyph.source_inj h
      exact ⟨rfl, hrest⟩
    | slot s => exact absurd h Glyph.source_ne_slot
  | slot s =>
    cases q with
    | glyph g' => exact absurd h.symm Glyph.source_ne_slot
    | slot s' =>
      obtain ⟨rfl, hrest⟩ := Slot.source_inj h
      exact ⟨rfl, hrest⟩

theorem Piece.source_ne_nil (p : Piece) : p.source ≠ [] := by
  cases p with
  | glyph g => cases g <;> exact List.cons_ne_nil _ _
  | slot s => exact List.cons_ne_nil _ _

/-- What comes after a format decides whether the whole is one. -/
theorem isFormat_append_iff {before : List Char} (h : IsFormat before) {rest : List Char} :
    IsFormat (before ++ rest) ↔ IsFormat rest := by
  refine ⟨fun hall ↦ ?_, h.append⟩
  obtain ⟨pieces, rfl⟩ := h
  obtain ⟨all, hall⟩ := hall
  induction pieces generalizing all with
  | nil => exact ⟨all, hall⟩
  | cons p pieces ih =>
    rw [List.flatMap_cons, List.append_assoc] at hall
    cases all with
    | nil => exact absurd (List.append_eq_nil_iff.mp hall.symm).1 p.source_ne_nil
    | cons q all =>
      rw [List.flatMap_cons] at hall
      exact ih all (Piece.source_inj hall).2

theorem begins_append_iff {before : List Char} (h : IsFormat before) {rest : List Char} :
    Begins (before ++ rest) ↔ Begins rest := by
  simp only [Begins, List.append_assoc, isFormat_append_iff h]

theorem exists_piece_of_isFormat {c : Char} {cs : List Char} (h : IsFormat (c :: cs)) :
    ∃ (p : Piece) (rest : List Char), p.source ++ rest = c :: cs := by
  obtain ⟨pieces, hpieces⟩ := h
  cases pieces with
  | nil => cases hpieces
  | cons p pieces => exact ⟨p, _, hpieces⟩

/-- A format that begins with a brace begins with a placeholder. -/
theorem exists_slot_of_isFormat {cs : List Char} (h : IsFormat ('\x7b' :: cs)) :
    ∃ (s : Slot) (rest : List Char), s.source ++ rest = '\x7b' :: cs := by
  obtain ⟨p, rest, hp⟩ := exists_piece_of_isFormat h
  cases p with
  | slot s => exact ⟨s, rest, hp⟩
  | glyph g =>
    cases g with
    | plain c hc => exact absurd (List.cons.inj hp).1 hc.1
    | escape c => exact absurd (List.cons.inj hp).1 (by decide)

theorem not_begins_brace : ¬Begins ['\x7d'] := by
  rintro ⟨more, h⟩
  obtain ⟨p, rest, hp⟩ := exists_piece_of_isFormat h
  cases p with
  | slot s => exact absurd (List.cons.inj hp).1 (by decide)
  | glyph g =>
    cases g with
    | plain c hc => exact absurd (List.cons.inj hp).1 hc.2.1
    | escape c => exact absurd (List.cons.inj hp).1 (by decide)

/-- A text that ends within a placeholder is no format before the brace is closed. -/
theorem EndsInside.not_isFormat_append {cs : List Char} (h : EndsInside cs) {more : List Char}
    (hmore : '\x7d' ∉ more) : ¬IsFormat (cs ++ more) := by
  obtain ⟨before, inside, rfl, hbefore, hopen⟩ := h
  rw [List.append_assoc, isFormat_append_iff hbefore, List.cons_append]
  intro hformat
  obtain ⟨s, rest, heq⟩ := exists_slot_of_isFormat hformat
  have hmem : '\x7d' ∈ '\x7b' :: (inside ++ more) := by
    rw [← heq]
    simp [Slot.source]
  simp [hopen, hmore] at hmem

/-! ## Unfinished placeholders -/

/-- What may stand in a placeholder that is not closed: blanks, or a name between blanks. -/
inductive Unclosed : List Char → Prop
  | gap {left : List Char} : (∀ c ∈ left, isGap c = true) → Unclosed left
  | name {left name right : List Char} : (∀ c ∈ left, isGap c = true) → IsName name →
      (∀ c ∈ right, isGap c = true) → Unclosed (left ++ (name ++ right))

theorem Unclosed.exists_slot {cs : List Char} (h : Unclosed cs) :
    ∃ (s : Slot) (more : List Char), more ≠ [] ∧ s.source = '\x7b' :: cs ++ more := by
  have hblank {cs : List Char} (h : ∀ c ∈ cs, isGap c = true) : ∀ c ∈ cs, c = ' ' ∨ c = '\t' :=
    fun c hc ↦ isGap_eq_true_iff.mp (h c hc)
  cases h with
  | gap hleft =>
    exact ⟨⟨cs, ['_'], [], hblank hleft, ⟨.inr rfl, by simp⟩, by simp⟩, ['_', '\x7d'], by simp,
      by simp [Slot.source]⟩
  | @name left name right hleft hname hright =>
    exact ⟨⟨left, name, right, hblank hleft, hname, hblank hright⟩, ['\x7d'], by simp,
      by simp [Slot.source]⟩

theorem Unclosed.isGap_or_isNameChar {cs : List Char} (h : Unclosed cs) :
    ∀ c ∈ cs, isGap c = true ∨ isNameChar c = true := by
  cases h with
  | gap hleft => exact fun c hc ↦ .inl (hleft c hc)
  | @name left name right hleft hname hright =>
    intro c hc
    simp only [List.mem_append] at hc
    rcases hc with hc | hc | hc
    · exact .inl (hleft c hc)
    · cases name with
      | nil => cases hc
      | cons d ds =>
        rw [isName_cons_iff] at hname
        rcases List.mem_cons.mp hc with rfl | hc
        · exact .inr (isNameChar_of_isNameStart hname.1)
        · exact .inr (hname.2 c hc)
    · exact .inl (hright c hc)

/-- Neither a brace nor a backslash nor a line break can stand in a placeholder. -/
theorem Unclosed.notMem {cs : List Char} (h : Unclosed cs) {c : Char} (hgap : isGap c = false)
    (hname : isNameChar c = false) : c ∉ cs := by
  intro hc
  rcases h.isGap_or_isNameChar c hc with h | h
  · rw [hgap] at h
    cases h
  · rw [hname] at h
    cases h

section Reading

variable {column : Nat} {name left right : List Char} {c : Char} {e : SyntaxError}

theorem readPlaceholder_gap (column : Nat) (hleft : ∀ c ∈ left, isGap c = true) :
    ∃ k, readPlaceholder column left = .error ⟨.unterminated, k⟩ := by
  have htake : left.takeWhile isGap = left := List.takeWhile_eq_self_iff.mpr hleft
  have hdrop : left.dropWhile isGap = [] := List.dropWhile_eq_nil_iff.mpr hleft
  exact ⟨_, by rw [readPlaceholder, htake, hdrop]; rfl⟩

/-- A character that does not begin a name is refused. -/
theorem readPlaceholder_cons (hleft : ∀ c ∈ left, isGap c = true) (hgap : isGap c = false)
    (hstart : isNameStart c = false) (rest : List Char) :
    readPlaceholder column (left ++ c :: rest) =
      .error (refuse true (c :: rest) (column + 1 + left.length)) := by
  have hhead : ∀ d ∈ (c :: rest).head?, isGap d = false := by simpa using hgap
  rw [readPlaceholder, takeWhile_span hleft hhead, dropWhile_span hleft hhead]
  simp only [hstart, Bool.false_eq_true, if_false]

theorem readPlaceholder_name (hleft : ∀ c ∈ left, isGap c = true) (hname : IsName name)
    {tail : List Char} (htail : ∀ c ∈ tail.head?, isNameChar c = false) :
    readPlaceholder column (left ++ (name ++ tail)) =
      closePlaceholder name (column + 1 + left.length) tail := by
  cases name with
  | nil => exact hname.elim
  | cons c more =>
    obtain ⟨hstart, hmore⟩ := isName_cons_iff.mp hname
    have hhead : ∀ d ∈ (c :: more ++ tail).head?, isGap d = false := by
      simpa using isGap_of_isNameChar (isNameChar_of_isNameStart hstart)
    rw [readPlaceholder, takeWhile_span hleft hhead, dropWhile_span hleft hhead, List.cons_append]
    dsimp only
    rw [if_pos hstart, takeWhile_span hmore htail, dropWhile_span hmore htail]

theorem closePlaceholder_gap (name : List Char) (nameColumn : Nat)
    (hright : ∀ c ∈ right, isGap c = true) :
    ∃ k, closePlaceholder name nameColumn right = .error ⟨.unterminated, k⟩ := by
  have htake : right.takeWhile isGap = right := List.takeWhile_eq_self_iff.mpr hright
  have hdrop : right.dropWhile isGap = [] := List.dropWhile_eq_nil_iff.mpr hright
  exact ⟨_, by rw [closePlaceholder, htake, hdrop]; rfl⟩

/-- Only a closing brace comes after a name and blanks. -/
theorem closePlaceholder_cons (name : List Char) (nameColumn : Nat)
    (hright : ∀ c ∈ right, isGap c = true) (hgap : isGap c = false) (rest : List Char) :
    closePlaceholder name nameColumn (right ++ c :: rest) =
      if c = '\x7d' then
        .ok ⟨name, nameColumn, rest, nameColumn + name.length + right.length + 1⟩
      else .error (refuse false (c :: rest) (nameColumn + name.length + right.length)) := by
  have hhead : ∀ d ∈ (c :: rest).head?, isGap d = false := by simpa using hgap
  rw [closePlaceholder, takeWhile_span hright hhead, dropWhile_span hright hhead]
  by_cases hc : c = '\x7d'
  · rw [if_pos hc, hc]
    rfl
  · rw [if_neg hc]
    split
    · rename_i heq
      cases heq
    · rename_i heq
      exact absurd (List.cons.inj heq).1 hc
    · rename_i heq
      cases heq
      rfl

/-- An error is put down to a character `c` before `after`, and not to the end of the text: the
escape is dangling if and only if `c` is a backslash with nothing after it. -/
structure Blames (e : SyntaxError) (c : Char) (after : List Char) : Prop where
  ne_unterminated : e.defect ≠ .unterminated
  danglingEscape_iff : e.defect = .danglingEscape ↔ c = '\\' ∧ after = []
  ne_invalidCharacter (d : Char) : e.defect ≠ .invalidCharacter d

theorem blames_refuse (nameExpected : Bool) (c : Char) (rest : List Char) (column : Nat) :
    Blames (refuse nameExpected (c :: rest) column) c rest := by
  rw [refuse, surprise.eq_def]
  split
  · rename_i h
    cases h
  · rename_i h
    obtain ⟨rfl, -⟩ := List.cons.inj h
    cases nameExpected <;> constructor <;> simp [Surprise.defect]
  · rename_i h
    obtain ⟨rfl, rfl⟩ := List.cons.inj h
    constructor <;> simp [Surprise.defect]
  · rename_i hescape h
    obtain ⟨rfl, rfl⟩ := List.cons.inj h
    exact ⟨by simp [Surprise.defect], by simpa [Surprise.defect] using hescape,
      by simp [Surprise.defect]⟩

/-- How reading a placeholder fails: the text ends in it, or has a character that cannot be there,
whatever comes after it. -/
def Breaks (column : Nat) (e : SyntaxError) (cs : List Char) : Prop :=
  Unclosed cs ∧ e.defect = .unterminated ∨
    ∃ seen c after, cs = seen ++ c :: after ∧ Unclosed seen ∧
      (∀ more, ∃ e', readPlaceholder column (seen ++ c :: more) = .error e') ∧
      e.column = column + 1 + seen.length ∧ Blames e c after

/-- Reading fails after a name that is not followed by blanks and a brace. -/
theorem breaks_of_name (hleft : ∀ c ∈ left, isGap c = true) (hname : IsName name)
    {tail : List Char} (htail : ∀ c ∈ tail.head?, isNameChar c = false)
    (h : readPlaceholder column (left ++ (name ++ tail)) = .error e) :
    Breaks column e (left ++ (name ++ tail)) := by
  rw [readPlaceholder_name hleft hname htail] at h
  obtain ⟨right, last, rfl, hright, hlast⟩ := exists_span isGap tail
  cases last with
  | nil =>
    obtain ⟨k, hk⟩ := closePlaceholder_gap name (column + 1 + left.length) hright
    rw [List.append_nil, hk] at h
    cases h
    refine .inl ⟨?_, rfl⟩
    rw [List.append_nil]
    exact .name hleft hname hright
  | cons d after =>
    have hclose := closePlaceholder_cons name (column + 1 + left.length) hright (hlast d rfl)
    rw [hclose] at h
    split at h
    · cases h
    · rename_i hbrace
      cases h
      -- The head of what comes after the name is the same, whatever comes after `d`.
      have hhead (later : List Char) :
          ∀ x ∈ (right ++ d :: later).head?, isNameChar x = false := by
        intro x hx
        refine htail x ?_
        rw [List.head?_append] at hx ⊢
        exact hx
      have hrefuse (later : List Char) :
          readPlaceholder column (left ++ (name ++ right) ++ d :: later) =
            .error (refuse false (d :: later)
              (column + 1 + left.length + name.length + right.length)) := by
        rw [List.append_assoc, List.append_assoc, readPlaceholder_name hleft hname (hhead later),
          hclose, if_neg hbrace]
      refine .inr ⟨left ++ (name ++ right), d, after, by simp, .name hleft hname hright,
        fun later ↦ ⟨_, hrefuse later⟩, ?_, blames_refuse ..⟩
      simp only [refuse, List.length_append]
      omega

theorem breaks_of_readPlaceholder {cs : List Char} (h : readPlaceholder column cs = .error e) :
    Breaks column e cs := by
  obtain ⟨left, rest, rfl, hleft, hrest⟩ := exists_span isGap cs
  cases rest with
  | nil =>
    obtain ⟨k, hk⟩ := readPlaceholder_gap column hleft
    rw [List.append_nil] at h ⊢
    rw [hk] at h
    cases h
    exact .inl ⟨.gap hleft, rfl⟩
  | cons c rest =>
    have hgap : isGap c = false := hrest c rfl
    cases hstart : isNameStart c with
    | false =>
      refine .inr ⟨left, c, rest, rfl, .gap hleft, fun more ↦
        ⟨_, readPlaceholder_cons hleft hgap hstart more⟩, ?_⟩
      rw [readPlaceholder_cons hleft hgap hstart rest, Except.error.injEq] at h
      subst h
      exact ⟨rfl, blames_refuse ..⟩
    | true =>
      obtain ⟨more, tail, rfl, hmore, htail⟩ := exists_span isNameChar rest
      exact breaks_of_name hleft (isName_cons_iff.mpr ⟨hstart, hmore⟩) htail h

end Reading

/-! ## Ways to fail -/

/-- How a text that begins at `column` fails to be a format, and what is reported. -/
inductive Fails (column : Nat) (e : SyntaxError) : List Char → Prop
  /-- It ends within a placeholder. -/
  | inside {before inside : List Char} : IsFormat before → Unclosed inside →
      e.defect = .unterminated → Fails column e (before ++ '\x7b' :: inside)
  /-- It ends with a backslash outside of placeholders. -/
  | dangling {before : List Char} : IsFormat before →
      e = ⟨.danglingEscape, before.foldl advance column⟩ → Fails column e (before ++ ['\\'])
  /-- No format goes on with the character `c`. -/
  | impossible {before : List Char} {c : Char} {after : List Char} : Begins before →
      ¬Begins (before ++ [c]) → e.column = before.foldl advance column → Blames e c after →
      Fails column e (before ++ c :: after)

theorem Fails.append {column : Nat} {e : SyntaxError} {front cs : List Char}
    (hfront : IsFormat front) (h : Fails (front.foldl advance column) e cs) :
    Fails column e (front ++ cs) := by
  cases h with
  | inside hbefore hinside hdefect =>
    rw [← List.append_assoc]
    exact .inside (hfront.append hbefore) hinside hdefect
  | dangling hbefore he =>
    rw [← List.append_assoc]
    exact .dangling (hfront.append hbefore) (by rw [he, List.foldl_append])
  | impossible hbefore hnext hcolumn hblames =>
    rw [← List.append_assoc]
    refine .impossible ((begins_append_iff hfront).mpr hbefore) ?_
      (by rw [hcolumn, List.foldl_append]) hblames
    rwa [List.append_assoc, begins_append_iff hfront]

/-- A placeholder that cannot be read ends too early or has a character that cannot be there. -/
theorem fails_of_readPlaceholder {column : Nat} {cs : List Char} {e : SyntaxError}
    (h : readPlaceholder column cs = .error e) : Fails column e ('\x7b' :: cs) := by
  rcases breaks_of_readPlaceholder h with ⟨hunclosed, hdefect⟩ |
    ⟨seen, c, after, rfl, hunclosed, hrefused, hcolumn, hblames⟩
  · exact .inside isFormat_nil hunclosed hdefect
  · refine @Fails.impossible column e ('\x7b' :: seen) c after ?_ ?_ ?_ hblames
    · obtain ⟨s, more, -, hs⟩ := hunclosed.exists_slot
      exact ⟨more, [.slot s], by rw [List.flatMap_singleton, ← hs]; rfl⟩
    · rintro ⟨more, hformat⟩
      rw [List.append_assoc, List.singleton_append, List.cons_append] at hformat
      obtain ⟨s, rest, hs⟩ := exists_slot_of_isFormat hformat
      obtain ⟨e', he'⟩ := hrefused more
      rw [s.source_append, List.cons_inj_right] at hs
      rw [← hs, readPlaceholder_slot] at he'
      cases he'
    · have hnewline : '\n' ∉ '\x7b' :: seen := by
        simpa using hunclosed.notMem (c := '\n') rfl rfl
      rw [hcolumn, foldl_advance hnewline, List.length_cons]
      omega

theorem fails_of_tokenizeFrom {column : Nat} {cs : List Char} {e : SyntaxError}
    (h : tokenizeFrom column cs = .error e) : Fails column e cs := by
  induction hlength : cs.length using Nat.strong_induction_on generalizing column cs with
  | h n ih =>
    -- The error comes from what is left after a first part `p`, which is not empty.
    have hlater {p : Part} {rest : List Char} (hcs : cs = p.source ++ rest)
        (htokenize : tokenizeFrom column cs =
          (tokenizeFrom (p.source.foldl advance column) rest).map (p.item column :: ·)) :
        Fails column e cs := by
      have hlt : rest.length < n := by
        rw [← hlength, hcs, List.length_append]
        exact Nat.lt_add_of_pos_left (List.length_pos_iff.mpr p.source_ne_nil)
      cases hread : tokenizeFrom (p.source.foldl advance column) rest with
      | ok later =>
        rw [htokenize, hread] at h
        cases h
      | error e' =>
        rw [htokenize, hread] at h
        cases h
        rw [hcs]
        exact (ih rest.length hlt hread rfl).append ⟨p.pieces, p.flatMap_source_pieces⟩
    obtain ⟨run, rest, hcs, hrest⟩ := exists_glyphs cs
    by_cases written : run = []
    · rw [written, List.flatMap_nil, List.nil_append] at hcs
      subst hcs
      rcases hrest.cases with rfl | ⟨more, rfl⟩ | ⟨more, rfl⟩ | rfl
      · rw [tokenizeFrom] at h
        cases h
      · rw [tokenizeFrom] at h
        split at h
        · rename_i e' hread
          cases h
          exact fails_of_readPlaceholder hread
        · rename_i p hread
          obtain ⟨s, hs⟩ := exists_slot_of_readPlaceholder hread
          have hsource : '\x7b' :: more = s.source ++ p.rest := by rw [s.source_append, ← hs]
          exact hlater (p := .slot s) hsource (hsource ▸ tokenizeFrom_slot column s p.rest)
      · rw [tokenizeFrom] at h
        cases h
        exact @Fails.impossible column _ [] _ more isFormat_nil.begins not_begins_brace rfl
          (blames_refuse ..)
      · rw [tokenizeFrom] at h
        cases h
        exact @Fails.dangling column _ [] isFormat_nil rfl
    · exact hlater (p := .text run written) hcs (hcs ▸ tokenizeFrom_text column written hrest)

/-! ## What is reported -/

theorem IsFirstImpossible.unique {cs before before' : List Char} {c c' : Char}
    (h : IsFirstImpossible cs before c) (h' : IsFirstImpossible cs before' c') :
    before' = before ∧ c' = c := by
  -- The text up to the earlier one would be part of what comes before the later one.
  have hnot {before before' : List Char} {c c' : Char} (h : IsFirstImpossible cs before c)
      (h' : IsFirstImpossible cs before' c') : ¬before.length < before'.length := by
    intro hlt
    obtain ⟨more, rfl⟩ := List.prefix_of_prefix_length_le h.1
      ((List.prefix_append before' [c']).trans h'.1)
      (by rw [List.length_append]; exact hlt)
    exact h.2.2 h'.2.1.of_append
  have hlength : (before' ++ [c']).length = (before ++ [c]).length := by
    have := hnot h h'
    have := hnot h' h
    simp only [List.length_append, List.length_singleton]
    omega
  have heq : before' ++ [c'] = before ++ [c] :=
    (List.prefix_of_prefix_length_le h'.1 h.1 hlength.le).eq_of_length hlength
  exact ⟨(List.append_inj' heq rfl).1, List.singleton_inj.mp (List.append_inj' heq rfl).2⟩

theorem begins_of_append_cons {before after : List Char} {c : Char}
    (h : Begins (before ++ c :: after)) : Begins (before ++ [c]) := by
  rw [← List.singleton_append, ← List.append_assoc] at h
  exact h.of_append

section Reports

variable {column : Nat} {e : SyntaxError} {cs : List Char}

/-- The end of the text is reported exactly if more text could make it a format and a placeholder
is open. -/
theorem Fails.unterminated_iff (h : Fails column e cs) :
    e.defect = .unterminated ↔ (∃ more, more ≠ [] ∧ IsFormat (cs ++ more)) ∧ EndsInside cs := by
  cases h with
  | @inside before inside hbefore hinside hdefect =>
    refine iff_of_true hdefect ⟨?_, before, inside, rfl, hbefore, hinside.notMem rfl rfl⟩
    obtain ⟨s, more, hmore, hs⟩ := hinside.exists_slot
    refine ⟨more, hmore, ?_⟩
    rw [List.append_assoc, isFormat_append_iff hbefore, ← hs]
    exact ⟨[.slot s], List.flatMap_singleton ..⟩
  | @dangling before hbefore he =>
    refine iff_of_false (by rw [he]; simp) ?_
    rintro ⟨-, hinside⟩
    -- With one more character the escape would be finished.
    have hclosed : '\x7d' ∉ ['n'] := by simp
    refine absurd ?_ (hinside.not_isFormat_append hclosed)
    rw [List.append_assoc]
    exact hbefore.append ⟨[.glyph (.escape 'n')], rfl⟩
  | @impossible before c after hbefore hnext hcolumn hblames =>
    refine iff_of_false hblames.ne_unterminated ?_
    rintro ⟨⟨more, -, hformat⟩, -⟩
    exact hnext (begins_of_append_cons ⟨more, hformat⟩)

/-- A dangling escape is reported exactly if the text goes on like a format up to a backslash at its
end. -/
theorem Fails.danglingEscape_iff (h : Fails column e cs) :
    e.defect = .danglingEscape ↔ ∃ before, cs = before ++ ['\\'] ∧ Begins before := by
  cases h with
  | @inside before inside hbefore hinside hdefect =>
    refine iff_of_false (by rw [hdefect]; simp) ?_
    rintro ⟨front, heq, -⟩
    have hlast := congrArg List.getLast? heq
    rw [List.getLast?_append_of_ne_nil _ (List.cons_ne_nil _ _), List.getLast?_concat] at hlast
    have hbackslash : '\\' ∉ '\x7b' :: inside := by
      simpa using hinside.notMem (c := '\\') rfl rfl
    exact hbackslash (List.mem_of_getLast? hlast)
  | @dangling before hbefore he =>
    exact iff_of_true (by rw [he]) ⟨before, rfl, hbefore.begins⟩
  | @impossible before c after hbefore hnext hcolumn hblames =>
    rw [hblames.danglingEscape_iff]
    constructor
    · rintro ⟨rfl, rfl⟩
      exact ⟨before, rfl, hbefore⟩
    · rintro ⟨front, heq, hfront⟩
      rcases List.eq_nil_or_concat after with rfl | ⟨later, last, rfl⟩
      · exact ⟨List.singleton_inj.mp (List.append_inj' heq rfl).2, rfl⟩
      · -- The impossible character would come before the backslash.
        rw [List.concat_eq_append, ← List.cons_append, ← List.append_assoc] at heq
        rw [← (List.append_inj' heq rfl).1] at hfront
        exact absurd (begins_of_append_cons hfront) hnext

/-- Whatever else is reported, it is at the first character that is impossible. -/
theorem Fails.exists_firstImpossible (h : Fails column e cs) (hdefect : e.defect ≠ .unterminated)
    (hescape : e.defect = .danglingEscape → EndsInside cs.dropLast) :
    ∃ before c, IsFirstImpossible cs before c ∧ e.column = before.foldl advance column := by
  cases h with
  | inside hbefore hinside hunterminated => exact absurd hunterminated hdefect
  | @dangling before hbefore he =>
    have hinside : EndsInside before := by
      rw [← @List.dropLast_concat _ before '\\']
      exact hescape (by rw [he])
    rw [← List.append_nil before] at hbefore
    exact absurd hbefore (hinside.not_isFormat_append List.not_mem_nil)
  | @impossible before c after hbefore hnext hcolumn hblames =>
    refine ⟨before, c, ⟨⟨after, ?_⟩, hbefore, hnext⟩, hcolumn⟩
    rw [List.append_assoc, List.singleton_append]

theorem Fails.ne_invalidCharacter (h : Fails column e cs) (c : Char) :
    e.defect ≠ .invalidCharacter c := by
  cases h with
  | inside _ _ hdefect => simp [hdefect]
  | dangling _ he => simp [he]
  | impossible _ _ _ hblames => exact hblames.ne_invalidCharacter c

end Reports

/-- There is no text with an invalid character: each begins a token, or is a backslash. -/
theorem tokenize_ne_invalidCharacter {format : String} {e : SyntaxError}
    (h : tokenize format = .error e) (c : Char) : e.defect ≠ .invalidCharacter c :=
  (fails_of_tokenizeFrom h).ne_invalidCharacter c

/-- The text is reported to end within a placeholder exactly if it does, and could still become a
format. An escape is reported to dangle exactly if the text goes on like a format up to a backslash
at its end. And apart from these two, what is reported is the column of the first character with
which no format can go on; this is so too for a backslash at the end of a placeholder. -/
theorem tokenize_eq_error {format : String} {e : SyntaxError} (h : tokenize format = .error e) :
    (e.defect = .unterminated ↔
      (∃ more, more ≠ [] ∧ IsFormat (format.toList ++ more)) ∧ EndsInside format.toList) ∧
    (e.defect = .danglingEscape ↔ ∃ before, format.toList = before ++ ['\\'] ∧ Begins before) ∧
    (e.defect ≠ .unterminated →
      (e.defect = .danglingEscape → EndsInside format.toList.dropLast) →
      ∃ before c, (∀ b d, IsFirstImpossible format.toList b d ↔ b = before ∧ d = c) ∧
        e.column = columnAfter before) := by
  have hfails : Fails 1 e format.toList := fails_of_tokenizeFrom h
  refine ⟨hfails.unterminated_iff, hfails.danglingEscape_iff, fun hdefect hescape ↦ ?_⟩
  obtain ⟨before, c, hfirst, hcolumn⟩ := hfails.exists_firstImpossible hdefect hescape
  refine ⟨before, c, fun b d ↦ ⟨fun h ↦ hfirst.unique h, ?_⟩, ?_⟩
  · rintro ⟨rfl, rfl⟩
    exact hfirst
  · rw [hcolumn, foldl_advance_eq_columnAfter]

/-- After a name and a blank the name cannot go on, in the fourth column of the second line. -/
theorem tokenize_eq_error_malformed :
    tokenize "a\n\x7bb c" = .error ⟨.malformed, 4⟩ ∧
    ∃ before c, (∀ b d, IsFirstImpossible "a\n\x7bb c".toList b d ↔ b = before ∧ d = c) ∧
      4 = columnAfter before := by
  have h : tokenize "a\n\x7bb c" = .error ⟨.malformed, 4⟩ := by decide +kernel
  exact ⟨h, (tokenize_eq_error h).2.2 (by decide) (fun hdangling ↦ by cases hdangling)⟩

end TextProtocol.Format
