import Mathlib.Data.List.Chain
import Mathlib.Data.List.TakeWhile
import TextProtocol.Format.Tokenizer

/-!
# The grammar of formats

A format is a row of pieces: characters of literal text, which may be written with a backslash, and
placeholders, which are names between braces with blanks around them. `Piece` is that grammar, with
nothing said about how it is read. A text can be cut into pieces in one way at most,
`Piece.eq_of_sources`.

Neighbouring characters of literal text make up one `Part`. The tokenizer reads off the parts of a
format, `tokenizeFrom_parts`, and what it reads consists of parts, `exists_parts_of_tokenizeFrom`.
-/

namespace TextProtocol.Format

variable {rest cs rest' : List Char}

/-! ## Pieces -/

def IsName : List Char → Prop
  | [] => False
  | c :: cs => (c.isAlpha = true ∨ c = '_') ∧ ∀ d ∈ cs, d.isAlphanum = true ∨ d = '_' ∨ d = '-'

/-- A character of literal text as it is written. -/
inductive Glyph where
  /-- A character that is neither a brace nor a backslash. -/
  | plain (c : Char) (ordinary : c ≠ '\x7b' ∧ c ≠ '\x7d' ∧ c ≠ '\\')
  | escape (c : Char)

/-- A placeholder as it is written. -/
@[ext] structure Slot where
  left : List Char
  name : List Char
  right : List Char
  blank_left : ∀ c ∈ left, c = ' ' ∨ c = '\t'
  isName : IsName name
  blank_right : ∀ c ∈ right, c = ' ' ∨ c = '\t'

inductive Piece where
  | glyph (g : Glyph)
  | slot (s : Slot)

/-- What is written for a character of literal text. -/
def Glyph.source : Glyph → List Char
  | .plain c _ => [c]
  | .escape c => ['\\', c]

def Slot.source (s : Slot) : List Char :=
  '\x7b' :: (s.left ++ (s.name ++ (s.right ++ ['\x7d'])))

def Piece.source : Piece → List Char
  | .glyph g => g.source
  | .slot s => s.source

def Piece.name? : Piece → Option String
  | .glyph _ => none
  | .slot s => some (String.ofList s.name)

/-! ## Where a piece ends -/

section Spans

variable {p : Char → Bool} {span rest : List Char}

/-- What comes after all that a test holds of begins with something else. -/
theorem exists_span (p : Char → Bool) (cs : List Char) :
    ∃ span rest, cs = span ++ rest ∧ (∀ c ∈ span, p c = true) ∧ ∀ c ∈ rest.head?, p c = false := by
  refine ⟨cs.takeWhile p, cs.dropWhile p, List.takeWhile_append_dropWhile.symm,
    fun c ↦ List.mem_takeWhile_imp, fun c hc ↦ ?_⟩
  have hhead := List.head?_dropWhile_not p cs
  rw [Option.mem_def.mp hc] at hhead
  exact hhead

theorem takeWhile_span (hspan : ∀ c ∈ span, p c = true) (hrest : ∀ c ∈ rest.head?, p c = false) :
    (span ++ rest).takeWhile p = span := by
  rw [List.takeWhile_append_of_pos hspan]
  cases rest with
  | nil => simp
  | cons c cs => simp [hrest c rfl]

theorem dropWhile_span (hspan : ∀ c ∈ span, p c = true) (hrest : ∀ c ∈ rest.head?, p c = false) :
    (span ++ rest).dropWhile p = rest := by
  rw [List.dropWhile_append_of_pos hspan]
  cases rest with
  | nil => rfl
  | cons c cs => simp [hrest c rfl]

theorem span_inj {span' rest' : List Char}
    (hspan : ∀ c ∈ span, p c = true) (hrest : ∀ c ∈ rest.head?, p c = false)
    (hspan' : ∀ c ∈ span', p c = true) (hrest' : ∀ c ∈ rest'.head?, p c = false)
    (h : span ++ rest = span' ++ rest') : span = span' ∧ rest = rest' := by
  constructor
  · rw [← takeWhile_span hspan hrest, h, takeWhile_span hspan' hrest']
  · rw [← dropWhile_span hspan hrest, h, dropWhile_span hspan' hrest']

end Spans

theorem isGap_eq_true_iff {c : Char} : isGap c = true ↔ c = ' ' ∨ c = '\t' := by
  simp [isGap]

theorem isGap_of_isNameChar {c : Char} (h : isNameChar c = true) : isGap c = false := by
  rw [← Bool.not_eq_true, isGap_eq_true_iff]
  rintro (rfl | rfl) <;> cases h

theorem isNameChar_of_isNameStart {c : Char} (h : isNameStart c = true) : isNameChar c = true := by
  rw [isNameStart, Bool.or_eq_true] at h
  rcases h with h | h <;> simp [isNameChar, Char.isAlphanum, h]

theorem isName_cons_iff {c : Char} :
    IsName (c :: cs) ↔ isNameStart c = true ∧ ∀ d ∈ cs, isNameChar d = true := by
  simp [IsName, isNameStart, isNameChar, or_assoc]

namespace Slot

variable (s : Slot)

theorem source_append (rest : List Char) :
    s.source ++ rest = '\x7b' :: (s.left ++ (s.name ++ (s.right ++ '\x7d' :: rest))) := by
  simp [source]

theorem isGap_left : ∀ c ∈ s.left, isGap c = true := fun c hc ↦
  isGap_eq_true_iff.mpr (s.blank_left c hc)

theorem isGap_right : ∀ c ∈ s.right, isGap c = true := fun c hc ↦
  isGap_eq_true_iff.mpr (s.blank_right c hc)

theorem exists_name :
    ∃ c cs, s.name = c :: cs ∧ isNameStart c = true ∧ ∀ d ∈ cs, isNameChar d = true := by
  have hname := s.isName
  cases heq : s.name with
  | nil =>
    rw [heq] at hname
    exact hname.elim
  | cons c cs =>
    rw [heq, isName_cons_iff] at hname
    exact ⟨c, cs, rfl, hname⟩

theorem isNameChar_name : ∀ c ∈ s.name, isNameChar c = true := by
  obtain ⟨c, cs, heq, hstart, hmore⟩ := s.exists_name
  rw [heq]
  exact List.forall_mem_cons.mpr ⟨isNameChar_of_isNameStart hstart, hmore⟩

theorem head_name (rest : List Char) : ∀ c ∈ (s.name ++ rest).head?, isGap c = false := by
  intro d hd
  obtain ⟨c, cs, heq, hstart, -⟩ := s.exists_name
  rw [heq] at hd
  cases hd
  exact isGap_of_isNameChar (isNameChar_of_isNameStart hstart)

theorem head_brace (rest : List Char) : ∀ c ∈ ('\x7d' :: rest).head?, isGap c = false := by
  rintro c ⟨⟩
  rfl

/-- A blank or the closing brace ends a name. -/
theorem head_right (rest : List Char) :
    ∀ c ∈ (s.right ++ '\x7d' :: rest).head?, isNameChar c = false := by
  intro d hd
  have hright := s.blank_right
  cases heq : s.right with
  | nil =>
    rw [heq] at hd
    cases hd
    rfl
  | cons c cs =>
    rw [heq] at hd hright
    cases hd
    rcases hright d List.mem_cons_self with rfl | rfl <;> rfl

theorem source_inj {s s' : Slot} {rest rest' : List Char}
    (h : s.source ++ rest = s'.source ++ rest') : s = s' ∧ rest = rest' := by
  rw [source_append, source_append, List.cons_inj_right] at h
  obtain ⟨hleft, h⟩ := span_inj s.isGap_left (s.head_name _) s'.isGap_left (s'.head_name _) h
  obtain ⟨hname, h⟩ := span_inj s.isNameChar_name (s.head_right _) s'.isNameChar_name
    (s'.head_right _) h
  obtain ⟨hright, h⟩ := span_inj s.isGap_right (head_brace _) s'.isGap_right (head_brace _) h
  exact ⟨Slot.ext hleft hname hright, (List.cons.inj h).2⟩

end Slot

theorem Glyph.source_inj {g g' : Glyph} (h : g.source ++ rest = g'.source ++ rest') :
    g = g' ∧ rest = rest' := by
  cases g with
  | plain c hc =>
    cases g' with
    | plain d _ =>
      obtain ⟨rfl, rfl⟩ := List.cons.inj h
      exact ⟨rfl, rfl⟩
    | escape d => exact absurd (List.cons.inj h).1 hc.2.2
  | escape c =>
    cases g' with
    | plain d hd => exact absurd (List.cons.inj h).1.symm hd.2.2
    | escape d =>
      obtain ⟨-, h⟩ := List.cons.inj h
      obtain ⟨rfl, rfl⟩ := List.cons.inj h
      exact ⟨rfl, rfl⟩

/-- No character of literal text stands where a placeholder begins. -/
theorem Glyph.source_ne_slot {g : Glyph} {s : Slot} : g.source ++ rest ≠ s.source ++ rest' := by
  intro h
  cases g with
  | plain c hc => exact hc.1 (List.cons.inj h).1
  | escape c => exact absurd (List.cons.inj h).1 (by decide)

/-! ## Reading placeholders and literal text -/

theorem foldl_advance (h : '\n' ∉ cs) (column : Nat) :
    cs.foldl advance column = column + cs.length := by
  induction cs generalizing column with
  | nil => rfl
  | cons c cs ih =>
    rw [List.mem_cons, not_or] at h
    have hc : advance column c = column + 1 := by simp [advance, Ne.symm h.1]
    rw [List.foldl_cons, hc, ih h.2, List.length_cons]
    omega

theorem Slot.newline_notMem_source (s : Slot) : '\n' ∉ s.source := by
  have hleft : '\n' ∉ s.left := fun h ↦ absurd (s.isGap_left _ h) (by decide)
  have hname : '\n' ∉ s.name := fun h ↦ absurd (s.isNameChar_name _ h) (by decide)
  have hright : '\n' ∉ s.right := fun h ↦ absurd (s.isGap_right _ h) (by decide)
  simp [source, hleft, hname, hright]

def Slot.nameColumn (column : Nat) (s : Slot) : Nat :=
  ('\x7b' :: s.left).foldl advance column

theorem Slot.nameColumn_eq (column : Nat) (s : Slot) :
    s.nameColumn column = column + 1 + s.left.length := by
  have hleft : '\n' ∉ '\x7b' :: s.left := fun h ↦
    s.newline_notMem_source (List.mem_append_left _ h)
  rw [nameColumn, foldl_advance hleft, List.length_cons]
  omega

theorem Slot.foldl_advance_source (column : Nat) (s : Slot) :
    s.source.foldl advance column =
      s.nameColumn column + s.name.length + s.right.length + 1 := by
  rw [foldl_advance s.newline_notMem_source, nameColumn_eq]
  simp only [source, List.length_cons, List.length_append, List.length_nil]
  omega

theorem readPlaceholder_slot (column : Nat) (s : Slot) (rest : List Char) :
    readPlaceholder column (s.left ++ (s.name ++ (s.right ++ '\x7d' :: rest))) =
      .ok ⟨s.name, s.nameColumn column, rest, s.source.foldl advance column⟩ := by
  obtain ⟨c, cs, heq, hstart, hmore⟩ := s.exists_name
  rw [readPlaceholder, takeWhile_span s.isGap_left (s.head_name _),
    dropWhile_span s.isGap_left (s.head_name _), heq, List.cons_append]
  dsimp only
  rw [if_pos hstart, takeWhile_span hmore (s.head_right rest),
    dropWhile_span hmore (s.head_right rest), closePlaceholder,
    takeWhile_span s.isGap_right (Slot.head_brace rest),
    dropWhile_span s.isGap_right (Slot.head_brace rest),
    s.foldl_advance_source, s.nameColumn_eq, heq]
  rfl

theorem exists_slot_of_readPlaceholder {column : Nat} {p : Placeholder}
    (h : readPlaceholder column cs = .ok p) :
    ∃ s : Slot, cs = s.left ++ (s.name ++ (s.right ++ '\x7d' :: p.rest)) := by
  have hgap {cs : List Char} : ∀ c ∈ cs.takeWhile isGap, c = ' ' ∨ c = '\t' := fun c hc ↦
    isGap_eq_true_iff.mp (List.mem_takeWhile_imp hc)
  rw [readPlaceholder] at h
  split at h
  · cases h
  · rename_i c rest hname
    split at h
    · rename_i hstart
      rw [closePlaceholder] at h
      split at h
      · cases h
      · rename_i later hclose
        cases h
        refine ⟨⟨cs.takeWhile isGap, c :: rest.takeWhile isNameChar,
          (rest.dropWhile isNameChar).takeWhile isGap, hgap,
          isName_cons_iff.mpr ⟨hstart, fun d ↦ List.mem_takeWhile_imp⟩, hgap⟩, ?_⟩
        dsimp only
        rw [← hclose, List.takeWhile_append_dropWhile, List.cons_append,
          List.takeWhile_append_dropWhile, ← hname, List.takeWhile_append_dropWhile]
      · cases h
    · cases h

def EndsText (rest : List Char) : Prop :=
  ∀ (g : Glyph) (more : List Char), rest ≠ g.source ++ more

/-- Literal text ends at the end, at a brace and at a backslash with nothing after it. -/
theorem EndsText.cases (h : EndsText rest) :
    rest = [] ∨ (∃ more, rest = '\x7b' :: more) ∨ (∃ more, rest = '\x7d' :: more) ∨
      rest = ['\\'] := by
  cases rest with
  | nil => exact .inl rfl
  | cons c more =>
    by_cases hopen : c = '\x7b'
    · exact .inr (.inl ⟨more, by rw [hopen]⟩)
    by_cases hclose : c = '\x7d'
    · exact .inr (.inr (.inl ⟨more, by rw [hclose]⟩))
    by_cases hbackslash : c = '\\'
    · cases more with
      | nil => exact .inr (.inr (.inr (by rw [hbackslash])))
      | cons d later => exact absurd (by rw [hbackslash]; rfl) (h (.escape d) later)
    · exact absurd rfl (h (.plain c ⟨hopen, hclose, hbackslash⟩) more)

theorem takeText_of_endsText (column : Nat) (h : EndsText rest) :
    takeText column rest = ⟨[], rest, column⟩ := by
  rcases h.cases with rfl | ⟨more, rfl⟩ | ⟨more, rfl⟩ | rfl <;> rfl

theorem takeText_glyph (column : Nat) (g : Glyph) (rest : List Char) :
    takeText column (g.source ++ rest) =
      (takeText (g.source.foldl advance column) rest).after g.source := by
  cases g with
  | plain c hc =>
    obtain ⟨hopen, hclose, hbackslash⟩ := hc
    rw [Glyph.source, List.singleton_append, takeText]
    · rfl
    · exact hopen
    · exact hclose
    · exact fun heq _ ↦ hbackslash heq
    · exact fun _ _ heq _ ↦ hbackslash heq
  | escape c => rfl

theorem takeText_glyphs (column : Nat) (run : List Glyph) (hrest : EndsText rest) :
    takeText column (run.flatMap Glyph.source ++ rest) =
      ⟨run.flatMap Glyph.source, rest, (run.flatMap Glyph.source).foldl advance column⟩ := by
  induction run generalizing column with
  | nil => exact takeText_of_endsText column hrest
  | cons g run ih =>
    rw [List.flatMap_cons, List.append_assoc, takeText_glyph, ih, Run.after, List.foldl_append]

theorem glyphs_inj {run run' : List Glyph} (hrest : EndsText rest) (hrest' : EndsText rest')
    (h : run.flatMap Glyph.source ++ rest = run'.flatMap Glyph.source ++ rest') :
    run = run' ∧ rest = rest' := by
  induction run generalizing run' with
  | nil =>
    cases run' with
    | nil => exact ⟨rfl, h⟩
    | cons g more =>
      rw [List.flatMap_nil, List.nil_append, List.flatMap_cons, List.append_assoc] at h
      exact absurd h (hrest g _)
  | cons g run ih =>
    rw [List.flatMap_cons, List.append_assoc] at h
    cases run' with
    | nil => exact absurd h.symm (hrest' g _)
    | cons g' run' =>
      rw [List.flatMap_cons, List.append_assoc] at h
      obtain ⟨rfl, hmore⟩ := Glyph.source_inj h
      obtain ⟨rfl, heq⟩ := ih hmore
      exact ⟨rfl, heq⟩

/-- Every text is literal text as far as that goes, and then something else. -/
theorem exists_glyphs (cs : List Char) :
    ∃ (run : List Glyph) (rest : List Char), cs = run.flatMap Glyph.source ++ rest ∧
      EndsText rest := by
  induction hlength : cs.length using Nat.strong_induction_on generalizing cs with
  | h n ih =>
    by_cases hend : EndsText cs
    · exact ⟨[], cs, rfl, hend⟩
    · simp only [EndsText, not_forall, not_not] at hend
      obtain ⟨g, more, rfl⟩ := hend
      obtain ⟨run, rest, rfl, hrest⟩ := ih more.length (by
        rw [← hlength, List.length_append]
        cases g <;> simp [Glyph.source]) more rfl
      exact ⟨g :: run, rest, by rw [List.flatMap_cons, List.append_assoc], hrest⟩

/-! ## Parts -/

/-- A part of a format: a run of literal text or a placeholder. -/
inductive Part where
  | text (run : List Glyph) (written : run ≠ [])
  | slot (s : Slot)

namespace Part

variable {parts : List Part}

def isText : Part → Bool
  | .text .. => true
  | .slot _ => false

def pieces : Part → List Piece
  | .text run _ => run.map .glyph
  | .slot s => [.slot s]

def source : Part → List Char
  | .text run _ => run.flatMap Glyph.source
  | .slot s => s.source

/-- Whether literal text is kept together, so that each run of it is as long as it can be. -/
def Maximal (parts : List Part) : Prop :=
  parts.IsChain fun p q ↦ ¬(p.isText = true ∧ q.isText = true)

def item (column : Nat) : Part → Item
  | .text run _ => .literal (unescape (String.ofList (run.flatMap Glyph.source)))
  | .slot s => .placeholder (String.ofList s.name) (s.nameColumn column)

/-- What parts mean, where the first of them begins at `column`. -/
def items (column : Nat) : List Part → List Item
  | [] => []
  | p :: ps => p.item column :: items (p.source.foldl advance column) ps

theorem flatMap_source_pieces (p : Part) : p.pieces.flatMap Piece.source = p.source := by
  cases p with
  | text run _ => rw [pieces, source, List.flatMap_map]; rfl
  | slot s => rw [pieces, source, List.flatMap_singleton]; rfl

theorem sources_pieces (parts : List Part) :
    (parts.flatMap pieces).flatMap Piece.source = parts.flatMap source := by
  rw [List.flatMap_assoc]
  exact List.flatMap_congr fun p _ ↦ p.flatMap_source_pieces

theorem source_ne_nil (p : Part) : p.source ≠ [] := by
  cases p with
  | text run written =>
    obtain ⟨g, more, rfl⟩ := List.exists_cons_of_ne_nil written
    cases g <;> exact List.cons_ne_nil _ _
  | slot s => exact List.cons_ne_nil _ _

theorem endsText_iff : EndsText (parts.flatMap source) ↔ ∀ p ∈ parts.head?, p.isText = false := by
  constructor
  · rintro h p hp
    obtain ⟨ps, rfl⟩ := List.head?_eq_some_iff.mp hp
    cases p with
    | slot s => rfl
    | text run written =>
      obtain ⟨g, more, rfl⟩ := List.exists_cons_of_ne_nil written
      refine absurd ?_ (h g (more.flatMap Glyph.source ++ ps.flatMap source))
      rw [List.flatMap_cons, source, List.flatMap_cons, List.append_assoc]
  · intro h g more heq
    cases parts with
    | nil => cases g <;> cases heq
    | cons p ps =>
      cases p with
      | text run written => cases h _ rfl
      | slot s => exact Glyph.source_ne_slot heq.symm

theorem maximal_cons_iff {p : Part} :
    Maximal (p :: parts) ↔
      (p.isText = true → EndsText (parts.flatMap source)) ∧ Maximal parts := by
  rw [Maximal, List.isChain_cons, ← Maximal, endsText_iff]
  refine and_congr_left fun _ ↦ ⟨fun h hp q hq ↦ ?_, fun h q hq hpq ↦ ?_⟩
  · rw [← Bool.not_eq_true]
    exact fun hq' ↦ h q hq ⟨hp, hq'⟩
  · rw [h hpq.1 q hq] at hpq
    cases hpq.2

theorem exists_of_pieces (pieces : List Piece) :
    ∃ parts, Maximal parts ∧ parts.flatMap Part.pieces = pieces := by
  induction pieces with
  | nil => exact ⟨[], .nil, rfl⟩
  | cons piece more ih =>
    obtain ⟨parts, hmaximal, rfl⟩ := ih
    cases piece with
    | slot s =>
      exact ⟨.slot s :: parts, maximal_cons_iff.mpr ⟨fun h ↦ absurd h Bool.false_ne_true, hmaximal⟩,
        rfl⟩
    | glyph g =>
      -- A character joins the text that comes right after it.
      cases parts with
      | nil => exact ⟨[.text [g] (List.cons_ne_nil _ _)], .singleton _, rfl⟩
      | cons p ps =>
        cases p with
        | slot s => exact ⟨.text [g] (List.cons_ne_nil _ _) :: .slot s :: ps,
            .cons_cons (fun h ↦ Bool.false_ne_true h.2) hmaximal, rfl⟩
        | text run _ =>
          obtain ⟨hends, hps⟩ := maximal_cons_iff.mp hmaximal
          exact ⟨.text (g :: run) (List.cons_ne_nil _ _) :: ps,
            maximal_cons_iff.mpr ⟨fun _ ↦ hends rfl, hps⟩, rfl⟩

/-- No part begins where another one does, if the text in both is as long as it can be. -/
theorem source_inj {p q : Part} {rest rest' : List Char} (hp : p.isText = true → EndsText rest)
    (hq : q.isText = true → EndsText rest') (h : p.source ++ rest = q.source ++ rest') :
    p = q ∧ rest = rest' := by
  have hclash {run : List Glyph} (written : run ≠ []) {s : Slot} {rest rest' : List Char} :
      run.flatMap Glyph.source ++ rest ≠ s.source ++ rest' := by
    obtain ⟨g, more, rfl⟩ := List.exists_cons_of_ne_nil written
    rw [List.flatMap_cons, List.append_assoc]
    exact Glyph.source_ne_slot
  cases p with
  | text run written =>
    cases q with
    | text run' _ =>
      obtain ⟨rfl, hrest⟩ := glyphs_inj (hp rfl) (hq rfl) h
      exact ⟨rfl, hrest⟩
    | slot s => exact absurd h (hclash written)
  | slot s =>
    cases q with
    | text run' written => exact absurd h.symm (hclash written)
    | slot s' =>
      obtain ⟨rfl, hrest⟩ := Slot.source_inj h
      exact ⟨rfl, hrest⟩

/-- A text can be cut into parts in one way at most. -/
theorem eq_of_sources {parts' : List Part} (hmaximal : Maximal parts) (hmaximal' : Maximal parts')
    (h : parts.flatMap source = parts'.flatMap source) : parts = parts' := by
  induction parts generalizing parts' with
  | nil =>
    cases parts' with
    | nil => rfl
    | cons q qs => simp [q.source_ne_nil] at h
  | cons p ps ih =>
    obtain ⟨hends, hps⟩ := maximal_cons_iff.mp hmaximal
    cases parts' with
    | nil => simp [p.source_ne_nil] at h
    | cons q qs =>
      obtain ⟨hends', hqs⟩ := maximal_cons_iff.mp hmaximal'
      rw [List.flatMap_cons, List.flatMap_cons] at h
      obtain ⟨rfl, hrest⟩ := source_inj hends hends' h
      rw [ih hps hqs hrest]

end Part

/-- A text can be cut into pieces in one way at most. -/
theorem Piece.eq_of_sources {pieces pieces' : List Piece}
    (h : pieces.flatMap source = pieces'.flatMap source) : pieces = pieces' := by
  obtain ⟨parts, hmaximal, rfl⟩ := Part.exists_of_pieces pieces
  obtain ⟨parts', hmaximal', rfl⟩ := Part.exists_of_pieces pieces'
  rw [Part.sources_pieces, Part.sources_pieces] at h
  rw [Part.eq_of_sources hmaximal hmaximal' h]

/-! ## Tokenizing -/

theorem tokenizeFrom_slot (column : Nat) (s : Slot) (rest : List Char) :
    tokenizeFrom column (s.source ++ rest) =
      (tokenizeFrom (s.source.foldl advance column) rest).map
        ((Part.slot s).item column :: ·) := by
  rw [s.source_append, tokenizeFrom]
  split
  · rename_i e h
    rw [readPlaceholder_slot] at h
    cases h
  · rename_i p h
    rw [readPlaceholder_slot] at h
    cases h
    rfl

theorem tokenizeFrom_glyph (column : Nat) (g : Glyph) (more : List Char) :
    tokenizeFrom column (g.source ++ more) =
      (tokenizeFrom (takeText column (g.source ++ more)).column
        (takeText column (g.source ++ more)).rest).map
        (.literal (unescape (String.ofList (takeText column (g.source ++ more)).text)) :: ·) := by
  rw [takeText_glyph]
  cases g with
  | plain c hc =>
    obtain ⟨hopen, hclose, hbackslash⟩ := hc
    rw [Glyph.source, List.singleton_append, tokenizeFrom]
    · rw [unescape, String.toList_ofList]
      rfl
    · exact hopen
    · exact hclose
    · exact fun heq _ ↦ hbackslash heq
    · exact fun _ _ heq _ ↦ hbackslash heq
  | escape c =>
    rw [Glyph.source, List.cons_append, List.singleton_append, tokenizeFrom, unescape,
      String.toList_ofList]
    rfl

theorem tokenizeFrom_text (column : Nat) {run : List Glyph} (written : run ≠ [])
    (hrest : EndsText rest) :
    tokenizeFrom column (run.flatMap Glyph.source ++ rest) =
      (tokenizeFrom ((run.flatMap Glyph.source).foldl advance column) rest).map
        ((Part.text run written).item column :: ·) := by
  have htake := takeText_glyphs column run hrest
  obtain ⟨g, more, rfl⟩ := List.exists_cons_of_ne_nil written
  rw [List.flatMap_cons, List.append_assoc] at htake ⊢
  rw [tokenizeFrom_glyph, htake]
  rfl

/-- A format that consists of parts means what they mean. -/
theorem tokenizeFrom_parts (column : Nat) {parts : List Part} (h : Part.Maximal parts) :
    tokenizeFrom column (parts.flatMap Part.source) = .ok (Part.items column parts) := by
  induction parts generalizing column with
  | nil => rw [List.flatMap_nil, tokenizeFrom, Part.items]
  | cons p ps ih =>
    obtain ⟨hends, hps⟩ := Part.maximal_cons_iff.mp h
    rw [List.flatMap_cons, Part.items]
    cases p with
    | text run written =>
      rw [Part.source, tokenizeFrom_text column written (hends rfl), ih _ hps]
      rfl
    | slot s =>
      rw [Part.source, tokenizeFrom_slot, ih _ hps]
      rfl

/-- What can be read begins with a placeholder, if it does not begin with literal text. -/
theorem exists_slot_of_tokenizeFrom {column : Nat} {items : List Item}
    (h : tokenizeFrom column cs = .ok items) (hends : EndsText cs) :
    cs = [] ∨ ∃ (s : Slot) (rest : List Char), cs = s.source ++ rest := by
  rcases hends.cases with rfl | ⟨more, rfl⟩ | ⟨more, rfl⟩ | rfl
  · exact .inl rfl
  · rw [tokenizeFrom] at h
    split at h
    · cases h
    · rename_i p hp
      obtain ⟨s, rfl⟩ := exists_slot_of_readPlaceholder hp
      exact .inr ⟨s, p.rest, (s.source_append _).symm⟩
  · rw [tokenizeFrom] at h
    cases h
  · rw [tokenizeFrom] at h
    cases h

theorem exists_parts_of_tokenizeFrom {column : Nat} {items : List Item}
    (h : tokenizeFrom column cs = .ok items) :
    ∃ parts, Part.Maximal parts ∧ parts.flatMap Part.source = cs := by
  induction hlength : cs.length using Nat.strong_induction_on generalizing column cs items with
  | h n ih =>
    -- The parts after a first part `p`, which is not empty.
    have hlater {p : Part} {rest : List Char} {column' : Nat} (hcs : cs = p.source ++ rest)
        (hends : p.isText = true → EndsText rest)
        (htokenize : tokenizeFrom column cs =
          (tokenizeFrom column' rest).map (p.item column :: ·)) :
        ∃ parts, Part.Maximal parts ∧ parts.flatMap Part.source = cs := by
      have hlt : rest.length < n := by
        rw [← hlength, hcs, List.length_append]
        exact Nat.lt_add_of_pos_left (List.length_pos_iff.mpr p.source_ne_nil)
      cases hread : tokenizeFrom column' rest with
      | error e =>
        rw [htokenize, hread] at h
        cases h
      | ok later =>
        obtain ⟨parts, hmaximal, rfl⟩ := ih rest.length hlt hread rfl
        exact ⟨p :: parts, Part.maximal_cons_iff.mpr ⟨hends, hmaximal⟩, hcs.symm⟩
    obtain ⟨run, rest, hcs, hrest⟩ := exists_glyphs cs
    by_cases written : run = []
    · rw [written, List.flatMap_nil, List.nil_append] at hcs
      rcases exists_slot_of_tokenizeFrom h (hcs ▸ hrest) with rfl | ⟨s, later, hslot⟩
      · exact ⟨[], .nil, rfl⟩
      · exact hlater (p := .slot s) hslot (fun h ↦ absurd h Bool.false_ne_true)
          (hslot ▸ tokenizeFrom_slot column s later)
    · exact hlater (p := .text run written) hcs (fun _ ↦ hrest)
        (hcs ▸ tokenizeFrom_text column written hrest)

/-! ## Formats -/

def Item.isLiteral : Item → Bool
  | .literal _ => true
  | .placeholder .. => false

/-- Whether `parts` are `pieces` with neighbouring characters of literal text put together. -/
def Part.Groups (parts : List Part) (pieces : List Piece) : Prop :=
  Maximal parts ∧ parts.flatMap Part.pieces = pieces

theorem Part.map_isText_eq (column : Nat) (parts : List Part) :
    parts.map isText = (items column parts).map Item.isLiteral := by
  induction parts generalizing column with
  | nil => rfl
  | cons p ps ih =>
    rw [items, List.map_cons, List.map_cons, ih (p.source.foldl advance column)]
    cases p <;> rfl

/-- Whether literal text stands side by side depends on where it stands only. -/
theorem Part.maximal_iff {parts : List Part} {items : List Item}
    (h : parts.map isText = items.map Item.isLiteral) :
    Maximal parts ↔ items.IsChain fun a b ↦ ¬(a.isLiteral = true ∧ b.isLiteral = true) :=
  calc Maximal parts
    _ ↔ (parts.map isText).IsChain fun a b ↦ ¬(a = true ∧ b = true) := by
      rw [Maximal, List.isChain_map]
    _ ↔ (items.map Item.isLiteral).IsChain fun a b ↦ ¬(a = true ∧ b = true) := by rw [h]
    _ ↔ _ := List.isChain_map _

theorem Part.filterMap_name_items (column : Nat) (parts : List Part) :
    (items column parts).filterMap Item.name? =
      (parts.flatMap Part.pieces).filterMap Piece.name? := by
  induction parts generalizing column with
  | nil => rfl
  | cons p ps ih =>
    rw [items, List.flatMap_cons, List.filterMap_append, ← ih (p.source.foldl advance column)]
    cases p with
    | text run written =>
      have hnone : (run.map Piece.glyph).filterMap Piece.name? = [] := by
        rw [List.filterMap_map, List.filterMap_eq_nil_iff]
        exact fun _ _ ↦ rfl
      rw [pieces, hnone, List.nil_append]
      rfl
    | slot s => rfl

/-- The formats are the texts that consist of pieces. A format consists of pieces in one way only,
and its items are what they mean, with neighbouring characters of literal text put together. -/
theorem tokenize_grammar (format : String) :
    ((∃ items, tokenize format = .ok items) ↔
      ∃ pieces : List Piece, pieces.flatMap Piece.source = format.toList) ∧
    ∀ pieces : List Piece, pieces.flatMap Piece.source = format.toList →
      (∀ others : List Piece, others.flatMap Piece.source = format.toList → others = pieces) ∧
      ∃ parts, (∀ others, Part.Groups others pieces ↔ others = parts) ∧
        tokenize format = .ok (Part.items 1 parts) ∧
        ((Part.items 1 parts).IsChain fun a b ↦ ¬(a.isLiteral = true ∧ b.isLiteral = true)) ∧
        (Part.items 1 parts).filterMap Item.name? = pieces.filterMap Piece.name? := by
  have hread (pieces : List Piece) (h : pieces.flatMap Piece.source = format.toList) :
      ∃ parts, Part.Groups parts pieces ∧ tokenize format = .ok (Part.items 1 parts) := by
    obtain ⟨parts, hmaximal, rfl⟩ := Part.exists_of_pieces pieces
    refine ⟨parts, ⟨hmaximal, rfl⟩, ?_⟩
    rw [tokenize, ← h, Part.sources_pieces, tokenizeFrom_parts 1 hmaximal]
  refine ⟨⟨?_, ?_⟩, fun pieces h ↦ ⟨fun others hothers ↦ ?_, ?_⟩⟩
  · rintro ⟨items, hitems⟩
    obtain ⟨parts, -, hsource⟩ := exists_parts_of_tokenizeFrom hitems
    exact ⟨parts.flatMap Part.pieces, by rw [Part.sources_pieces, hsource]⟩
  · rintro ⟨pieces, h⟩
    obtain ⟨parts, -, htokenize⟩ := hread pieces h
    exact ⟨_, htokenize⟩
  · exact Piece.eq_of_sources (hothers.trans h.symm)
  · obtain ⟨parts, ⟨hmaximal, hpieces⟩, htokenize⟩ := hread pieces h
    refine ⟨parts, fun others ↦ ⟨?_, ?_⟩, htokenize,
      (Part.maximal_iff (Part.map_isText_eq 1 parts)).mp hmaximal, ?_⟩
    · rintro ⟨hmaximal', hpieces'⟩
      refine Part.eq_of_sources hmaximal' hmaximal ?_
      rw [← Part.sources_pieces, ← Part.sources_pieces, hpieces', hpieces]
    · rintro rfl
      exact ⟨hmaximal, hpieces⟩
    · rw [Part.filterMap_name_items, hpieces]

example : tokenize "\\\x7bid\n: \x7b id\t\x7d" =
    .ok [.literal "\x7bid\n: ", .placeholder "id" 5] := by
  cbv

end TextProtocol.Format
