import Mathlib.Control.Basic
import Mathlib.Data.List.TakeDrop
import Mathlib.Data.List.TakeWhile
import Mathlib.Data.Option.Basic
import TextProtocol.Proofs.Text.Escapes
import TextProtocol.Script.Literal

/-!
# Reading string literals of Python modules

Two questions about a text that was put between quotation marks. Where does the literal end? A
literal with single marks ends at the second one if the text is contained, `readToken_text`; one
with three marks at each end is read up to the last three exactly if its text closes,
`takeLong_append_iff`, and is all there is on its line then, `readLine_docstring_iff`. And what does
the text stand for? `Means` puts together what its parts stand for, and it stands for something at
all exactly if its escapes are complete, `isSome_unescape_iff`.
-/

namespace TextProtocol.Script

open Text (Contained bareChars bareChars_of_ne)

variable {rest text body : List Char} {mark : Char} {p : List Char × List Char}

/-! ## One mark -/

theorem ne_backslash_of_isMark (h : isMark mark = true) : mark ≠ '\\' := by
  rintro rfl
  exact absurd h (by decide)

/-- A literal with one mark at each end goes on to the first mark that is bare. -/
theorem takeShort_append (hmark : isMark mark = true) (h : Contained mark body) (rest : List Char) :
    takeShort mark (body ++ mark :: rest) = some (body, rest) := by
  have hslash := ne_backslash_of_isMark hmark
  obtain ⟨hunclosed, hfinished, hfeed, -⟩ := h
  fun_induction bareChars body with
  | case1 c body ih =>
    simp only [List.mem_cons, not_or] at hunclosed hfinished hfeed
    rw [List.cons_append, List.cons_append, takeShort, ih hunclosed.2 hfinished.2 hfeed.2.2]
    rfl
  | case2 c body hescape ih =>
    simp only [List.mem_cons, Option.some.injEq, not_or] at hunclosed hfinished hfeed
    rw [List.cons_append, takeShort, if_neg (by simpa using Ne.symm hunclosed.1),
      if_neg (by simpa using Ne.symm hfeed.1), ih hunclosed.2 hfinished.2 hfeed.2]
    · rfl
    · exact fun _ _ heq _ ↦ hfinished.1 heq.symm
  | case3 =>
    rw [List.nil_append, takeShort]
    · simp
    · exact fun _ _ heq _ ↦ hslash heq

theorem readQuote_short (letters : List Char) (hmark : isMark mark = true) (h : Contained mark body)
    (hrest : rest.head? ≠ some mark) :
    readQuote letters mark (body ++ mark :: rest) = some (.quote ⟨letters, body⟩, rest) := by
  have hshort : ((body ++ mark :: rest).take 2 == [mark, mark]) = false := by
    rw [beq_eq_false_iff_ne]
    cases body with
    | nil => cases rest <;> simp_all
    | cons c body =>
      have hc := h.head_ne (ne_backslash_of_isMark hmark)
      simp_all
  rw [readQuote, if_neg (by simp [hshort]), takeShort_append hmark h]
  rfl

/-- A literal without letters in front. -/
theorem readToken_text (hmark : isMark mark = true) (h : Contained mark body)
    (hrest : rest.head? ≠ some mark) :
    readToken (mark :: (body ++ mark :: rest)) = some (.quote ⟨[], body⟩, rest) := by
  rw [readToken, if_pos hmark, readQuote_short [] hmark h hrest]

theorem readToken_bytes (hmark : isMark mark = true) (h : Contained mark body)
    (hrest : rest.head? ≠ some mark) :
    readToken ('b' :: mark :: (body ++ mark :: rest)) = some (.quote ⟨['b'], body⟩, rest) := by
  have hspan : ('b' :: mark :: (body ++ mark :: rest)).span isWordChar =
      (['b'], mark :: (body ++ mark :: rest)) := by
    have hword : isWordChar mark = false := by
      rcases (by simpa [isMark] using hmark : mark = '"' ∨ mark = '\'') with rfl | rfl <;> rfl
    rw [List.span_eq_takeWhile_dropWhile]
    simp [hword, show isWordChar 'b' = true from rfl]
  have hletters : quoteLetters.contains (String.ofList (['b'].map Char.toLower)) = true := by decide
  rw [readToken, if_neg (by decide), if_neg (by simp), if_pos (by decide), readWord]
  simp only [hspan, hmark, hletters, Bool.and_self, if_true]
  exact readQuote_short ['b'] hmark h hrest

/-! ## Three marks -/

def tripled (mark : Char) : List Char :=
  [mark, mark, mark]

/-- Whether a text leaves the marks after it alone: it does not end in a mark that would be taken
for one of them, nor in a backslash that escapes the first. -/
def Closes (mark : Char) (text : List Char) : Prop :=
  (bareChars text).getLast? ≠ some (some mark) ∧ (bareChars text).getLast? ≠ some (some '\\')

theorem closes_iff_of_bareChars {whole : List Char} {b : Option Char}
    (hbare : bareChars whole = b :: bareChars text)
    (hlast : text = [] → b ≠ some mark ∧ b ≠ some '\\') : Closes mark whole ↔ Closes mark text := by
  rw [Closes, Closes, hbare, List.getLast?_cons]
  cases hlasts : (bareChars text).getLast? with
  | some last => simp
  | none =>
    have hempty : text = [] := by
      cases text with
      | nil => rfl
      | cons c text =>
        rw [List.getLast?_eq_none_iff] at hlasts
        unfold bareChars at hlasts
        split at hlasts <;> simp_all
    simpa using hlast hempty

theorem map_front_eq_some_iff (front : List Char) {o : Option (List Char × List Char)} :
    o.map (fun p ↦ (front ++ p.1, p.2)) = some (front ++ body, rest) ↔ o = some (body, rest) := by
  cases o with
  | none => simp
  | some p => simp [Prod.ext_iff]

/-- Where a text without three marks in a row comes to have them, with those after it, its end is
near. -/
theorem not_closes_of_marks (hmark : mark ≠ '\\') (h : ¬tripled mark <:+: mark :: text)
    (hmarks : (text ++ (tripled mark ++ rest)).take 2 = [mark, mark]) :
    ¬Closes mark (mark :: text) := by
  have hlast : text = [] ∨ text = [mark] := by
    rcases text with _ | ⟨d, _ | ⟨e, text⟩⟩
    · exact .inl rfl
    · simp_all
    · obtain ⟨rfl, rfl⟩ : d = mark ∧ e = mark := by simpa using hmarks
      exact (h (List.prefix_append (tripled e) text).isInfix).elim
  rintro ⟨hmark', -⟩
  rcases hlast with rfl | rfl <;> exact hmark' (by simp [bareChars_of_ne hmark, bareChars])

/-- After three marks, a text without three marks in a row is read up to the three marks after it,
if it closes. -/
theorem takeLong_append_iff (hmark : mark ≠ '\\') (h : ¬tripled mark <:+: text) (rest : List Char) :
    takeLong mark (text ++ (tripled mark ++ rest)) = some (text, rest) ↔ Closes mark text := by
  fun_induction bareChars text with
  | case1 c text ih =>
    have hinner : ¬tripled mark <:+: text := fun hin ↦
      h (hin.trans (List.suffix_append ['\\', c] text).isInfix)
    have hcloses : Closes mark ('\\' :: c :: text) ↔ Closes mark text :=
      closes_iff_of_bareChars rfl (by simp)
    rw [hcloses, ← ih hinner, List.cons_append, List.cons_append, takeLong]
    exact map_front_eq_some_iff ['\\', c]
  | case2 c text hescape ih =>
    have hinner : ¬tripled mark <:+: text := fun hin ↦
      h (hin.trans (List.suffix_cons c text).isInfix)
    by_cases hc : c = '\\'
    -- A backslash that is bare is the last character of the text.
    · subst hc
      obtain rfl : text = [] := by
        cases text with
        | nil => rfl
        | cons d text => exact (hescape d text rfl rfl).elim
      have hlone : ¬Closes mark ['\\'] := fun hcloses ↦ hcloses.2 rfl
      simp [hlone, tripled, takeLong]
    · rw [List.cons_append, takeLong]
      · split
        -- The literal ends here, before the end of the text, and so takes some of it for marks.
        · rename_i hmarks
          simp only [Bool.and_eq_true, beq_iff_eq] at hmarks
          obtain ⟨rfl, hmarks⟩ := hmarks
          simpa using not_closes_of_marks hc h hmarks
        · rename_i hopen
          have hcloses : Closes mark (c :: text) ↔ Closes mark text := by
            refine closes_iff_of_bareChars (bareChars_of_ne hc text) ?_
            rintro rfl
            simpa [tripled, hc] using hopen
          rw [hcloses, ← ih hinner]
          exact map_front_eq_some_iff [c]
      · exact fun _ _ heq _ ↦ hc heq
  | case3 =>
    rw [List.nil_append, tripled]
    simp [takeLong, Closes, bareChars, hmark]

theorem eq_of_takeLong (h : takeLong mark text = some (body, rest)) :
    text = body ++ (tripled mark ++ rest) := by
  fun_induction takeLong mark text generalizing body with
  | case1 => cases h
  | case2 c text ih =>
    obtain ⟨⟨inner, more⟩, htake, heq⟩ := Option.map_eq_some_iff.mp h
    obtain ⟨rfl, rfl⟩ := Prod.mk.inj heq
    rw [ih htake, List.cons_append, List.cons_append]
  | case3 c text hescape hmarks =>
    simp only [Bool.and_eq_true, beq_iff_eq] at hmarks
    obtain ⟨rfl, hmarks⟩ := hmarks
    obtain ⟨rfl, rfl⟩ := Prod.mk.inj (Option.some.inj h)
    rw [← List.take_append_drop 2 text, hmarks]
    rfl
  | case4 c text hescape hmarks ih =>
    obtain ⟨⟨inner, more⟩, htake, heq⟩ := Option.map_eq_some_iff.mp h
    obtain ⟨rfl, rfl⟩ := Prod.mk.inj heq
    rw [ih htake, List.cons_append]

theorem readTokens_blank (fuel : Nat) (opened : List String) (rest : List Char) :
    readTokens (fuel + 1) opened (' ' :: rest) = readTokens fuel opened rest := by
  rw [readTokens, if_pos (by decide)]
  all_goals simp

theorem readTokens_tripled (fuel : Nat) (rest : List Char) :
    readTokens (fuel + 1) [] ('"' :: '"' :: '"' :: rest) = (takeLong '"' rest).bind fun p ↦
      (readTokens fuel [] p.2).bind fun q ↦ some (.quote ⟨[], p.1⟩ :: q.1, q.2) := by
  have htoken : readToken ('"' :: '"' :: '"' :: rest) =
      (takeLong '"' rest).bind fun p ↦ some (.quote ⟨[], p.1⟩, p.2) := rfl
  rw [readTokens, if_neg (by decide), htoken]
  · cases takeLong '"' rest <;> rfl
  all_goals simp

/-- A line with four blanks, three marks, a text and three marks. -/
theorem readLine_docstring_iff (h : ¬tripled '"' <:+: text) (more : List Char) :
    readLine ("    ".toList ++ (tripled '"' ++ (text ++ tripled '"')) ++ '\n' :: more) =
      some ([.quote ⟨[], text⟩], more) ↔ Closes '"' text := by
  have hline : "    ".toList ++ (tripled '"' ++ (text ++ tripled '"')) ++ '\n' :: more =
      ' ' :: ' ' :: ' ' :: ' ' :: '"' :: '"' :: '"' :: (text ++ (tripled '"' ++ '\n' :: more)) := by
    simp [tripled]
  rw [hline]
  simp only [readLine, List.length_cons, readTokens_blank, readTokens_tripled]
  rw [← takeLong_append_iff (by decide) h ('\n' :: more)]
  cases htake : takeLong '"' (text ++ (tripled '"' ++ '\n' :: more)) with
  | none => simp
  | some p =>
    obtain ⟨body, rest⟩ := p
    constructor
    · intro hread
      rw [Option.bind_some] at hread
      obtain ⟨q, -, hq⟩ := Option.bind_eq_some_iff.mp hread
      have htoken := (List.cons.inj (Prod.mk.inj (Option.some.inj hq)).1).1
      obtain rfl : body = text := by simpa using htoken
      have hrest := List.append_cancel_left (List.append_cancel_left (eq_of_takeLong htake))
      rw [hrest]
    · intro heq
      obtain ⟨rfl, rfl⟩ := Prod.mk.inj (Option.some.inj heq)
      rfl

/-- Whether a line of a module, with `more` lines after it, is nothing but one string literal with
the given text, and the text stands for something. No module holds the zero character. -/
structure IsLiteralLine (line text more : List Char) : Prop where
  allowed : '\x00' ∉ line
  lone : readLine (line ++ '\n' :: more) = some ([.quote ⟨[], text⟩], more)
  meaningful : (Quote.mk [] text).written?.isSome = true

/-! ## What literals stand for -/

/-- A text that stands for a value, whatever comes after it. -/
def Means (isBytes : Bool) (text value : List Char) : Prop :=
  ∀ (fuel : Nat) (rest : List Char), (text ++ rest).length < fuel → ∃ left, rest.length < left ∧
    unescapeFrom isBytes fuel (text ++ rest) = (unescapeFrom isBytes left rest).map (value ++ ·)

namespace Means

variable {isBytes : Bool}

theorem nil : Means isBytes [] [] :=
  fun fuel rest h ↦ ⟨fuel, h, by simp⟩

theorem append {a b u v : List Char} (ha : Means isBytes a u) (hb : Means isBytes b v) :
    Means isBytes (a ++ b) (u ++ v) := by
  intro fuel rest h
  rw [List.append_assoc] at h ⊢
  obtain ⟨between, hbetween, hfirst⟩ := ha fuel (b ++ rest) h
  obtain ⟨left, hleft, hsecond⟩ := hb between rest hbetween
  exact ⟨left, hleft, by rw [hfirst, hsecond, Option.map_map]; simp [Function.comp_def]⟩

theorem flatMap {α : Type} {write value : α → List Char} {items : List α}
    (h : ∀ a ∈ items, Means isBytes (write a) (value a)) :
    Means isBytes (items.flatMap write) (items.flatMap value) := by
  induction items with
  | nil => exact nil
  | cons a items ih =>
    rw [List.forall_mem_cons] at h
    rw [List.flatMap_cons, List.flatMap_cons]
    exact h.1.append (ih h.2)

/-- A character other than a backslash stands for itself. -/
theorem plain {c : Char} (h : c ≠ '\\') : Means isBytes [c] [c] := by
  intro fuel rest hfuel
  obtain ⟨left, rfl⟩ : ∃ left, fuel = left + 1 := ⟨fuel - 1, by omega⟩
  refine ⟨left, by simpa using hfuel, ?_⟩
  rw [List.singleton_append, unescapeFrom, if_neg (by simpa using h)]
  rfl

theorem escape {text value : List Char}
    (h : ∀ rest, readEscape? isBytes (text ++ rest) = some (value, rest)) :
    Means isBytes ('\\' :: text) value := by
  intro fuel rest hfuel
  obtain ⟨left, rfl⟩ : ∃ left, fuel = left + 1 := ⟨fuel - 1, by omega⟩
  refine ⟨left, by simp at hfuel; omega, ?_⟩
  rw [List.cons_append, unescapeFrom, if_pos (by rfl), h, Option.map_eq_bind]
  rfl

theorem unescape_eq {text value : List Char} (h : Means isBytes text value) :
    unescape isBytes false text = some value := by
  obtain ⟨left, hleft, hread⟩ := h (text.length + 1) [] (by simp)
  rw [List.append_nil] at hread
  obtain ⟨fuel, rfl⟩ : ∃ fuel, left = fuel + 1 := ⟨left - 1, by simp at hleft; omega⟩
  rw [unescape, if_neg (by simp), hread, unescapeFrom]
  simp

end Means

/-! ## Escapes -/

theorem readEscape?_control (isBytes : Bool) {letter control : Char}
    (h : (letter, control) ∈ controls) (rest : List Char) :
    readEscape? isBytes (letter :: rest) = some ([control], rest) := by
  simp only [controls, List.mem_cons, Prod.mk.injEq, List.not_mem_nil, or_false] at h
  rcases h with ⟨rfl, rfl⟩ | ⟨rfl, rfl⟩ | ⟨rfl, rfl⟩ | ⟨rfl, rfl⟩ | ⟨rfl, rfl⟩ | ⟨rfl, rfl⟩ |
    ⟨rfl, rfl⟩ | ⟨rfl, rfl⟩ | ⟨rfl, rfl⟩ | ⟨rfl, rfl⟩ <;> cases isBytes <;> rfl

theorem readCode?_hexPadded {w n : Nat} (h : n < 16 ^ w) (hmax : n ≤ 0x10FFFF) (rest : List Char) :
    readCode? w (Text.hexPadded w n ++ rest) = some ([charAt n], rest) := by
  have hlength := Text.length_hexPadded w n
  have htake : (Text.hexPadded w n ++ rest).take w = Text.hexPadded w n := by
    rw [List.take_append_of_le_length (by omega), List.take_of_length_le (by omega)]
  have hdrop : (Text.hexPadded w n ++ rest).drop w = rest := by
    rw [List.drop_append_of_le_length (by omega), List.drop_of_length_le (by omega),
      List.nil_append]
  rw [readCode?, htake, hdrop, Text.readHex?_hexPadded h]
  simp [hlength, hmax]

/-! ## Complete texts -/

def announced? (letter : Char) : Option Nat :=
  if letter = 'x' then some 2 else if letter = 'u' then some 4 else if letter = 'U' then some 8
  else none

/-- What may stand after a backslash: digits or a name in braces, where a letter announces them, and
any other character by itself. -/
inductive IsEscape : List Char → Prop
  | short {c : Char} (digits : announced? c = none) (name : c ≠ 'N') : IsEscape [c]
  | code {letter : Char} {digits : List Char} {code : Nat}
    (announced : announced? letter = some digits.length)
    (read : Text.readHex? digits = some code) (le : code ≤ 0x10FFFF) : IsEscape (letter :: digits)
  | name {name : List Char} {code : Nat} (closed : '\x7d' ∉ name)
    (found : Text.CharacterName.find? name = some code) :
    IsEscape ('N' :: '\x7b' :: (name ++ ['\x7d']))

/-- A text in which every escape says all that it has to say. A backslash at the very end begins
none. -/
inductive Complete : List Char → Prop
  | nil : Complete []
  | lone : Complete ['\\']
  | plain {c : Char} {rest : List Char} (h : c ≠ '\\') : Complete rest → Complete (c :: rest)
  | escape {text rest : List Char} : IsEscape text → Complete rest →
    Complete ('\\' :: (text ++ rest))

theorem complete_cons_iff {c : Char} (h : c ≠ '\\') : Complete (c :: rest) ↔ Complete rest := by
  refine ⟨fun hc ↦ ?_, .plain h⟩
  cases hc with
  | lone => exact absurd rfl h
  | plain _ hrest => exact hrest
  | escape => exact absurd rfl h

theorem complete_append_iff {front : List Char} (h : '\\' ∉ front) (rest : List Char) :
    Complete (front ++ rest) ↔ Complete rest := by
  induction front with
  | nil => rfl
  | cons c front ih =>
    rw [List.mem_cons, not_or] at h
    rw [List.cons_append, complete_cons_iff (Ne.symm h.1), ih h.2]

theorem complete_escape_iff {c : Char} :
    Complete ('\\' :: c :: rest) ↔
      ∃ text more, IsEscape text ∧ c :: rest = text ++ more ∧ Complete more := by
  constructor
  · intro h
    generalize htext : '\\' :: c :: rest = whole at h
    cases h with
    | nil => cases htext
    | lone => cases htext
    | plain hne => exact absurd (List.cons.inj htext).1.symm hne
    | escape hescape hmore => exact ⟨_, _, hescape, (List.cons.inj htext).2, hmore⟩
  · rintro ⟨text, more, hescape, heq, hmore⟩
    rw [heq]
    exact .escape hescape hmore

theorem complete_short_iff {c : Char} (hdigits : announced? c = none) (hname : c ≠ 'N') :
    Complete ('\\' :: c :: rest) ↔ Complete rest := by
  refine ⟨fun hc ↦ ?_, .escape (.short hdigits hname)⟩
  obtain ⟨text, more, hescape, heq, hmore⟩ := complete_escape_iff.mp hc
  cases hescape with
  | short =>
    rw [(List.cons.inj heq).2]
    exact hmore
  | code announced =>
    rw [← (List.cons.inj heq).1, hdigits] at announced
    cases announced
  | name => exact absurd (List.cons.inj heq).1 hname

theorem readCode?_eq_some_iff {width : Nat} :
    readCode? width rest = some p ↔ ∃ code, width ≤ rest.length ∧
      Text.readHex? (rest.take width) = some code ∧ code ≤ 0x10FFFF ∧
      ([charAt code], rest.drop width) = p := by
  simp [readCode?, Option.bind_eq_some_iff]

theorem complete_code_iff {letter : Char} {width : Nat} (h : announced? letter = some width) :
    Complete ('\\' :: letter :: rest) ↔ ∃ p, readCode? width rest = some p ∧ Complete p.2 := by
  constructor
  · intro hc
    obtain ⟨text, more, hescape, heq, hmore⟩ := complete_escape_iff.mp hc
    cases hescape with
    | short hdigits =>
      rw [← (List.cons.inj heq).1, h] at hdigits
      cases hdigits
    | @code letter digits code announced read le =>
      rw [List.cons_append, List.cons.injEq] at heq
      obtain ⟨rfl, rfl⟩ := heq
      have hwidth : digits.length = width := Option.some.inj (announced.symm.trans h)
      refine ⟨_, readCode?_eq_some_iff.mpr ⟨code, ?_, ?_, le, rfl⟩, ?_⟩
      · simp [hwidth]
      · rw [List.take_left' hwidth, read]
      · rw [List.drop_left' hwidth]
        exact hmore
    | name =>
      rw [(List.cons.inj heq).1] at h
      cases h
  · rintro ⟨p, hread, hmore⟩
    obtain ⟨code, hwidth, hcode, hle, rfl⟩ := readCode?_eq_some_iff.mp hread
    have hlength : (rest.take width).length = width := List.length_take_of_le hwidth
    rw [← List.take_append_drop width rest]
    exact .escape (.code (by rw [h, hlength]) hcode hle) hmore

theorem readName?_name {name : List Char} (h : '\x7d' ∉ name) (more : List Char) :
    readName? ('\x7b' :: (name ++ '\x7d' :: more)) =
      (Text.CharacterName.find? name).map fun code ↦ ([charAt code], more) := by
  have hinside : ∀ c ∈ name, (c != '\x7d') = true := by
    rintro c hc
    rw [bne_iff_ne]
    rintro rfl
    exact h hc
  have htake : (name ++ '\x7d' :: more).takeWhile (· != '\x7d') = name := by
    rw [List.takeWhile_append_of_pos hinside]
    simp
  have hdrop : (name ++ '\x7d' :: more).dropWhile (· != '\x7d') = '\x7d' :: more := by
    rw [List.dropWhile_append_of_pos hinside]
    simp
  cases hfound : Text.CharacterName.find? name <;> simp [readName?, htake, hdrop, hfound]

theorem readName?_eq_some_iff :
    readName? rest = some p ↔ ∃ name more code, rest = '\x7b' :: (name ++ '\x7d' :: more) ∧
      '\x7d' ∉ name ∧ Text.CharacterName.find? name = some code ∧ ([charAt code], more) = p := by
  constructor
  · intro h
    have hshape : ∃ name more, rest = '\x7b' :: (name ++ '\x7d' :: more) ∧ '\x7d' ∉ name := by
      unfold readName? at h
      split at h
      · rename_i rest
        have hmem : '\x7d' ∈ rest := by
          by_contra hmem
          simp [hmem, failure] at h
        obtain ⟨name, more, rfl, hclosed⟩ := List.eq_append_cons_of_mem hmem
        exact ⟨name, more, rfl, hclosed⟩
      · cases h
    obtain ⟨name, more, rfl, hclosed⟩ := hshape
    rw [readName?_name hclosed, Option.map_eq_some_iff] at h
    obtain ⟨code, hfound, hp⟩ := h
    exact ⟨name, more, code, rfl, hclosed, hfound, hp⟩
  · rintro ⟨name, more, code, rfl, hclosed, hfound, rfl⟩
    rw [readName?_name hclosed, hfound, Option.map_some]

theorem complete_name_iff :
    Complete ('\\' :: 'N' :: rest) ↔ ∃ p, readName? rest = some p ∧ Complete p.2 := by
  constructor
  · intro hc
    obtain ⟨text, more, hescape, heq, hmore⟩ := complete_escape_iff.mp hc
    cases hescape with
    | short _ hname => exact absurd (List.cons.inj heq).1.symm hname
    | code announced =>
      rw [← (List.cons.inj heq).1] at announced
      cases announced
    | @name name code closed found =>
      refine ⟨_, readName?_eq_some_iff.mpr ⟨name, more, code, ?_, closed, found, rfl⟩, hmore⟩
      rw [(List.cons.inj heq).2]
      simp
  · rintro ⟨p, hread, hmore⟩
    obtain ⟨name, more, code, rfl, hclosed, hfound, rfl⟩ := readName?_eq_some_iff.mp hread
    have hescape := Complete.escape (.name hclosed hfound) hmore
    simpa using hescape

/-- Up to three octal digits make up an escape; for a complete text those after the first are
characters like any others. -/
theorem complete_octal_iff {c : Char} (h : isOctal c = true) :
    Complete ('\\' :: c :: rest) ↔
      Complete (rest.drop (((c :: rest.take 2).takeWhile isOctal).length - 1)) := by
  have hc : announced? c = none ∧ c ≠ 'N' := by
    have hne (d : Char) (hd : isOctal d = false) : c ≠ d := by
      rintro rfl
      exact absurd h (by simp [hd])
    simp [announced?, hne 'x' rfl, hne 'u' rfl, hne 'U' rfl, hne 'N' rfl]
  have hdigits : (rest.take 2).takeWhile isOctal <+: rest.take 2 := List.takeWhile_prefix _
  have htwo : rest.take 2 <+: rest := List.take_prefix 2 rest
  obtain ⟨more, hmore⟩ := hdigits.trans htwo
  have hslash : '\\' ∉ (rest.take 2).takeWhile isOctal := fun hmem ↦
    absurd (List.mem_takeWhile_imp hmem) (by decide)
  have hdrop : rest.drop ((rest.take 2).takeWhile isOctal).length = more :=
    (congrArg (List.drop _) hmore.symm).trans (List.drop_left' rfl)
  rw [complete_short_iff hc.1 hc.2, List.takeWhile_cons_of_pos h, List.length_cons,
    Nat.add_sub_cancel, hdrop, ← complete_append_iff hslash more, hmore]

theorem complete_backslash_iff :
    Complete ('\\' :: rest) ↔ ∃ p, readEscape? false rest = some p ∧ Complete p.2 := by
  cases rest with
  | nil => exact ⟨fun _ ↦ ⟨_, rfl, .nil⟩, fun _ ↦ .lone⟩
  | cons c rest =>
    rw [readEscape?]
    split
    · rename_i hc
      obtain rfl : c = '\n' := by simpa using hc
      rw [complete_short_iff rfl (by decide)]
      simp
    split
    · rename_i hc
      obtain rfl : c = 'x' := by simpa using hc
      exact complete_code_iff rfl
    split
    · rename_i hc
      obtain rfl : c = 'u' := by simpa using hc
      exact complete_code_iff rfl
    split
    · rename_i hc
      obtain rfl : c = 'U' := by simpa using hc
      exact complete_code_iff rfl
    split
    · rename_i hc
      obtain rfl : c = 'N' := by simpa using hc
      exact complete_name_iff
    split
    · rename_i hc
      rw [complete_octal_iff hc]
      simp
    · rename_i hx hu hU hN _
      have hc : announced? c = none ∧ c ≠ 'N' := by
        simp_all [announced?]
      rw [complete_short_iff hc.1 hc.2]
      split <;> simp

/-- No text is won by reading an escape, so the fuel of `unescapeFrom` is enough. -/
theorem readEscape?_length (h : readEscape? false rest = some p) : p.2.length ≤ rest.length := by
  have hcode {width : Nat} {rest : List Char} (h : readCode? width rest = some p) :
      p.2.length ≤ rest.length := by
    obtain ⟨code, -, -, -, rfl⟩ := readCode?_eq_some_iff.mp h
    simp
  have hname {rest : List Char} (h : readName? rest = some p) : p.2.length ≤ rest.length := by
    obtain ⟨name, more, code, rfl, -, -, rfl⟩ := readName?_eq_some_iff.mp h
    simp
    omega
  unfold readEscape? at h
  repeat' split at h
  all_goals grind

/-- Exactly the complete texts stand for something. -/
theorem isSome_unescapeFrom_iff {fuel : Nat} (h : text.length < fuel) :
    (unescapeFrom false fuel text).isSome = true ↔ Complete text := by
  induction fuel generalizing text with
  | zero => omega
  | succ fuel ih =>
    cases text with
    | nil => exact ⟨fun _ ↦ .nil, fun _ ↦ rfl⟩
    | cons c rest =>
      rw [List.length_cons] at h
      rw [unescapeFrom]
      split
      · rename_i hc
        obtain rfl : c = '\\' := by simpa using hc
        rw [complete_backslash_iff]
        cases hread : readEscape? false rest with
        | none => simp
        | some p =>
          have hlength := readEscape?_length hread
          rw [Option.bind_eq_bind, Option.bind_some]
          have hrest := ih (show p.2.length < fuel by omega)
          cases hmore : unescapeFrom false fuel p.2 <;> simp [hmore, ← hrest]
      · rename_i hc
        rw [Option.isSome_map, ih (by omega), complete_cons_iff (by simpa using hc)]

theorem isSome_unescape_iff : (unescape false false text).isSome = true ↔ Complete text := by
  rw [unescape, if_neg (by decide)]
  exact isSome_unescapeFrom_iff (Nat.lt_succ_self _)

end TextProtocol.Script
