import TextProtocol.Proofs.Script.Literals
import TextProtocol.Proofs.Target.Reading
import TextProtocol.Proofs.Text.Utf8
import TextProtocol.Target.Literal.Python
import TextProtocol.Target.Literal.Rust
import TextProtocol.Target.Literal.TypeScript
import TextProtocol.Target.Parser.Go

/-!
# Faithful literals

A literal in a generated source is `Faithful` if nothing inside it ends it, and if it is read by the
rules of its language as the text or the bytes that it was written for. Literals are written one
character or byte at a time, in one of a few forms each, so it is enough to read these forms.

All literals of texts and bytes are faithful, `literals_faithful`. The patterns of Go are not among
them: they stand between back quotes, where carriage returns do not count, see
`readText_patternLiteral`.
-/

namespace TextProtocol.Json

open Text (Contained)

/-- The letters of the escapes with one letter, and what they stand for. -/
def shortEscapes : List (Char × Char) :=
  [('"', '"'), ('\\', '\\'), ('n', '\n'), ('r', '\r'), ('t', '\t'), ('b', '\x08'), ('f', '\x0c')]

theorem writeChar_cases (alphabet : Alphabet) (c : Char) :
    (∃ letter, (letter, c) ∈ shortEscapes ∧ writeChar alphabet c = ['\\', letter]) ∨
      (c ≠ '"' ∧ c ≠ '\\' ∧ c ≠ '\n' ∧ c ≠ '\r') ∧ writeChar alphabet c = [c] ∨
      c.toNat < 0x10000 ∧ writeChar alphabet c = unitEscape c.toNat ∨
      alphabet = .ascii ∧ 0x10000 ≤ c.toNat ∧
        writeChar alphabet c = unitEscape (0xD800 + (c.toNat - 0x10000) / 0x400) ++
          unitEscape (0xDC00 + (c.toNat - 0x10000) % 0x400) := by
  -- The table says which branch is taken for the characters in it; all others come to the end.
  by_cases hshort : ∃ letter, (letter, c) ∈ shortEscapes
  · obtain ⟨letter, hmem⟩ := hshort
    refine .inl ⟨letter, hmem, ?_⟩
    simp only [shortEscapes, List.mem_cons, Prod.mk.injEq, List.not_mem_nil, or_false] at hmem
    rcases hmem with ⟨rfl, rfl⟩ | ⟨rfl, rfl⟩ | ⟨rfl, rfl⟩ | ⟨rfl, rfl⟩ | ⟨rfl, rfl⟩ | ⟨rfl, rfl⟩ |
      ⟨rfl, rfl⟩ <;> rfl
  · simp only [shortEscapes, List.mem_cons, Prod.mk.injEq, List.not_mem_nil, or_false, exists_or,
      exists_eq_left, not_or] at hshort
    obtain ⟨hquote, hslash, hfeed, hreturn, htab, hback, hpage⟩ := hshort
    have hback : c.toNat ≠ 8 := fun h ↦ hback (Char.toNat_inj.mp h)
    have hpage : c.toNat ≠ 12 := fun h ↦ hpage (Char.toNat_inj.mp h)
    right
    simp only [writeChar, beq_iff_eq, hquote, hslash, hfeed, hreturn, htab, hback, hpage, if_false]
    by_cases hlow : c.toNat < 32
    · exact .inr (.inl ⟨by omega, by rw [if_pos hlow]⟩)
    rw [if_neg hlow]
    by_cases hplain : (alphabet == .unicode || decide (c.toNat < 127)) = true
    · exact .inl ⟨⟨hquote, hslash, hfeed, hreturn⟩, by rw [if_pos hplain]⟩
    rw [if_neg hplain]
    by_cases hunit : c.toNat < 0x10000
    · exact .inr (.inl ⟨hunit, by rw [if_pos hunit]⟩)
    · refine .inr (.inr ⟨?_, by omega, by rw [if_neg hunit]⟩)
      cases alphabet <;> simp_all

theorem contained_unitEscape (n : Nat) : Contained '"' (unitEscape n) :=
  .escape (by decide) (Text.hexPadded_harmless (.inl rfl))

theorem contained_writeChar (alphabet : Alphabet) (c : Char) :
    Contained '"' (writeChar alphabet c) := by
  rcases writeChar_cases alphabet c with ⟨letter, hmem, hw⟩ | ⟨hplain, hw⟩ | ⟨-, hw⟩ |
    ⟨-, -, hw⟩ <;> rw [hw]
  · have hletters : ∀ p ∈ shortEscapes, p.1 ≠ '\n' ∧ p.1 ≠ '\r' := by decide
    exact .escape (hletters _ hmem) (by simp)
  · exact .plain (by simpa using hplain)
  · exact contained_unitEscape _
  · exact (contained_unitEscape _).append (contained_unitEscape _)

theorem toList_writeString (alphabet : Alphabet) (s : String) :
    (writeString alphabet s).toList = '"' :: (s.toList.flatMap (writeChar alphabet) ++ ['"']) := by
  simp [writeString, stringBody]

theorem means_writeChar (c : Char) : Script.Means false (writeChar .unicode c) [c] := by
  rcases writeChar_cases .unicode c with ⟨letter, hmem, hw⟩ | ⟨⟨-, hslash, -, -⟩, hw⟩ | ⟨hlow, hw⟩ |
    ⟨halphabet, -⟩
  · have hcontrols : ∀ p ∈ shortEscapes, p ∈ Script.controls := by decide
    rw [hw]
    exact .escape (Script.readEscape?_control false (hcontrols _ hmem))
  · rw [hw]
    exact .plain hslash
  · have hchar : Script.charAt c.toNat = c := by
      have hvalid := Utf8.toNat_bounds c
      rw [Script.charAt, if_neg (by simp; omega), Char.ofNat_toNat]
    rw [hw]
    refine .escape fun rest ↦ ?_
    have hcode := Script.readCode?_hexPadded (show c.toNat < 16 ^ 4 by omega) (by omega) rest
    rw [hchar] at hcode
    exact hcode
  · cases halphabet

end TextProtocol.Json

namespace TextProtocol.Target

open Text (Contained)

/-- A literal that stands for a value. -/
structure Faithful {α : Type} (opening : List Char) (closing : Char)
    (read : List Char → Option (α × List Char)) (literal : String) (value : α) : Prop where
  /-- Between its delimiters nothing ends the literal, or its line. -/
  enclosed : ∃ body, literal.toList = opening ++ (body ++ [closing]) ∧ Contained closing body
  /-- The literal is read up to its end as the value, wherever no quotation mark follows. -/
  read_eq : ∀ rest, rest.head?.any Script.isMark = false →
    read (literal.toList ++ rest) = some (value, rest)

theorem head_ne_of_any_isMark {rest : List Char} (h : rest.head?.any Script.isMark = false)
    {mark : Char} (hmark : Script.isMark mark = true) : rest.head? ≠ some mark := by
  intro heq
  rw [heq, Option.any_some, hmark] at h
  cases h

/-! ## Text -/

theorem contained_stringBody (alphabet : Json.Alphabet) (s : String) :
    Contained '"' (s.toList.flatMap (Json.writeChar alphabet)) :=
  .flatMap fun c _ ↦ Json.contained_writeChar alphabet c

theorem Python.faithful_text (s : String) :
    Faithful ['"'] '"' Python.readLiteral (Python.literal (.text s)) (.text s.toList) := by
  have hcontained := contained_stringBody .unicode s
  have hmeans : Script.Means false (s.toList.flatMap (Json.writeChar .unicode)) s.toList := by
    simpa using Script.Means.flatMap fun c (_ : c ∈ s.toList) ↦ Json.means_writeChar c
  refine ⟨⟨_, Json.toList_writeString .unicode s, hcontained⟩, fun rest hrest ↦ ?_⟩
  have htoken := Script.readToken_text rfl hcontained (head_ne_of_any_isMark hrest rfl)
  rw [show (Python.literal (.text s)).toList = _ from Json.toList_writeString .unicode s,
    List.cons_append, List.append_assoc, List.singleton_append, Python.readLiteral, htoken]
  simp [Script.Quote.written?, hmeans.unescape_eq]

/-- A written string is read character by character. -/
theorem spells_writeString {q : Quoting} {alphabet : Json.Alphabet} {value : Char → List Nat}
    (hshort : ∀ p ∈ Json.shortEscapes,
      q.short.lookup p.1 = some p.2.toNat ∧ value p.2 = [p.2.toNat])
    (hplain : ∀ c, c ≠ '\n' → c ≠ '\r' → q.plain c = some (value c))
    (hunit : ∀ c : Char, c.toNat < 0x10000 → q.Spells (Json.unitEscape c.toNat) (value c))
    (hpair : ∀ c, alphabet = .ascii → 0x10000 ≤ c.toNat →
      q.Spells (Json.unitEscape (0xD800 + (c.toNat - 0x10000) / 0x400) ++
        Json.unitEscape (0xDC00 + (c.toNat - 0x10000) % 0x400)) (value c)) (s : String) :
    q.Spells (s.toList.flatMap (Json.writeChar alphabet)) (s.toList.flatMap value) := by
  refine .flatMap fun c _ ↦ ?_
  rcases Json.writeChar_cases alphabet c with ⟨letter, hmem, hw⟩ |
    ⟨⟨hquote, hslash, hfeed, hreturn⟩, hw⟩ | ⟨hlow, hw⟩ | ⟨halphabet, hhigh, hw⟩ <;> rw [hw]
  · obtain ⟨hlookup, hvalue⟩ := hshort _ hmem
    rw [hvalue]
    exact .short hlookup
  · exact .plain hquote hslash (hplain c hfeed hreturn)
  · exact hunit c hlow
  · exact hpair c halphabet hhigh

theorem Faithful.of_spells {α : Type} {q : Quoting} (opening : List Char) {body : List Char}
    {literal : String} {read : List Char → Option (α × List Char)} {value : List Nat} {result : α}
    (hlist : literal.toList = opening ++ '"' :: (body ++ ['"'])) (hbody : Contained '"' body)
    (hspells : q.Spells body value)
    (hread : ∀ source rest, q.read source = some (value, rest) →
      read (opening ++ source) = some (result, rest)) :
    Faithful (opening ++ ['"']) '"' read literal result := by
  refine ⟨⟨body, by rw [hlist, List.append_assoc]; rfl, hbody⟩, fun rest _ ↦ ?_⟩
  rw [hlist, List.append_assoc, List.cons_append, List.append_assoc]
  exact hread _ rest (hspells.read_eq rest)

namespace TypeScript

theorem spells_unitEscape {n : Nat} (h : n < 0x10000) : quoting.Spells (Json.unitEscape n) [n] := by
  refine .long rfl fun rest ↦ ?_
  have hhead : (Text.hexPadded 4 n ++ rest).head? ≠ some '\x7b' := by
    obtain ⟨d, digits, hdigits⟩ := List.exists_cons_of_length_pos
      (show 0 < (Text.hexPadded 4 n).length by rw [Text.length_hexPadded]; decide)
    obtain ⟨k, hk, rfl⟩ := Text.exists_of_mem_hexPadded (hdigits ▸ List.mem_cons_self)
    have hbrace : ∀ k < 16, Text.hexDigit k ≠ '\x7b' := by decide
    rw [hdigits]
    simpa using hbrace k hk
  rw [Text.length_hexPadded]
  simp only [quoting, hhead, digits?_hexPadded (show n < 16 ^ 4 by omega)]
  rfl

theorem points_cons {n : Nat} (h : n < 0xD800 ∨ 0xDC00 ≤ n) (more : List Nat) :
    points (n :: more) = n :: points more := by
  cases more with
  | nil => rfl
  | cons low more => rw [points, if_neg (by omega)]

/-- Code units are put together again as the code points that they were taken from. -/
theorem points_flatMap_units (text : List Char) :
    points (text.flatMap fun c ↦ units c.toNat) = text.map Char.toNat := by
  induction text with
  | nil => rfl
  | cons c text ih =>
    have hvalid := Utf8.toNat_bounds c
    rw [List.flatMap_cons, List.map_cons, units]
    by_cases hlow : c.toNat < 0x10000
    · rw [if_pos hlow, List.singleton_append, points_cons (by omega), ih]
    -- Two halves of a pair, which is put together again.
    · have hjoined : 0x10000 + (0xD800 + (c.toNat - 0x10000) / 0x400 - 0xD800) * 0x400 +
          (0xDC00 + (c.toNat - 0x10000) % 0x400 - 0xDC00) = c.toNat := by omega
      rw [if_neg hlow, List.cons_append, List.singleton_append, points, if_pos (by omega), ih,
        hjoined]

theorem faithful_text (s : String) :
    Faithful ['"'] '"' readText (literal (.text s)) (s.toList.map Char.toNat) := by
  have hspells : quoting.Spells (s.toList.flatMap (Json.writeChar .ascii))
      (s.toList.flatMap fun c ↦ units c.toNat) := by
    refine spells_writeString (by decide) ?_ ?_ ?_ s
    · intro c hfeed hreturn
      simp [quoting, hfeed, hreturn]
    · intro c hlow
      rw [units, if_pos hlow]
      exact spells_unitEscape hlow
    · intro c _ hhigh
      have hvalid := Utf8.toNat_bounds c
      rw [units, if_neg (by omega)]
      exact (spells_unitEscape (by omega)).append (spells_unitEscape (by omega))
  refine .of_spells [] (Json.toList_writeString .ascii s) (contained_stringBody .ascii s) hspells
    fun source rest hread ↦ ?_
  rw [List.nil_append, readText, hread, Option.map_some, points_flatMap_units]

end TypeScript

namespace Go

theorem spells_stringBody (s : String) :
    quoting.Spells (s.toList.flatMap (Json.writeChar .unicode))
      ((Utf8.ofString s).map UInt8.toNat) := by
  rw [Utf8.ofString, Utf8.encode, List.map_flatMap]
  refine spells_writeString (by decide) ?_ ?_ ?_ s
  · intro c hfeed _
    simp [quoting, hfeed]
  · intro c hlow
    have hrune : runeBytes c.toNat = some ((Utf8.encodeChar c).map UInt8.toNat) := by
      rw [runeBytes, if_pos (show c.toNat.isValidChar from c.valid), Char.ofNat_toNat]
    refine .long rfl fun rest ↦ ?_
    rw [Text.length_hexPadded]
    simp only [quoting, digits?_hexPadded (show c.toNat < 16 ^ 4 by omega), Option.bind_some, hrune]
    rfl
  · intro c halphabet
    cases halphabet

/-- A quoted literal is not taken for a raw one. -/
theorem readText_of_read {source : List Char} {p : List Nat × List Char}
    (h : quoting.read source = some p) : readText source = some p := by
  cases source with
  | nil => cases h
  | cons c source =>
    by_cases hc : c = '"'
    · rw [← h, hc]
      rfl
    · rw [Quoting.read] at h
      · cases h
      · rintro rest heq
        exact hc (List.cons.inj heq).1

theorem faithful_text (s : String) :
    Faithful ['"'] '"' readText (stringLiteral s) ((Utf8.ofString s).map UInt8.toNat) :=
  .of_spells [] (Json.toList_writeString .unicode s) (contained_stringBody .unicode s)
    (spells_stringBody s) fun _ _ ↦ readText_of_read

end Go

namespace Rust

theorem braced?_append {digits : List Char} (hne : digits ≠ []) (hbrace : '\x7d' ∉ digits)
    (rest : List Char) :
    braced? (digits ++ '\x7d' :: rest) = (Text.readHex? digits).map (·, digits.length) := by
  have hrun : (digits ++ '\x7d' :: rest).takeWhile (· != '\x7d') = digits := by
    rw [List.takeWhile_append_of_pos fun c hc ↦ by simpa using ne_of_mem_of_not_mem hc hbrace]
    simp
  rw [braced?, hrun]
  simp [hne]

theorem stringChar_cases (c : Char) :
    (∃ letter, (letter, c.toNat) ∈ shortEscapes ∧ stringChar c = ['\\', letter]) ∨
      (c ≠ '"' ∧ c ≠ '\\' ∧ c ≠ '\n' ∧ c ≠ '\r') ∧ stringChar c = [c] ∨
      c.toNat < 128 ∧
        stringChar c = '\\' :: 'u' :: '\x7b' :: (Nat.toDigits 16 c.toNat ++ ['\x7d']) := by
  by_cases hquote : c = '"'
  · exact .inl ⟨'"', by subst hquote; decide, by subst hquote; rfl⟩
  by_cases hslash : c = '\\'
  · exact .inl ⟨'\\', by subst hslash; decide, by subst hslash; rfl⟩
  by_cases hfeed : c = '\n'
  · exact .inl ⟨'n', by subst hfeed; decide, by subst hfeed; rfl⟩
  by_cases hreturn : c = '\r'
  · exact .inl ⟨'r', by subst hreturn; decide, by subst hreturn; rfl⟩
  by_cases htab : c = '\t'
  · exact .inl ⟨'t', by subst htab; decide, by subst htab; rfl⟩
  simp only [stringChar, beq_iff_eq, hquote, hslash, hfeed, hreturn, htab, if_false]
  by_cases hzero : c.toNat = 0
  · exact .inl ⟨'0', by rw [hzero]; decide, by rw [if_pos hzero]⟩
  right
  rw [if_neg hzero]
  by_cases hcontrol : (decide (c.toNat < 0x20) || c.toNat == 0x7F) = true
  · refine .inr ⟨?_, by rw [if_pos hcontrol]; rfl⟩
    simp only [Bool.or_eq_true, decide_eq_true_eq, beq_iff_eq] at hcontrol
    omega
  · exact .inl ⟨⟨hquote, hslash, hfeed, hreturn⟩, by rw [if_neg hcontrol]⟩

theorem shortEscapes_spec : ∀ p ∈ shortEscapes,
    shortEscapes.lookup p.1 = some p.2 ∧ p.1 ≠ '\n' ∧ p.1 ≠ '\r' := by
  decide

theorem toDigits_braced {n : Nat} (h : n < 128) :
    Text.readHex? (Nat.toDigits 16 n) = some n ∧ (Nat.toDigits 16 n).length ≤ 6 ∧
      Nat.toDigits 16 n ≠ [] ∧
      (Nat.toDigits 16 n).all (fun c ↦ (Text.hexValue? c).isSome) = true := by
  revert n
  decide +kernel

theorem harmless_of_isSome {c : Char} (h : (Text.hexValue? c).isSome = true) :
    c ≠ '\x7d' ∧ c ≠ '"' ∧ c ≠ '\\' ∧ c ≠ '\n' ∧ c ≠ '\r' := by
  refine ⟨?_, ?_, ?_, ?_, ?_⟩ <;> rintro rfl <;> cases h

theorem contained_stringChar (c : Char) : Contained '"' (stringChar c) := by
  rcases stringChar_cases c with ⟨letter, hmem, hw⟩ | ⟨hplain, hw⟩ | ⟨hlow, hw⟩ <;> rw [hw]
  · exact .escape (shortEscapes_spec _ hmem).2 (by simp)
  · exact .plain (by simpa using hplain)
  · have hdigits := List.all_eq_true.mp (toDigits_braced hlow).2.2.2
    refine .escape (by decide) ?_
    rw [List.forall_mem_cons, List.forall_mem_append]
    exact ⟨by decide, fun d hd ↦ (harmless_of_isSome (hdigits d hd)).2, by simp⟩

theorem spells_stringChar (c : Char) : quoting.Spells (stringChar c) [c.toNat] := by
  rcases stringChar_cases c with ⟨letter, hmem, hw⟩ | ⟨⟨hquote, hslash, -, hreturn⟩, hw⟩ |
    ⟨hlow, hw⟩ <;> rw [hw]
  · exact .short (shortEscapes_spec _ hmem).1
  · exact .plain hquote hslash (by simp [quoting, hreturn])
  · obtain ⟨hvalue, hlength, hne, hchars⟩ := toDigits_braced hlow
    refine .long rfl fun rest ↦ ?_
    have hbrace : '\x7d' ∉ Nat.toDigits 16 c.toNat := fun hmem ↦
      (harmless_of_isSome (List.all_eq_true.mp hchars _ hmem)).1 rfl
    have hbraced := braced?_append hne hbrace rest
    have hvalid : c.toNat.isValidChar := c.valid
    simp [quoting, hbraced, hvalue, hlength, hvalid]

theorem faithful_text (s : String) :
    Faithful ['"'] '"' quoting.read (stringLiteral s) (s.toList.map Char.toNat) := by
  have hspells : quoting.Spells (s.toList.flatMap stringChar) (s.toList.map Char.toNat) := by
    rw [List.map_eq_flatMap]
    exact .flatMap fun c _ ↦ spells_stringChar c
  exact .of_spells [] (by simp [stringLiteral]) (.flatMap fun c _ ↦ contained_stringChar c) hspells
    fun _ _ ↦ id

end Rust

/-! ## Bytes between marks -/

/-- The letters of the escapes with one letter in byte strings, and what they stand for. -/
def byteEscapes : List (Char × Char) :=
  [('"', '"'), ('\'', '\''), ('\\', '\\'), ('n', '\n'), ('r', '\r'), ('t', '\t')]

/-- The ways to write a byte between two marks. -/
inductive ByteForm (mark : Char) (b : UInt8) : List Char → Prop
  | short (letter : Char) (mem : (letter, Char.ofNat b.toNat) ∈ byteEscapes) :
    ByteForm mark b ['\\', letter]
  | plain (ascii : b < 0x7F) (harmless : Char.ofNat b.toNat ≠ mark ∧ Char.ofNat b.toNat ≠ '\\' ∧
      Char.ofNat b.toNat ≠ '\n' ∧ Char.ofNat b.toNat ≠ '\r') :
    ByteForm mark b [Char.ofNat b.toNat]
  | hex : ByteForm mark b ('\\' :: 'x' :: Text.hexPadded 2 b.toNat)

namespace ByteForm

variable {mark : Char} {b : UInt8} {text : List Char}

theorem contained (hmark : mark = '"' ∨ mark = '\'') (h : ByteForm mark b text) :
    Contained mark text := by
  cases h with
  | short letter mem =>
    have hletters : ∀ p ∈ byteEscapes, p.1 ≠ '\n' ∧ p.1 ≠ '\r' := by decide
    exact .escape (hletters _ mem) (by simp)
  | plain _ harmless => exact .plain (by simpa using harmless)
  | hex => exact .escape (by decide) (Text.hexPadded_harmless hmark)

theorem isAscii (h : ByteForm mark b text) : ∀ c ∈ text, c.toNat < 128 := by
  cases h with
  | short letter mem =>
    have hletters : ∀ p ∈ byteEscapes, p.1.toNat < 128 := by decide
    simpa using hletters _ mem
  | plain ascii _ =>
    rw [List.forall_mem_singleton, Utf8.toNat_ofNat_char (by have := b.toNat_lt; omega)]
    exact Nat.lt_trans (UInt8.lt_iff_toNat_lt.mp ascii) (by decide)
  | hex =>
    have hdigits : ∀ k < 16, (Text.hexDigit k).toNat < 128 := by decide
    rw [List.forall_mem_cons, List.forall_mem_cons]
    refine ⟨by decide, by decide, fun c hc ↦ ?_⟩
    obtain ⟨k, hk, rfl⟩ := Text.exists_of_mem_hexPadded hc
    exact hdigits k hk

theorem means (h : ByteForm mark b text) : Script.Means true text [Char.ofNat b.toNat] := by
  cases h with
  | short letter mem =>
    have hcontrols : ∀ p ∈ byteEscapes, p ∈ Script.controls := by decide
    exact .escape (Script.readEscape?_control true (hcontrols _ mem))
  | plain _ harmless => exact .plain harmless.2.1
  | hex =>
    have hlt := b.toNat_lt
    have hchar : Script.charAt b.toNat = Char.ofNat b.toNat := by
      rw [Script.charAt, if_neg (by simp; omega)]
    refine .escape fun rest ↦ ?_
    have hcode := Script.readCode?_hexPadded (show b.toNat < 16 ^ 2 by omega) (by omega) rest
    rw [hchar] at hcode
    exact hcode

theorem spells (h : ByteForm '"' b text) : Rust.byteQuoting.Spells text [b.toNat] := by
  have hlt := b.toNat_lt
  have hchar : (Char.ofNat b.toNat).toNat = b.toNat := Utf8.toNat_ofNat_char (by omega)
  cases h with
  | short letter mem =>
    have hletters : ∀ p ∈ byteEscapes, Rust.shortEscapes.lookup p.1 = some p.2.toNat := by decide
    rw [← hchar]
    exact .short (hletters _ mem)
  | plain ascii harmless =>
    have hascii : b.toNat < 127 := UInt8.lt_iff_toNat_lt.mp ascii
    refine .plain harmless.1 harmless.2.1 ?_
    simp only [Rust.byteQuoting, hchar]
    rw [if_neg (not_or.mpr ⟨harmless.2.2.2, by omega⟩)]
  | hex =>
    refine .long rfl fun rest ↦ ?_
    rw [Text.length_hexPadded]
    simp only [Rust.byteQuoting, digits?_hexPadded (show b.toNat < 16 ^ 2 by omega)]
    rfl

end ByteForm

theorem byteForm_quotedByte {mark : Char} (hmark : mark = '"' ∨ mark = '\'') (b : UInt8) :
    ByteForm mark b (Text.quotedByte mark b) := by
  have hmarks (c : Char) (h : c = mark ∨ c = '\\') : (c, c) ∈ byteEscapes := by
    rcases hmark with rfl | rfl <;> rcases h with rfl | rfl <;> decide
  simp only [Text.quotedByte, Bool.or_eq_true, beq_iff_eq, Bool.and_eq_true, decide_eq_true_eq]
  split
  next h => exact .short _ (hmarks _ h)
  next hself =>
  split
  next h => exact .short 'n' (by rw [h]; decide)
  next hfeed =>
  split
  next h => exact .short 'r' (by rw [h]; decide)
  next hreturn =>
  split
  next h => exact .short 't' (by rw [h]; decide)
  split
  next h => exact .plain h.2 ⟨fun hc ↦ hself (.inl hc), fun hc ↦ hself (.inr hc), hfeed, hreturn⟩
  · exact .hex

theorem Rust.byteForm_byteChars (b : UInt8) : ByteForm '"' b (byteChars b) := by
  simp only [byteChars, Bool.or_eq_true, beq_iff_eq, Bool.and_eq_true, decide_eq_true_eq]
  split
  next h => exact .short _ (by rcases h with h | h <;> rw [h] <;> decide)
  next hself =>
  split
  next h =>
    have hprintable : ∀ c : Char, c.toNat < 32 → Char.ofNat b.toNat ≠ c := by
      rintro c hc rfl
      rw [Utf8.toNat_ofNat_char (by have := b.toNat_lt; omega)] at hc
      exact absurd (UInt8.le_iff_toNat_le.mp h.1) (Nat.not_le.mpr hc)
    exact .plain h.2 ⟨fun hc ↦ hself (.inl hc), fun hc ↦ hself (.inr hc),
      hprintable _ (by decide), hprintable _ (by decide)⟩
  · exact .hex

theorem Python.faithful_bytes (data : List UInt8) : ∃ mark,
    Faithful ['b', mark] mark Python.readLiteral (Python.literal (.bytes data))
      (.bytes (data.map fun b ↦ Char.ofNat b.toNat)) := by
  let mark := Text.quoteFor (data.contains 0x27) (data.contains 0x22)
  have hmark : mark = '"' ∨ mark = '\'' := by
    simp only [mark, Text.quoteFor]
    split <;> simp
  have hforms (b : UInt8) : ByteForm mark b (Text.quotedByte mark b) := byteForm_quotedByte hmark b
  have hlist : (Python.literal (.bytes data)).toList =
      'b' :: mark :: (data.flatMap (Text.quotedByte mark) ++ [mark]) := by
    simp [Python.literal, Text.quotedBytes, mark]
  have hcontained : Contained mark (data.flatMap (Text.quotedByte mark)) :=
    .flatMap fun b _ ↦ (hforms b).contained hmark
  have hmeans : Script.Means true (data.flatMap (Text.quotedByte mark))
      (data.map fun b ↦ Char.ofNat b.toNat) := by
    rw [List.map_eq_flatMap]
    exact .flatMap fun b _ ↦ (hforms b).means
  have hascii : (data.flatMap (Text.quotedByte mark)).all (·.toNat < 128) = true := by
    rw [List.all_eq_true]
    intro c hc
    obtain ⟨b, -, hc⟩ := List.mem_flatMap.mp hc
    exact decide_eq_true ((hforms b).isAscii c hc)
  have hisMark : Script.isMark mark = true := by
    rcases hmark with h | h <;> rw [h] <;> rfl
  refine ⟨mark, ⟨_, hlist, hcontained⟩, fun rest hrest ↦ ?_⟩
  have htoken := Script.readToken_bytes hisMark hcontained (head_ne_of_any_isMark hrest hisMark)
  rw [hlist, List.cons_append, List.cons_append, List.append_assoc, List.singleton_append,
    Python.readLiteral, htoken]
  simp [Script.Quote.written?, hascii, hmeans.unescape_eq]

theorem Rust.faithful_bytes (data : List UInt8) :
    Faithful ['b', '"'] '"' readBytes (bytesOf data) (data.map UInt8.toNat) := by
  have hspells : byteQuoting.Spells (data.flatMap byteChars) (data.map UInt8.toNat) := by
    rw [List.map_eq_flatMap]
    exact .flatMap fun b _ ↦ (byteForm_byteChars b).spells
  have hbody : Contained '"' (data.flatMap byteChars) :=
    .flatMap fun b _ ↦ (byteForm_byteChars b).contained (.inl rfl)
  exact .of_spells ['b'] (by simp [bytesOf]) hbody hspells fun _ _ ↦ id

/-! ## Bytes in rows -/

section Rows

variable {number : List Char → Option Nat} {closing : Char}

theorem readRow_append {digits : List Char} (h : ∀ c ∈ digits, c ≠ closing ∧ c ≠ ',' ∧ c ≠ ' ')
    (run rest : List Char) :
    readRow number closing run (digits ++ rest) =
      readRow number closing (digits.reverse ++ run) rest := by
  induction digits generalizing run with
  | nil => rfl
  | cons c digits ih =>
    rw [List.forall_mem_cons] at h
    obtain ⟨⟨hclosing, hcomma, hblank⟩, hdigits⟩ := h
    rw [List.cons_append, readRow, if_neg hclosing, if_neg hcomma,
      if_neg fun hc ↦ hblank hc.1, ih hdigits]
    simp

/-- Numbers with commas and blanks between them are read back. -/
theorem readRow_intercalate {write : UInt8 → String} (hcomma : closing ≠ ',')
    (hblank : closing ≠ ' ')
    (hwrite : ∀ b, (write b).toList ≠ [] ∧ number (write b).toList = some b.toNat ∧
      ∀ c ∈ (write b).toList, c ≠ closing ∧ c ≠ ',' ∧ c ≠ ' ') (data : List UInt8)
    (rest : List Char) :
    readRow number closing [] ((", ".intercalate (data.map write)).toList ++ closing :: rest) =
      some (data.map UInt8.toNat, rest) := by
  induction data with
  | nil => simp [readRow]
  | cons b data ih =>
    obtain ⟨hne, hnumber, hchars⟩ := hwrite b
    cases data with
    | nil =>
      rw [List.map_singleton, String.intercalate_singleton, readRow_append hchars, readRow,
        if_pos rfl, if_neg (by simpa using hne)]
      simp [hnumber]
    | cons d data =>
      -- The comma ends the number, and the blank is skipped in front of the next one.
      have hbetween : ", ".toList = [',', ' '] := rfl
      rw [List.map_cons, List.map_cons, String.intercalate_cons_cons, String.toList_append,
        String.toList_append, List.append_assoc, List.append_assoc, readRow_append hchars,
        ← List.map_cons, hbetween, List.cons_append, readRow, if_neg hcomma.symm, if_pos rfl,
        List.append_nil, List.reverse_reverse, hnumber, Option.bind_some, List.cons_append, readRow,
        if_neg hblank.symm, if_neg (by decide), if_pos ⟨rfl, rfl⟩, List.nil_append, ih]
      rfl

theorem contained_intercalate {write : UInt8 → String} (hcomma : closing ≠ ',')
    (hblank : closing ≠ ' ')
    (h : ∀ b, Contained closing (write b).toList) (data : List UInt8) :
    Contained closing (", ".intercalate (data.map write)).toList := by
  induction data with
  | nil => exact .nil
  | cons b data ih =>
    cases data with
    | nil => simpa using h b
    | cons d data =>
      have hbetween : Contained closing [',', ' '] :=
        .plain (by simpa using ⟨hcomma.symm, hblank.symm⟩)
      rw [List.map_cons, List.map_cons, String.intercalate_cons_cons, String.toList_append,
        String.toList_append, ← List.map_cons]
      exact ((h b).append hbetween).append ih

/-- A row of numbers between brackets stands for the bytes that it is written for. -/
theorem faithful_row {opening : String} {write : UInt8 → String} (hcomma : closing ≠ ',')
    (hblank : closing ≠ ' ')
    (hwrite : ∀ b, (write b).toList ≠ [] ∧ number (write b).toList = some b.toNat ∧
      ∀ c ∈ (write b).toList, (c ≠ ',' ∧ c ≠ ' ') ∧ c ≠ closing ∧ c ≠ '\\' ∧ c ≠ '\n' ∧ c ≠ '\r')
    (data : List UInt8) :
    Faithful opening.toList closing (readBracketed opening number closing)
      (opening ++ ", ".intercalate (data.map write) ++ String.singleton closing)
      (data.map UInt8.toNat) := by
  have hlist : (opening ++ ", ".intercalate (data.map write) ++ String.singleton closing).toList =
      opening.toList ++ ((", ".intercalate (data.map write)).toList ++ [closing]) := by
    simp
  have hchars (b : UInt8) : ∀ c ∈ (write b).toList, c ≠ closing ∧ c ≠ ',' ∧ c ≠ ' ' := by
    intro c hc
    obtain ⟨hbetween, hclosing, -⟩ := (hwrite b).2.2 c hc
    exact ⟨hclosing, hbetween⟩
  refine ⟨⟨_, hlist, contained_intercalate hcomma hblank
    (fun b ↦ .plain fun c hc ↦ ((hwrite b).2.2 c hc).2) data⟩, fun rest _ ↦ ?_⟩
  rw [hlist, List.append_assoc, List.append_assoc, readBracketed, if_pos (by simp),
    List.drop_left, List.singleton_append]
  exact readRow_intercalate hcomma hblank
    (fun b ↦ ⟨(hwrite b).1, (hwrite b).2.1, hchars b⟩) data rest

end Rows

theorem Go.faithful_bytes (data : List UInt8) :
    Faithful "[]byte\x7b".toList '\x7d' readBytes (bytesOf data) (data.map UInt8.toNat) := by
  refine faithful_row (by decide) (by decide) (fun b ↦ ?_) data
  have hlt := b.toNat_lt
  have hdigits : ∀ k < 16, (Text.hexDigit k ≠ ',' ∧ Text.hexDigit k ≠ ' ') ∧
      Text.hexDigit k ≠ '\x7d' ∧ Text.hexDigit k ≠ '\\' ∧ Text.hexDigit k ≠ '\n' ∧
      Text.hexDigit k ≠ '\r' := by decide
  have hne : Text.hexPadded 2 b.toNat ≠ [] :=
    List.ne_nil_of_length_pos (by rw [Text.length_hexPadded]; decide)
  have hshown : ("0x" ++ String.ofList (Text.hexPadded 2 b.toNat)).toList =
      '0' :: 'x' :: Text.hexPadded 2 b.toNat := by simp
  rw [hshown]
  refine ⟨List.cons_ne_nil _ _, ?_, ?_⟩
  · rw [byte?, if_neg hne, Text.readHex?_hexPadded (by omega)]
    exact Option.filter_some_pos (decide_eq_true hlt)
  · rw [List.forall_mem_cons, List.forall_mem_cons]
    refine ⟨by decide, by decide, fun c hc ↦ ?_⟩
    obtain ⟨k, hk, rfl⟩ := Text.exists_of_mem_hexPadded hc
    exact hdigits k hk

theorem numeral_of_decimal? {digits : List Char} {n : Nat} (h : decimal? digits = some n) :
    digits ≠ [] ∧ ∀ c ∈ digits, c.isDigit = true := by
  rw [decimal?] at h
  split at h
  next hdigits => exact ⟨hdigits.1, List.all_eq_true.mp hdigits.2.1⟩
  next => cases h

theorem TypeScript.faithful_bytes (data : List UInt8) :
    Faithful "Uint8Array.of(".toList ')' readBytes (bytesOf data) (data.map UInt8.toNat) := by
  have hdecimal : ∀ n < 256, decimal? (Nat.toDigits 10 n) = some n := by decide +kernel
  refine faithful_row (by decide) (by decide) (fun b ↦ ?_) data
  have hlt : b.toNat < 256 := b.toNat_lt
  have hshown : (toString b.toNat).toList = Nat.toDigits 10 b.toNat := Nat.toList_repr
  rw [hshown]
  obtain ⟨hne, hdigits⟩ := numeral_of_decimal? (hdecimal b.toNat hlt)
  refine ⟨hne, ?_, fun c hc ↦ ?_⟩
  · rw [hdecimal b.toNat hlt, Option.map_some, Nat.mod_eq_of_lt hlt]
  · have hdigit := hdigits c hc
    refine ⟨⟨?_, ?_⟩, ?_, ?_, ?_, ?_⟩ <;> rintro rfl <;> cases hdigit

/-- Every literal stands for the text or the bytes that it is written for. -/
theorem literals_faithful (s : String) (data : List UInt8) :
    (Faithful ['"'] '"' Python.readLiteral (Python.literal (.text s)) (.text s.toList) ∧
      Faithful ['"'] '"' TypeScript.readText (TypeScript.literal (.text s))
        (s.toList.map Char.toNat) ∧
      Faithful ['"'] '"' Go.readText (Go.stringLiteral s) ((Utf8.ofString s).map UInt8.toNat) ∧
      Faithful ['"'] '"' Rust.quoting.read (Rust.stringLiteral s) (s.toList.map Char.toNat)) ∧
    (∃ mark, Faithful ['b', mark] mark Python.readLiteral (Python.literal (.bytes data))
      (.bytes (data.map fun b ↦ Char.ofNat b.toNat))) ∧
    Faithful "Uint8Array.of(".toList ')' TypeScript.readBytes (TypeScript.bytesOf data)
      (data.map UInt8.toNat) ∧
    Faithful "[]byte\x7b".toList '\x7d' Go.readBytes (Go.bytesOf data) (data.map UInt8.toNat) ∧
    Faithful ['b', '"'] '"' Rust.readBytes (Rust.bytesOf data) (data.map UInt8.toNat) :=
  ⟨⟨Python.faithful_text s, TypeScript.faithful_text s, Go.faithful_text s, Rust.faithful_text s⟩,
    Python.faithful_bytes data, TypeScript.faithful_bytes data, Go.faithful_bytes data,
    Rust.faithful_bytes data⟩

/-! ## Patterns in Go -/

namespace Go

/-- Between back quotes everything but carriage returns stands for itself. -/
theorem readRaw_append {text : List Char} (h : '\x60' ∉ text) (rest : List Char) :
    readRaw (text ++ '\x60' :: rest) =
      some ((Utf8.encode (text.filter (· ≠ '\r'))).map UInt8.toNat, rest) := by
  induction text with
  | nil => rfl
  | cons c text ih =>
    rw [List.mem_cons, not_or] at h
    rw [List.cons_append, readRaw, if_neg (Ne.symm h.1), ih h.2]
    by_cases hc : c = '\r'
    · simp [hc]
    · simp [hc, Utf8.encode_cons]

def kept (pattern : List Char) : List Char :=
  if '\x60' ∈ pattern then pattern else pattern.filter (· ≠ '\r')

theorem kept_eq_self_iff {pattern : List Char} :
    kept pattern = pattern ↔ '\x60' ∈ pattern ∨ '\r' ∉ pattern := by
  by_cases hquote : '\x60' ∈ pattern
  · simp [kept, hquote]
  · rw [kept, if_neg hquote, List.filter_eq_self, or_iff_right hquote]
    exact ⟨fun h hmem ↦ by simpa using h _ hmem,
      fun h c hc ↦ by simpa using ne_of_mem_of_not_mem hc h⟩

theorem readText_eq_kept (pattern : String) (rest : List Char) :
    readText ((patternLiteral pattern).toList ++ rest) =
      some ((Utf8.encode (kept pattern.toList)).map UInt8.toNat, rest) := by
  rw [patternLiteral, kept]
  by_cases hquote : '\x60' ∈ pattern.toList
  · rw [if_pos (by simpa using hquote), if_pos hquote]
    apply readText_of_read
    rw [stringLiteral, Json.toList_writeString, List.cons_append, List.append_assoc]
    exact (spells_stringBody pattern).read_eq rest
  · rw [if_neg (by simpa using hquote), if_neg hquote, String.toList_append,
      String.toList_append, List.append_assoc, List.append_assoc]
    exact readRaw_append hquote rest

theorem bytes_eq_iff {a b : List Char} :
    (Utf8.encode a).map UInt8.toNat = (Utf8.encode b).map UInt8.toNat ↔ a = b := by
  rw [List.map_inj_right fun _ _ ↦ UInt8.toNat_inj.mp]
  refine ⟨fun h ↦ ?_, congrArg Utf8.encode⟩
  have hdecoded := congrArg Utf8.decode? h
  rw [Utf8.decode?_encode, Utf8.decode?_encode] at hdecoded
  exact Option.some.inj hdecoded

theorem mem_patternLines {p : Package} {e : Message × Field} (he : e ∈ p.patterns)
    {pattern : String} (hpattern : e.2.info.constraints.pattern = some pattern) :
    s!"\t{patternVariable e.1 e.2} = regexp.MustCompile({patternLiteral pattern})" ∈
      patternLines p := by
  have hline : s!"\t{patternVariable e.1 e.2} = regexp.MustCompile({patternLiteral pattern})" =
      (fun e : Message × Field ↦
        let source := patternLiteral (e.2.info.constraints.pattern.getD "")
        s!"\t{patternVariable e.1 e.2} = regexp.MustCompile({source})") e := by
    simp only [hpattern, Option.getD_some]
  rw [patternLines, linesIf, List.isEmpty_eq_false_iff_exists_mem.mpr ⟨e, he⟩, hline]
  exact List.mem_append_left _ (List.mem_append_right _ (List.mem_map_of_mem he))

/-- A pattern without back quotes loses its carriage returns. The pattern that is compiled is the
one of the field if and only if it has a back quote, or no carriage return. -/
theorem readText_patternLiteral (pattern : String) (rest : List Char) :
    readText ((patternLiteral pattern).toList ++ rest) =
        some ((Utf8.encode (kept pattern.toList)).map UInt8.toNat, rest) ∧
      (readText ((patternLiteral pattern).toList ++ rest) =
          some ((Utf8.ofString pattern).map UInt8.toNat, rest) ↔
        '\x60' ∈ pattern.toList ∨ '\r' ∉ pattern.toList) ∧
      ∀ (p : Package), ∀ e ∈ p.patterns, e.2.info.constraints.pattern = some pattern →
        s!"\t{patternVariable e.1 e.2} = regexp.MustCompile({patternLiteral pattern})" ∈
          patternLines p := by
  refine ⟨readText_eq_kept pattern rest, ?_, fun p e he ↦ mem_patternLines he⟩
  rw [readText_eq_kept, Utf8.ofString, Option.some.injEq, Prod.mk.injEq, and_iff_left rfl,
    bytes_eq_iff, kept_eq_self_iff]

/-- A carriage return is lost. -/
theorem patternLiteral_loses_return :
    readText (patternLiteral "a\r?").toList = some ([97, 63], []) ∧
      Utf8.ofString "a\r?" = [97, 13, 63] := by
  have hliteral : patternLiteral "a\r?" = "\x60a\r?\x60" := by
    rw [patternLiteral, if_neg (by simp)]
    rfl
  rw [hliteral]
  decide

end Go

end TextProtocol.Target
