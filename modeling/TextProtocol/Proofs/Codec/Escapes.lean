import TextProtocol.Codec.Parse
import TextProtocol.Codec.Serialize
import TextProtocol.Proofs.Format.Printing
import TextProtocol.Proofs.Text.Utf8

/-!
# Escapes on the wire

Literal text, delimiters and terminators name bytes by two hexadecimal digits. Such an escape is
resolved to a character, and characters are sent in UTF-8: what is sent and expected for an escape
is the byte that it names below `80`, and two other bytes from there on. `onWire_unescape` says so
of every text of ASCII characters and escapes, wherever it is written.
-/

namespace TextProtocol.Format

/-- An ASCII character other than the backslash, or an escape by two digits. -/
inductive Sign where
  | plain (c : Char) (ascii : c.toNat < 0x80) (bare : c ≠ '\\')
  | hex (high low : Char) (h l : Nat) (high_eq : Text.hexValue? high = some h)
    (low_eq : Text.hexValue? low = some l)

namespace Sign

def written : Sign → List Char
  | .plain c _ _ => [c]
  | .hex high low _ _ _ _ => ['\\', 'x', high, low]

def code : Sign → Nat
  | .plain c _ _ => c.toNat
  | .hex _ _ h l _ _ => 16 * h + l

def byte (s : Sign) : UInt8 :=
  UInt8.ofNat s.code

def sent (s : Sign) : List UInt8 :=
  if s.byte < 0x80 then [s.byte] else [0xC0 + s.byte / 0x40, 0x80 + s.byte % 0x40]

theorem code_lt (s : Sign) : s.code < 0x100 := by
  cases s with
  | plain c ascii _ => exact Nat.lt_trans ascii (by decide)
  | hex high low h l high_eq low_eq =>
    have hdigit {c : Char} {k : Nat} (hc : Text.hexValue? c = some k) : k < 16 := by
      simp only [Text.hexValue?] at hc
      grind
    have hhigh := hdigit high_eq
    have hlow := hdigit low_eq
    rw [code]
    omega

/-- An escape is resolved to the character with its number. -/
theorem unescapeChars_written (s : Sign) (rest : List Char) :
    unescapeChars (s.written ++ rest) = Char.ofNat s.code :: unescapeChars rest := by
  cases s with
  | plain c _ bare =>
    rw [written, List.singleton_append, unescapeChars_of_ne bare, code, Char.ofNat_toNat]
  | hex high low h l high_eq low_eq =>
    have hescape : hexEscape? high low = some (Char.ofNat (16 * h + l)) := by
      simp [hexEscape?, high_eq, low_eq]
    rw [written, List.cons_append, List.cons_append, List.cons_append, List.singleton_append,
      unescapeChars, hescape]
    rfl

theorem encodeChar_code (s : Sign) : Utf8.encodeChar (Char.ofNat s.code) = s.sent := by
  have hall : ∀ n < 0x100, Utf8.encodeChar (Char.ofNat n) =
      if UInt8.ofNat n < 0x80 then [UInt8.ofNat n]
      else [0xC0 + UInt8.ofNat n / 0x40, 0x80 + UInt8.ofNat n % 0x40] := by
    decide +kernel
  exact hall s.code s.code_lt

theorem ofString_unescape (signs : List Sign) :
    Utf8.ofString (unescape (String.ofList (signs.flatMap written))) = signs.flatMap sent := by
  have hchars : unescapeChars (signs.flatMap written) = signs.map (Char.ofNat ·.code) := by
    induction signs with
    | nil => rfl
    | cons s signs ih => rw [List.flatMap_cons, unescapeChars_written, ih, List.map_cons]
  rw [Utf8.ofString, unescape, String.toList_ofList, String.toList_ofList, hchars, Utf8.encode,
    List.flatMap_map]
  exact List.flatMap_congr fun s _ ↦ encodeChar_code s

theorem length_flatMap_sent (signs : List Sign) :
    (signs.flatMap sent).length = signs.length + signs.countP (¬·.byte < 0x80) := by
  induction signs with
  | nil => rfl
  | cons s signs ih =>
    rw [List.flatMap_cons, List.length_append, ih, List.length_cons, List.countP_cons, sent]
    by_cases hs : s.byte < 0x80
    · simp [hs]
      omega
    · simp [hs]
      omega

/-- Signs are sent as the bytes that they name if and only if all of these are below `80`. -/
theorem flatMap_sent_eq_iff (signs : List Sign) :
    signs.flatMap sent = signs.map byte ↔ ∀ s ∈ signs, s.byte < 0x80 := by
  constructor
  -- The bytes themselves do not tell, since `c3` is sent as two bytes with itself as the first. But
  -- there are too many of them.
  · intro heq
    have hlength := length_flatMap_sent signs
    rw [heq, List.length_map] at hlength
    have hcount : signs.countP (¬·.byte < 0x80) = 0 := by omega
    simpa using List.countP_eq_zero.mp hcount
  · intro hall
    rw [List.map_eq_flatMap]
    exact List.flatMap_congr fun s hs ↦ if_pos (hall s hs)

/-- A sign that is no brace, as literal text of a format. -/
theorem exists_glyphs_of_written {s : Sign} (h : s.written ≠ ['\x7b'] ∧ s.written ≠ ['\x7d']) :
    ∃ run : List Glyph, run ≠ [] ∧ run.flatMap Glyph.source = s.written := by
  cases s with
  | plain c _ bare =>
    have hc : c ≠ '\x7b' ∧ c ≠ '\x7d' := by simpa [written] using h
    exact ⟨[.plain c ⟨hc.1, hc.2, bare⟩], List.cons_ne_nil _ _, rfl⟩
  | hex high low h l high_eq low_eq =>
    have hdigit {c : Char} {k : Nat} (hc : Text.hexValue? c = some k) :
        c ≠ '\x7b' ∧ c ≠ '\x7d' ∧ c ≠ '\\' := by
      refine ⟨?_, ?_, ?_⟩ <;> rintro rfl <;> cases hc
    exact ⟨[.escape 'x', .plain high (hdigit high_eq), .plain low (hdigit low_eq)],
      List.cons_ne_nil _ _, rfl⟩

theorem exists_glyphs_of_signs {signs : List Sign} (hne : signs ≠ [])
    (h : ∀ s ∈ signs, s.written ≠ ['\x7b'] ∧ s.written ≠ ['\x7d']) :
    ∃ run : List Glyph, run ≠ [] ∧ run.flatMap Glyph.source = signs.flatMap written := by
  induction signs with
  | nil => exact absurd rfl hne
  | cons s signs ih =>
    rw [List.forall_mem_cons] at h
    obtain ⟨run, hrun, heq⟩ := exists_glyphs_of_written h.1
    by_cases hsigns : signs = []
    · exact ⟨run, hrun, by simp [hsigns, heq]⟩
    · obtain ⟨more, -, hmore⟩ := ih hsigns h.2
      exact ⟨run ++ more, by simp [hrun], by
        rw [List.flatMap_append, heq, hmore, List.flatMap_cons]⟩

end Sign

end TextProtocol.Format

namespace TextProtocol.Codec

open Format (Sign)

/-- A text is some bytes on the wire: they are what is sent for it, what the parser takes for it,
and where a field ends before it. -/
structure OnWire (text : String) (bytes : Bytes) : Prop where
  emit_eq : ∀ (r : Record), ∀ part ∈ [Step.literal text, .delimiter text, .terminator text],
    emit r part = .ok bytes
  step_eq : ∀ (lenient : Bool) (m : Compiled.Message) (data : Bytes) (state : State) (c : Cursor),
    state.expected? = some text → step lenient m data state c = .ok (
      if Wire.standsAt data c.position bytes then
        .ok { c with position := c.position + bytes.length }
      else .error (.atOffset state.kind data c.position text))
  stop_eq : ∀ (data : Bytes) (position : Int) (x : Extraction),
    x.stops = [text] → stopAfter data position x = Wire.findStop data position [bytes]

theorem onWire_iff {text : String} {bytes : Bytes} :
    OnWire text bytes ↔ Utf8.ofString text = bytes := by
  constructor
  · intro h
    exact Except.ok.inj (h.emit_eq [] _ List.mem_cons_self)
  · rintro rfl
    refine ⟨fun r part hpart ↦ ?_, fun lenient m data state c hstate ↦ ?_,
      fun data position x hstops ↦ ?_⟩
    · simp only [List.mem_cons, List.not_mem_nil, or_false] at hpart
      rcases hpart with rfl | rfl | rfl <;> rfl
    · cases state with
      | expectFixed _ | expectDelimiter _ | terminal _ =>
        cases hstate
        rfl
      | extractField | optionalField => cases hstate
    · rw [stopAfter, hstops]
      rfl

/-- Characters and escapes below `80` are sent and expected as the bytes that they name, and other
escapes as two bytes each. This is so of delimiters and terminators, and of literal text, where
braces do not stand for themselves. -/
theorem onWire_unescape (signs : List Sign) :
    let source := String.ofList (signs.flatMap Sign.written)
    let text := Format.unescape source
    OnWire text (signs.flatMap Sign.sent) ∧
      (OnWire text (signs.map Sign.byte) ↔ ∀ s ∈ signs, s.byte < 0x80) ∧
      (signs ≠ [] → Compiled.separator (some source) = some text ∧
        ((∀ s ∈ signs, s.written ≠ ['\x7b'] ∧ s.written ≠ ['\x7d']) →
          ∀ column rest, Format.EndsText rest →
            Format.tokenizeFrom column (source.toList ++ rest) =
              (Format.tokenizeFrom (source.toList.foldl Format.advance column) rest).map
                (.literal text :: ·))) := by
  intro source text
  have hbytes : Utf8.ofString text = signs.flatMap Sign.sent := Sign.ofString_unescape signs
  refine ⟨onWire_iff.mpr hbytes, ?_, fun hne ↦ ⟨?_, fun hbraces column rest hrest ↦ ?_⟩⟩
  · rw [onWire_iff, hbytes, Sign.flatMap_sent_eq_iff]
  · have hsource : source ≠ "" := by
      obtain ⟨s, more, rfl⟩ := List.exists_cons_of_ne_nil hne
      cases s <;> simp [source, Sign.written]
    rw [Compiled.separator, Segment.separator?, Option.filter_some, if_pos (by simpa using hsource)]
    rfl
  · obtain ⟨run, hrun, heq⟩ := Sign.exists_glyphs_of_signs hne hbraces
    have htext := Format.tokenizeFrom_text column hrun hrest
    rw [Format.Part.item, heq] at htext
    simpa only [source, String.toList_ofList] using htext

/-- The escape for the last byte is sent as two other bytes. -/
theorem unescape_last_byte : Utf8.ofString (Format.unescape "\\xff") = [0xC3, 0xBF] := by
  decide

end TextProtocol.Codec
