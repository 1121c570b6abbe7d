import TextProtocol.Text.Utf8

/-!
# Texts and their bytes

Encoding and strict decoding are inverse to each other: every text is read back from its bytes, and
bytes that can be read at all are those of the text that was read. So a text has exactly one
spelling in bytes.

Both directions are proved for one character at a time. `next_cases` lists what bytes the decoder
takes for a character, and each entry of the list is what `encodeChar` writes for it.
-/

namespace TextProtocol.Utf8

variable {b : UInt8} {rest : List UInt8}

/-! ## One character -/

theorem isTail_iff : isTail b = true ↔ 0x80 ≤ b.toNat ∧ b.toNat ≤ 0xBF := by
  simp [isTail, UInt8.le_iff_toNat_le]

/-- Second bytes are tails, with narrower bounds after four of the first bytes. -/
theorem isSecond_iff {t : UInt8} :
    isSecond b t = true ↔ 0x80 ≤ t.toNat ∧ t.toNat ≤ 0xBF ∧ (b.toNat = 0xE0 → 0xA0 ≤ t.toNat) ∧
      (b.toNat = 0xED → t.toNat ≤ 0x9F) ∧ (b.toNat = 0xF0 → 0x90 ≤ t.toNat) ∧
      (b.toNat = 0xF4 → t.toNat ≤ 0x8F) := by
  have hb : ∀ k : UInt8, (b == k) = decide (b.toNat = k.toNat) := by
    intro k
    rw [Bool.eq_iff_iff, beq_iff_eq, decide_eq_true_iff, UInt8.toNat_inj]
  rw [isSecond, Bool.and_eq_true, decide_eq_true_iff, decide_eq_true_iff, UInt8.le_iff_toNat_le,
    UInt8.le_iff_toNat_le, secondRange, hb, hb, hb, hb]
  simp only [UInt8.reduceToNat, decide_eq_true_iff]
  split
  · simp only [UInt8.reduceToNat]; omega
  split
  · simp only [UInt8.reduceToNat]; omega
  split
  · simp only [UInt8.reduceToNat]; omega
  split
  · simp only [UInt8.reduceToNat]; omega
  · simp only [UInt8.reduceToNat]; omega

theorem firstByte_tests (b : UInt8) :
    (b < 0x80 ↔ b.toNat < 0x80) ∧
      ((0xC2 ≤ b && b ≤ 0xDF) = true ↔ 0xC2 ≤ b.toNat ∧ b.toNat ≤ 0xDF) ∧
      ((0xE0 ≤ b && b ≤ 0xEF) = true ↔ 0xE0 ≤ b.toNat ∧ b.toNat ≤ 0xEF) ∧
      ((0xF0 ≤ b && b ≤ 0xF4) = true ↔ 0xF0 ≤ b.toNat ∧ b.toNat ≤ 0xF4) := by
  simp [UInt8.lt_iff_toNat_lt, UInt8.le_iff_toNat_le]

theorem next_one (h : b.toNat < 0x80) : next b rest = (some (Char.ofNat b.toNat), rest) := by
  unfold next
  rw [if_pos ((firstByte_tests b).1.mpr h)]

theorem next_two {t : UInt8} (hb : 0xC2 ≤ b.toNat ∧ b.toNat ≤ 0xDF) (ht : isTail t = true) :
    next b (t :: rest) =
      (some (Char.ofNat ((b.toNat - 0xC0) * 0x40 + (t.toNat - 0x80))), rest) := by
  obtain ⟨h1, h2, -, -⟩ := firstByte_tests b
  unfold next
  rw [if_neg (by rw [h1]; omega), if_pos (h2.mpr hb)]
  simp only [ht, if_true]

theorem next_three {t u : UInt8} (hb : 0xE0 ≤ b.toNat ∧ b.toNat ≤ 0xEF) (ht : isSecond b t = true)
    (hu : isTail u = true) :
    next b (t :: u :: rest) =
      (some (Char.ofNat ((b.toNat - 0xE0) * 0x1000 + (t.toNat - 0x80) * 0x40
        + (u.toNat - 0x80))), rest) := by
  obtain ⟨h1, h2, h3, -⟩ := firstByte_tests b
  unfold next
  rw [if_neg (by rw [h1]; omega), if_neg (by rw [h2]; omega), if_pos (h3.mpr hb)]
  simp only [ht, hu, if_true]

theorem next_four {t u v : UInt8} (hb : 0xF0 ≤ b.toNat ∧ b.toNat ≤ 0xF4) (ht : isSecond b t = true)
    (hu : isTail u = true) (hv : isTail v = true) :
    next b (t :: u :: v :: rest) =
      (some (Char.ofNat ((b.toNat - 0xF0) * 0x40000 + (t.toNat - 0x80) * 0x1000
        + (u.toNat - 0x80) * 0x40 + (v.toNat - 0x80))), rest) := by
  obtain ⟨h1, h2, h3, h4⟩ := firstByte_tests b
  unfold next
  rw [if_neg (by rw [h1]; omega), if_neg (by rw [h2]; omega), if_neg (by rw [h3]; omega),
    if_pos (h4.mpr hb)]
  simp only [ht, hu, hv, if_true]

/-- What the decoder takes for a character: one to four bytes in their ranges. -/
theorem next_cases {rest' : List UInt8} {c : Char} (h : next b rest = (some c, rest')) :
    (b.toNat < 0x80 ∧ rest = rest') ∨
      (∃ t, (0xC2 ≤ b.toNat ∧ b.toNat ≤ 0xDF) ∧ isTail t = true ∧ rest = t :: rest') ∨
      (∃ t u, (0xE0 ≤ b.toNat ∧ b.toNat ≤ 0xEF) ∧ isSecond b t = true ∧ isTail u = true ∧
        rest = t :: u :: rest') ∨
      (∃ t u v, (0xF0 ≤ b.toNat ∧ b.toNat ≤ 0xF4) ∧ isSecond b t = true ∧ isTail u = true ∧
        isTail v = true ∧ rest = t :: u :: v :: rest') := by
  obtain ⟨h1, h2, h3, h4⟩ := firstByte_tests b
  unfold next at h
  split at h
  · rename_i hb
    exact .inl ⟨h1.mp hb, (Prod.mk.inj h).2⟩
  split at h
  · rename_i hb
    split at h
    · split at h
      · rename_i t r ht
        exact .inr (.inl ⟨t, h2.mp hb, ht, by rw [(Prod.mk.inj h).2]⟩)
      · simp at h
    · simp at h
  split at h
  · rename_i hb
    split at h
    · split at h
      · rename_i t r ht
        split at h
        · split at h
          · rename_i u r' hu
            exact .inr (.inr (.inl ⟨t, u, h3.mp hb, ht, hu, by rw [(Prod.mk.inj h).2]⟩))
          · simp at h
        · simp at h
      · simp at h
    · simp at h
  split at h
  · rename_i hb
    split at h
    · split at h
      · rename_i t r ht
        split at h
        · split at h
          · rename_i u r' hu
            split at h
            · split at h
              · rename_i v r'' hv
                exact .inr (.inr (.inr ⟨t, u, v, h4.mp hb, ht, hu, hv, by rw [(Prod.mk.inj h).2]⟩))
              · simp at h
            · simp at h
          · simp at h
        · simp at h
      · simp at h
    · simp at h
  · simp at h

theorem toNat_bounds (c : Char) : c.toNat < 0xD800 ∨ 0xDFFF < c.toNat ∧ c.toNat < 0x110000 :=
  c.valid

theorem toNat_ofNat_byte {k : Nat} (h : k < 0x100) : (UInt8.ofNat k).toNat = k := by
  rw [UInt8.toNat_ofNat', Nat.mod_eq_of_lt h]

theorem ofNat_eq_byte {k : Nat} (h : k = b.toNat) : UInt8.ofNat k = b := by
  rw [h, UInt8.ofNat_toNat]

theorem toNat_ofNat_char {k : Nat} (h : k.isValidChar) : (Char.ofNat k).toNat = k := by
  rw [Char.ofNat, dif_pos h]
  rfl

/-- A character is read back from its bytes, whatever follows them. -/
theorem next_encodeChar (c : Char) (rest : List UInt8) :
    ∃ b bs, encodeChar c = b :: bs ∧ next b (bs ++ rest) = (some c, rest) := by
  have hvalid := toNat_bounds c
  by_cases h1 : c.toNat < 0x80
  · refine ⟨_, [], by rw [encodeChar, if_pos h1], ?_⟩
    have hb := toNat_ofNat_byte (show c.toNat < 0x100 from by omega)
    rw [List.nil_append, next_one (by rw [hb]; exact h1), hb, Char.ofNat_toNat]
  by_cases h2 : c.toNat < 0x800
  · refine ⟨_, [_], by rw [encodeChar, if_neg h1, if_pos h2], ?_⟩
    have hb := toNat_ofNat_byte (show 0xC0 + c.toNat / 0x40 < 0x100 from by omega)
    have ht := toNat_ofNat_byte (show 0x80 + c.toNat % 0x40 < 0x100 from by omega)
    rw [List.cons_append, List.nil_append,
      next_two (by rw [hb]; omega) (isTail_iff.mpr (by rw [ht]; omega)), hb, ht,
      show (0xC0 + c.toNat / 0x40 - 0xC0) * 0x40 + (0x80 + c.toNat % 0x40 - 0x80) = c.toNat
        from by omega, Char.ofNat_toNat]
  by_cases h3 : c.toNat < 0x10000
  · refine ⟨_, [_, _], by rw [encodeChar, if_neg h1, if_neg h2, if_pos h3], ?_⟩
    have hb := toNat_ofNat_byte (show 0xE0 + c.toNat / 0x1000 < 0x100 from by omega)
    have ht := toNat_ofNat_byte (show 0x80 + c.toNat / 0x40 % 0x40 < 0x100 from by omega)
    have hu := toNat_ofNat_byte (show 0x80 + c.toNat % 0x40 < 0x100 from by omega)
    rw [List.cons_append, List.cons_append, List.nil_append,
      next_three (by rw [hb]; omega) (isSecond_iff.mpr (by rw [hb, ht]; omega))
        (isTail_iff.mpr (by rw [hu]; omega)), hb, ht, hu,
      show (0xE0 + c.toNat / 0x1000 - 0xE0) * 0x1000 + (0x80 + c.toNat / 0x40 % 0x40 - 0x80) * 0x40
        + (0x80 + c.toNat % 0x40 - 0x80) = c.toNat from by omega, Char.ofNat_toNat]
  · refine ⟨_, [_, _, _], by rw [encodeChar, if_neg h1, if_neg h2, if_neg h3], ?_⟩
    have hb := toNat_ofNat_byte (show 0xF0 + c.toNat / 0x40000 < 0x100 from by omega)
    have ht := toNat_ofNat_byte (show 0x80 + c.toNat / 0x1000 % 0x40 < 0x100 from by omega)
    have hu := toNat_ofNat_byte (show 0x80 + c.toNat / 0x40 % 0x40 < 0x100 from by omega)
    have hv := toNat_ofNat_byte (show 0x80 + c.toNat % 0x40 < 0x100 from by omega)
    rw [List.cons_append, List.cons_append, List.cons_append, List.nil_append,
      next_four (by rw [hb]; omega) (isSecond_iff.mpr (by rw [hb, ht]; omega))
        (isTail_iff.mpr (by rw [hu]; omega)) (isTail_iff.mpr (by rw [hv]; omega)), hb, ht, hu, hv,
      show (0xF0 + c.toNat / 0x40000 - 0xF0) * 0x40000
        + (0x80 + c.toNat / 0x1000 % 0x40 - 0x80) * 0x1000
        + (0x80 + c.toNat / 0x40 % 0x40 - 0x80) * 0x40
        + (0x80 + c.toNat % 0x40 - 0x80) = c.toNat from by omega, Char.ofNat_toNat]

/-- Bytes that are taken for a character are its bytes: there is no second spelling. -/
theorem encodeChar_of_next {rest' : List UInt8} {c : Char} (h : next b rest = (some c, rest')) :
    encodeChar c ++ rest' = b :: rest := by
  rcases next_cases h with ⟨hb, rfl⟩ | ⟨t, hb, ht, rfl⟩ | ⟨t, u, hb, ht, hu, rfl⟩ |
    ⟨t, u, v, hb, ht, hu, hv, rfl⟩
  · rw [next_one hb, Prod.mk.injEq, Option.some.injEq] at h
    have hn : c.toNat = b.toNat := by rw [← h.1, toNat_ofNat_char (.inl (by omega))]
    rw [encodeChar, hn, if_pos hb, UInt8.ofNat_toNat]
    rfl
  · rw [next_two hb ht, Prod.mk.injEq, Option.some.injEq] at h
    rw [isTail_iff] at ht
    have hn := toNat_ofNat_char (k := (b.toNat - 0xC0) * 0x40 + (t.toNat - 0x80))
      (.inl (by omega))
    rw [h.1] at hn
    rw [encodeChar, if_neg (by omega), if_pos (by omega),
      ofNat_eq_byte (b := b) (by omega), ofNat_eq_byte (b := t) (by omega)]
    rfl
  · rw [next_three hb ht hu, Prod.mk.injEq, Option.some.injEq] at h
    rw [isSecond_iff] at ht
    rw [isTail_iff] at hu
    have hn := toNat_ofNat_char
      (k := (b.toNat - 0xE0) * 0x1000 + (t.toNat - 0x80) * 0x40 + (u.toNat - 0x80))
      (by unfold Nat.isValidChar; omega)
    rw [h.1] at hn
    rw [encodeChar, if_neg (by omega), if_neg (by omega), if_pos (by omega),
      ofNat_eq_byte (b := b) (by omega), ofNat_eq_byte (b := t) (by omega),
      ofNat_eq_byte (b := u) (by omega)]
    rfl
  · rw [next_four hb ht hu hv, Prod.mk.injEq, Option.some.injEq] at h
    rw [isSecond_iff] at ht
    rw [isTail_iff] at hu hv
    have hn := toNat_ofNat_char
      (k := (b.toNat - 0xF0) * 0x40000 + (t.toNat - 0x80) * 0x1000 + (u.toNat - 0x80) * 0x40
        + (v.toNat - 0x80)) (by unfold Nat.isValidChar; omega)
    rw [h.1] at hn
    rw [encodeChar, if_neg (by omega), if_neg (by omega), if_neg (by omega),
      ofNat_eq_byte (b := b) (by omega), ofNat_eq_byte (b := t) (by omega),
      ofNat_eq_byte (b := u) (by omega), ofNat_eq_byte (b := v) (by omega)]
    rfl

/-! ## Texts -/

theorem decode?_encode (text : List Char) : decode? (encode text) = some text := by
  induction text with
  | nil => simp [encode, decode?]
  | cons c text ih =>
    obtain ⟨b, bs, hbytes, hnext⟩ := next_encodeChar c (encode text)
    have hcons : encode (c :: text) = b :: (bs ++ encode text) := by
      rw [encode, List.flatMap_cons, hbytes]
      rfl
    rw [hcons, decode?]
    split
    · rename_i heq
      rw [hnext, Prod.mk.injEq, Option.some.injEq] at heq
      obtain ⟨rfl, rfl⟩ := heq
      rw [ih, Option.map_some]
    · rename_i heq
      rw [hnext] at heq
      simp at heq

theorem encode_of_decode? {data : List UInt8} {text : List Char} (h : decode? data = some text) :
    encode text = data := by
  fun_induction decode? data generalizing text with
  | case1 =>
    rw [Option.some.injEq] at h
    rw [← h]
    rfl
  | case2 b rest c rest' hnext hlen ih =>
    obtain ⟨text', htext, rfl⟩ := Option.map_eq_some_iff.mp h
    rw [encode, List.flatMap_cons, ← encode, ih htext, encodeChar_of_next hnext]
  | case3 => simp at h

/-! ## Data that begins with characters -/

/-- The bytes of a character after the first are told from all first bytes. -/
theorem encodeChar_tails (c : Char) :
    ∃ b bs, encodeChar c = b :: bs ∧ isTail b = false ∧ ∀ t ∈ bs, isTail t = true := by
  have hvalid := toNat_bounds c
  have hfirst {k : Nat} (hk : k < 0x80 ∨ 0xC0 ≤ k ∧ k < 0x100) :
      isTail (UInt8.ofNat k) = false := by
    rw [Bool.eq_false_iff, Ne, isTail_iff, toNat_ofNat_byte (by omega)]
    omega
  have htail {k : Nat} (hk : 0x80 ≤ k ∧ k ≤ 0xBF) : isTail (UInt8.ofNat k) = true := by
    rw [isTail_iff, toNat_ofNat_byte (by omega)]
    omega
  rw [encodeChar]
  split
  · exact ⟨_, _, rfl, hfirst (by omega), by simp⟩
  split
  · refine ⟨_, _, rfl, hfirst (by omega), ?_⟩
    simp only [List.mem_singleton, forall_eq]
    exact htail (by omega)
  split
  · refine ⟨_, _, rfl, hfirst (by omega), ?_⟩
    simp only [List.forall_mem_cons, List.not_mem_nil]
    exact ⟨htail (by omega), htail (by omega), by simp⟩
  · refine ⟨_, _, rfl, hfirst (by omega), ?_⟩
    simp only [List.forall_mem_cons, List.not_mem_nil]
    exact ⟨htail (by omega), htail (by omega), htail (by omega), by simp⟩

/-- Where the bytes of characters begin the same data, the characters are the same. -/
theorem encodeChar_append_inj {c d : Char} {x y : List UInt8}
    (h : encodeChar c ++ x = encodeChar d ++ y) : c = d ∧ x = y := by
  obtain ⟨b, bs, hc, hnextC⟩ := next_encodeChar c x
  obtain ⟨b', bs', hd, hnextD⟩ := next_encodeChar d y
  rw [hc, hd, List.cons_append, List.cons_append, List.cons.injEq] at h
  rw [h.1, h.2, hnextD, Prod.mk.injEq, Option.some.injEq] at hnextC
  exact ⟨hnextC.1.symm, hnextC.2.symm⟩

theorem encode_concat (s : List Char) (c : Char) :
    encode (s ++ [c]) = encode s ++ encodeChar c := by
  rw [encode, List.flatMap_append, List.flatMap_singleton, encode]

theorem encode_cons (c : Char) (s : List Char) : encode (c :: s) = encodeChar c ++ encode s :=
  List.flatMap_cons

end TextProtocol.Utf8
