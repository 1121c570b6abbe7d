import TextProtocol.Proofs.Naming.Members

/-!
# Names in other casings

A separator ends a run of word characters, so the words of a text with a separator in it are those
before it and those after it: `splitWords_append`. That gives the words of names that are joined
from parts. A word itself has neither separators nor capitals, and nothing in it is cut again:
`splitWords_eq_singleton`. Together, the words of a name can be read off its snake case and its
kebab case. How a run of word characters is cut is said by the kinds of its first word, `FirstWord`.
-/

namespace TextProtocol.Naming

/-! ## Separators -/

theorem chunks_append {separator : Char} (h : isWordChar separator = false)
    (run cs rest : List Char) :
    chunks run (cs ++ separator :: rest) = chunks run cs ++ chunks [] rest := by
  induction cs generalizing run with
  | nil =>
    -- The separator closes the run that is open, if there is one.
    cases run with
    | nil => simp [chunks, h]
    | cons c run => simp [chunks, h]
  | cons c cs ih =>
    rw [List.cons_append, chunks, chunks]
    split
    · exact ih (c :: run)
    · split
      · exact ih []
      · rw [ih [], List.cons_append]

theorem splitWords_append {separator : Char} (h : isWordChar separator = false)
    (before after : List Char) :
    splitWords (before ++ separator :: after) = splitWords before ++ splitWords after := by
  simp only [splitWords, chunks_append h, List.flatMap_append, List.map_append]

theorem splitWords_intercalate {separator : Char} (h : isWordChar separator = false)
    (parts : List (List Char)) :
    splitWords (List.intercalate [separator] parts) = parts.flatMap splitWords := by
  induction parts with
  | nil => rfl
  | cons part parts ih =>
    cases parts with
    | nil => rw [List.intercalate_singleton, List.flatMap_singleton]
    | cons next parts =>
      rw [List.intercalate_cons_cons, List.append_assoc, List.singleton_append,
        splitWords_append h, ih]
      exact List.flatMap_cons.symm

/-! ## Words of words -/

theorem isWordChar_of_isLow {c : Char} (h : isLow c = true) : isWordChar c = true := by
  have hkind : (c.isLower || c.isDigit) = true := h
  change ((c.isUpper || c.isLower) || c.isDigit) = true
  rw [Bool.or_assoc, hkind, Bool.or_true]

/-- A character of words is a capital, or one that is the same in lower case. -/
theorem isWordChar_spec {c : Char} (h : isWordChar c = true) :
    (c.isUpper = !isLow c) ∧ (isLow c = true → c.toLower = c) ∧ isLow c.toLower = true :=
  of_decide_eq_true (forall_of_all_wordChars (P := fun c ↦ decide ((c.isUpper = !isLow c) ∧
    (isLow c = true → c.toLower = c) ∧ isLow c.toLower = true)) (by decide) h)

theorem toLower_of_isLow {c : Char} (h : isLow c = true) : c.toLower = c :=
  (isWordChar_spec (isWordChar_of_isLow h)).2.1 h

theorem isLow_of_isUpper {c : Char} (h : c.isUpper = true) : isLow c = false := by
  have hword : isWordChar c = true := by
    change ((c.isUpper || c.isLower) || c.isDigit) = true
    rw [h, Bool.true_or, Bool.true_or]
  simpa [h] using (isWordChar_spec hword).1

theorem isLow_of_mem_splitWords {name word : List Char} (h : word ∈ splitWords name) :
    ∀ c ∈ word, isLow c = true :=
  forall_of_mem_splitWords (fun hc ↦ (isWordChar_spec hc).2.2) h

theorem chunks_of_forall {cs : List Char} (h : ∀ c ∈ cs, isWordChar c = true) (run : List Char) :
    chunks run cs = chunks (cs.reverse ++ run) [] := by
  induction cs generalizing run with
  | nil => rfl
  | cons c cs ih =>
    have hstep : chunks run (c :: cs) = chunks (c :: run) cs := by
      rw [chunks, if_pos (h c List.mem_cons_self)]
    rw [hstep, ih fun d hd ↦ h d (List.mem_cons_of_mem _ hd), List.reverse_cons, List.append_assoc,
      List.singleton_append]

/-! ## Words of a run -/

/-- The first word of a run, before `rest`: `[A-Z]+(?=[A-Z][a-z0-9])`, or `[A-Z]?[a-z0-9]+`, or
`[A-Z]+`. Digits alone, `[0-9]+`, are a word of the second kind. -/
inductive FirstWord : List Char → List Char → Prop
  | acronym {word rest : List Char} {c d : Char} : word ≠ [] → (∀ x ∈ word, x.isUpper = true) →
      c.isUpper = true → isLow d = true → FirstWord word (c :: d :: rest)
  | mixed {capital lows rest : List Char} : capital.length ≤ 1 →
      (∀ x ∈ capital, x.isUpper = true) → lows ≠ [] → (∀ x ∈ lows, isLow x = true) →
      (∀ x ∈ rest.head?, isLow x = false) → FirstWord (capital ++ lows) rest
  | capitals {word : List Char} : word ≠ [] → (∀ x ∈ word, x.isUpper = true) → FirstWord word []

section Steps

variable {c : Char} {lows : List Char} (capitals cs : List Char)

theorem chunkWords_cons_low (h : isLow c = true) (lows : List Char) :
    chunkWords capitals lows (c :: cs) = chunkWords capitals (c :: lows) cs :=
  if_pos h

theorem chunkWords_cons_capital (h : isLow c = false) :
    chunkWords capitals [] (c :: cs) = chunkWords (c :: capitals) [] cs :=
  if_neg (Bool.eq_false_iff.mp h)

/-- A capital after small letters ends what was read so far. -/
theorem chunkWords_cons_next (h : isLow c = false) (hlows : lows ≠ []) :
    chunkWords capitals lows (c :: cs) =
      splitRun capitals.reverse lows.reverse ++ chunkWords [c] [] cs :=
  (if_neg (Bool.eq_false_iff.mp h)).trans (if_neg (mt List.isEmpty_iff.mp hlows))

end Steps

theorem chunkWords_lows {cs : List Char} (h : ∀ c ∈ cs, isLow c = true)
    (capitals lows rest : List Char) :
    chunkWords capitals lows (cs ++ rest) = chunkWords capitals (cs.reverse ++ lows) rest := by
  induction cs generalizing lows with
  | nil => rfl
  | cons c cs ih =>
    rw [List.forall_mem_cons] at h
    rw [List.cons_append, chunkWords_cons_low _ _ h.1, ih h.2, List.reverse_cons,
      List.append_assoc, List.singleton_append]

theorem chunkWords_capitals {cs : List Char} (h : ∀ c ∈ cs, c.isUpper = true)
    (capitals rest : List Char) :
    chunkWords capitals [] (cs ++ rest) = chunkWords (cs.reverse ++ capitals) [] rest := by
  induction cs generalizing capitals with
  | nil => rfl
  | cons c cs ih =>
    rw [List.forall_mem_cons] at h
    rw [List.cons_append, chunkWords_cons_capital _ _ (isLow_of_isUpper h.1), ih h.2,
      List.reverse_cons, List.append_assoc, List.singleton_append]

/-- Of several capitals only the last belongs to what comes after them. -/
theorem chunkWords_acronym {word lows : List Char} (hword : word ≠ []) (hlows : lows ≠ [])
    (c : Char) (rest : List Char) :
    chunkWords (c :: word.reverse) lows rest = word :: chunkWords [c] lows rest := by
  have hsplit {lows : List Char} (hlows : lows ≠ []) :
      splitRun (c :: word.reverse).reverse lows.reverse = word :: splitRun [c] lows.reverse := by
    simp [splitRun, hword, hlows]
  induction rest generalizing lows with
  | nil => exact hsplit hlows
  | cons d rest ih =>
    cases hd : isLow d with
    | true =>
      rw [chunkWords_cons_low _ _ hd, chunkWords_cons_low _ _ hd]
      exact ih (List.cons_ne_nil d lows)
    | false =>
      rw [chunkWords_cons_next _ _ hd hlows, chunkWords_cons_next _ _ hd hlows, hsplit hlows]
      rfl

/-- A run is cut after its first word. -/
theorem FirstWord.chunkWords_eq {word rest : List Char} (h : FirstWord word rest) :
    chunkWords [] [] (word ++ rest) = word :: chunkWords [] [] rest := by
  cases h with
  | acronym hword hcapitals hc hd =>
    rw [chunkWords_capitals hcapitals, chunkWords_cons_capital _ _ (isLow_of_isUpper hc),
      chunkWords_cons_capital _ _ (isLow_of_isUpper hc), chunkWords_cons_low _ _ hd,
      chunkWords_cons_low _ _ hd, List.append_nil]
    exact chunkWords_acronym hword (List.cons_ne_nil _ _) _ _
  | @mixed capital lows rest hlength hcapital hlows hall hrest =>
    have hsplit : splitRun capital.reverse.reverse lows.reverse.reverse = [capital ++ lows] := by
      simp [splitRun, hlows, hlength]
    rw [List.append_assoc, chunkWords_capitals hcapital, chunkWords_lows hall, List.append_nil,
      List.append_nil]
    cases rest with
    | nil => exact hsplit
    | cons x rest =>
      have hx : isLow x = false := hrest x rfl
      rw [chunkWords_cons_next _ _ hx (mt List.reverse_eq_nil_iff.mp hlows), hsplit,
        chunkWords_cons_capital _ _ hx]
      rfl
  | capitals hword hcapitals =>
    have hsplit : splitRun word.reverse.reverse [] = [word] := by simp [splitRun, hword]
    rw [chunkWords_capitals hcapitals, List.append_nil]
    exact hsplit

/-- Every run has a first word. -/
theorem exists_firstWord {cs : List Char} (hne : cs ≠ []) (h : ∀ c ∈ cs, isWordChar c = true) :
    ∃ word rest, cs = word ++ rest ∧ FirstWord word rest := by
  obtain ⟨capitals, after, rfl, hcapitals, hafter⟩ := Format.exists_span Char.isUpper cs
  cases after with
  | nil =>
    rw [List.append_nil] at hne ⊢
    exact ⟨capitals, [], (List.append_nil _).symm, .capitals hne hcapitals⟩
  | cons d after =>
    have hd : isLow d = true := by
      have hupper := (isWordChar_spec (h d (by simp))).1
      rw [hafter d rfl] at hupper
      simpa using hupper.symm
    by_cases hlength : capitals.length ≤ 1
    · obtain ⟨lows, rest, heq, hlows, hrest⟩ := Format.exists_span isLow (d :: after)
      refine ⟨capitals ++ lows, rest, by rw [heq, List.append_assoc],
        .mixed hlength hcapitals ?_ hlows hrest⟩
      rintro rfl
      rw [List.nil_append] at heq
      subst heq
      simp [hd] at hrest
    · rcases List.eq_nil_or_concat capitals with rfl | ⟨word, c, rfl⟩
      · exact absurd (Nat.zero_le 1) hlength
      rw [List.concat_eq_append, List.forall_mem_append] at hcapitals
      refine ⟨word, c :: d :: after, by simp, .acronym ?_ hcapitals.1 (hcapitals.2 c (by simp)) hd⟩
      rintro rfl
      exact hlength (Nat.le_refl 1)

theorem splitWords_eq_singleton {word : List Char} (hne : word ≠ [])
    (h : ∀ c ∈ word, isLow c = true) : splitWords word = [word] := by
  have hchunks : chunks [] word = [word] := by
    rw [chunks_of_forall fun c hc ↦ isWordChar_of_isLow (h c hc), chunks, List.append_nil,
      List.reverse_reverse, if_neg (by simpa using hne)]
  have hwords : chunkWords [] [] word = [word] := by
    have hfirst : FirstWord ([] ++ word) [] := .mixed (Nat.zero_le 1) (by simp) hne h (by simp)
    have hcut := hfirst.chunkWords_eq
    rw [List.nil_append, List.append_nil] at hcut
    exact hcut
  have hlower : word.map Char.toLower = word := by
    rw [List.map_congr_left fun c hc ↦ toLower_of_isLow (h c hc), List.map_id']
  rw [splitWords, hchunks, List.flatMap_singleton, hwords, List.map_singleton, hlower]

theorem splitWords_intercalate_splitWords {separator : Char} (h : isWordChar separator = false)
    (name : List Char) :
    splitWords (List.intercalate [separator] (splitWords name)) = splitWords name := by
  have hword : ∀ word ∈ splitWords name, splitWords word = [word] := by
    intro word hmem
    exact splitWords_eq_singleton (ne_nil_of_mem_splitWords hmem) (isLow_of_mem_splitWords hmem)
  rw [splitWords_intercalate h, List.flatMap_congr hword, List.flatMap_singleton']

/-! ## Names -/

/-- Cutting a name into words loses nothing and is stable. The words are not empty and consist of
small letters and digits, and in flat case they are the letters and digits of the name in lower
case. They are found again in the snake case and in the kebab case of the name, and those of several
parts are the words of the first part, those of the second, and so on. -/
theorem splitWords_stable (name : String) :
    (∀ word ∈ splitWords name.toList, word ≠ [] ∧ ∀ c ∈ word, isLow c = true) ∧
    (Casing.flat.apply name).toList = (name.toList.filter isWordChar).map Char.toLower ∧
    splitWords (Casing.snake.apply name).toList = splitWords name.toList ∧
    splitWords (Casing.kebab.apply name).toList = splitWords name.toList ∧
    ∀ parts : List String,
      splitWords (" ".intercalate parts).toList = parts.flatMap fun part ↦
        splitWords part.toList := by
  refine ⟨fun word hword ↦ ?_, ?_, ?_, ?_, fun parts ↦ ?_⟩
  · exact ⟨ne_nil_of_mem_splitWords hword, isLow_of_mem_splitWords hword⟩
  · rw [Casing.apply, String.toList_ofList]
    exact flatten_splitWords name.toList
  · rw [Casing.apply, String.toList_ofList]
    exact splitWords_intercalate_splitWords (by decide) name.toList
  · rw [Casing.apply, String.toList_ofList]
    exact splitWords_intercalate_splitWords (by decide) name.toList
  · rw [String.toList_intercalate, show " ".toList = [' '] from rfl,
      splitWords_intercalate (by decide), List.flatMap_map]

end TextProtocol.Naming
