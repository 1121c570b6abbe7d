import TextProtocol.Proofs.Codec.RoundTrip
import TextProtocol.Proofs.Format.Grammar

/-!
# Names of members

The member for a field is spelled from the words of its name, joined with underscores, with one more
underscore where that would be a reserved word or begin with a digit. The words of a name have no
underscores in them, so they can be read off the member again, `memberWords_memberName`: two fields
share a member exactly if their names consist of the same words. A name without any letter or digit
has no words, and then the member has no name; all other members are identifiers that are not
reserved.
-/

namespace TextProtocol

open Fault (gives exists_of_gives eq_of_gives_gives)

/-! ## Words -/

namespace Naming

theorem flatten_splitRun (capitals lows : List Char) :
    (splitRun capitals lows).flatten = capitals ++ lows := by
  rw [splitRun]
  split
  · rename_i hlows
    rw [List.isEmpty_iff] at hlows
    split
    · rename_i hcapitals
      simp [List.isEmpty_iff.mp hcapitals, hlows]
    · simp [hlows]
  · split
    · simp
    · rw [List.dropLast_eq_take]
      simp [← List.append_assoc]

theorem ne_nil_of_mem_splitRun {capitals lows word : List Char}
    (h : word ∈ splitRun capitals lows) : word ≠ [] := by
  rw [splitRun] at h
  split at h
  · split at h <;> simp_all
  · split at h
    · simp_all
    · rename_i hlows hlength
      simp only [List.isEmpty_iff, List.mem_cons, List.not_mem_nil, or_false] at hlows h
      rcases h with rfl | rfl
      · rw [← List.length_pos_iff, List.length_dropLast]
        omega
      · simp [hlows]

/-- Cutting a text into words loses nothing. -/
theorem flatten_chunkWords (capitals lows cs : List Char) :
    (chunkWords capitals lows cs).flatten = capitals.reverse ++ lows.reverse ++ cs := by
  fun_induction chunkWords capitals lows cs with
  | case1 => simp [flatten_splitRun]
  | case2 => simp_all
  | case3 => simp_all
  | case4 => simp_all [flatten_splitRun]

theorem ne_nil_of_mem_chunkWords {capitals lows cs word : List Char}
    (h : word ∈ chunkWords capitals lows cs) : word ≠ [] := by
  fun_induction chunkWords capitals lows cs with
  | case1 => exact ne_nil_of_mem_splitRun h
  | case2 _ _ _ _ _ ih => exact ih h
  | case3 _ _ _ _ _ _ ih => exact ih h
  | case4 _ _ _ _ _ _ ih => exact (List.mem_append.mp h).elim ne_nil_of_mem_splitRun ih

theorem flatten_chunks (run cs : List Char) :
    (chunks run cs).flatten = run.reverse ++ cs.filter isWordChar := by
  fun_induction chunks run cs <;> simp_all

theorem flatten_splitWords (name : List Char) :
    (splitWords name).flatten = (name.filter isWordChar).map Char.toLower := by
  have hchunks (rows : List (List Char)) :
      (rows.flatMap (chunkWords [] [])).flatten = rows.flatten := by
    induction rows with
    | nil => rfl
    | cons row rows ih => simp [ih, flatten_chunkWords]
  rw [splitWords, ← List.map_flatten, hchunks, flatten_chunks, List.reverse_nil, List.nil_append]

theorem ne_nil_of_mem_splitWords {name word : List Char} (h : word ∈ splitWords name) :
    word ≠ [] := by
  obtain ⟨part, hpart, rfl⟩ := List.mem_map.mp h
  obtain ⟨chunk, -, hchunk⟩ := List.mem_flatMap.mp hpart
  simpa using ne_nil_of_mem_chunkWords hchunk

theorem splitWords_eq_nil_iff {name : List Char} :
    splitWords name = [] ↔ ∀ c ∈ name, isWordChar c = false := by
  have hflatten : splitWords name = [] ↔ (splitWords name).flatten = [] := by
    rw [List.flatten_eq_nil_iff]
    refine ⟨fun h word hword ↦ by simp [h] at hword, fun h ↦ List.eq_nil_iff_forall_not_mem.mpr ?_⟩
    exact fun word hword ↦ ne_nil_of_mem_splitWords hword (h word hword)
  rw [hflatten, flatten_splitWords, List.map_eq_nil_iff, List.filter_eq_nil_iff]
  simp

/-! ## Characters of words -/

theorem toNat_lt_of_isWordChar {c : Char} (h : isWordChar c = true) : c.toNat < 128 := by
  have hkind : (c.isUpper || c.isLower || c.isDigit) = true := h
  rw [Bool.or_eq_true, Bool.or_eq_true] at hkind
  rcases hkind with (hupper | hlower) | hdigit
  · have hle : c.toNat ≤ 90 := (of_decide_eq_true hupper).2
    omega
  · have hle : c.toNat ≤ 122 := of_decide_eq_true (Bool.and_eq_true_iff.mp hlower).2
    omega
  · have hle := FieldCheck.toNat_of_isDigit hdigit
    omega

theorem forall_of_all_wordChars {P : Char → Bool}
    (h : ((List.range 128).all fun n ↦ !isWordChar (Char.ofNat n) || P (Char.ofNat n)) = true)
    {c : Char} (hc : isWordChar c = true) : P c = true := by
  simpa [hc] using List.all_eq_true.mp h c.toNat (List.mem_range.mpr (toNat_lt_of_isWordChar hc))

/-- A character of words can go on an identifier, is no underscore, and begins an identifier unless
it is a digit. -/
def isSpelling (c : Char) : Bool :=
  c != '_' && (Text.identifierStarts.has c || Text.identifierExtras.has c) &&
    (Text.isDigit c || Text.identifierStarts.has c)

/-- The characters of words are those of the name in lower case. -/
theorem forall_of_mem_splitWords {P : Char → Bool}
    (hP : ∀ {c : Char}, isWordChar c = true → P c.toLower = true) {name word : List Char}
    (h : word ∈ splitWords name) : ∀ c ∈ word, P c = true := by
  intro c hc
  have hmem : c ∈ (splitWords name).flatten := List.mem_flatten.mpr ⟨word, h, hc⟩
  rw [flatten_splitWords] at hmem
  obtain ⟨d, hd, rfl⟩ := List.mem_map.mp hmem
  exact hP (List.mem_filter.mp hd).2

theorem isSpelling_of_mem_splitWords {name word : List Char} (h : word ∈ splitWords name) :
    ∀ c ∈ word, isSpelling c = true :=
  forall_of_mem_splitWords
    (forall_of_all_wordChars (P := fun c ↦ isSpelling c.toLower) (by decide)) h

theorem exists_intercalate_cons (separator word : List Char) (words : List (List Char)) :
    ∃ rest, separator.intercalate (word :: words) = word ++ rest := by
  cases words with
  | nil => exact ⟨[], by rw [List.intercalate_singleton, List.append_nil]⟩
  | cons next words =>
    exact ⟨separator ++ separator.intercalate (next :: words), by
      rw [List.intercalate_cons_cons, List.append_assoc]⟩

theorem mem_intercalate {separator : List Char} {words : List (List Char)} {c : Char}
    (h : c ∈ separator.intercalate words) : c ∈ separator ∨ ∃ word ∈ words, c ∈ word := by
  induction words with
  | nil => simp at h
  | cons word words ih =>
    cases words with
    | nil =>
      rw [List.intercalate_singleton] at h
      exact .inr ⟨word, List.mem_cons_self, h⟩
    | cons next words =>
      rw [List.intercalate_cons_cons, List.mem_append, List.mem_append] at h
      rcases h with (h | h) | h
      · exact .inr ⟨word, List.mem_cons_self, h⟩
      · exact .inl h
      · rcases ih h with h | ⟨other, hother, h⟩
        · exact .inl h
        · exact .inr ⟨other, List.mem_cons_of_mem _ hother, h⟩

/-! ## Escaped names -/

namespace Profile

/-- A name is escaped with an underscore after it if it is reserved, with one before it if it begins
with a digit, and otherwise not at all. -/
theorem escape_cases (name : String) :
    (name ∈ python.reservedWords ∧ python.escape name = name ++ "_") ∨
      name ∉ python.reservedWords ∧
        ((∃ c cs, name.toList = c :: cs ∧ Text.isDigit c = true) ∧
            python.escape name = "_" ++ name ∨
          (∀ c cs, name.toList = c :: cs → Text.isDigit c = false) ∧
            python.escape name = name) := by
  rw [escape, if_neg (show ¬python.fallbackReserved.contains name = true by simp [python])]
  by_cases hreserved : name ∈ python.reservedWords
  · exact .inl ⟨hreserved, if_pos (List.contains_iff_mem.mpr hreserved)⟩
  · rw [if_neg (mt List.contains_iff_mem.mp hreserved)]
    refine .inr ⟨hreserved, ?_⟩
    cases hname : name.toList with
    | nil => exact .inr ⟨fun c cs h ↦ (by cases h), rfl⟩
    | cons c cs =>
      cases hdigit : Text.isDigit c with
      | true => exact .inl ⟨⟨c, cs, rfl, hdigit⟩, if_pos hdigit⟩
      | false =>
        refine .inr ⟨fun c' cs' h ↦ ?_, if_neg (by simp [hdigit])⟩
        cases h
        exact hdigit

end Profile

def memberWords (member : String) : List (List Char) :=
  (member.toList.splitOn '_').filter (!·.isEmpty)

theorem memberWords_append (s t : String) :
    memberWords (s ++ "_" ++ t) = memberWords s ++ memberWords t := by
  have hlist : (s ++ "_" ++ t).toList = s.toList ++ '_' :: t.toList := by simp
  rw [memberWords, hlist, List.splitOn_append_cons_self, List.filter_append]
  rfl

theorem memberWords_escape (name : String) :
    memberWords (Profile.python.escape name) = memberWords name := by
  have hempty : memberWords "" = [] := by decide
  rcases Profile.escape_cases name with
    ⟨-, heq⟩ | ⟨-, ⟨-, heq⟩ | ⟨-, heq⟩⟩
  · rw [heq, ← String.append_empty (s := name ++ "_"), memberWords_append, hempty, List.append_nil]
  · rw [heq, ← String.empty_append (s := "_"), memberWords_append, hempty, List.nil_append]
  · rw [heq]

theorem memberWords_snake (name : String) :
    memberWords (Casing.snake.apply name) = splitWords name.toList := by
  rw [memberWords, Casing.apply, String.toList_ofList]
  change (List.splitOn '_' (List.intercalate ['_'] _)).filter _ = _
  by_cases hwords : splitWords name.toList = []
  · rw [hwords]
    rfl
  · rw [List.splitOn_intercalate '_' ?_ hwords, List.filter_eq_self]
    · intro word hword
      simpa using ne_nil_of_mem_splitWords hword
    · intro word hword hmem
      exact absurd (isSpelling_of_mem_splitWords hword '_' hmem) (by decide)

end Naming

/-! ## Members -/

namespace Codec

open Naming (Profile Casing splitWords isWordChar isSpelling memberWords)

theorem memberName_eq_escape (name : String) :
    memberName (some name) = Profile.python.escape (Casing.snake.apply name) :=
  rfl

theorem memberWords_memberName (name : String) :
    memberWords (memberName (some name)) = splitWords name.toList := by
  rw [memberName_eq_escape, Naming.memberWords_escape, Naming.memberWords_snake]

theorem memberName_eq_iff {name other : String} :
    memberName (some name) = memberName (some other) ↔
      splitWords name.toList = splitWords other.toList := by
  constructor
  · intro h
    rw [← memberWords_memberName, h, memberWords_memberName]
  · intro h
    rw [memberName_eq_escape, memberName_eq_escape, Casing.apply, Casing.apply, h]

/-- Whether a name can stand for a member: it is an identifier, and so not empty, and no reserved
word. -/
def IsMemberName (name : String) : Prop :=
  Text.isIdentifier name.toList = true ∧ name ∉ Profile.python.reservedWords

theorem isMemberName_reserved {word : String} (h : word ∈ Profile.python.reservedWords) :
    IsMemberName (word ++ "_") := by
  have hall : (Profile.python.reservedWords.all fun word ↦
      Text.isIdentifier (word ++ "_").toList &&
        !Profile.python.reservedWords.contains (word ++ "_")) = true := by decide
  simpa [IsMemberName] using List.all_eq_true.mp hall word h

theorem memberName_eq_empty {name : String} (h : splitWords name.toList = []) :
    memberName (some name) = "" := by
  rw [memberName_eq_escape, Casing.apply, h]
  decide

theorem isMemberName_memberName {name : String} (h : splitWords name.toList ≠ []) :
    IsMemberName (memberName (some name)) := by
  obtain ⟨word, words, hwords⟩ := List.exists_cons_of_ne_nil h
  have hword : word ∈ splitWords name.toList := hwords ▸ List.mem_cons_self
  obtain ⟨c, cs, rfl⟩ := List.exists_cons_of_ne_nil (Naming.ne_nil_of_mem_splitWords hword)
  obtain ⟨rest, hrest⟩ := Naming.exists_intercalate_cons ['_'] (c :: cs) words
  have hlist : (Casing.snake.apply name).toList = c :: (cs ++ rest) := by
    rw [Casing.apply, String.toList_ofList, hwords]
    exact hrest
  have hc : isSpelling c = true :=
    Naming.isSpelling_of_mem_splitWords hword c List.mem_cons_self
  have hmore : ∀ d ∈ c :: (cs ++ rest),
      (Text.identifierStarts.has d || Text.identifierExtras.has d) = true := by
    intro d hd
    rw [← hlist, Casing.apply, String.toList_ofList] at hd
    rcases Naming.mem_intercalate hd with hd | ⟨part, hpart, hd⟩
    · rw [List.mem_singleton.mp hd]
      decide +kernel
    · have hspelling := Naming.isSpelling_of_mem_splitWords hpart d hd
      rw [isSpelling, Bool.and_eq_true, Bool.and_eq_true] at hspelling
      exact hspelling.1.2
  rw [memberName_eq_escape]
  rcases Profile.escape_cases (Casing.snake.apply name) with
    ⟨hreserved, heq⟩ | ⟨hfree, ⟨-, heq⟩ | ⟨hdigit, heq⟩⟩
  · rw [heq]
    exact isMemberName_reserved hreserved
  · have hescaped : ("_" ++ Casing.snake.apply name).toList = '_' :: c :: (cs ++ rest) := by
      rw [String.toList_append, hlist]
      rfl
    rw [heq, IsMemberName, hescaped]
    refine ⟨?_, fun hmem ↦ ?_⟩
    · rw [Text.isIdentifier, Bool.and_eq_true, List.all_eq_true]
      exact ⟨by simp, hmore⟩
    · -- The only reserved word that begins with an underscore has nothing after it.
      have hall : (Profile.python.reservedWords.all fun word ↦
          word.toList.head? != some '_' || word.toList.length == 1) = true := by decide +kernel
      have hshape := List.all_eq_true.mp hall _ hmem
      rw [hescaped] at hshape
      simp at hshape
  · rw [heq, IsMemberName, hlist]
    refine ⟨?_, hfree⟩
    rw [isSpelling, Bool.and_eq_true, hdigit c _ hlist, Bool.false_or] at hc
    rw [Text.isIdentifier, Bool.and_eq_true, List.all_eq_true, hc.2]
    exact ⟨rfl, fun d hd ↦ hmore d (List.mem_cons_of_mem _ hd)⟩

theorem nodup_memberName_iff {names : List String} :
    (names.map fun name ↦ memberName (some name)).Nodup ↔
      (names.map fun name ↦ splitWords name.toList).Nodup := by
  rw [List.Nodup, List.Nodup, List.pairwise_map, List.pairwise_map]
  exact List.Pairwise.iff fun name other ↦ not_congr memberName_eq_iff

theorem nodup_names_members (m : Compiled.Message) : ((members m).map Member.name).Nodup := by
  have hfold (known new : List Member) (h : (known.map Member.name).Nodup) :
      ((new.foldl addMember known).map Member.name).Nodup := by
    induction new generalizing known with
    | nil => exact h
    | cons first rest ih =>
      refine ih _ ?_
      rw [map_name_addMember]
      split
      · exact h
      · rename_i hnew
        rw [List.nodup_append]
        refine ⟨h, List.nodup_singleton _, fun name hname other hother heq ↦ hnew ?_⟩
        rwa [← List.mem_singleton.mp hother, ← heq]
  exact hfold [] _ List.nodup_nil

/-- Fields have a member each exactly if their members have different names. -/
theorem map_name_members_iff {m : Compiled.Message} :
    (members m).map Member.name = (m.fields.map fun f ↦ memberName f.name) ↔
      (m.fields.map fun f ↦ memberName f.name).Nodup := by
  refine ⟨fun h ↦ h ▸ nodup_names_members m, fun h ↦ ?_⟩
  rw [members_eq_map h, List.map_map]
  exact List.map_congr_left fun f _ ↦ Member.name_ofField f

theorem isRecord_of_build {m : Compiled.Message} {given r : Record} (h : build m given = .ok r) :
    IsRecord m r := by
  have hkeys := congrArg (List.map Prod.fst) (buildFrom_eq_ok_iff.mp h).2
  simp only [List.map_map, Function.comp_def] at hkeys
  exact hkeys.symm

/-! ## Checked messages -/

/-- The names in a format are made of letters, digits, underscores and hyphens. -/
theorem isName_of_mem_placeholderNames {format : String} {names : List String}
    (h : Format.placeholderNames format = .ok names) {name : String} (hname : name ∈ names) :
    Format.IsName name.toList := by
  rw [Format.placeholderNames] at h
  cases hitems : Format.tokenize format with
  | error e =>
    rw [hitems] at h
    cases h
  | ok items =>
    rw [hitems] at h
    cases h
    obtain ⟨parts, hmaximal, hsource⟩ := Format.exists_parts_of_tokenizeFrom hitems
    rw [Format.tokenize, ← hsource, Format.tokenizeFrom_parts 1 hmaximal] at hitems
    cases hitems
    dsimp only at hname
    rw [Format.Part.filterMap_name_items, List.mem_filterMap] at hname
    obtain ⟨piece, -, hpiece⟩ := hname
    cases piece with
    | glyph g => cases hpiece
    | slot s =>
      cases hpiece
      rw [String.toList_ofList]
      exact s.isName

theorem splitWords_eq_nil_iff_of_isName {name : List Char} (h : Format.IsName name) :
    splitWords name = [] ↔ ∀ c ∈ name, c = '_' ∨ c = '-' := by
  rw [Naming.splitWords_eq_nil_iff]
  refine forall₂_congr fun c hc ↦ ⟨fun hword ↦ ?_, ?_⟩
  · have hchar : Format.isNameChar c = true := by
      cases name with
      | nil => cases h
      | cons first rest =>
        obtain ⟨hfirst, hrest⟩ := Format.isName_cons_iff.mp h
        rcases List.mem_cons.mp hc with rfl | hc
        · exact Format.isNameChar_of_isNameStart hfirst
        · exact hrest c hc
    simpa [Format.isNameChar, show c.isAlphanum = false from hword] using hchar
  · rintro (rfl | rfl) <;> decide

/-- The members of a message in which checks find no error. A field whose name consists of
underscores and hyphens has a member without a name; all other members have identifiers for their
names that are not reserved. The names differ, and so the message has one member for each field in
its type and in its records, exactly if those of the fields differ in their words. -/
theorem members_of_checked {source : Spec.Message} {found : List Diagnostic}
    (hcheck : Check.ofMessage source = .ok found) (hsound : found.any (·.isError) = false) :
    ∃ (fields : List Spec.Field) (names : List String), Spec.itemsOf source.fields = .ok fields ∧
      fields.map (·.name) = names.map some ∧ names.Nodup ∧
      (∀ name ∈ names,
        ((∀ c ∈ name.toList, c = '_' ∨ c = '-') → memberName (some name) = "") ∧
        ((¬∀ c ∈ name.toList, c = '_' ∨ c = '-') → IsMemberName (memberName (some name)))) ∧
      ((names.map fun name ↦ memberName (some name)).Nodup ↔
        (names.map fun name ↦ splitWords name.toList).Nodup) ∧
      ∀ m warnings, Compiled.compileMessage source = .ok (m, warnings) →
        ((members m).map Member.name = (names.map fun name ↦ memberName (some name)) ↔
          (names.map fun name ↦ splitWords name.toList).Nodup) ∧
        ∀ given r, build m given = .ok r → IsRecord m r := by
  obtain ⟨fields, format, placeholders, hfields, -, hplaceholders, hnodup, hmem, -⟩ :=
    Check.ofMessage_spec hcheck hsound
  obtain ⟨names, hnames⟩ : ∃ names : List String, fields.map (·.name) = names.map some := by
    refine ⟨fields.map (·.name.getD ""), ?_⟩
    rw [List.map_map]
    refine List.map_congr_left fun f hf ↦ ?_
    obtain ⟨name, -, hname⟩ := List.mem_map.mp (hmem f hf)
    rw [Function.comp_apply, ← hname, Option.getD_some]
  have hisName : ∀ name ∈ names, Format.IsName name.toList := by
    intro name hname
    have hfield : some name ∈ fields.map (·.name) := hnames ▸ List.mem_map_of_mem hname
    obtain ⟨f, hf, hfname⟩ := List.mem_map.mp hfield
    obtain ⟨placeholder, hplaceholder, heq⟩ := List.mem_map.mp (hmem f hf)
    rw [hfname, Option.some.injEq] at heq
    exact isName_of_mem_placeholderNames hplaceholders (heq ▸ hplaceholder)
  refine ⟨fields, names, hfields, hnames, ?_, fun name hname ↦ ?_, nodup_memberName_iff, ?_⟩
  · rw [hnames] at hnodup
    exact hnodup.of_map
  · rw [← splitWords_eq_nil_iff_of_isName (hisName name hname)]
    exact ⟨memberName_eq_empty, isMemberName_memberName⟩
  · intro m warnings hcompile
    obtain ⟨definitions, _, _, reading, hdefinitions, -, -, -, -, hassemble⟩ :=
      Compiled.compileMessage_spec hcompile
    rw [hdefinitions, Except.ok.injEq] at hfields
    have hmembers : (m.fields.map fun f ↦ memberName f.name) =
        names.map fun name ↦ memberName (some name) := by
      have hnames' := congrArg (List.map memberName) hnames
      rw [← hfields, ← Compiled.map_definition_of_assemble hassemble] at hnames'
      simpa only [List.map_map, Function.comp_def, Compiled.Field.name] using hnames'
    rw [← hmembers, map_name_members_iff, hmembers, nodup_memberName_iff]
    exact ⟨Iff.rfl, fun given r ↦ isRecord_of_build⟩

def textLine (names : List String) : Spec.Message where
  name := some "line"
  direction := some .request
  format := some (String.join (names.map fun name ↦ "\x7b" ++ name ++ "\x7d"))
  fields := some (names.map fun name ↦ some { name := some name, type := some (.string .null) })
  delimiter := some ","
  terminator := some "\n"

/-- Capitals, a reserved word and a digit. -/
theorem members_of_checked_textLine :
    ∃ found, Check.ofMessage (textLine ["HTTPPort", "class", "_2"]) = .ok found ∧
      found.any (·.isError) = false ∧
      (["HTTPPort", "class", "_2"].map fun name ↦ memberName (some name)) =
        ["http_port", "class_", "_2"] ∧
      (∀ name ∈ ["HTTPPort", "class", "_2"], IsMemberName (memberName (some name))) ∧
      (["HTTPPort", "class", "_2"].map fun name ↦ memberName (some name)).Nodup := by
  obtain ⟨found, hfound, hsound⟩ : ∃ found,
      Check.ofMessage (textLine ["HTTPPort", "class", "_2"]) = .ok found ∧
        (!found.any (·.isError)) = true :=
    exists_of_gives (by decide +kernel)
  rw [Bool.not_eq_true'] at hsound
  obtain ⟨fields, names, hfields, hnames, -, hmembers, hnodup, -⟩ :=
    members_of_checked hfound hsound
  cases Except.ok.inj (hfields.symm.trans rfl)
  obtain rfl : names = ["HTTPPort", "class", "_2"] :=
    List.map_injective_iff.mpr (fun _ _ ↦ Option.some.inj) hnames.symm
  refine ⟨found, hfound, hsound, by decide +kernel, fun name hname ↦ ?_, ?_⟩
  · have hletters : (["HTTPPort", "class", "_2"].all fun name ↦
        !name.toList.all fun c ↦ c == '_' || c == '-') = true := by decide +kernel
    exact (hmembers name hname).2 (by simpa using List.all_eq_true.mp hletters name hname)
  · exact hnodup.mpr (by decide +kernel)

/-- Two fields whose names differ only in how their words are joined share a member, so that one of
two values is lost; and the member of an underscore has no name. -/
theorem members_shared_or_unnamed :
    (∃ m, Compiled.Sound (textLine ["a-b", "a_b"]) m ∧
      (m.fields.map fun f ↦ memberName f.name) = ["a_b", "a_b"] ∧
      (members m).map Member.name = ["a_b"] ∧ ∃ r,
        ofFields m [("a-b", .text "x"), ("a_b", .text "y")] = .ok r ∧
        serialize m r = .ok (.ok (Utf8.ofString "y,y\n"))) ∧
    ∃ m, Compiled.Sound (textLine ["_"]) m ∧ (members m).map Member.name = [""] := by
  obtain ⟨m, hm, h⟩ := Compiled.exists_sound (textLine ["a-b", "a_b"])
    (fun m ↦ decide ((m.fields.map fun f ↦ memberName f.name) = ["a_b", "a_b"] ∧
      (members m).map Member.name = ["a_b"]) &&
      gives (ofFields m [("a-b", .text "x"), ("a_b", .text "y")]) fun r ↦
        gives (serialize m r) fun written ↦ gives written (· == Utf8.ofString "y,y\n"))
    (by decide +kernel)
  obtain ⟨m', hm', h'⟩ := Compiled.exists_sound (textLine ["_"])
    (fun m ↦ decide ((members m).map Member.name = [""])) (by decide +kernel)
  rw [Bool.and_eq_true, decide_eq_true_iff] at h
  obtain ⟨⟨hnames, hmembers⟩, h⟩ := h
  obtain ⟨r, hr, h⟩ := exists_of_gives h
  have hwritten := eq_of_gives_gives h
  exact ⟨⟨m, hm, hnames, hmembers, r, hr, hwritten⟩, m', hm', of_decide_eq_true h'⟩

end Codec

end TextProtocol
