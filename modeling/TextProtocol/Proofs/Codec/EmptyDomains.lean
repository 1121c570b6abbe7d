import TextProtocol.Proofs.Codec.Samples

/-!
# Empty domains

A field whose test domain is empty is compiled with a warning that no value of it survives. That
says more than the domain does: a domain holds only letters and digits that occur in no stop at all,
and only numbers up to a bound of its own. What a check refuses is less. A text of one character,
however often it is repeated, hides no stop but one that repeats the same character,
`forall_eq_of_hidesStop`; and a byte that occurs in no text hides none. So the warning is true for
the reasons that `Hopeless` lists, by the kind of the field, and for no others.
-/

namespace TextProtocol

open Fault (bind_eq_ok_iff pure_eq_ok_iff gives exists_of_gives)
open Value (isCountable)

namespace Wire

open Utf8 (encodeChar encode_concat encode_cons)

/-! ## Repeated characters -/

/-- A text that begins with itself when a character is repeated before it, consists of that
character. -/
theorem forall_eq_of_prefix {c : Char} {n : Nat} {s : List Char}
    (h : Utf8.encode s <+: Utf8.encode (List.replicate (n + 1) c) ++ Utf8.encode s) :
    ∀ d ∈ s, d = c := by
  induction s with
  | nil => simp
  | cons d s ih =>
    obtain ⟨rest, hrest⟩ := h
    rw [List.replicate_succ, encode_cons, encode_cons, List.append_assoc,
      List.append_assoc] at hrest
    obtain ⟨rfl, hrest⟩ := Utf8.encodeChar_append_inj hrest
    refine List.forall_mem_cons.mpr ⟨rfl, ih ⟨rest, ?_⟩⟩
    rw [hrest, ← List.append_assoc, List.replicate_succ', encode_concat]

/-- Only repetitions of a character are hidden in repetitions of it. -/
theorem forall_eq_of_hidesStop {c : Char} {n : Nat} {s : List Char} (hs : s ≠ [])
    (h : hidesStop (Utf8.encode (List.replicate n c)) (Utf8.encode s) = true) : ∀ d ∈ s, d = c := by
  obtain ⟨first, rest, rfl⟩ := List.exists_cons_of_ne_nil hs
  obtain ⟨b, bs, hbytes, hb, -⟩ := Utf8.encodeChar_tails first
  obtain ⟨i, hi, hocc⟩ : ∃ i < (Utf8.encode (List.replicate n c)).length,
      OccursAt (Utf8.encode (first :: rest))
        (Utf8.encode (List.replicate n c) ++ Utf8.encode (first :: rest)) i := by
    by_contra hfree
    push Not at hfree
    simp [hidesStop_eq_false_iff.mpr hfree] at h
  clear h
  -- The repetitions before the place are taken off one by one.
  induction n generalizing i with
  | zero => cases hi
  | succ n ih =>
    cases i with
    | zero => exact forall_eq_of_prefix (n := n) (occursAt_zero.mp hocc)
    | succ i =>
      obtain ⟨b', bs', hchar, -, htails⟩ := Utf8.encodeChar_tails c
      rw [List.replicate_succ, encode_cons c, hchar] at hi hocc
      rw [List.cons_append, List.cons_append, occursAt_cons_succ, List.append_assoc] at hocc
      rw [List.cons_append, List.length_cons, List.length_append] at hi
      rcases Nat.lt_or_ge i bs'.length with hlt | hge
      · -- A place within a character has a byte that begins no stop.
        have hpre := hocc.2
        rw [List.drop_append_of_le_length (Nat.le_of_lt hlt), List.drop_eq_getElem_cons hlt,
          encode_cons, hbytes, List.cons_append, List.cons_append, List.cons_prefix_cons] at hpre
        exact absurd (htails _ (hpre.1 ▸ List.getElem_mem hlt)) (by simp [hb])
      · refine ih (i - bs'.length) (by omega) ⟨?_, ?_⟩
        · have := hocc.1
          rw [List.length_append] at this
          omega
        · have hpre := hocc.2
          rwa [List.drop_append, List.drop_eq_nil_of_le hge, List.nil_append] at hpre

/-- Repetitions of a character are hidden in all texts that end with it. -/
theorem hidesStop_of_forall_eq {text s : List Char} {c : Char} (h : ∀ d ∈ s, d = c) :
    hidesStop (Utf8.encode (text ++ [c])) (Utf8.encode s) = true := by
  obtain ⟨b, bs, hbytes, -⟩ := Utf8.encodeChar_tails c
  by_contra hfree
  rw [Bool.not_eq_true, hidesStop_eq_false_iff] at hfree
  refine hfree (Utf8.encode text).length ?_ ?_
  · rw [encode_concat, hbytes, List.length_append, List.length_cons]
    omega
  · have hagain : encodeChar c ++ Utf8.encode s = Utf8.encode s ++ encodeChar c := by
      rw [List.eq_replicate_of_mem h, ← encode_cons, ← List.replicate_succ, List.replicate_succ',
        encode_concat]
    rw [encode_concat, List.append_assoc, hagain]
    exact occursAt_length_append ..

end Wire

namespace Domain

/-- A stop that consists of one character keeps that character from standing at the end of a
text. -/
def IsBlocked (stops : List String) (c : Char) : Prop :=
  ∃ s ∈ stops, ∀ d ∈ s.toList, d = c

theorem textHidesStop_eq_false_iff {text : String} {stops : List String} :
    textHidesStop text stops = false ↔
      ∀ s ∈ stops, Wire.hidesStop (Utf8.ofString text) (Utf8.ofString s) = false := by
  rw [textHidesStop, hidesStop, Option.isSome_eq_false_iff, Option.isNone_iff_eq_none,
    Wire.hiddenStop?_eq_none_iff, List.forall_mem_map]

theorem textHidesStop_replicate {stops : List String} (hstops : ∀ s ∈ stops, s ≠ "") {c : Char}
    (hfree : ¬IsBlocked stops c) (n : Nat) :
    textHidesStop (String.ofList (List.replicate n c)) stops = false := by
  rw [textHidesStop_eq_false_iff]
  intro s hs
  by_contra hhides
  rw [Bool.not_eq_false, Utf8.ofString, String.toList_ofList] at hhides
  have hne : s.toList ≠ [] := fun hnil ↦ hstops s hs (String.toList_inj.mp hnil)
  exact hfree ⟨s, hs, Wire.forall_eq_of_hidesStop hne hhides⟩

theorem textHidesStop_of_isBlocked {stops : List String} {text : String} {c : Char}
    (hlast : text.toList.getLast? = some c) (h : IsBlocked stops c) :
    textHidesStop text stops = true := by
  obtain ⟨s, hs, hsame⟩ := h
  obtain ⟨before, hbefore⟩ := List.getLast?_eq_some_iff.mp hlast
  by_contra hfree
  have hs' := textHidesStop_eq_false_iff.mp (Bool.not_eq_true _ ▸ hfree) s hs
  rw [Utf8.ofString, hbefore, Utf8.ofString, Wire.hidesStop_of_forall_eq hsame] at hs'
  cases hs'

end Domain

namespace Codec

/-! ## Fields without values -/

variable {f : Compiled.Field}

/-- Why a field with an empty domain has no value at all. Of texts, no length but zero is allowed,
or no character can stand at the end; all numbers within the bounds hide a stop, or both words for
Booleans; an enumeration may be left out, or lacks the empty text. For bytes there is no reason. -/
def Hopeless (f : Compiled.Field) : Prop :=
  match f.definition.type with
  | some (.string _) =>
    (∀ n : Nat, Between f.constraints.minLength f.constraints.maxLength n → n = 0) ∨
      ∀ c, Domain.IsBlocked f.stops c
  | some (.number ..) =>
    ∀ n, Between f.constraints.minimum f.constraints.maximum n →
      Text.isWritable n = true → Domain.textHidesStop (toString n) f.stops = true
  | some .boolean => ∀ word ∈ Domain.booleanWords, Domain.textHidesStop word f.stops = true
  | some (.enum _) => ¬(f.definition.isRequired = true ∧ "" ∈ f.constraints.values)
  | some (.bytes _) | none => False

theorem fits_iff (text : String) :
    FieldCheck.Fits f.definition.isRequired (stopsOf f) (Utf8.ofString text) ↔
      Domain.textHidesStop text f.stops = false ∧
        (f.definition.isRequired = true ∨ text ≠ "") := by
  have hne : Utf8.ofString text ≠ [] ↔ text ≠ "" :=
    ⟨fun h heq ↦ h (heq ▸ rfl), FieldCheck.ofString_ne_nil⟩
  rw [FieldCheck.Fits, hne, Domain.textHidesStop, Domain.hidesStop, Option.isSome_eq_false_iff,
    Option.isNone_iff_eq_none]
  rfl

/-- A field accepts no value exactly if those that meet the demands of its check do not fit. -/
theorem forall_not_accepts_iff :
    (∀ v : Value, v.isNull = false → ¬Accepts f v) ↔
      ∀ v, (checkOf f).Demands v →
        ¬FieldCheck.Fits f.definition.isRequired (stopsOf f) (Wire.render v) := by
  refine forall_congr' fun v ↦ ⟨fun h hdemands hfits ↦ ?_, fun h hnull haccepts ↦ ?_⟩
  · have hnull := hdemands.isNull_eq_false
    exact h hnull ((accepts_iff_of_isNull hnull).mpr ⟨hdemands, hfits⟩)
  · obtain ⟨hdemands, hfits⟩ := (accepts_iff_of_isNull hnull).mp haccepts
    exact h hdemands hfits

theorem hopeless_number_iff {low high : Value}
    (htype : f.definition.type = some (.number low high)) :
    (∀ v : Value, v.isNull = false → ¬Accepts f v) ↔ Hopeless f := by
  rw [forall_not_accepts_iff, Hopeless, checkOf, htype]
  constructor
  · intro h n hn hwritable
    by_contra hfree
    have hne : toString n ≠ "" := fun hempty ↦
      FieldCheck.render_int_ne_nil n (by rw [FieldCheck.render_int, hempty]; rfl)
    exact h (.int n) ⟨numberViolations_eq_nil_iff.mpr hn, hwritable⟩
      ((fits_iff _).mpr ⟨Bool.not_eq_true _ ▸ hfree, .inr hne⟩)
  · intro h v hdemands hfits
    cases v with
    | int n =>
      have hfree := ((fits_iff (toString n)).mp hfits).1
      rw [h n (numberViolations_eq_nil_iff.mp hdemands.1) hdemands.2] at hfree
      cases hfree
    | _ => exact False.elim hdemands

theorem hopeless_boolean_iff (htype : f.definition.type = some .boolean) :
    (∀ v : Value, v.isNull = false → ¬Accepts f v) ↔ Hopeless f := by
  rw [forall_not_accepts_iff, Hopeless, checkOf, htype]
  constructor
  · intro h word hword
    by_contra hfree
    have hfits : word ≠ "" → FieldCheck.Fits f.definition.isRequired (stopsOf f)
        (Utf8.ofString word) := fun hne ↦ (fits_iff _).mpr ⟨Bool.not_eq_true _ ▸ hfree, .inr hne⟩
    rw [Domain.booleanWords, List.mem_cons, List.mem_singleton] at hword
    rcases hword with rfl | rfl
    · exact h (.bool true) trivial (hfits (by decide))
    · exact h (.bool false) trivial (hfits (by decide))
  · intro h v hdemands hfits
    cases v with
    | bool b =>
      cases b with
      | true => simpa [h "true" (by decide)] using (fits_iff "true").mp hfits
      | false => simpa [h "false" (by decide)] using (fits_iff "false").mp hfits
    | _ => exact False.elim hdemands

theorem hopeless_enum_iff (h : f.Settled) (hempty : f.domain.empty = true)
    {values : List String} (htype : f.definition.type = some (.enum values)) :
    (∀ v : Value, v.isNull = false → ¬Accepts f v) ↔ Hopeless f := by
  have hhidden : ∀ s ∈ f.constraints.values,
      s ≠ "" → Domain.textHidesStop s f.stops = true := by
    have hd := h.domain_eq
    rw [Domain.ofField, htype] at hd
    rw [← Except.ok.inj hd, List.isEmpty_iff, List.filter_eq_nil_iff] at hempty
    simpa using hempty
  have hnothing : Domain.textHidesStop "" f.stops = false :=
    Domain.textHidesStop_eq_false_iff.mpr fun s _ ↦
      Wire.hidesStop_eq_false_iff.mpr fun i hi ↦ by cases hi
  rw [forall_not_accepts_iff, Hopeless, checkOf, htype]
  constructor
  · rintro h ⟨hrequired, hmem⟩
    exact h (.text "") (List.contains_iff_mem.mpr hmem)
      ((fits_iff "").mpr ⟨hnothing, .inl hrequired⟩)
  · intro h v hdemands hfits
    cases v with
    | text s =>
      have hmem : s ∈ f.constraints.values := List.contains_iff_mem.mp hdemands
      obtain ⟨hfree, hne⟩ := (fits_iff s).mp hfits
      by_cases hs : s = ""
      · subst hs
        exact h ⟨hne.resolve_right (by simp), hmem⟩
      · rw [hhidden s hmem hs] at hfree
        cases hfree
    | _ => exact False.elim hdemands

/-- A byte that occurs in no text fits everywhere. -/
theorem accepts_bytes (h : f.Settled) (hempty : f.domain.empty = true) {length : Value}
    (htype : f.definition.type = some (.bytes length)) : Accepts f (.bytes [0xFF]) := by
  have hnull : length.isNull = true := by
    have hd := h.domain_eq
    rw [Domain.ofField, htype] at hd
    rw [← Except.ok.inj hd, Domain.ofBytes] at hempty
    split at hempty
    · assumption
    · cases hempty
  have havoids : ∀ stop ∈ stopsOf f, Wire.Avoids [0xFF] stop := by
    intro stop hstop
    obtain ⟨s, hs, rfl⟩ := List.mem_map.mp hstop
    obtain ⟨first, rest, hlist⟩ := List.exists_cons_of_ne_nil fun hnil ↦
      h.stops_ne s hs (String.toList_inj.mp hnil)
    obtain ⟨b, bs, hbytes, hnext⟩ := Utf8.next_encodeChar first []
    refine ⟨b, bs ++ Utf8.encode rest, ?_, fun hb ↦ ?_⟩
    · rw [Utf8.ofString, hlist, Utf8.encode_cons, hbytes]
      rfl
    · rw [List.mem_singleton.mp hb] at hnext
      cases hnext
  rw [accepts_iff_of_isNull rfl, checkOf, htype]
  dsimp only
  rw [h.length_eq htype]
  refine ⟨.inl ?_, Wire.hiddenStop?_of_avoids havoids, .inr (List.cons_ne_nil _ _)⟩
  cases length with
  | null => rfl
  | _ => cases hnull

theorem empty_eq_false_of_between {c : Constraints} {stops : List String} {d : Domain}
    (hd : Domain.ofText true c stops = .ok d) (h : Between c.minLength c.maxLength 0) :
    d.empty = false := by
  obtain ⟨-, low, high, -, -, hlow, hhigh, hiff⟩ := Domain.ofText_spec h.1.1 h.2.1 hd
  have hmin : low ≤ 0 := by
    rw [hlow, if_pos rfl]
    cases hk : c.minLength.integer? with
    | none => exact Int.le_refl 0
    | some k => exact h.1.2 k hk
  have hmax : low ≤ high := by
    rw [hhigh, Domain.sizeSlack]
    cases hk : c.maxLength.integer? with
    | none =>
      rw [Option.getD_none]
      omega
    | some k =>
      have hpos : 0 ≤ k := h.2.2 k hk
      rw [Option.getD_some]
      omega
  exact hiff.mpr ⟨hmax, fun hpos ↦ by omega⟩

theorem not_accepts_text (h : f.Settled) (hempty : f.domain.empty = true) {limit : Value}
    (htype : f.definition.type = some (.string limit)) (hhopeless : Hopeless f) :
    ∀ v : Value, v.isNull = false → ¬Accepts f v := by
  rw [Hopeless, htype] at hhopeless
  rw [forall_not_accepts_iff, checkOf, htype]
  intro v hdemands hfits
  cases v with
  | text s =>
    have hbetween := between_of_textViolations hdemands
    obtain ⟨hfree, hne⟩ := (fits_iff s).mp hfits
    by_cases hs : s = ""
    · -- The empty text is in the domain, which is then not empty.
      subst hs
      have hrequired := hne.resolve_right (fun h ↦ h rfl)
      have hd := h.domain_eq
      rw [Domain.ofField, htype, hrequired] at hd
      rw [empty_eq_false_of_between hd hbetween] at hempty
      cases hempty
    · have hlist : s.toList ≠ [] := fun hnil ↦ hs (String.toList_inj.mp hnil)
      rcases hhopeless with hshort | hblocked
      · rw [Text.length_codes] at hbetween
        have hlength := hshort s.length hbetween
        rw [← String.length_toList] at hlength
        exact hlist (List.length_eq_zero_iff.mp hlength)
      · have hlast := List.getLast?_eq_some_getLast hlist
        rw [Domain.textHidesStop_of_isBlocked hlast (hblocked _)] at hfree
        cases hfree
  | _ => exact False.elim hdemands

theorem hopeless_text (h : f.Settled) (hpattern : ∀ p, f.constraints.pattern = some p → p = "")
    {limit : Value} (htype : f.definition.type = some (.string limit))
    (hnone : ∀ v : Value, v.isNull = false → ¬Accepts f v) : Hopeless f := by
  rw [forall_not_accepts_iff] at hnone
  rw [Hopeless, htype]
  by_contra hhope
  simp only [not_or, not_forall] at hhope
  obtain ⟨⟨n, hbetween, hn⟩, c, hfree⟩ := hhope
  have hlength : (String.ofList (List.replicate n c)).length = n := by
    rw [← String.length_toList, String.toList_ofList, List.length_replicate]
  have hne : String.ofList (List.replicate n c) ≠ "" := fun heq ↦ hn (by
    rw [← hlength, heq]
    rfl)
  have hdemands : (checkOf f).Demands (.text (String.ofList (List.replicate n c))) := by
    rw [checkOf, htype]
    exact textViolations_of_between hpattern (by rwa [Text.length_codes, hlength])
  refine hnone (.text (String.ofList (List.replicate n c))) hdemands ?_
  exact (fits_iff _).mpr ⟨Domain.textHidesStop_replicate h.stops_ne hfree n, .inr hne⟩

/-- A number without bounds hides a stop whatever it is exactly if each digit is blocked. -/
theorem forall_textHidesStop_iff {stops : List String} (hstops : ∀ s ∈ stops, s ≠ "") :
    (∀ n : Int, Text.isWritable n = true → Domain.textHidesStop (toString n) stops = true) ↔
      ∀ d ∈ "0123456789".toList, Domain.IsBlocked stops d := by
  constructor
  · intro h d hd
    have hdigits : ("0123456789".toList.all fun d ↦
        Text.isWritable (d.toNat - 48 : Nat) &&
          toString ((d.toNat - 48 : Nat) : Int) == String.ofList (List.replicate 1 d)) = true := by
      decide +kernel
    have hdigit := List.all_eq_true.mp hdigits d hd
    rw [Bool.and_eq_true, beq_iff_eq] at hdigit
    by_contra hfree
    have hhidden := h _ hdigit.1
    rw [hdigit.2, Domain.textHidesStop_replicate hstops hfree] at hhidden
    cases hhidden
  · intro h n _
    obtain ⟨d, hd, hmem⟩ : ∃ d, (Nat.toDigits 10 n.natAbs).getLast? = some d ∧
        d ∈ "0123456789".toList := by
      have hne : Nat.toDigits 10 n.natAbs ≠ [] := Nat.toDigits_ne_nil
      refine ⟨_, List.getLast?_eq_some_getLast hne, Domain.mem_digits_of_isDigit ?_⟩
      exact List.all_eq_true.mp (FieldCheck.all_isDigit_toDigits _) _ (List.getLast_mem hne)
    refine Domain.textHidesStop_of_isBlocked ?_ (h d hmem)
    by_cases hneg : n < 0
    · obtain ⟨k, rfl⟩ : ∃ k : Nat, n = -(k : Int) := ⟨n.natAbs, by omega⟩
      rw [Int.natAbs_neg, Int.natAbs_natCast] at hd
      rw [FieldCheck.toList_toString_neg (by omega), List.getLast?_cons, hd]
      rfl
    · obtain ⟨k, rfl⟩ := Int.eq_ofNat_of_zero_le (Int.not_lt.mp hneg)
      rw [FieldCheck.toList_toString_natCast]
      exact hd

/-! ## The warning -/

/-- A message is compiled with a warning for each field whose domain is empty. -/
theorem mem_warnings_iff {source : Spec.Message} {m : Compiled.Message}
    {warnings : List Diagnostic} (hcompile : Compiled.compileMessage source = .ok (m, warnings))
    (hnodup : (m.fields.map (·.name)).Nodup) (hf : f ∈ m.fields) :
    (⟨.emptyDomain, source.name, f.name⟩ : Diagnostic) ∈ warnings ↔ f.domain.empty = true := by
  obtain ⟨definitions, _, _, reading, -, -, -, -, -, h⟩ := Compiled.compileMessage_spec hcompile
  rw [Compiled.assemble] at h
  obtain ⟨boundary, -, h⟩ := bind_eq_ok_iff.mp h
  obtain ⟨results, hresults, h⟩ := bind_eq_ok_iff.mp h
  obtain ⟨sampleBytes, -, h⟩ := bind_eq_ok_iff.mp h
  rw [pure_eq_ok_iff, Prod.mk.injEq] at h
  obtain ⟨rfl, rfl⟩ := h
  have hfinding : ∀ r ∈ results, .emptyDomain ∈ r.findings ↔ r.field.domain.empty = true := by
    intro r hr
    obtain ⟨d, -, heq⟩ := Fault.exists_of_mem_results (Fault.mapM_eq_ok_iff.mp hresults) hr
    rw [Compiled.compileField] at heq
    obtain ⟨constraints, -, heq⟩ := bind_eq_ok_iff.mp heq
    obtain ⟨domain, -, heq⟩ := bind_eq_ok_iff.mp heq
    obtain ⟨sample, -, heq⟩ := bind_eq_ok_iff.mp heq
    cases pure_eq_ok_iff.mp heq
    cases domain.empty <;> simp
  simp only [List.mem_append, List.mem_map, List.mem_flatMap, Diagnostic.mk.injEq, reduceCtorEq,
    false_and, and_false, exists_false, false_or]
  obtain ⟨r, hr, rfl⟩ := List.mem_map.mp hf
  constructor
  · rintro ⟨r', hr', _, hmem, rfl, -, hname⟩
    have hsame := List.inj_on_of_nodup_map hnodup (List.mem_map_of_mem hr') hf hname
    rw [← hsame]
    exact (hfinding r' hr').mp hmem
  · intro hempty
    exact ⟨r, hr, _, (hfinding r hr).mpr hempty, rfl, trivial, rfl⟩

/-- When the warning that a field has no values is true. Of a field with that warning no value is
accepted if it is hopeless, and only then, unless texts also have to match a pattern. A number
without bounds is hopeless exactly if for each digit there is a stop that only repeats it. -/
theorem emptyDomain_truthful_iff {source : Spec.Message} {found : List Diagnostic}
    (hcheck : Check.ofMessage source = .ok found) (hsound : found.any (·.isError) = false)
    {m : Compiled.Message} {warnings : List Diagnostic}
    (hcompile : Compiled.compileMessage source = .ok (m, warnings)) (hf : f ∈ m.fields)
    (hwarned : (⟨.emptyDomain, source.name, f.name⟩ : Diagnostic) ∈ warnings) :
    (Hopeless f → ∀ v : Value, v.isNull = false → ¬Accepts f v) ∧
      ((∀ p, f.constraints.pattern = some p → p = "") →
        (∀ v : Value, v.isNull = false → ¬Accepts f v) → Hopeless f) ∧
      ∀ low high, f.definition.type = some (.number low high) →
        f.constraints.minimum = .null → f.constraints.maximum = .null →
        (Hopeless f ↔ ∀ d ∈ "0123456789".toList, Domain.IsBlocked f.stops d) := by
  have hm : Compiled.Sound source m := ⟨⟨found, hcheck, hsound⟩, warnings, hcompile⟩
  have h := hm.settled hf
  have hempty := (mem_warnings_iff hcompile hm.wellFormed.nodup hf).mp hwarned
  refine ⟨?_, ?_, fun low high htype hmin hmax ↦ ?_⟩
  · intro hhopeless
    cases htype : f.definition.type with
    | none =>
      rw [Hopeless, htype] at hhopeless
      exact hhopeless.elim
    | some t =>
      cases t with
      | string limit => exact not_accepts_text h hempty htype hhopeless
      | number low high => exact (hopeless_number_iff htype).mpr hhopeless
      | boolean => exact (hopeless_boolean_iff htype).mpr hhopeless
      | enum values => exact (hopeless_enum_iff h hempty htype).mpr hhopeless
      | bytes length =>
        rw [Hopeless, htype] at hhopeless
        exact hhopeless.elim
  · intro hpattern hnone
    cases htype : f.definition.type with
    | none =>
      have hd := h.domain_eq
      rw [Domain.ofField, htype] at hd
      cases hd
    | some t =>
      cases t with
      | string limit => exact hopeless_text h hpattern htype hnone
      | number low high => exact (hopeless_number_iff htype).mp hnone
      | boolean => exact (hopeless_boolean_iff htype).mp hnone
      | enum values => exact (hopeless_enum_iff h hempty htype).mp hnone
      | bytes length => exact absurd (accepts_bytes h hempty htype) (hnone _ rfl)
  · rw [← forall_textHidesStop_iff h.stops_ne, Hopeless, htype, hmin, hmax]
    refine forall_congr' fun n ↦ imp_iff_right ?_
    exact ⟨⟨rfl, fun k hk ↦ by cases hk⟩, rfl, fun k hk ↦ by cases hk⟩

def valueLine (type : Spec.FieldType) (terminator : String) : Spec.Message where
  name := some "line"
  direction := some .response
  format := some "\x7bv\x7d"
  fields := some [some { name := some "v", type := some type }]
  terminator := some terminator

/-- What compiling a line of one value comes to, if checks find no error in it. -/
theorem exists_valueLine (type : Spec.FieldType) (terminator : String)
    (P : Compiled.Field → Bool)
    (h : (gives (Check.ofMessage (valueLine type terminator)) fun found ↦
      !found.any (·.isError) &&
        gives (Compiled.compileMessage (valueLine type terminator)) fun compiled ↦
          compiled.1.fields.any fun f ↦ f.domain.empty && P f) = true) :
    ∃ found, Check.ofMessage (valueLine type terminator) = .ok found ∧
      found.any (·.isError) = false ∧ ∃ m warnings,
        Compiled.compileMessage (valueLine type terminator) = .ok (m, warnings) ∧
        ∃ f ∈ m.fields,
          (⟨.emptyDomain, some "line", f.name⟩ : Diagnostic) ∈ warnings ∧ P f = true := by
  obtain ⟨found, hfound, h⟩ := exists_of_gives h
  rw [Bool.and_eq_true, Bool.not_eq_true'] at h
  obtain ⟨hsound, h⟩ := h
  obtain ⟨⟨m, warnings⟩, hcompile, h⟩ := exists_of_gives h
  obtain ⟨f, hf, h⟩ := List.any_eq_true.mp h
  rw [Bool.and_eq_true] at h
  have hm : Compiled.Sound (valueLine type terminator) m :=
    ⟨⟨found, hfound, hsound⟩, warnings, hcompile⟩
  exact ⟨found, hfound, hsound, m, warnings, hcompile, f, hf,
    (mem_warnings_iff hcompile hm.wellFormed.nodup hf).mpr h.1, h.2⟩

/-- Whether both words hide a stop of a field of Booleans. -/
def hidesWords (f : Compiled.Field) : Bool :=
  match f.definition.type with
  | some .boolean => Domain.booleanWords.all (Domain.textHidesStop · f.stops)
  | _ => false

/-- Both words for Booleans end with the letter that ends the line. -/
theorem emptyDomain_truthful_iff_boolean :
    ∃ found, Check.ofMessage (valueLine .boolean "e") = .ok found ∧
      found.any (·.isError) = false ∧ ∃ m warnings,
        Compiled.compileMessage (valueLine .boolean "e") = .ok (m, warnings) ∧
        ∃ f ∈ m.fields, (⟨.emptyDomain, some "line", f.name⟩ : Diagnostic) ∈ warnings ∧
          Hopeless f ∧ ∀ v : Value, v.isNull = false → ¬Accepts f v := by
  obtain ⟨found, hfound, hsound, m, warnings, hcompile, f, hf, hwarned, h⟩ :=
    exists_valueLine .boolean "e" hidesWords (by decide +kernel)
  have hhopeless : Hopeless f := by
    rw [hidesWords.eq_def] at h
    split at h
    · rename_i htype
      rw [Hopeless, htype]
      exact List.all_eq_true.mp h
    · cases h
  refine ⟨found, hfound, hsound, m, warnings, hcompile, f, hf, hwarned, hhopeless, ?_⟩
  exact (emptyDomain_truthful_iff hfound hsound hcompile hf hwarned).1 hhopeless

/-- A number that has to be large, with nothing to bound it from above, is taken to have no values,
since the bound that stands in for the missing one is below the other. The least one is accepted. -/
theorem emptyDomain_of_large_minimum :
    ∃ found, Check.ofMessage (valueLine (.number (.int 2000000) .null) "\n") = .ok found ∧
      found.any (·.isError) = false ∧ ∃ m warnings,
        Compiled.compileMessage (valueLine (.number (.int 2000000) .null) "\n") =
          .ok (m, warnings) ∧
        ∃ f ∈ m.fields, (⟨.emptyDomain, some "line", f.name⟩ : Diagnostic) ∈ warnings ∧
          Accepts f (.int 2000000) := by
  obtain ⟨found, hfound, hsound, m, warnings, hcompile, f, hf, hwarned, h⟩ :=
    exists_valueLine (.number (.int 2000000) .null) "\n"
      (fun f ↦ gives ((checkOf f).run (f.name.getD "") f.definition.isRequired (stopsOf f)
        (.int 2000000)) List.isEmpty) (by decide +kernel)
  obtain ⟨errors, hrun, herrors⟩ := exists_of_gives h
  rw [List.isEmpty_iff] at herrors
  subst herrors
  exact ⟨found, hfound, hsound, m, warnings, hcompile, f, hf, hwarned, hrun⟩

end Codec

end TextProtocol
