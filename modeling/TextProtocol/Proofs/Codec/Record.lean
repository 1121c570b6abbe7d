import Mathlib.Data.List.Nodup
import TextProtocol.Codec.Record
import TextProtocol.Proofs.Fault

/-!
# Values in records

Records are built from the values that were stored for fields, member by member, and a member
without one takes its default. Where the fields of a message have different member names, its
members are those of its fields, in their order.
-/

namespace TextProtocol

open Fault (mapM_eq_ok_iff exists_of_mapM_eq_error)

/-! ## Entries -/

namespace Value

variable {entries : List (String × Value)}

theorem lookup?_cons (k : String) (w : Value) (rest : List (String × Value)) (key : String) :
    lookup? ((k, w) :: rest) key = if k = key then some w else lookup? rest key := by
  rw [lookup?, lookup?, List.find?_cons]
  by_cases h : k = key
  · simp [h]
  · have hk : (k == key) = false := beq_eq_false_iff_ne.mpr h
    simp only [hk, if_neg h]

theorem lookup?_putEntry (entries : List (String × Value)) (key other : String) (v : Value) :
    lookup? (putEntry entries key v) other =
      if key = other then some v else lookup? entries other := by
  induction entries with
  | nil => rw [putEntry, lookup?_cons]
  | cons e rest ih =>
    obtain ⟨k, w⟩ := e
    rw [putEntry]
    by_cases hk : k = key
    · rw [if_pos (beq_iff_eq.mpr hk), lookup?_cons, lookup?_cons, hk]
      split <;> rfl
    · rw [if_neg (by simpa using hk), lookup?_cons, lookup?_cons, ih]
      by_cases hother : k = other
      · rw [if_pos hother, if_pos hother, if_neg (fun h ↦ hk (hother.trans h.symm))]
      · rw [if_neg hother, if_neg hother]

theorem lookup?_eq_none_iff {key : String} :
    lookup? entries key = none ↔ key ∉ entries.map Prod.fst := by
  induction entries with
  | nil => simp [lookup?]
  | cons e rest ih =>
    obtain ⟨k, w⟩ := e
    rw [lookup?_cons, List.map_cons, List.mem_cons, not_or]
    by_cases h : k = key
    · simp [h]
    · rw [if_neg h, ih]
      exact (and_iff_right fun heq ↦ h heq.symm).symm

theorem mem_keys_putEntry {key other : String} {v : Value} :
    other ∈ (putEntry entries key v).map Prod.fst ↔
      key = other ∨ other ∈ entries.map Prod.fst := by
  rw [← not_iff_not, ← lookup?_eq_none_iff, not_or, ← lookup?_eq_none_iff,
    lookup?_putEntry]
  by_cases h : key = other <;> simp [h]

theorem putEntry_of_not_mem {key : String} (h : key ∉ entries.map Prod.fst) (v : Value) :
    putEntry entries key v = entries ++ [(key, v)] := by
  induction entries with
  | nil => rfl
  | cons e rest ih =>
    obtain ⟨k, w⟩ := e
    rw [List.map_cons, List.mem_cons, not_or] at h
    have hne : ¬(k == key) = true := fun heq ↦ h.1 (eq_of_beq heq).symm
    rw [putEntry, if_neg hne, ih h.2]
    rfl

theorem foldl_putEntry {new : List (String × Value)} (h : ((entries ++ new).map Prod.fst).Nodup) :
    new.foldl (fun es e ↦ putEntry es e.1 e.2) entries = entries ++ new := by
  induction new generalizing entries with
  | nil => exact (List.append_nil entries).symm
  | cons e rest ih =>
    have hnew : e.1 ∉ entries.map Prod.fst := by
      rw [List.map_append, List.map_cons, List.nodup_append] at h
      exact fun hmem ↦ h.2.2 _ hmem _ List.mem_cons_self rfl
    have hsplit : entries ++ e :: rest = entries ++ [e] ++ rest := by
      rw [List.append_assoc]
      rfl
    rw [hsplit] at h ⊢
    rw [List.foldl_cons, putEntry_of_not_mem hnew]
    exact ih h

theorem lookup?_of_mem (h : (entries.map Prod.fst).Nodup) {e : String × Value} (he : e ∈ entries) :
    lookup? entries e.1 = some e.2 := by
  induction entries with
  | nil => cases he
  | cons first rest ih =>
    obtain ⟨k, w⟩ := first
    rw [List.map_cons, List.nodup_cons] at h
    rw [lookup?_cons]
    rcases List.mem_cons.mp he with rfl | he
    · exact if_pos rfl
    · have hne : k ≠ e.1 := fun heq ↦ h.1 (List.mem_map.mpr ⟨e, he, heq.symm⟩)
      rw [if_neg hne]
      exact ih h.2 he

end Value

namespace Codec

open Value (lookup? putEntry lookup?_putEntry lookup?_eq_none_iff lookup?_of_mem)

variable {taken : List Taken} {known : List Member}

/-! ## Stored values -/

/-- A field that a parser has taken from the data: its bytes and the value they were read as. -/
structure Taken where
  field : Spec.Field
  raw : Bytes
  value : Value

def storeAll (values : Record) (taken : List Taken) : Record :=
  taken.foldl (fun vs e ↦ putEntry vs (memberName e.field.name) e.value) values

theorem storeAll_append (values : Record) (first later : List Taken) :
    storeAll values (first ++ later) = storeAll (storeAll values first) later :=
  List.foldl_append

theorem lookup?_storeAll_of_forall_ne {values : Record} {key : String}
    (h : ∀ e ∈ taken, memberName e.field.name ≠ key) :
    lookup? (storeAll values taken) key = lookup? values key := by
  induction taken generalizing values with
  | nil => rfl
  | cons e rest ih =>
    rw [storeAll, List.foldl_cons]
    refine (ih fun e' he' ↦ h e' (List.mem_cons_of_mem _ he')).trans ?_
    rw [lookup?_putEntry, if_neg (h e List.mem_cons_self)]

/-- A value is found again if all that is stored for its member is that value. -/
theorem lookup?_storeAll {values : Record} {key : String} {v : Value}
    (hsame : ∀ e ∈ taken, memberName e.field.name = key → e.value = v)
    (hstored : ∃ e ∈ taken, memberName e.field.name = key) :
    lookup? (storeAll values taken) key = some v := by
  induction taken generalizing values with
  | nil => exact absurd hstored (by simp)
  | cons e rest ih =>
    rw [storeAll, List.foldl_cons]
    by_cases hlater : ∃ e' ∈ rest, memberName e'.field.name = key
    · exact ih (fun e' he' ↦ hsame e' (List.mem_cons_of_mem _ he')) hlater
    · refine (lookup?_storeAll_of_forall_ne fun e' he' heq ↦ hlater ⟨e', he', heq⟩).trans ?_
      obtain ⟨e', he', hkey⟩ := hstored
      rcases List.mem_cons.mp he' with rfl | he'
      · rw [lookup?_putEntry, if_pos hkey, hsame e' List.mem_cons_self hkey]
      · exact absurd ⟨e', he', hkey⟩ hlater

theorem exists_of_mem_storeAll {e : String × Value} (he : e ∈ storeAll [] taken) :
    ∃ e' ∈ taken, memberName e'.field.name = e.1 := by
  by_cases h : ∃ e' ∈ taken, memberName e'.field.name = e.1
  · exact h
  · have hnone : lookup? (storeAll [] taken) e.1 = lookup? [] e.1 :=
      lookup?_storeAll_of_forall_ne fun e' he' heq ↦ h ⟨e', he', heq⟩
    exact absurd (List.mem_map_of_mem he) (lookup?_eq_none_iff.mp hnone)

/-! ## Members -/

-- `rfl` would look into the spelling of names here.
theorem Member.name_ofField (f : Compiled.Field) : (Member.ofField f).name = memberName f.name := by
  rw [Member.ofField]

theorem Member.default?_ofField {f : Compiled.Field} (h : f.definition.isRequired = false) :
    (Member.ofField f).default? = some f.definition.defaultValue := by
  rw [Member.ofField, h]
  rfl

theorem foldl_addMember {new : List Member} (h : ((known ++ new).map Member.name).Nodup) :
    new.foldl addMember known = known ++ new := by
  induction new generalizing known with
  | nil => exact (List.append_nil _).symm
  | cons member rest ih =>
    have hnew : known.any (·.name == member.name) = false := by
      rw [List.any_eq_false]
      intro other hother heq
      rw [List.map_append, List.map_cons, List.nodup_append] at h
      exact h.2.2 _ (List.mem_map_of_mem hother) _ List.mem_cons_self (eq_of_beq heq)
    have hadd : addMember known member = known ++ [member] := by
      rw [addMember, hnew]
      rfl
    rw [List.foldl_cons, hadd, ih (by rwa [List.append_assoc]), List.append_assoc]
    rfl

/-- Fields with different member names have a member each. -/
theorem members_eq_map {m : Compiled.Message}
    (h : (m.fields.map fun f ↦ memberName f.name).Nodup) :
    members m = m.fields.map Member.ofField := by
  have hnames : (m.fields.map Member.ofField).map Member.name =
      m.fields.map fun f ↦ memberName f.name := by
    rw [List.map_map]
    exact List.map_congr_left fun f _ ↦ Member.name_ofField f
  rw [members, foldl_addMember (by rwa [List.nil_append, hnames]), List.nil_append]

theorem map_name_addMember (known : List Member) (new : Member) :
    (addMember known new).map Member.name =
      if new.name ∈ known.map Member.name then known.map Member.name
      else known.map Member.name ++ [new.name] := by
  have hknown : known.any (·.name == new.name) = true ↔ new.name ∈ known.map Member.name := by
    simp
  rw [addMember]
  by_cases h : new.name ∈ known.map Member.name
  · rw [if_pos h, if_pos (hknown.mpr h), List.map_map]
    refine List.map_congr_left fun other _ ↦ ?_
    rw [Function.comp_apply]
    split <;> rfl
  · rw [if_neg h, if_neg (mt hknown.mp h), List.map_append]
    rfl

theorem mem_names_addMember {new : Member} {name : String} :
    name ∈ (addMember known new).map Member.name ↔
      name ∈ known.map Member.name ∨ name = new.name := by
  rw [map_name_addMember]
  split
  · rename_i hknown
    rw [iff_self_or]
    rintro rfl
    exact hknown
  · rw [List.mem_append, List.mem_singleton]

/-- A member has no default if none of the fields that share it has. -/
theorem exists_of_mem_addMember {new member : Member} (h : member ∈ addMember known new)
    (hdefault : member.default? = none) :
    (∃ other ∈ known, other.name = member.name ∧ other.default? = none) ∨
      new.name = member.name ∧ new.default? = none := by
  rw [addMember] at h
  split at h
  · obtain ⟨other, hother, rfl⟩ := List.mem_map.mp h
    refine .inl ⟨other, hother, ?_⟩
    split at hdefault
    · rename_i hname
      rw [if_pos hname]
      refine ⟨rfl, ?_⟩
      cases hnew : new.default? with
      | some v => simp [hnew] at hdefault
      | none => simpa [hnew] using hdefault
    · rename_i hname
      rw [if_neg hname]
      exact ⟨rfl, hdefault⟩
  · rcases List.mem_append.mp h with h | h
    · exact .inl ⟨member, h, rfl, hdefault⟩
    · rw [List.mem_singleton] at h
      subst h
      exact .inr ⟨rfl, hdefault⟩

theorem foldl_addMember_spec (known new : List Member) :
    (∀ name, name ∈ (new.foldl addMember known).map Member.name ↔
      name ∈ known.map Member.name ∨ name ∈ new.map Member.name) ∧
      ∀ member ∈ new.foldl addMember known, member.default? = none →
        ∃ other ∈ known ++ new, other.name = member.name ∧ other.default? = none := by
  induction new generalizing known with
  | nil =>
    refine ⟨fun name ↦ by simp, fun member h hdefault ↦ ?_⟩
    exact ⟨member, List.mem_append_left _ h, rfl, hdefault⟩
  | cons first rest ih =>
    obtain ⟨hnames, hdefaults⟩ := ih (addMember known first)
    refine ⟨fun name ↦ ?_, fun member h hdefault ↦ ?_⟩
    · rw [List.foldl_cons, hnames, mem_names_addMember, List.map_cons, List.mem_cons, or_assoc]
    · obtain ⟨other, hother, hname, hnone⟩ := hdefaults member h hdefault
      rcases List.mem_append.mp hother with hother | hother
      · rcases exists_of_mem_addMember hother hnone with ⟨known', hmem, heq, hnone'⟩ | ⟨heq, hnone'⟩
        · exact ⟨known', List.mem_append_left _ hmem, heq.trans hname, hnone'⟩
        · exact ⟨first, List.mem_append_right _ List.mem_cons_self, heq.trans hname, hnone'⟩
      · exact ⟨other, List.mem_append_right _ (List.mem_cons_of_mem _ hother), hname, hnone⟩

theorem mem_names_members_iff {m : Compiled.Message} {name : String} :
    name ∈ (members m).map Member.name ↔ ∃ f ∈ m.fields, memberName f.name = name := by
  rw [members, (foldl_addMember_spec [] _).1]
  simp [Member.name_ofField]

/-- A member without a default is that of a required field. -/
theorem exists_required_of_mem_members {m : Compiled.Message} {member : Member}
    (h : member ∈ members m) (hdefault : member.default? = none) :
    ∃ f ∈ m.fields, memberName f.name = member.name ∧ f.definition.isRequired = true := by
  obtain ⟨other, hother, hname, hnone⟩ := (foldl_addMember_spec [] _).2 member h hdefault
  rw [List.nil_append, List.mem_map] at hother
  obtain ⟨f, hf, rfl⟩ := hother
  rw [Member.name_ofField] at hname
  refine ⟨f, hf, hname, ?_⟩
  by_contra hoptional
  rw [Member.default?_ofField (by simpa using hoptional)] at hnone
  cases hnone

theorem map_eq_map_congr {α β γ δ : Type} {f : α → γ} {f' : β → γ} {g : α → δ} {g' : β → δ}
    (h : ∀ a b, f a = f' b ↔ g a = g' b) {items : List α} {results : List β} :
    items.map f = results.map f' ↔ items.map g = results.map g' := by
  induction items generalizing results with
  | nil => cases results <;> simp
  | cons a items ih => cases results <;> simp [h, ih]

/-- A record is built when all that is given belongs to a member, and each member has a value given
for it or a default. -/
theorem buildFrom_eq_ok_iff {members : List Member} {given r : Record} :
    buildFrom members given = .ok r ↔
      (∀ e ∈ given, e.1 ∈ members.map Member.name) ∧
        members.map (fun m ↦ (m.name, lookup? given m.name <|> m.default?)) =
          r.map fun e ↦ (e.1, some e.2) := by
  have hgiven : given.any (fun e ↦ members.all (·.name != e.1)) = true ↔
      ¬∀ e ∈ given, e.1 ∈ members.map Member.name := by
    simp
  rw [buildFrom]
  split
  · rename_i h
    constructor
    · intro hr
      cases hr
    · exact fun hr ↦ absurd hr.1 (hgiven.mp h)
  · rename_i h
    rw [mapM_eq_ok_iff, and_iff_right (not_not.mp (mt hgiven.mpr h))]
    refine map_eq_map_congr fun m e ↦ ?_
    cases lookup? given m.name <|> m.default? with
    | none => simp
    | some v => simp [Prod.ext_iff]

theorem exists_buildFrom {members : List Member} {given : Record}
    (hgiven : ∀ e ∈ given, e.1 ∈ members.map Member.name)
    (hmembers : ∀ member ∈ members, member.default? = none →
      member.name ∈ given.map Prod.fst) : ∃ r, buildFrom members given = .ok r := by
  have hvalues : ∀ member ∈ members,
      ∃ v, (lookup? given member.name <|> member.default?) = some v := by
    intro member hmember
    cases hfound : lookup? given member.name with
    | some v => exact ⟨v, rfl⟩
    | none =>
      cases hdefault : member.default? with
      | some v => exact ⟨v, rfl⟩
      | none => exact absurd (hmembers member hmember hdefault) (lookup?_eq_none_iff.mp hfound)
  refine ⟨members.map fun member ↦ (member.name,
    (lookup? given member.name <|> member.default?).getD .null),
    buildFrom_eq_ok_iff.mpr ⟨hgiven, ?_⟩⟩
  rw [List.map_map]
  refine List.map_congr_left fun member hmember ↦ ?_
  obtain ⟨v, hv⟩ := hvalues member hmember
  dsimp only [Function.comp_apply]
  rw [hv, Option.getD_some]

theorem buildFrom_eq_error {members : List Member} {given : Record} {e : Fault}
    (h : buildFrom members given = .error e) : e = .mismatch := by
  rw [buildFrom] at h
  split at h
  · cases h
    rfl
  · obtain ⟨member, -, h⟩ := exists_of_mapM_eq_error h
    split at h
    · cases h
    · cases h
      rfl

variable {m : Compiled.Message} {given r : Record}

theorem build_eq_ok_iff (hdistinct : (m.fields.map fun f ↦ memberName f.name).Nodup) :
    build m given = .ok r ↔
      (∀ e ∈ given, ∃ f ∈ m.fields, memberName f.name = e.1) ∧
        m.fields.map (fun f ↦ (memberName f.name,
          lookup? given (memberName f.name) <|> (Member.ofField f).default?)) =
          r.map fun e ↦ (e.1, some e.2) := by
  rw [build, buildFrom_eq_ok_iff, members_eq_map hdistinct, List.map_map, List.map_map]
  simp only [List.mem_map, Function.comp_def, Member.name_ofField]

/-- A record has for each field the value given for it, or else its default. -/
theorem exists_lookup?_of_build (hdistinct : (m.fields.map fun f ↦ memberName f.name).Nodup)
    (h : build m given = .ok r) {f : Compiled.Field} (hf : f ∈ m.fields) :
    ∃ v, lookup? r (memberName f.name) = some v ∧
      (lookup? given (memberName f.name) <|> (Member.ofField f).default?) = some v := by
  obtain ⟨-, h⟩ := (build_eq_ok_iff hdistinct).mp h
  have hkeys : r.map Prod.fst = m.fields.map fun f ↦ memberName f.name := by
    have hfirst := congrArg (List.map Prod.fst) h
    simp only [List.map_map, Function.comp_def] at hfirst
    rw [hfirst]
  have hmem := List.mem_map_of_mem (f := fun f ↦ (memberName f.name,
    lookup? given (memberName f.name) <|> (Member.ofField f).default?)) hf
  rw [h] at hmem
  obtain ⟨e, he, heq⟩ := List.mem_map.mp hmem
  rw [Prod.mk.injEq] at heq
  refine ⟨e.2, ?_, heq.2.symm⟩
  rw [← heq.1]
  exact lookup?_of_mem (hkeys ▸ hdistinct) he

end Codec

end TextProtocol
