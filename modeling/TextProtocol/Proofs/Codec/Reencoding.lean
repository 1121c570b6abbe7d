import TextProtocol.Proofs.Codec.Package
import TextProtocol.Proofs.Codec.Reads
import TextProtocol.Proofs.Codec.Writes

/-!
# Writing what was parsed

A message that was parsed can be written again, and comes out as the bytes it was parsed from. All
that a parser reads passes the checks of the serializer: the bytes of a field end at its stop, so
they do not hide it. What is lost in reading is only how a number was spelled.
-/

namespace TextProtocol

open Fault (exists_of_gives exists_of_gives_gives gives)

namespace Codec

variable {taken : List Taken} {used rest raw : Bytes} {e : Taken} {states : List State} {r : Record}
  {f : Compiled.Field}

variable {m : Compiled.Message} {delimiter terminator : Option String}

/-- The bytes that a parser takes for fields, state by state; none for a field that is absent. -/
def spellings (m : Compiled.Message) (data : Bytes) :
    List State → Cursor → List (Spec.Field × Bytes)
  | [], _ => []
  | state :: rest, c =>
    match step false m data state c with
    | .ok (.ok next) =>
      (state.field?.map fun f ↦ (f, Wire.between data c.position next.position)).toList ++
        spellings m data rest next
    | _ => []

theorem Takes.of_some {state : State} {after : Bytes} (h : Takes false m state raw after (some e)) :
    state.field? = some e.field ∧ e.raw = raw := by
  cases h with
  | required | present => exact ⟨rfl, rfl⟩

theorem Reads.sublist (h : Reads false m states used rest taken) :
    (taken.map Taken.field).Sublist (states.filterMap State.field?) := by
  induction h with
  | nil => exact List.Sublist.slnil
  | @cons state states raw used rest first taken ht hr ih =>
    cases first with
    | none =>
      rw [List.filterMap_cons]
      split
      · exact ih
      · exact ih.cons _
    | some e =>
      rw [List.filterMap_cons_some ht.of_some.1]
      exact ih.cons_cons _

/-- The bytes of what is read are among those that the parser takes for fields. -/
theorem Reads.mem_spellings (h : Reads false m states used rest taken)
    (hx : ∀ state ∈ states, ∀ x, state.extraction? = some x → x.Positive) (before : Bytes)
    (values : Record) (he : e ∈ taken) :
    (e.field, e.raw) ∈
      spellings m (before ++ (used ++ rest)) states ⟨before.length, values⟩ := by
  induction h generalizing before values with
  | nil => cases he
  | @cons state states raw used rest first taken ht hr ih =>
    have hstep : step false m (before ++ (raw ++ (used ++ rest))) state ⟨before.length, values⟩ =
        .ok (.ok ⟨(before ++ raw).length, storeAll values first.toList⟩) :=
      (step_eq_ok_iff (hx state List.mem_cons_self)).mpr ⟨raw, used ++ rest, first, rfl, ht, rfl⟩
    rw [List.append_assoc, spellings, hstep]
    rcases List.mem_append.mp he with he | he
    · rw [Option.mem_toList] at he
      subst he
      obtain ⟨hfield, hraw⟩ := ht.of_some
      refine List.mem_append_left _ ?_
      rw [hfield, hraw, Wire.between_append]
      exact List.mem_singleton_self _
    · refine List.mem_append_right _ ?_
      rw [← List.append_assoc before raw]
      exact ih (fun s hs ↦ hx s (List.mem_cons_of_mem _ hs)) (before ++ raw) _ he

/-! ## What was read can be written -/

/-- Whether a field that was taken can be written again as the bytes it was taken from, given the
bytes of stops that end it. -/
structure Rewritable (m : Compiled.Message) (e : Taken) (x : Extraction) : Prop where
  coerced : ∃ field, fieldOf? m e.field = some field ∧
    (checkOf field).coerce e.raw = .ok (.ok e.value)
  free : ∀ s ∈ x.stops, Wire.hidesStop e.raw (Utf8.ofString s) = false
  full : e.field.isRequired = true ∨ e.raw ≠ []

theorem hidesStop_of_endsAt {f : Spec.Field} {x : Extraction}
    (htied : x.Tied delimiter terminator f states)
    (hsingle : ∀ d t, delimiter = some d → terminator = some t → d ≠ t →
      ¬(d ∈ x.stops ∧ t ∈ x.stops)) (hr : Reads false m states used rest taken)
    (hruns : x.RunsTo (raw ++ (used ++ rest)) raw.length) :
    ∀ s ∈ x.stops, Wire.hidesStop raw (Utf8.ofString s) = false := by
  cases htied with
  | @stop _ s others _ hstops hne hnext hothers =>
    have hothers' : others = [] := by
      cases others with
      | nil => rfl
      | cons t rest =>
        obtain ⟨hd, ht, hdiffers⟩ := hothers t List.mem_cons_self
        exact absurd (by simp [hstops]) (hsingle s t hd ht hdiffers)
    subst hothers'
    obtain ⟨later, rfl⟩ := hr.exists_of_expected hnext
    have hends := hruns.endsAt (hstops ▸ List.mem_cons_self) (by
      rw [List.append_assoc]
      exact Wire.occursAt_length_append ..)
    rw [Extraction.endsAt_of_stops (by simp [hstops]), hstops] at hends
    have hfree := Wire.hidesStop_of_findStop hends
    rw [List.take_left] at hfree
    rw [hstops]
    simpa using hfree
  | width hv => simp [Extraction.stops]
  | buffer => simp [Extraction.stops]

theorem rewritable_of_reads (hlinked : State.Linked delimiter terminator states)
    (hsingle : ∀ state ∈ states, ∀ x, state.extraction? = some x →
      ∀ d t, delimiter = some d → terminator = some t → d ≠ t → ¬(d ∈ x.stops ∧ t ∈ x.stops))
    (h : Reads false m states used rest taken) (he : e ∈ taken) :
    ∃ state ∈ states, ∃ x, state.field? = some e.field ∧ state.extraction? = some x ∧
      Rewritable m e x := by
  induction hlinked generalizing used taken with
  | last =>
    cases h with
    | cons ht hr =>
      cases hr
      rw [List.append_nil, Option.mem_toList] at he
      subst he
      cases ht.of_some.1
  | text hexpected hnone _ ih =>
    cases h with
    | cons ht hr =>
      obtain ⟨-, rfl⟩ := (takes_iff_of_expected hexpected).mp ht
      exact (ih (fun s hs ↦ hsingle s (List.mem_cons_of_mem _ hs)) hr he).imp fun state hstate ↦
        ⟨List.mem_cons_of_mem _ hstate.1, hstate.2⟩
  | required hrequired htied _ ih =>
    cases h with
    | cons ht hr =>
      rcases List.mem_append.mp he with he | he
      · rw [Option.mem_toList] at he
        subst he
        cases ht with
        | required hfield hruns hv =>
          refine ⟨_, List.mem_cons_self, _, rfl, rfl, ⟨_, hfield, valueIn_eq_ok_iff.mp hv⟩, ?_,
            .inl hrequired⟩
          exact hidesStop_of_endsAt htied (hsingle _ List.mem_cons_self _ rfl) hr hruns
      · exact (ih (fun s hs ↦ hsingle s (List.mem_cons_of_mem _ hs)) hr he).imp fun state hstate ↦
          ⟨List.mem_cons_of_mem _ hstate.1, hstate.2⟩
  | optional _ htied _ ih =>
    cases h with
    | cons ht hr =>
      rcases List.mem_append.mp he with he | he
      · rw [Option.mem_toList] at he
        subst he
        cases ht with
        | present hfield hends hne hfollow hv =>
          refine ⟨_, List.mem_cons_self, _, rfl, rfl, ⟨_, hfield, valueIn_eq_ok_iff.mp hv⟩, ?_,
            .inr hne⟩
          exact hidesStop_of_endsAt htied (hsingle _ List.mem_cons_self _ rfl) hr (.inl hends)
      · exact (ih (fun s hs ↦ hsingle s (List.mem_cons_of_mem _ hs)) hr he).imp fun state hstate ↦
          ⟨List.mem_cons_of_mem _ hstate.1, hstate.2⟩

/-! ## The bytes that are written -/

theorem fieldBytes_of_get {f : Spec.Field} {v : Value} (hget : r.get (memberName f.name) = v)
    (hv : v.isNull = false) : fieldBytes r f = Wire.render v := by
  rw [fieldBytes, sent?_of_get hget hv, Option.elim_some]

theorem fieldBytes_of_isNull {f : Spec.Field} (hoptional : f.isRequired = false)
    (hget : (r.get (memberName f.name)).isNull = true) (hdefault : f.defaultValue.isNull = true) :
    fieldBytes r f = [] := by
  rw [fieldBytes, sent?, hoptional]
  simp [hget, hdefault]

/-- Whether a record has the value that was taken for a field, and null for one that was absent and
has no default. -/
structure Agrees (r : Record) (taken : List Taken) (f : Spec.Field) : Prop where
  get_eq : ∀ e ∈ taken, e.field = f → r.get (memberName f.name) = e.value
  isNull : (∀ e ∈ taken, e.field ≠ f) →
    (r.get (memberName f.name)).isNull = true ∧ f.defaultValue.isNull = true

/-- What is written for a record where a state took something is what the state took. -/
theorem written_of_takes {state : State} {after : Bytes} {first : Option Taken}
    (h : Takes false m state raw after first)
    (hoptional : ∀ f x follow, state = .optionalField f x follow → f.isRequired = false)
    (hfirst : ∀ e ∈ first, e ∈ taken)
    (hnone : first = none → ∀ f, state.field? = some f → ∀ e ∈ taken, e.field ≠ f)
    (hcanonical : ∀ e ∈ taken, ∀ field, fieldOf? m e.field = some field →
      (checkOf field).Canonical e.raw) (hagrees : ∀ f, state.field? = some f → Agrees r taken f) :
    state.written r = raw := by
  have hvalue {f : Spec.Field} {field : Compiled.Field} {v : Value}
      (hf : state.field? = some f) (he : ⟨f, raw, v⟩ ∈ taken) (hfield : fieldOf? m f = some field)
      (hv : (checkOf field).coerce raw = .ok (.ok v)) : fieldBytes r f = raw := by
    rw [fieldBytes_of_get ((hagrees f hf).get_eq _ he rfl)
      (FieldCheck.demands_of_coerce hv).isNull_eq_false]
    exact FieldCheck.render_of_coerce hv (hcanonical _ he field hfield)
  cases h with
  | terminal => rfl
  | text hs => exact State.written_of_expected hs
  | required hfield _ hv => exact hvalue rfl (hfirst _ rfl) hfield (valueIn_eq_ok_iff.mp hv)
  | present hfield _ _ _ hv => exact hvalue rfl (hfirst _ rfl) hfield (valueIn_eq_ok_iff.mp hv)
  | absent hfield habsent =>
    obtain ⟨hnull, hdefault⟩ := (hagrees _ rfl).isNull (hnone rfl _ rfl)
    exact fieldBytes_of_isNull (hoptional _ _ _ rfl) hnull hdefault

theorem flatMap_written_of_reads (h : Reads false m states used rest taken)
    (hoptional : ∀ f x follow, .optionalField f x follow ∈ states → f.isRequired = false)
    (honce : ((states.filterMap State.field?).map (·.name)).Nodup)
    (hcanonical : ∀ e ∈ taken, ∀ field, fieldOf? m e.field = some field →
      (checkOf field).Canonical e.raw)
    (hagrees : ∀ f ∈ states.filterMap State.field?, Agrees r taken f) :
    states.flatMap (State.written r) = used := by
  induction h with
  | nil => rfl
  | @cons state states raw used rest first taken ht hr ih =>
    have honce' : ((states.filterMap State.field?).map (·.name)).Nodup ∧
        ∀ f, state.field? = some f → f ∉ states.filterMap State.field? := by
      cases hfield : state.field? with
      | none =>
        rw [List.filterMap_cons_none hfield] at honce
        exact ⟨honce, nofun⟩
      | some g =>
        rw [List.filterMap_cons_some hfield, List.map_cons, List.nodup_cons] at honce
        refine ⟨honce.2, fun f hf hmem ↦ honce.1 ?_⟩
        cases hf
        exact List.mem_map_of_mem hmem
    have hlater : states.flatMap (State.written r) = used := by
      refine ih (fun f x follow hs ↦ hoptional f x follow (List.mem_cons_of_mem _ hs)) honce'.1
        (fun e he ↦ hcanonical e (List.mem_append_right _ he)) fun f hf ↦ ?_
      obtain ⟨state', hstate', hf'⟩ := List.mem_filterMap.mp hf
      have hall := hagrees f (List.mem_filterMap.mpr ⟨state', List.mem_cons_of_mem _ hstate', hf'⟩)
      refine ⟨fun e he ↦ hall.get_eq e (List.mem_append_right _ he), fun hne ↦ hall.isNull ?_⟩
      intro e he heq
      rcases List.mem_append.mp he with he | he
      · rw [Option.mem_toList] at he
        subst he
        exact honce'.2 f (heq ▸ ht.of_some.1) hf
      · exact hne e he heq
    have hfirst : state.written r = raw := by
      refine written_of_takes ht
        (fun f x follow heq ↦ hoptional f x follow (heq ▸ List.mem_cons_self))
        (fun e he ↦ List.mem_append_left _ (Option.mem_toList.mpr he)) ?_ hcanonical
        fun f hf ↦ hagrees f (List.mem_filterMap.mpr ⟨state, List.mem_cons_self, hf⟩)
      rintro rfl f hf e he rfl
      exact honce'.2 _ hf (hr.sublist.subset (List.mem_map_of_mem he))
    rw [List.flatMap_cons, hfirst, hlater]

/-! ## Whole messages -/

/-- A record that was parsed has for each field the value that was taken for it, or null if that was
absent. -/
theorem lookup?_of_reads (hm : m.WellFormed)
    (hdistinct : (m.fields.map fun f ↦ memberName f.name).Nodup)
    (honce : ((m.machine.states.filterMap State.field?).map (·.name)).Nodup)
    (hr : Reads false m m.machine.states used rest taken)
    (hbuild : build m (storeAll [] taken) = .ok r) (hf : f ∈ m.fields) :
    (∀ e ∈ taken, e.field = f.definition →
      Value.lookup? r (memberName f.name) = some e.value) ∧
    ((∀ e ∈ taken, e.field ≠ f.definition) → f.definition.isRequired = false ∧
      Value.lookup? r (memberName f.name) = some f.definition.defaultValue) := by
  obtain ⟨v, hv, hgiven⟩ := exists_lookup?_of_build hdistinct hbuild hf
  rw [hv]
  have hnodup : (taken.map fun e ↦ e.field.name).Nodup := by
    have := (hr.sublist.map (·.name)).nodup honce
    rwa [List.map_map] at this
  -- Members tell fields apart, and fields tell what was taken for them apart.
  have hmember : ∀ e ∈ taken, memberName e.field.name = memberName f.name →
      e.field = f.definition := by
    intro e he hname
    obtain ⟨state, hstate, hfield⟩ :=
      List.mem_filterMap.mp (hr.sublist.subset (List.mem_map_of_mem he))
    obtain ⟨field, hmem, hdefinition⟩ := hm.exists_state_iff.mp ⟨state, hstate, hfield⟩
    rw [← hdefinition] at hname ⊢
    rw [List.inj_on_of_nodup_map hdistinct hmem hf hname]
  refine ⟨fun e he hfield ↦ ?_, fun hne ↦ ?_⟩
  · rw [lookup?_storeAll (v := e.value) (fun e' he' hname ↦ ?_) ⟨e, he, by
      rw [hfield, Compiled.Field.name]⟩] at hgiven
    · exact hgiven.symm
    · rw [List.inj_on_of_nodup_map hnodup he' he (by rw [hmember e' he' hname, hfield])]
  · rw [lookup?_storeAll_of_forall_ne fun e he hname ↦ hne e he (hmember e he hname)] at hgiven
    have hdefault : (Member.ofField f).default? = some v := hgiven
    cases hrequired : f.definition.isRequired with
    | true =>
      rw [Member.ofField, hrequired] at hdefault
      cases hdefault
    | false =>
      rw [Member.default?_ofField hrequired] at hdefault
      exact ⟨rfl, hdefault.symm⟩

theorem canonical_of_isNumber (h : f.definition.isNumber = true → Wire.isCanonical raw = true) :
    (checkOf f).Canonical raw := by
  rw [Spec.Field.isNumber] at h
  rw [checkOf]
  split
  · rename_i htype
    rw [htype] at h
    exact h rfl
  all_goals exact trivial

/-- A field that was taken passes its check, in the record that was parsed. -/
theorem fits_of_rewritable (hm : m.WellFormed)
    (honce : (m.machine.extractions.map (·.1.name)).Nodup) {x : Extraction}
    (hx : (e.field, x) ∈ m.machine.extractions) (he : Rewritable m e x) (hf : f ∈ m.fields)
    (hfield : e.field = f.definition) (hcanonical : (checkOf f).Canonical e.raw) :
    (checkOf f).Demands e.value ∧
      FieldCheck.Fits f.definition.isRequired (stopsOf f) (Wire.render e.value) := by
  obtain ⟨field, hfieldOf, hcoerce⟩ := he.coerced
  rw [hfield, hm.fieldOf?_definition hf, Option.some.injEq] at hfieldOf
  subst hfieldOf
  rw [FieldCheck.render_of_coerce hcoerce hcanonical, ← hfield]
  refine ⟨FieldCheck.demands_of_coerce hcoerce, Wire.hiddenStop?_eq_none_iff.mpr ?_, he.full⟩
  intro stop hstop
  obtain ⟨s, hs, rfl⟩ := List.mem_map.mp hstop
  rw [hm.stops_eq f hf, Machine.mem_stopsOf_iff] at hs
  obtain ⟨g, y, hy, hname, hs⟩ := hs
  -- The placeholder is used once, so the stop belongs to the extraction at hand.
  have heq := List.inj_on_of_nodup_map honce hy hx (by
    rw [hname, hfield, Compiled.Field.name])
  cases heq
  exact he.free s hs

/-- Numbers that the parser takes in canonical spelling are in canonical spelling where they are
read. -/
theorem canonical_of_spellings (hm : m.WellFormed) {before : Bytes}
    (hr : Reads false m m.machine.states used rest taken)
    (hcanonical : ∀ e ∈ spellings m (before ++ (used ++ rest)) m.machine.states
      { position := before.length }, e.1.isNumber = true → Wire.isCanonical e.2 = true)
    (he : e ∈ taken) {field : Compiled.Field} (hfield : fieldOf? m e.field = some field) :
    (checkOf field).Canonical e.raw := by
  obtain ⟨state, hstate, hf⟩ := List.mem_filterMap.mp (hr.sublist.subset (List.mem_map_of_mem he))
  obtain ⟨field', -, hdefinition, hfield', -⟩ := hm.exists_field hstate hf
  cases hfield'.symm.trans hfield
  refine canonical_of_isNumber fun hnumber ↦
    hcanonical (e.field, e.raw) ?_ (hdefinition ▸ hnumber)
  exact hr.mem_spellings (positive_of_wellFormed hm) before [] he

theorem single_stop_of_fields (hm : m.WellFormed) (hsure : m.machine.ambiguous = [])
    (hsingle : ∀ f ∈ m.fields, ∀ d ∈ m.delimiter, ∀ t ∈ m.terminator, d ≠ t →
      ¬(d ∈ f.stops ∧ t ∈ f.stops)) :
    ∀ state ∈ m.machine.states, ∀ x, state.extraction? = some x →
      ∀ d t, Segment.separator? m.delimiter = some d → m.terminator = some t → d ≠ t →
        ¬(d ∈ x.stops ∧ t ∈ x.stops) := by
  rintro state hstate x hx d t hd ht hne ⟨hdx, htx⟩
  obtain ⟨f, -, hf, -⟩ := (hm.linked hsure).exists_tied hstate hx
  obtain ⟨field, hfield, -, -, hstops⟩ := hm.exists_field hstate hf
  exact hsingle field hfield d (Option.filter_eq_some_iff.mp hd).1 t ht hne
    ⟨hstops x hx d hdx, hstops x hx t htx⟩

/-- A message that was parsed, with its numbers in canonical spelling, is written again as the bytes
that it was parsed from. -/
theorem serialize_of_parse (hm : m.WellFormed) (hsure : m.machine.ambiguous = [])
    (honce : (m.machine.extractions.map (·.1.name)).Nodup)
    (hdistinct : (m.fields.map fun f ↦ memberName f.name).Nodup)
    (hdefault : ∀ f ∈ m.fields, f.definition.isRequired = false →
      f.definition.defaultValue.isNull = true)
    (hsingle : ∀ f ∈ m.fields, ∀ d ∈ m.delimiter, ∀ t ∈ m.terminator, d ≠ t →
      ¬(d ∈ f.stops ∧ t ∈ f.stops))
    {data : Bytes} {offset : Nat} {p : Parsed} (h : parse m data offset = .ok (.ok p))
    (hcanonical : ∀ e ∈ spellings m data m.machine.states { position := offset },
      e.1.isNumber = true → Wire.isCanonical e.2 = true) :
    serialize m p.record = .ok (.ok (Wire.between data offset (offset + p.consumed))) := by
  have hlinked := hm.linked hsure
  obtain ⟨before, tail, rfl, rfl⟩ := exists_append_of_parseWith h
  obtain ⟨used, rest, taken, rfl, hr, hbuild, hconsumed⟩ := (parseWith_iff_reads hm).mp h
  have honce' : ((m.machine.states.filterMap State.field?).map (·.name)).Nodup := by
    rw [← Machine.map_extractions, List.map_map]
    exact honce
  have hspelled : ∀ e ∈ taken, ∀ field, fieldOf? m e.field = some field →
      (checkOf field).Canonical e.raw :=
    fun e he field ↦ canonical_of_spellings hm hr hcanonical he
  have hsingle' := single_stop_of_fields hm hsure hsingle
  have hvalue {f : Compiled.Field} (hf : f ∈ m.fields) :=
    lookup?_of_reads hm hdistinct honce' hr hbuild hf
  have herrors : ∀ f ∈ m.fields, fieldErrors p.record f = .ok [] := by
    intro f hf
    rw [fieldErrors_eq_nil_iff]
    by_cases htaken : ∃ e ∈ taken, e.field = f.definition
    · obtain ⟨e, he, hfield⟩ := htaken
      obtain ⟨state, hstate, x, hsf, hsx, hrewritable⟩ :=
        rewritable_of_reads hlinked hsingle' hr he
      have hx := Machine.mem_extractions_iff.mpr ⟨state, hstate, hsf, hsx⟩
      have hcanonical' := hspelled e he f (hfield ▸ hm.fieldOf?_definition hf)
      exact ⟨e.value, (hvalue hf).1 e he hfield,
        .inr (fits_of_rewritable hm honce hx hrewritable hf hfield hcanonical')⟩
    · obtain ⟨hoptional, hfind⟩ := (hvalue hf).2 fun e he heq ↦ htaken ⟨e, he, heq⟩
      exact ⟨_, hfind, .inl ⟨hdefault f hf hoptional, hoptional⟩⟩
  rw [hconsumed, ← Int.natCast_add, ← List.length_append, Wire.between_append,
    serialize_eq_ok_iff hm]
  refine ⟨herrors, fun f hf ↦ hasBytes_of_fieldErrors (herrors f hf) fun hoptional ↦
    Wire.fault?_of_isNull (hdefault f hf hoptional), ?_⟩
  refine flatMap_written_of_reads hr (fun f x follow ↦ hlinked.isRequired_eq_false) honce'
    hspelled fun f hf ↦ ?_
  obtain ⟨field, hfield, rfl⟩ := hm.exists_state_iff.mp (List.mem_filterMap.mp hf)
  have hget {v : Value} (h : Value.lookup? p.record (memberName field.name) = some v) :
      p.record.get (memberName field.definition.name) = v := by
    rw [Compiled.Field.name] at h
    rw [Record.get, h, Option.getD_some]
  refine ⟨fun e he heq ↦ hget ((hvalue hfield).1 e he heq), fun hne ↦ ?_⟩
  obtain ⟨hoptional, hfind⟩ := (hvalue hfield).2 hne
  have hnull := hdefault field hfield hoptional
  exact ⟨by rw [hget hfind, hnull], hnull⟩

namespace Package

/-- A message that a package parses, with its numbers in canonical spelling, it writes again as the
bytes that it was parsed from, if the message is kept and neither the name for values that are none
nor that for what is written is hidden. -/
theorem serialize_parse {source : Spec.Message} (hm : Compiled.Sound source m) {package : Package}
    (hkept : package.Keeps m) (hinvalid : package.hidesInParser "Invalid" = false)
    (hwritten : package.hides "SerializeSuccess" = false) (hsure : m.machine.ambiguous = [])
    (honce : (m.machine.extractions.map (·.1.name)).Nodup)
    (hdistinct : (m.fields.map fun f ↦ memberName f.name).Nodup)
    (hdefault : ∀ f ∈ m.fields, f.definition.isRequired = false →
      f.definition.defaultValue.isNull = true)
    (hsingle : ∀ f ∈ m.fields, ∀ d ∈ m.delimiter, ∀ t ∈ m.terminator, d ≠ t →
      ¬(d ∈ f.stops ∧ t ∈ f.stops))
    {data : Bytes} {offset : Nat} {p : Parsed} (h : package.parse m data offset = .ok (.ok p))
    (hcanonical : ∀ e ∈ spellings m data m.machine.states { position := offset },
      e.1.isNumber = true → Wire.isCanonical e.2 = true) :
    package.serialize m p.record =
      .ok (.ok (Wire.between data offset (offset + p.consumed))) := by
  obtain ⟨h, -⟩ := parse_eq_ok_iff.mp h
  rw [hkept.function, hkept.build_eq, hinvalid] at h
  refine serialize_eq_ok_iff.mpr ⟨?_, hwritten⟩
  rw [hkept.function]
  exact serialize_of_parse hm.wellFormed hsure honce hdistinct hdefault hsingle h hcanonical

def commaMessage : Spec.Message :=
  Compiled.positionLine "\x7bx\x7d,\x7blabel\x7d,\x7bz\x7d" none .null

theorem serialize_parse_position :
    ∃ protocol m p, Compiled.compile (Compiled.specOf commaMessage) = .ok protocol ∧
      protocol.messages = [m] ∧
      (ofProtocol protocol).parse m (Utf8.ofString ",,12,,-3\r\n0") (2 : Nat) = .ok (.ok p) ∧
      p.consumed = 8 ∧
      (ofProtocol protocol).serialize m p.record = .ok (.ok (Utf8.ofString "12,,-3\r\n")) := by
  have hcompile := Compiled.exists_compile_specOf commaMessage
    (fun protocol m ↦ decide ((ofProtocol protocol).IsPlain ∧
      m.machine.ambiguous = [] ∧ (m.machine.extractions.map (·.1.name)).Nodup ∧
      (m.fields.map fun f ↦ memberName f.name).Nodup ∧
      (∀ f ∈ m.fields, f.definition.isRequired = false →
        f.definition.defaultValue.isNull = true) ∧
      (∀ f ∈ m.fields, ∀ d ∈ m.delimiter, ∀ t ∈ m.terminator, d ≠ t →
        ¬(d ∈ f.stops ∧ t ∈ f.stops)) ∧
      ∀ e ∈ spellings m (Utf8.ofString ",,12,,-3\r\n0") m.machine.states ⟨(2 : Nat), []⟩,
        e.1.isNumber = true → Wire.isCanonical e.2 = true) &&
      gives ((ofProtocol protocol).parse m (Utf8.ofString ",,12,,-3\r\n0") (2 : Nat)) fun r ↦
        gives r (·.consumed == 8))
    (by decide +kernel)
  obtain ⟨protocol, m, hprotocol, hmessages, h⟩ := hcompile
  rw [Bool.and_eq_true, decide_eq_true_iff] at h
  obtain ⟨⟨hplain, hsure, honce, hdistinct, hdefault, hsingle, hcanonical⟩, h⟩ := h
  have hmem : m ∈ protocol.messages := hmessages ▸ List.mem_singleton_self m
  obtain ⟨source, hm⟩ := Compiled.sound_of_compile hprotocol hmem
  obtain ⟨p, hp, hconsumed⟩ := exists_of_gives_gives h
  rw [beq_iff_eq] at hconsumed
  have hwritten := serialize_parse hm (hplain.keeps hmem) hplain.invalid hplain.written hsure
    honce hdistinct hdefault hsingle hp hcanonical
  rw [hconsumed] at hwritten
  exact ⟨protocol, m, p, hprotocol, hmessages, hp, hconsumed, hwritten⟩

/-- Where the type of a message takes the name for values that are none, its parser takes them, and
what was parsed is not written again. -/
theorem serialize_refuses_parsed :
    ∃ protocol m p errors,
      Compiled.compile (Compiled.specOf (Compiled.singleLine "invalid" .boolean)) = .ok protocol ∧
      protocol.messages = [m] ∧ m.machine.ambiguous = [] ∧
      (ofProtocol protocol).parse m (Utf8.ofString "x\n") 0 = .ok (.ok p) ∧
      (ofProtocol protocol).serialize m p.record = .ok (.error errors) := by
  obtain ⟨protocol, m, hprotocol, hmessages, h⟩ := Compiled.exists_compile_specOf
    (Compiled.singleLine "invalid" .boolean)
    (fun protocol m ↦ decide (m.machine.ambiguous = []) &&
      gives ((ofProtocol protocol).parse m (Utf8.ofString "x\n") 0) fun r ↦ gives r fun p ↦
        gives ((ofProtocol protocol).serialize m p.record) fun written ↦ !written.isOk)
    (by decide +kernel)
  rw [Bool.and_eq_true, decide_eq_true_iff] at h
  obtain ⟨hsure, h⟩ := h
  obtain ⟨p, hp, h⟩ := exists_of_gives_gives h
  obtain ⟨written, hwritten, hrefused⟩ := exists_of_gives h
  cases written with
  | ok bytes => cases hrefused
  | error errors => exact ⟨protocol, m, p, errors, hprotocol, hmessages, hsure, hp, hwritten⟩

end Package

end Codec

end TextProtocol
