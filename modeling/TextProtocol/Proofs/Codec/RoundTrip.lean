import TextProtocol.Proofs.Codec.Package
import TextProtocol.Proofs.Codec.Reads
import TextProtocol.Proofs.Codec.Writes

/-!
# Round trips

What is written for a record is parsed as that record with its defaults filled in, wherever it
stands in the data and whatever comes after it. The parser and the serializer of a message are
compared state by state: the bytes of each field end where the field does, because they hide none of
its stops, and a field that is not written is not read, because what comes next stands in its place.
-/

namespace TextProtocol

/-- A record as it is read from its bytes: buffers come back as byte strings. -/
def Record.frozen (r : Record) : Record :=
  r.map fun e ↦ (e.1, e.2.frozen)

namespace Codec

open Fault (eq_error_of_faults exists_of_gives eq_of_gives_gives faults gives)

variable {f : Spec.Field} {states : List State} {rest : Bytes} {x : Extraction} {taken : List Taken}

variable {lenient : Bool} {m : Compiled.Message} {r : Record} {delimiter terminator : Option String}

/-! ## The values that are written -/

def shown (r : Record) (f : Spec.Field) : Value :=
  if (r.get (memberName f.name)).isNull then f.defaultValue else r.get (memberName f.name)

theorem shown_definition (f : Compiled.Field) :
    shown r f.definition = if (r.get (memberName f.name)).isNull then f.definition.defaultValue
      else r.get (memberName f.name) := by
  rw [shown, Compiled.Field.name]

theorem shown_isNull_iff :
    (shown r f).isNull = true ↔
      (r.get (memberName f.name)).isNull = true ∧ f.defaultValue.isNull = true := by
  rw [shown]
  cases h : (r.get (memberName f.name)).isNull <;> simp [h]

/-- Whether the value that is written for a field is one that can be read, or nothing is written and
the field may be absent. -/
def Passes (r : Record) (f : Compiled.Field) : Prop :=
  (shown r f.definition).isNull = true ∧ f.definition.isRequired = false ∨
    (checkOf f).Demands (shown r f.definition) ∧
      FieldCheck.Fits f.definition.isRequired (stopsOf f) (Wire.render (shown r f.definition))

/-- The defaults that are written in place of null pass the checks of their fields. -/
def DefaultsPass (m : Compiled.Message) (r : Record) : Prop :=
  ∀ f ∈ m.fields, (r.get (memberName f.name)).isNull = true →
    f.definition.defaultValue.isNull = false →
    (checkOf f).run (f.name.getD "") f.definition.isRequired (stopsOf f)
      f.definition.defaultValue = .ok []

/-- A field is written as the value shown for it, unless that is null. -/
theorem fieldBytes_eq (h : f.isRequired = true → (r.get (memberName f.name)).isNull = false) :
    fieldBytes r f = if (shown r f).isNull then [] else Wire.render (shown r f) := by
  cases hrequired : f.isRequired with
  | true =>
    have hshown : shown r f = r.get (memberName f.name) := by
      rw [shown, h hrequired]
      rfl
    rw [fieldBytes, sent?, if_pos hrequired, hshown, if_neg (by simp [h hrequired])]
    rfl
  | false =>
    rw [fieldBytes, sent?, if_neg (by simp [hrequired]), shown]
    cases hv : (r.get (memberName f.name)).isNull <;> cases hd : f.defaultValue.isNull <;>
      simp [hv, hd]

theorem passes_of_fieldErrors {f : Compiled.Field} (h : fieldErrors r f = .ok [])
    (hdefault : (r.get (memberName f.name)).isNull = true →
      f.definition.defaultValue.isNull = false →
      (checkOf f).run (f.name.getD "") f.definition.isRequired (stopsOf f)
        f.definition.defaultValue = .ok []) :
    Passes r f ∧ (f.definition.isRequired = true → (r.get (memberName f.name)).isNull = false) := by
  obtain ⟨v, hv, h⟩ := fieldErrors_eq_nil_iff.mp h
  have hget : r.get (memberName f.name) = v := by rw [Record.get, hv, Option.getD_some]
  have hshown : shown r f.definition = if v.isNull then f.definition.defaultValue else v := by
    rw [shown_definition, hget]
  rw [hget] at hdefault ⊢
  rw [Passes, hshown]
  rcases h with ⟨hnull, hoptional⟩ | ⟨hdemands, hfits⟩
  · rw [if_pos hnull]
    refine ⟨?_, fun hrequired ↦ by simp [hoptional] at hrequired⟩
    cases hempty : f.definition.defaultValue.isNull with
    | true => exact .inl ⟨rfl, hoptional⟩
    | false =>
      rcases FieldCheck.run_eq_nil_iff.mp (hdefault hnull hempty) with h | h
      · exact absurd h.1 (by simp [hempty])
      · exact .inr h
  · have hnull := hdemands.isNull_eq_false
    rw [if_neg (by simp [hnull])]
    exact ⟨.inr ⟨hdemands, hfits⟩, fun _ ↦ hnull⟩

/-! ## State by state -/

/-- No stop of a field begins in the bytes that are written for it and runs on into the stop that
comes next. -/
def Whole (r : Record) (f : Spec.Field) (x : Extraction) : Prop :=
  ∀ s ∈ x.stops.head?, ∀ t ∈ x.stops,
    ¬Wire.Straddles (fieldBytes r f) (Utf8.ofString s) (Utf8.ofString t)

theorem endsAt_written (htied : x.Tied delimiter terminator f states) (hwhole : Whole r f x)
    {used : Bytes} (hr : Reads lenient m states used rest taken)
    (hbuffer : x = .endOfBuffer → rest = [])
    (hfree : ∀ s ∈ x.stops, Wire.hidesStop (fieldBytes r f) (Utf8.ofString s) = false)
    (hwidth : ∀ length, f.fixedWidth? = some length →
      length.integer? = some ((fieldBytes r f).length : Int)) :
    x.EndsAt (fieldBytes r f ++ (used ++ rest)) (fieldBytes r f).length := by
  cases htied with
  | @stop _ s others _ hstops hne hnext hothers =>
    obtain ⟨later, rfl⟩ := hr.exists_of_expected hnext
    have hs : s ∈ x.stops := hstops ▸ List.mem_cons_self
    rw [Extraction.endsAt_of_stops (List.ne_nil_of_mem hs), List.append_assoc]
    refine Wire.findStop_append_stop (List.mem_map_of_mem hs)
      (Wire.hiddenStop?_eq_none_iff.mpr ?_) ?_ _
    · intro b hb
      obtain ⟨t, ht, rfl⟩ := List.mem_map.mp hb
      exact hfree t ht
    · intro b hb
      obtain ⟨t, ht, rfl⟩ := List.mem_map.mp hb
      exact hwhole s (by rw [hstops]; rfl) t ht
  | width hv => exact ⟨hwidth _ hv, by rw [List.length_append]; omega⟩
  | buffer =>
    rw [hr.used_eq_nil, hbuffer rfl]
    simp [Extraction.EndsAt]

theorem absent_unwritten {check : FieldCheck} (htied : x.Tied delimiter terminator f states)
    {used : Bytes} (hr : Reads lenient m states used rest taken)
    (hbuffer : x = .endOfBuffer → rest = []) (hwidth : x.isFixed = false) (follow : Option String) :
    Absent lenient check x follow (used ++ rest) := by
  cases htied with
  | @stop _ s _ _ hstops _ hnext _ =>
    exact absent_of_stop (hstops ▸ List.mem_cons_self) (hr.prefix_of_expected hnext)
  | width hv => cases hwidth
  | buffer =>
    rw [hr.used_eq_nil, hbuffer rfl]
    refine ⟨nofun, fun raw after heq _ hne ↦ absurd ?_ hne⟩
    exact (List.append_eq_nil_iff.mp heq.symm).1

def takenBy (r : Record) (state : State) : Option Taken :=
  state.field?.bind fun f ↦ if (shown r f).isNull then none
    else some ⟨f, fieldBytes r f, (shown r f).frozen⟩

theorem takenBy_of_field {state : State} (h : state.field? = some f) :
    takenBy r state = if (shown r f).isNull then none
      else some ⟨f, fieldBytes r f, (shown r f).frozen⟩ := by
  rw [takenBy, h, Option.bind_some]

/-- Whether a record has for each field of a message what can be written for it and read back. -/
def Sendable (m : Compiled.Message) (r : Record) : Prop :=
  ∀ f ∈ m.fields, Passes r f ∧
    (f.definition.isRequired = true → (r.get (memberName f.name)).isNull = false)

/-- Whether a state can read a record before `rest`: a field of fixed width is not left out, and
nothing comes after a field that goes on to the end. -/
structure Readable (m : Compiled.Message) (r : Record) (rest : Bytes) (state : State) : Prop where
  mem : state ∈ m.machine.states
  width : ∀ f x follow, state = .optionalField f x follow → x.isFixed = true →
    (shown r f).isNull = false
  buffer : state.extraction? = some .endOfBuffer → rest = []

/-- A value that is written can be read back, up to where the field ends. -/
theorem exists_of_written (hm : m.WellFormed) (hr : Sendable m r) {state : State}
    (hstate : Readable m r rest state) (hf : state.field? = some f)
    (hx : state.extraction? = some x) (htied : x.Tied delimiter terminator f states)
    (hwhole : Whole r f x) {used : Bytes} (hreads : Reads lenient m states used rest taken)
    (hshown : (shown r f).isNull = false) :
    ∃ field, fieldOf? m f = some field ∧
      x.EndsAt (fieldBytes r f ++ (used ++ rest)) (fieldBytes r f).length ∧
      (f.isRequired = true ∨ fieldBytes r f ≠ []) ∧
      (checkOf field).coerce (fieldBytes r f) = .ok (.ok (shown r f).frozen) := by
  obtain ⟨field, hfield, rfl, hfieldOf, hstops⟩ := hm.exists_field hstate.mem hf
  obtain ⟨hpasses, hrequired⟩ := hr field hfield
  have hwritten : fieldBytes r field.definition = Wire.render (shown r field.definition) := by
    rw [fieldBytes_eq hrequired, if_neg (by simp [hshown])]
  rcases hpasses with ⟨hnull, -⟩ | ⟨hdemands, hfree, hempty⟩
  · exact absurd hnull (by simp [hshown])
  · have hends : x.EndsAt (fieldBytes r field.definition ++ (used ++ rest))
        (fieldBytes r field.definition).length := by
      refine endsAt_written htied hwhole hreads (fun heq ↦ hstate.buffer (heq ▸ hx)) ?_ ?_
      · intro s hs
        rw [hwritten]
        exact Wire.hiddenStop?_eq_none_iff.mp hfree _ (List.mem_map_of_mem (hstops x hx s hs))
      · intro length hlength
        rw [hwritten]
        exact integer?_fixedWidth (hm.constraints_eq field hfield) hlength hdemands
    refine ⟨field, hfieldOf, hends, ?_⟩
    rw [hwritten]
    exact ⟨hempty, FieldCheck.coerce_render hdemands⟩

theorem reads_of_whole (hm : m.WellFormed) (hr : Sendable m r)
    (hlinked : State.Linked delimiter terminator states)
    (hwhole : ∀ state ∈ states, ∀ f x, state.field? = some f → state.extraction? = some x →
      Whole r f x) (hstates : ∀ state ∈ states, Readable m r rest state) :
    Reads lenient m states (states.flatMap (State.written r)) rest
      (states.flatMap fun state ↦ (takenBy r state).toList) := by
  induction hlinked with
  | last =>
    cases terminator with
    | none => exact .cons .terminal .nil
    | some t => exact .cons (.text rfl) .nil
  | text hexpected hnone _ ih =>
    have hlater := ih (fun state hstate ↦ hwhole state (List.mem_cons_of_mem _ hstate))
      fun state hstate ↦ hstates state (List.mem_cons_of_mem _ hstate)
    refine .cons ?_ hlater
    rw [State.written_of_expected hexpected, takenBy, hnone]
    exact .text hexpected
  | @required f x states hrequired htied _ ih =>
    have hlater := ih (fun state hstate ↦ hwhole state (List.mem_cons_of_mem _ hstate))
      fun state hstate ↦ hstates state (List.mem_cons_of_mem _ hstate)
    have hstate := hstates _ List.mem_cons_self
    have hshown : (shown r f).isNull = false := by
      obtain ⟨field, hfield, rfl, -⟩ := hm.exists_field hstate.mem rfl
      rcases (hr field hfield).1 with ⟨-, hoptional⟩ | ⟨hdemands, -⟩
      · exact absurd hrequired (by simp [hoptional])
      · exact hdemands.isNull_eq_false
    obtain ⟨field, hfieldOf, hends, -, hv⟩ :=
      exists_of_written hm hr hstate rfl rfl htied
        (hwhole _ List.mem_cons_self _ _ rfl rfl) hlater hshown
    refine .cons ?_ hlater
    rw [takenBy_of_field rfl, if_neg (by simp [hshown])]
    exact .required hfieldOf (.inl hends) (valueIn_of_coerce hv)
  | @optional f x states hoptional htied _ ih =>
    have hlater := ih (fun state hstate ↦ hwhole state (List.mem_cons_of_mem _ hstate))
      fun state hstate ↦ hstates state (List.mem_cons_of_mem _ hstate)
    have hstate := hstates _ List.mem_cons_self
    refine .cons ?_ hlater
    cases hshown : (shown r f).isNull with
    | true =>
      obtain ⟨field, hfield, rfl, hfieldOf, -⟩ := hm.exists_field hstate.mem rfl
      have hwritten : fieldBytes r field.definition = [] := by
        rw [fieldBytes_eq (hr field hfield).2, if_pos hshown]
      have hwidth : x.isFixed = false := by
        cases hfixed : x.isFixed with
        | false => rfl
        | true => exact absurd (hstate.width _ _ _ rfl hfixed) (by simp [hshown])
      rw [takenBy_of_field rfl, if_pos hshown, State.written, hwritten]
      exact .absent hfieldOf (absent_unwritten htied hlater
        (fun heq ↦ hstate.buffer (congrArg some heq)) hwidth _)
    | false =>
      obtain ⟨field, hfieldOf, hends, hempty, hv⟩ :=
        exists_of_written hm hr hstate rfl rfl htied
        (hwhole _ List.mem_cons_self _ _ rfl rfl) hlater hshown
      rw [takenBy_of_field rfl, if_neg (by simp [hshown])]
      exact .present hfieldOf hends (hempty.resolve_left (by simp [hoptional]))
        (fun s hs ↦ hlater.prefix_of_expected hs) (valueIn_of_coerce hv)

/-- Bytes that hide none of their stops are straddled by none, if the delimiter cannot begin inside
the terminator. -/
theorem whole_of_apart (hm : m.WellFormed) (hr : Sendable m r) {state : State}
    (hstate : state ∈ m.machine.states) (hf : state.field? = some f)
    (hx : state.extraction? = some x) (htied : x.Tied delimiter terminator f states)
    (hapart : ∀ d t, delimiter = some d → terminator = some t → d ≠ t →
      Wire.Apart (Utf8.ofString d) (Utf8.ofString t)) : Whole r f x := by
  obtain ⟨field, hfield, rfl, -, hstops⟩ := hm.exists_field hstate hf
  obtain ⟨hpasses, hrequired⟩ := hr field hfield
  intro s hs t ht
  rw [fieldBytes_eq hrequired]
  rcases hpasses with ⟨hnull, -⟩ | ⟨hdemands, hfree, -⟩
  · rw [if_pos hnull]
    rintro ⟨inside, -, hinside, -, -, hsuffix, -⟩
    exact hinside (List.suffix_nil.mp hsuffix)
  · rw [if_neg (by simp [hdemands.isNull_eq_false])]
    cases htied with
    | @stop _ s' others _ hstops' hne _ hothers =>
      rw [hstops'] at hs ht
      cases hs
      rcases List.mem_cons.mp ht with rfl | ht
      · have hmem : Utf8.ofString t ∈ stopsOf field :=
          List.mem_map_of_mem (hstops x hx t (hstops' ▸ List.mem_cons_self))
        exact Wire.not_straddles_self (Wire.hiddenStop?_eq_none_iff.mp hfree _ hmem)
      · obtain ⟨hd, ht, hdiffers⟩ := hothers t ht
        exact Wire.not_straddles_of_apart (FieldCheck.ofString_ne_nil hne)
          (hapart s t hd ht hdiffers)
    | width _ => cases ht
    | buffer => cases ht

theorem reads_written (hm : m.WellFormed) (hr : Sendable m r)
    (hlinked : State.Linked delimiter terminator m.machine.states)
    (hapart : ∀ d t, delimiter = some d → terminator = some t → d ≠ t →
      Wire.Apart (Utf8.ofString d) (Utf8.ofString t))
    (hstates : ∀ state ∈ m.machine.states, Readable m r rest state) :
    Reads lenient m m.machine.states (m.machine.states.flatMap (State.written r)) rest
      (m.machine.states.flatMap fun state ↦ (takenBy r state).toList) := by
  refine reads_of_whole hm hr hlinked (fun state hstate f x hf hx ↦ ?_) hstates
  obtain ⟨g, states, hg, htied⟩ := hlinked.exists_tied hstate hx
  cases hf.symm.trans hg
  exact whole_of_apart hm hr hstate hf hx htied hapart

/-! ## Whole messages -/

/-- Whether a record has a value for each member of a message, in their order. -/
def IsRecord (m : Compiled.Message) (r : Record) : Prop :=
  r.map Prod.fst = (members m).map Member.name

instance (m : Compiled.Message) (r : Record) : Decidable (IsRecord m r) :=
  inferInstanceAs (Decidable (r.map Prod.fst = (members m).map Member.name))

def defaultOf (m : Compiled.Message) (name : String) : Value :=
  (((members m).find? (·.name == name)).bind Member.default?).getD .null

def fill (m : Compiled.Message) (r : Record) : Record :=
  r.map fun e ↦ (e.1, if e.2.isNull then defaultOf m e.1 else e.2)

theorem defaultOf_memberName (hdistinct : (m.fields.map fun f ↦ memberName f.name).Nodup)
    {f : Compiled.Field} (hf : f ∈ m.fields) (hoptional : f.definition.isRequired = false) :
    defaultOf m (memberName f.name) = f.definition.defaultValue := by
  have hfind : (members m).find? (·.name == memberName f.name) = some (Member.ofField f) := by
    rw [members_eq_map hdistinct, List.find?_map]
    cases h : m.fields.find? ((·.name == memberName f.name) ∘ Member.ofField) with
    | none =>
      have := List.find?_eq_none.mp h f hf
      simp [Member.name_ofField] at this
    | some g =>
      have hname := List.find?_some h
      rw [Function.comp_apply, Member.name_ofField, beq_iff_eq] at hname
      rw [List.inj_on_of_nodup_map hdistinct (List.mem_of_find?_eq_some h) hf hname]
      rfl
  rw [defaultOf, hfind, Option.bind_some, Member.ofField, hoptional]
  rfl

theorem IsRecord.eq_map (hrecord : IsRecord m r)
    (hdistinct : (m.fields.map fun f ↦ memberName f.name).Nodup) :
    r = m.fields.map fun f ↦ (memberName f.name, r.get (memberName f.name)) := by
  have hkeys : r.map Prod.fst = m.fields.map fun f ↦ memberName f.name := by
    rw [hrecord, members_eq_map hdistinct, List.map_map]
    exact List.map_congr_left fun f _ ↦ Member.name_ofField f
  have hvalues : r.map (fun e ↦ (e.1, r.get e.1)) = r.map id := by
    refine List.map_congr_left fun e he ↦ ?_
    rw [Record.get, Value.lookup?_of_mem (hkeys ▸ hdistinct) he]
    rfl
  have hnames := congrArg (List.map fun name ↦ (name, r.get name)) hkeys
  rw [List.map_map, List.map_map, Function.comp_def, Function.comp_def, hvalues, List.map_id]
    at hnames
  exact hnames

theorem mem_takenBy_iff {e : Taken} :
    e ∈ (states.flatMap fun state ↦ (takenBy r state).toList) ↔
      (∃ state ∈ states, state.field? = some e.field) ∧ (shown r e.field).isNull = false ∧
        e = ⟨e.field, fieldBytes r e.field, (shown r e.field).frozen⟩ := by
  simp only [List.mem_flatMap, Option.mem_toList, takenBy, Option.bind_eq_some_iff]
  constructor
  · rintro ⟨state, hstate, g, hg, h⟩
    split at h
    · cases h
    · rename_i hshown
      cases h
      exact ⟨⟨state, hstate, hg⟩, by simpa using hshown, rfl⟩
  · rintro ⟨⟨state, hstate, hf⟩, hshown, he⟩
    exact ⟨state, hstate, e.field, hf, by rw [if_neg (by simp [hshown]), ← he]⟩

/-- A record with defaults filled in has for each field the value that is shown for it. -/
theorem fill_eq_map (hr : Sendable m r)
    (hdistinct : (m.fields.map fun f ↦ memberName f.name).Nodup) (hrecord : IsRecord m r) :
    fill m r = m.fields.map fun f ↦ (memberName f.name, shown r f.definition) := by
  have hfill := congrArg
    (List.map fun e ↦ (e.1, if e.2.isNull then defaultOf m e.1 else e.2)) (hrecord.eq_map hdistinct)
  rw [List.map_map, ← fill] at hfill
  rw [hfill]
  refine List.map_congr_left fun f hf ↦ ?_
  simp only [Function.comp_apply, shown_definition]
  cases hnull : (r.get (memberName f.name)).isNull with
  | false => simp only [Bool.false_eq_true, if_false]
  | true =>
    have hoptional : f.definition.isRequired = false := by
      cases hrequired : f.definition.isRequired with
      | false => rfl
      | true => exact absurd ((hr f hf).2 hrequired) (by simp [hnull])
    simp only [if_true, defaultOf_memberName hdistinct hf hoptional]

/-- A record is built anew from the values that are written for it. -/
theorem build_takenBy (hm : m.WellFormed) (hr : Sendable m r)
    (hdistinct : (m.fields.map fun f ↦ memberName f.name).Nodup) (hrecord : IsRecord m r) :
    build m (storeAll [] (m.machine.states.flatMap fun state ↦ (takenBy r state).toList)) =
      .ok (fill m r).frozen := by
  -- All that is taken for a member is the value shown for its only field.
  have htaken : ∀ f ∈ m.fields,
      ∀ e ∈ (m.machine.states.flatMap fun state ↦ (takenBy r state).toList),
      memberName e.field.name = memberName f.name →
        (shown r f.definition).isNull = false ∧ e.value = (shown r f.definition).frozen := by
    intro f hf e he hname
    obtain ⟨hstate, hshown, heq⟩ := mem_takenBy_iff.mp he
    obtain ⟨field, hfield, hdefinition⟩ := hm.exists_state_iff.mp hstate
    rw [← hdefinition] at hname hshown heq
    rw [List.inj_on_of_nodup_map hdistinct hfield hf hname] at hshown heq
    exact ⟨hshown, congrArg Taken.value heq⟩
  rw [build_eq_ok_iff hdistinct]
  constructor
  · intro e he
    obtain ⟨e', he', hname⟩ := exists_of_mem_storeAll he
    obtain ⟨field, hfield, hdefinition⟩ := hm.exists_state_iff.mp (mem_takenBy_iff.mp he').1
    exact ⟨field, hfield, by rw [← hname, ← hdefinition, Compiled.Field.name]⟩
  · rw [Record.frozen, fill_eq_map hr hdistinct hrecord, List.map_map, List.map_map]
    refine List.map_congr_left fun f hf ↦ ?_
    simp only [Function.comp_apply]
    rcases (hr f hf).1 with ⟨hnull, hoptional⟩ | ⟨hdemands, -⟩
    · rw [lookup?_storeAll_of_forall_ne fun e he hname ↦
        absurd (htaken f hf e he hname).1 (by simp [hnull]), Member.default?_ofField hoptional,
        shown, if_pos (shown_isNull_iff.mp hnull).1,
        Value.frozen_of_isNull (shown_isNull_iff.mp hnull).2]
      rfl
    · have hshown := hdemands.isNull_eq_false
      have hstate := hm.exists_state_iff.mpr ⟨f, hf, rfl⟩
      rw [lookup?_storeAll (fun e he hname ↦ (htaken f hf e he hname).2)
        ⟨⟨f.definition, fieldBytes r f.definition, (shown r f.definition).frozen⟩,
          mem_takenBy_iff.mpr ⟨hstate, hshown, rfl⟩, rfl⟩]
      rfl

/-- What is written for a record is parsed as that record with its defaults filled in, at any offset
and before any other data. -/
theorem parseWith_written (hm : m.WellFormed) (hsure : m.machine.ambiguous = [])
    (hdistinct : (m.fields.map fun f ↦ memberName f.name).Nodup) (hapart : m.SeparatorsApart)
    (hrecord : IsRecord m r) {bytes : Bytes} (h : serialize m r = .ok (.ok bytes))
    (hwidth : ∀ f x follow, .optionalField f x follow ∈ m.machine.states → x.isFixed = true →
      ¬((r.get (memberName f.name)).isNull = true ∧ f.defaultValue.isNull = true))
    (hdefaults : DefaultsPass m r) (pre suf : Bytes)
    (hbuffer : (∃ f, (f, .endOfBuffer) ∈ m.machine.extractions) → suf = []) :
    parseWith lenient (build m) m (pre ++ (bytes ++ suf)) pre.length =
      .ok (.ok ⟨(fill m r).frozen, bytes.length⟩) := by
  obtain ⟨herrors, -, rfl⟩ := (serialize_eq_ok_iff hm).mp h
  have hr : Sendable m r := fun f hf ↦ passes_of_fieldErrors (herrors f hf) (hdefaults f hf)
  have hreadable : ∀ state ∈ m.machine.states, Readable m r suf state := fun state hstate ↦ {
    mem := hstate
    width := by
      rintro f x follow rfl hfixed
      rw [← Bool.not_eq_true, shown_isNull_iff]
      exact hwidth f x follow hstate hfixed
    buffer := fun hx ↦ by
      obtain ⟨f, -, hf, -⟩ := (hm.linked hsure).exists_tied hstate hx
      exact hbuffer ⟨f, Machine.mem_extractions_iff.mpr ⟨state, hstate, hf, hx⟩⟩ }
  refine (parseWith_iff_reads hm).mpr
    ⟨_, suf, _, rfl, ?_, build_takenBy hm hr hdistinct hrecord, rfl⟩
  exact reads_written hm hr (hm.linked hsure) (fun d t ↦ hapart.of_separator?) hreadable

namespace Package

/-- What a package writes for a record it parses as that record with its defaults filled in, at any
offset and before any other data, if the message is kept and the name for successes is not hidden
from the parser. -/
theorem parse_serialize {source : Spec.Message} (hm : Compiled.Sound source m) {package : Package}
    (hkept : package.Keeps m) (hsuccess : package.hidesInParser "ParseSuccess" = false)
    (hsure : m.machine.ambiguous = [])
    (hdistinct : (m.fields.map fun f ↦ memberName f.name).Nodup) (hapart : m.SeparatorsApart)
    (hrecord : IsRecord m r) {bytes : Bytes} (h : package.serialize m r = .ok (.ok bytes))
    (hwidth : ∀ f x follow, .optionalField f x follow ∈ m.machine.states → x.isFixed = true →
      ¬((r.get (memberName f.name)).isNull = true ∧ f.defaultValue.isNull = true))
    (hdefaults : DefaultsPass m r) (pre suf : Bytes)
    (hbuffer : (∃ f, (f, .endOfBuffer) ∈ m.machine.extractions) → suf = []) :
    package.parse m (pre ++ (bytes ++ suf)) pre.length =
      .ok (.ok ⟨(fill m r).frozen, bytes.length⟩) := by
  have hwritten := (serialize_eq_ok_iff.mp h).1
  rw [hkept.function] at hwritten
  rw [parse_eq_ok_iff, hkept.function, hkept.build_eq]
  refine ⟨?_, hsuccess⟩
  exact parseWith_written hm.wellFormed hsure hdistinct hapart hrecord hwritten hwidth hdefaults
    pre suf hbuffer

def positionRecord : Record :=
  [("x", .int (-5)), ("label", .null), ("z", .null)]

def positionMessage : Spec.Message :=
  Compiled.positionLine "\x7bx\x7d\x7blabel\x7d\x7bz\x7d" (some ",") (.int 7)

theorem parse_serialize_position :
    ∃ protocol m, Compiled.compile (Compiled.specOf positionMessage) = .ok protocol ∧
      protocol.messages = [m] ∧
      (ofProtocol protocol).serialize m positionRecord = .ok (.ok (Utf8.ofString "-5,,7\r\n")) ∧
      (ofProtocol protocol).parse m
          (Utf8.ofString "," ++ (Utf8.ofString "-5,,7\r\n" ++ Utf8.ofString "\n"))
          (Utf8.ofString ",").length =
        .ok (.ok ⟨(fill m positionRecord).frozen, (Utf8.ofString "-5,,7\r\n").length⟩) := by
  obtain ⟨protocol, m, hprotocol, hmessages, h⟩ := Compiled.exists_compile_specOf positionMessage
    (fun protocol m ↦ decide ((ofProtocol protocol).IsPlain ∧
      m.machine.ambiguous = [] ∧ (m.fields.map fun f ↦ memberName f.name).Nodup ∧
      m.SeparatorsApart ∧ IsRecord m positionRecord ∧
      ∀ e ∈ m.machine.extractions, e.2 ≠ .endOfBuffer ∧ e.2.isFixed = false) &&
      (gives ((ofProtocol protocol).serialize m positionRecord) fun r ↦
        gives r (· == Utf8.ofString "-5,,7\r\n")) &&
      m.fields.all fun f ↦ f.definition.defaultValue.isNull ||
        gives ((checkOf f).run (f.name.getD "") f.definition.isRequired (stopsOf f)
          f.definition.defaultValue) List.isEmpty) (by decide +kernel)
  rw [Bool.and_eq_true, Bool.and_eq_true, decide_eq_true_iff, List.all_eq_true] at h
  obtain ⟨⟨⟨hplain, hsure, hdistinct, hapart, hrecord, hextractions⟩, hbytes⟩, hdefaults⟩ := h
  have hmem : m ∈ protocol.messages := hmessages ▸ List.mem_singleton_self m
  obtain ⟨source, hm⟩ := Compiled.sound_of_compile hprotocol hmem
  have hwritten := eq_of_gives_gives hbytes
  have hpass : DefaultsPass m positionRecord := by
    intro f hf _ hdefault
    have h := hdefaults f hf
    rw [hdefault, Bool.false_or] at h
    obtain ⟨violations, hrun, hnil⟩ := exists_of_gives h
    rw [hrun, List.isEmpty_iff.mp hnil]
  refine ⟨protocol, m, hprotocol, hmessages, hwritten, ?_⟩
  refine parse_serialize hm (hplain.keeps hmem) hplain.success hsure hdistinct hapart hrecord
    hwritten ?_ hpass _ _ ?_
  · intro f x follow hstate hfixed
    have hx := hextractions (f, x) (Machine.mem_extractions_iff.mpr ⟨_, hstate, rfl, rfl⟩)
    exact absurd hfixed (by simp [hx.2])
  · rintro ⟨f, hf⟩
    exact absurd rfl (hextractions _ hf).1

/-- What is written for a message is not parsed where its type takes the name for successes. -/
theorem parse_hides_success :
    ∃ protocol m,
      Compiled.compile (Compiled.specOf (Compiled.singleLine "ParseSuccess" (.string .null))) =
        .ok protocol ∧ protocol.messages = [m] ∧ m.machine.ambiguous = [] ∧
      (ofProtocol protocol).serialize m [("a", .text "x")] = .ok (.ok (Utf8.ofString "x\n")) ∧
      (ofProtocol protocol).parse m (Utf8.ofString "x\n") 0 = .error .mismatch := by
  obtain ⟨protocol, m, hprotocol, hmessages, h⟩ := Compiled.exists_compile_specOf
    (Compiled.singleLine "ParseSuccess" (.string .null))
    (fun protocol m ↦ decide (m.machine.ambiguous = []) &&
      (gives ((ofProtocol protocol).serialize m [("a", .text "x")]) fun r ↦
        gives r (· == Utf8.ofString "x\n")) &&
      faults ((ofProtocol protocol).parse m (Utf8.ofString "x\n") 0) .mismatch) (by decide +kernel)
  rw [Bool.and_eq_true, Bool.and_eq_true, decide_eq_true_iff] at h
  obtain ⟨⟨hsure, hbytes⟩, hfault⟩ := h
  have hwritten := eq_of_gives_gives hbytes
  exact ⟨protocol, m, hprotocol, hmessages, hsure, hwritten, eq_error_of_faults hfault⟩

end Package

end Codec

end TextProtocol
