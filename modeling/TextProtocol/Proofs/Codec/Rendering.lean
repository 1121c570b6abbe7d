import TextProtocol.Proofs.Codec.Defaults
import TextProtocol.Proofs.Codec.Offsets
import TextProtocol.Proofs.Field.Domain

/-!
# Serializers and plans

There are two ways from values to bytes. A serializer takes the members of a record, and decides for
each field by what is declared of it whether and what it writes; a plan takes values by the names of
fields, and looks only at what it is given. Each has its own way of writing a value. These agree but
for buffers, which a plan shows as texts, `renderValue_eq_map`, and so do the bytes of a record with
byte strings in place of its buffers, `renderAll_valuesOf`.

What a plan shows of a buffer is longer than its bytes, so for a record with a buffer the plan never
comes to what the serializer writes.
-/

namespace TextProtocol

open Fault (bind_eq_ok_iff pure_eq_ok_iff gives exists_of_gives eq_of_gives_gives)

/-! ## Values -/

theorem Utf8.length_le_ofString (s : String) : s.length ≤ (ofString s).length := by
  rw [← String.length_toList, ofString]
  induction s.toList with
  | nil => exact Nat.le_refl 0
  | cons c rest ih =>
    obtain ⟨b, bs, hbytes, -⟩ := encodeChar_tails c
    rw [encode_cons, hbytes, List.length_append, List.length_cons, List.length_cons]
    omega

theorem Text.length_le_quotedBytes (data : List UInt8) :
    data.length ≤ (quotedBytes data).length := by
  have hbyte (quote : Char) (b : UInt8) : 1 ≤ (quotedByte quote b).length := by
    rw [quotedByte]
    split_ifs <;> simp
  have hbytes (quote : Char) : data.length ≤ (data.flatMap (quotedByte quote)).length := by
    induction data with
    | nil => exact Nat.le_refl 0
    | cons b rest ih =>
      have := hbyte quote b
      rw [List.flatMap_cons, List.length_append, List.length_cons]
      omega
  rw [quotedBytes, String.length_ofList]
  have := hbytes (quoteFor (data.contains 0x27) (data.contains 0x22))
  simp only [List.cons_append, List.length_cons, List.length_append]
  omega

namespace Step

def planned : Value → Bytes
  | .buffer data => Utf8.ofString (Value.plain (.buffer data))
  | v => Wire.render v

theorem planned_frozen (v : Value) : planned v.frozen = Wire.render v := by
  cases v <;> rfl

/-- A plan writes a value as a serializer does, unless it is a buffer. An integer is in ASCII, which
is what it is in UTF-8. -/
theorem renderValue_eq_map (v : Value) : renderValue v = (Wire.encode v).map fun _ ↦ planned v := by
  have hshown {bytes : Bytes}
      (hfault : Wire.fault? v = if v.isShowable then none else some .invalid)
      (hbytes : bytes = planned v) : (if v.isShowable then .ok bytes else .error .invalid) =
        (Wire.encode v).map fun _ ↦ planned v := by
    rw [Wire.encode, hfault, hbytes]
    cases v.isShowable <;> rfl
  cases v with
  | bool b => cases b <;> rfl
  | int n =>
    have hascii : ∀ c ∈ (toString n).toList, Domain.IsSafe [] c :=
      Domain.isSafe_of_mem_toString (by decide) fun _ ↦ rfl
    refine hshown rfl ?_
    change _ = Utf8.encode (toString n).toList
    rw [Utf8.encode, List.map_eq_flatMap]
    refine List.flatMap_congr fun c hc ↦ ?_
    rw [Utf8.encodeChar, if_pos (hascii c hc).1]
  | list items | object entries => exact hshown rfl rfl
  | _ => rfl

theorem renderValue_frozen (v : Value) : renderValue v.frozen = Wire.encode v := by
  have hencode : Wire.encode v.frozen = Wire.encode v := by
    cases v <;> rfl
  rw [renderValue_eq_map, planned_frozen, hencode, Wire.encode]
  cases Wire.fault? v <;> rfl

/-- What a plan has for a buffer is longer than its bytes. -/
theorem planned_eq_or (v : Value) :
    v.frozen = v ∧ planned v = Wire.render v ∨ (Wire.render v).length < (planned v).length := by
  cases v with
  | buffer data =>
    right
    have hquoted := Text.length_le_quotedBytes data
    have hbytes := Utf8.length_le_ofString ("bytearray(" ++ Text.quotedBytes data ++ ")")
    have hopen : "bytearray(".length = 10 := rfl
    rw [String.length_append, String.length_append, hopen] at hbytes
    change data.length < (Utf8.ofString ("bytearray(" ++ Text.quotedBytes data ++ ")")).length
    omega
  | _ => exact .inl ⟨rfl, rfl⟩

end Step

/-- Rows of the same items are the same only item by item, if items that differ differ in length. -/
theorem flatMap_eq_iff_of_lt {α β : Type} {f g : α → List β} {items : List α}
    (h : ∀ a ∈ items, f a = g a ∨ (f a).length < (g a).length) :
    items.flatMap f = items.flatMap g ↔ ∀ a ∈ items, f a = g a := by
  have hle {items : List α} (h : ∀ a ∈ items, f a = g a ∨ (f a).length < (g a).length) :
      (items.flatMap f).length ≤ (items.flatMap g).length := by
    induction items with
    | nil => exact Nat.le_refl 0
    | cons a items ih =>
      rw [List.forall_mem_cons] at h
      have hrest := ih h.2
      rw [List.flatMap_cons, List.flatMap_cons, List.length_append, List.length_append]
      rcases h.1 with heq | hlt
      · rw [heq]
        omega
      · omega
  refine ⟨fun heq ↦ ?_, fun heq ↦ List.flatMap_congr heq⟩
  induction items with
  | nil => simp
  | cons a items ih =>
    rw [List.forall_mem_cons] at h ⊢
    rw [List.flatMap_cons, List.flatMap_cons] at heq
    rcases h.1 with hsame | hlt
    · rw [hsame] at heq
      exact ⟨hsame, ih h.2 (List.append_cancel_left heq)⟩
    · have hlength := congrArg List.length heq
      rw [List.length_append, List.length_append] at hlength
      have := hle h.2
      omega

/-! ## Records -/

theorem Record.get_frozen (r : Record) (name : String) :
    r.frozen.get name = (r.get name).frozen := by
  rw [Record.get, Record.get, Record.frozen, Value.lookup?, Value.lookup?, List.find?_map]
  simp only [Function.comp_def]
  cases r.find? (·.1 == name) <;> rfl

namespace Codec

variable {m : Compiled.Message} {r : Record} {f : Compiled.Field}

def valuesOf (m : Compiled.Message) (r : Record) : Step.Values :=
  m.fields.map fun f ↦ (f.name, r.get (memberName f.name))

theorem get_valuesOf (hf : f ∈ m.fields) :
    (valuesOf m r).get f.name = r.get (memberName f.name) := by
  rw [Step.Values.get]
  cases hfind : (valuesOf m r).find? (·.1 == f.name) with
  | none =>
    have hne := List.find?_eq_none.mp hfind _ (List.mem_map_of_mem hf)
    simp at hne
  | some e =>
    obtain ⟨g, -, rfl⟩ := List.mem_map.mp (List.mem_of_find?_eq_some hfind)
    have hname : g.name = f.name := by simpa using List.find?_some hfind
    rw [← hname]
    rfl

theorem render_valuesOf (hf : f ∈ m.fields) :
    Step.render (valuesOf m r) (.field f.definition) =
      if (shown r f.definition).isNull then .ok []
      else Step.renderValue (shown r f.definition) := by
  rw [Step.render, ← Compiled.Field.name, get_valuesOf hf, shown_definition]

theorem frozen_default (hm : m.WellFormed) (hf : f ∈ m.fields) :
    f.definition.defaultValue.frozen = f.definition.defaultValue := by
  cases hnull : f.definition.defaultValue.isNull with
  | true => exact Value.frozen_of_isNull hnull
  | false =>
    obtain ⟨found, hfound, hsound⟩ := hm.findings f hf
    obtain ⟨-, -, hdefault⟩ :=
      Check.fieldFindings_spec hfound (Check.not_onRules_of_severity hsound)
    obtain ⟨t, -, -, hfits, -⟩ := Check.defaultFindings_spec hdefault hsound hnull
    cases hv : f.definition.defaultValue with
    | buffer data =>
      rw [hv] at hfits
      cases t <;> cases hfits
    | _ => rfl

theorem shown_frozen (hm : m.WellFormed) (hf : f ∈ m.fields) :
    shown r.frozen f.definition = (shown r f.definition).frozen := by
  have hnull (v : Value) : v.frozen.isNull = v.isNull := by
    cases v <;> rfl
  rw [shown, shown, Record.get_frozen, hnull]
  split
  · exact (frozen_default hm hf).symm
  · rfl

def HasRequired (m : Compiled.Message) (r : Record) : Prop :=
  ∀ f ∈ m.fields, f.definition.isRequired = true → (r.get (memberName f.name)).isNull = false

theorem hasRequired_of_validate (h : validate m r = .ok []) : HasRequired m r := by
  intro f hf hrequired
  have haccepts := accepts_of_fieldErrors (validate_eq_nil_iff.mp h f hf)
  cases hnull : (r.get (memberName f.name)).isNull with
  | false => rfl
  | true => exact absurd hrequired (by simp [isRequired_of_accepts haccepts hnull])

theorem emitField_eq {d : Spec.Field}
    (h : d.isRequired = true → (r.get (memberName d.name)).isNull = false) :
    emitField r d = if (shown r d).isNull then .ok [] else Wire.encode (shown r d) := by
  rw [emitField, shown]
  cases hrequired : d.isRequired with
  | true => simp [h hrequired]
  | false =>
    cases hnull : (r.get (memberName d.name)).isNull <;>
      cases hdefault : d.defaultValue.isNull <;> simp [hnull, hdefault]

/-- A plan renders the members of a record, with byte strings in place of buffers, as a serializer
writes them, if none that is required is null. -/
theorem renderAll_valuesOf (hm : m.WellFormed) (hrequired : HasRequired m r) :
    Step.renderAll m.steps (valuesOf m r.frozen) =
      (m.steps.mapM (emit r)).map List.flatten := by
  have hsteps : m.steps.mapM (Step.render (valuesOf m r.frozen)) = m.steps.mapM (emit r) := by
    refine Fault.mapM_congr fun step hstep ↦ ?_
    cases step with
    | literal text | delimiter text | terminator text => rfl
    | field d =>
      obtain ⟨f, hf, rfl⟩ := hm.field_mem_steps_iff.mp hstep
      have hnull : (shown r f.definition).frozen.isNull = (shown r f.definition).isNull := by
        cases shown r f.definition <;> rfl
      rw [render_valuesOf hf, shown_frozen hm hf, hnull, Step.renderValue_frozen, emit,
        emitField_eq (hrequired f hf)]
  rw [Step.renderAll, hsteps]
  cases m.steps.mapM (emit r) <;> rfl

theorem serialize_iff_renderAll (hm : m.WellFormed) {bytes : Bytes} :
    serialize m r = .ok (.ok bytes) ↔
      validate m r = .ok [] ∧ Step.renderAll m.steps (valuesOf m r.frozen) = .ok bytes := by
  rw [serialize, bind_eq_ok_iff]
  constructor
  · rintro ⟨errors, herrors, h⟩
    cases errors with
    | nil =>
      obtain ⟨parts, hparts, h⟩ := bind_eq_ok_iff.mp h
      refine ⟨herrors, ?_⟩
      rw [renderAll_valuesOf hm (hasRequired_of_validate herrors), hparts]
      exact congrArg Except.ok (Except.ok.inj (pure_eq_ok_iff.mp h))
    | cons e rest => cases h
  · rintro ⟨herrors, h⟩
    rw [renderAll_valuesOf hm (hasRequired_of_validate herrors)] at h
    refine ⟨[], herrors, ?_⟩
    cases hparts : m.steps.mapM (emit r) with
    | error e =>
      rw [hparts] at h
      cases h
    | ok parts =>
      rw [hparts] at h
      exact congrArg (fun b ↦ Except.ok (Except.ok b)) (Except.ok.inj h)

def plannedStep (r : Record) : Step → Bytes
  | .literal text | .delimiter text | .terminator text => Utf8.ofString text
  | .field d => if (shown r d).isNull then [] else Step.planned (shown r d)

theorem plannedStep_eq_of_render (hf : f ∈ m.fields) {part : Bytes}
    (h : Step.render (valuesOf m r) (.field f.definition) = .ok part) :
    plannedStep r (.field f.definition) = part := by
  rw [render_valuesOf hf] at h
  rw [plannedStep]
  split at h
  · rename_i hnull
    rw [if_pos hnull]
    exact Except.ok.inj h
  · rename_i hnull
    rw [if_neg hnull]
    rw [Step.renderValue_eq_map] at h
    cases hencode : Wire.encode (shown r f.definition) with
    | error e =>
      rw [hencode] at h
      cases h
    | ok raw =>
      rw [hencode] at h
      exact Except.ok.inj h

theorem flatMap_plannedStep (hm : m.WellFormed) {bytes : Bytes}
    (h : Step.renderAll m.steps (valuesOf m r) = .ok bytes) :
    m.steps.flatMap (plannedStep r) = bytes := by
  obtain ⟨parts, hparts, hflat⟩ := bind_eq_ok_iff.mp h
  have hmap := Fault.mapM_eq_ok_iff.mp hparts
  have hsteps : m.steps.map (Step.render (valuesOf m r)) =
      (m.steps.map (plannedStep r)).map .ok := by
    rw [List.map_map]
    refine List.map_congr_left fun step hstep ↦ ?_
    cases step with
    | literal text | delimiter text | terminator text => rfl
    | field d =>
      obtain ⟨f, hf, rfl⟩ := hm.field_mem_steps_iff.mp hstep
      obtain ⟨part, -, hpart⟩ := Fault.exists_of_mem_items hmap hstep
      rw [Function.comp_apply, plannedStep_eq_of_render hf hpart, hpart]
  rw [hsteps] at hmap
  rw [List.flatMap_def, List.map_injective_iff.mpr (fun a b ↦ Except.ok.inj) hmap]
  exact pure_eq_ok_iff.mp hflat

/-- What is written for a record is what the plan of its message renders exactly if the record has
no buffers. -/
theorem renderAll_eq_iff (hm : m.WellFormed) {bytes : Bytes}
    (h : serialize m r = .ok (.ok bytes)) :
    Step.renderAll m.steps (valuesOf m r) = .ok bytes ↔
      ∀ f ∈ m.fields, (r.get (memberName f.name)).frozen = r.get (memberName f.name) := by
  obtain ⟨hvalid, hrendered⟩ := (serialize_iff_renderAll hm).mp h
  have hrequired := hasRequired_of_validate hvalid
  constructor
  · intro hplan
    obtain ⟨-, -, hwritten⟩ := (serialize_eq_ok_iff hm).mp h
    rw [← hm.flatMap_stepBytes, ← flatMap_plannedStep hm hplan] at hwritten
    have hfield {f : Compiled.Field} (hf : f ∈ m.fields) :
        stepBytes r (.field f.definition) =
          if (shown r f.definition).isNull then [] else Wire.render (shown r f.definition) :=
      fieldBytes_eq (hrequired f hf)
    -- Both come to the same row of bytes, and no part of the plan is shorter.
    have hshorter : ∀ step ∈ m.steps, stepBytes r step = plannedStep r step ∨
        (stepBytes r step).length < (plannedStep r step).length := by
      intro step hstep
      cases step with
      | literal text | delimiter text | terminator text => exact .inl rfl
      | field d =>
        obtain ⟨f, hf, rfl⟩ := hm.field_mem_steps_iff.mp hstep
        rw [hfield hf, plannedStep]
        split
        · exact .inl rfl
        · exact (Step.planned_eq_or _).imp_left fun h ↦ h.2.symm
    intro f hf
    have hstep := hm.field_mem_steps_iff.mpr ⟨f, hf, rfl⟩
    have hsame := (flatMap_eq_iff_of_lt hshorter).mp hwritten _ hstep
    rw [hfield hf, plannedStep, shown_definition] at hsame
    cases hnull : (r.get (memberName f.name)).isNull with
    | true => exact Value.frozen_of_isNull hnull
    | false =>
      simp only [hnull, Bool.false_eq_true, if_false] at hsame
      obtain ⟨hfrozen, -⟩ | hlt := Step.planned_eq_or (r.get (memberName f.name))
      · exact hfrozen
      · rw [hsame] at hlt
        exact absurd hlt (Nat.lt_irrefl _)
  · intro hfrozen
    have hvalues : valuesOf m r.frozen = valuesOf m r := by
      refine List.map_congr_left fun f hf ↦ ?_
      rw [Record.get_frozen, hfrozen f hf]
    rw [← hvalues]
    exact hrendered

namespace Package

/-- A record is written exactly if nothing is wrong with it, and then as the bytes to which the plan
of its message renders its members, with byte strings in place of buffers; so it is what the plan
renders for the record itself exactly if that has no buffers. In a package this holds of the message
whose functions go by the name, if the type of what they return is not hidden. -/
theorem serialize_eq_ok_iff_renderAll {spec : Spec} {protocol : Compiled.Protocol}
    (hcompile : Compiled.compile spec = .ok protocol) {package : Package}
    (hpackage : package.messages = protocol.messages) (hm : m ∈ protocol.messages) (r : Record)
    (bytes : Bytes) :
    (Codec.serialize m r = .ok (.ok bytes) ↔
      Codec.validate m r = .ok [] ∧
        Step.renderAll m.steps (valuesOf m r.frozen) = .ok bytes) ∧
    (package.serialize m r = .ok (.ok bytes) ↔
      package.hides "SerializeSuccess" = false ∧ package.validate m r = .ok [] ∧
        Step.renderAll (package.functionOf m).steps (valuesOf (package.functionOf m) r.frozen) =
          .ok bytes) ∧
    (package.serialize m r = .ok (.ok bytes) →
      (Step.renderAll (package.functionOf m).steps (valuesOf (package.functionOf m) r) =
          .ok bytes ↔
        ∀ f ∈ (package.functionOf m).fields,
          (r.get (memberName f.name)).frozen = r.get (memberName f.name))) := by
  have hfunction : package.functionOf m ∈ protocol.messages :=
    hpackage ▸ functionOf_mem (hpackage ▸ hm)
  obtain ⟨_, hsound⟩ := Compiled.sound_of_compile hcompile hm
  obtain ⟨_, hsound'⟩ := Compiled.sound_of_compile hcompile hfunction
  refine ⟨serialize_iff_renderAll hsound.wellFormed, ?_, fun h ↦ ?_⟩
  · rw [serialize_eq_ok_iff, serialize_iff_renderAll hsound'.wellFormed, validate, and_comm]
  · exact renderAll_eq_iff hsound'.wellFormed (serialize_eq_ok_iff.mp h).1

/-- A pair without its first text is written as its plan renders it, with the default. -/
theorem serialize_eq_ok_iff_renderAll_pair :
    ∃ protocol, Compiled.compile (pairSpec "x") = .ok protocol ∧ ∃ m ∈ protocol.messages,
      (ofProtocol protocol).serialize m pairRecord = .ok (.ok (Utf8.ofString "x,z\n")) ∧
      Step.renderAll ((ofProtocol protocol).functionOf m).steps
        (valuesOf ((ofProtocol protocol).functionOf m) pairRecord.frozen) =
          .ok (Utf8.ofString "x,z\n") := by
  obtain ⟨protocol, hprotocol, h⟩ : ∃ protocol, Compiled.compile (pairSpec "x") = .ok protocol ∧
      (protocol.messages.any fun m ↦
        gives ((ofProtocol protocol).serialize m pairRecord) fun written ↦
          gives written (· == Utf8.ofString "x,z\n")) = true :=
    exists_of_gives (by decide +kernel)
  obtain ⟨m, hm, h⟩ := List.any_eq_true.mp h
  have hwritten := eq_of_gives_gives h
  have hmessages : (ofProtocol protocol).messages = protocol.messages := rfl
  refine ⟨protocol, hprotocol, m, hm, hwritten, ?_⟩
  exact ((serialize_eq_ok_iff_renderAll hprotocol hmessages hm pairRecord _).2.1.mp hwritten).2.2

def sameStemSpec : Spec :=
  Compiled.homonymSpec (.string .null) (.string .null) "x\x7bcode\x7d"

/-- A message is not written as its own plan renders it where another takes the place of its
serializer. -/
theorem serialize_leaves_plan :
    ∃ protocol m, Compiled.compile sameStemSpec = .ok protocol ∧
      protocol.messages.head? = some m ∧
      (ofProtocol protocol).serialize m [("code", .text "a")] = .ok (.ok (Utf8.ofString "xa")) ∧
      Step.renderAll m.steps (valuesOf m [("code", .text "a")]) = .ok (Utf8.ofString "a") := by
  obtain ⟨protocol, hprotocol, h⟩ : ∃ protocol, Compiled.compile sameStemSpec = .ok protocol ∧
      (protocol.messages.head?.any fun m ↦
        (gives ((ofProtocol protocol).serialize m [("code", .text "a")]) fun written ↦
          gives written (· == Utf8.ofString "xa")) &&
        gives (Step.renderAll m.steps (valuesOf m [("code", .text "a")]))
          (· == Utf8.ofString "a")) = true :=
    exists_of_gives (by decide +kernel)
  obtain ⟨m, hm, h⟩ := (Option.any_eq_true _ _).mp h
  rw [Bool.and_eq_true] at h
  obtain ⟨plan, hplan, heq⟩ := exists_of_gives h.2
  rw [beq_iff_eq] at heq
  subst heq
  exact ⟨protocol, m, hprotocol, hm, eq_of_gives_gives h.1, hplan⟩

end Package

end Codec

end TextProtocol
