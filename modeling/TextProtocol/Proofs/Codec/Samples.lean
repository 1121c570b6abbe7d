import TextProtocol.Proofs.Codec.Beginnings
import TextProtocol.Proofs.Codec.Domains
import TextProtocol.Proofs.Codec.Rendering
import TextProtocol.Proofs.Compile.Sample

/-!
# Samples of messages

A compiled message carries a sample with one value for each field, and the bytes that are expected
for it. Tests write the sample, read it back, and read it once more without its last byte.

The samples of fields without a default are members of their test domains, so they pass the checks
of their fields and avoid their stops. Defaults are taken for samples as they are, so the sample of
a message is written exactly if its defaults fit where they stand. That it is read back takes more:
no boundary of a field may be guessed, but messages have samples all the same.
-/

namespace TextProtocol

open Fault (bind_eq_ok_iff pure_eq_ok_iff gives exists_of_gives exists_of_gives_gives
  eq_of_gives_gives)
open Value (lookup? isCountable)

/-! ## Samples of fields -/

/-- Whether the bounds of a field are missing or integers. A maximum that is the truth value for
zero would become the sample itself. -/
structure Compiled.Field.Measured (f : Compiled.Field) : Prop where
  countable : ∀ b ∈ f.constraints.bounds, isCountable b = true
  maximum_ne : f.constraints.maximum ≠ .bool false

namespace Compiled

variable {source : Spec.Message} {m : Message} {f : Field}

theorem Sound.settled (h : Sound source m) (hf : f ∈ m.fields) : f.Settled := by
  have hdomain := (h.sampled.fields f hf).domain_eq
  have hwf := h.wellFormed
  obtain ⟨⟨found, hfound, herrors⟩, warnings, hcompile⟩ := h
  obtain ⟨definitions, format, items, reading, hdefinitions, hformat, hitems, hreading, -,
    hassemble⟩ := compileMessage_spec hcompile
  obtain ⟨hdelimiter, hmachine, -, -, results, hresults, hfields⟩ := assemble_spec hassemble
  have hmem : f.definition ∈ definitions := by
    rw [hfields] at hf
    obtain ⟨r, hr, rfl⟩ := List.mem_map.mp hf
    obtain ⟨d, hd, heq⟩ := Fault.exists_of_mem_results hresults hr
    rwa [(compileField_spec heq).1]
  have hread : Segment.ofFormat source.format definitions = .ok reading := by
    rw [Segment.ofFormat.eq_def, hformat]
    simp only [hitems]
    exact Fault.mapError_eq_ok_iff.mpr hreading
  refine settled_of_checks hfound herrors hdefinitions hread hmem (hwf.constraints_eq f hf) ?_
    hdomain
  rw [hwf.stops_eq f hf, hmachine, hdelimiter]

/-- The bounds of a measured field and the length that is asked of it count as integers. -/
theorem Sound.countable (h : Sound source m) (hf : f ∈ m.fields) (hmeasured : f.Measured) :
    ∀ b ∈ f.constraints.length :: f.constraints.bounds, isCountable b = true :=
  List.forall_mem_cons.mpr ⟨h.isCountable_length hf, hmeasured.countable⟩

/-- The sample of a field without a default is a member of its domain. -/
theorem Sound.describes_sample (h : Sound source m) (hf : f ∈ m.fields) (hmeasured : f.Measured)
    (hsample : f.sample.isNull = false) (hdefault : f.definition.defaultValue.isNull = true) :
    f.domain.empty = false ∧ (∀ p, f.constraints.pattern = some p → p = "") ∧
      f.domain.Describes f.definition.type f.sample := by
  have hsettled := h.settled hf
  obtain ⟨own, hfindings, hsound⟩ := hsettled.findings
  obtain ⟨result, hresult, heq⟩ := (h.sampled.fields f hf).sample_eq
  cases result with
  | error reason =>
    rw [heq] at hsample
    cases hsample
  | ok v =>
    obtain ⟨hempty, hpattern⟩ := Example.empty_eq_false_of_ofField hsettled.constraints_eq
      hsettled.domain_eq (hmeasured.countable _ (by simp [Constraints.bounds]))
      (hmeasured.countable _ (by simp [Constraints.bounds]))
      (fun n ↦ Check.lengths_nonneg hfindings hsound hsettled.constraints_eq)
      (fun a b ↦ Check.minLength_le_maxLength hfindings hsound hsettled.constraints_eq)
      hdefault hresult
    have hends := hsettled.endsWell hempty hpattern (h.countable hf hmeasured) hdefault
      hmeasured.maximum_ne
    rw [hresult] at hends
    rw [heq]
    exact ⟨hempty, hpattern, hends⟩

end Compiled

namespace Codec

variable {source : Spec.Message} {m : Compiled.Message} {f : Compiled.Field}

theorem isCarried_of_isCountable {v : Value} (h : isCountable v = true) : isCarried v = true := by
  cases v with
  | real x | object entries => cases h
  | _ => rfl

/-- The sample of a field passes its check if it can be written, unless it is a default that does
not fit between the stops. -/
theorem accepts_sample_iff (h : Compiled.Sound source m) (hf : f ∈ m.fields)
    (hmeasured : f.Measured) (hsample : f.sample.isNull = false)
    (hwritten : Wire.fault? f.sample = none) :
    Accepts f f.sample ↔ (f.definition.defaultValue.isNull = false →
      FieldCheck.Fits f.definition.isRequired (stopsOf f)
        (Wire.render f.definition.defaultValue)) := by
  cases hdefault : f.definition.defaultValue.isNull with
  | true =>
    refine ⟨fun _ ↦ nofun, fun _ ↦ ?_⟩
    obtain ⟨hempty, hpattern, hdescribes⟩ := h.describes_sample hf hmeasured hsample hdefault
    exact accepts_of_describes (h.settled hf) hempty hpattern (h.countable hf hmeasured)
      hdescribes hwritten
  | false =>
    obtain ⟨own, hfindings, hsound⟩ := h.wellFormed.findings f hf
    have hcarried : ∀ b ∈ f.constraints.bounds, isCarried b = true := fun b hb ↦
      isCarried_of_isCountable (hmeasured.countable b hb)
    rw [(h.sampled.fields f hf).sample_eq_default hdefault] at hwritten ⊢
    rw [accepts_iff_of_isNull hdefault,
      demands_default_iff (h.wellFormed.constraints_eq f hf) hfindings hsound hdefault,
      and_iff_left hcarried, and_iff_right hwritten]
    exact ⟨fun hfits _ ↦ hfits, fun hfits ↦ hfits rfl⟩

theorem frozen_sample (h : Compiled.Sound source m) (hf : f ∈ m.fields) (hmeasured : f.Measured)
    (hsample : f.sample.isNull = false) : f.sample.frozen = f.sample := by
  cases hdefault : f.definition.defaultValue.isNull with
  | true => exact (h.describes_sample hf hmeasured hsample hdefault).2.2.frozen_eq
  | false =>
    rw [(h.sampled.fields f hf).sample_eq_default hdefault]
    exact frozen_default h.wellFormed hf

/-! ## Samples as records -/

def sampleRecord (m : Compiled.Message) : Record :=
  m.fields.map fun f ↦ (memberName f.name, f.sample)

theorem map_fst_sampleRecord (m : Compiled.Message) :
    (sampleRecord m).map Prod.fst = m.fields.map fun f ↦ memberName f.name := by
  rw [sampleRecord, List.map_map, Function.comp_def]

theorem mem_sampleRecord (hf : f ∈ m.fields) : (memberName f.name, f.sample) ∈ sampleRecord m := by
  rw [sampleRecord, List.mem_map]
  exact ⟨f, hf, rfl⟩

section Records

variable (hdistinct : (m.fields.map fun f ↦ memberName f.name).Nodup)

include hdistinct

theorem lookup?_sampleRecord (hf : f ∈ m.fields) :
    lookup? (sampleRecord m) (memberName f.name) = some f.sample := by
  have hentry := Value.lookup?_of_mem (by rwa [map_fst_sampleRecord]) (mem_sampleRecord hf)
  dsimp only at hentry
  exact hentry

theorem get_sampleRecord (hf : f ∈ m.fields) :
    (sampleRecord m).get (memberName f.name) = f.sample := by
  rw [Record.get, lookup?_sampleRecord hdistinct hf, Option.getD_some]

theorem shown_sampleRecord (hf : f ∈ m.fields) (hsample : f.sample.isNull = false) :
    shown (sampleRecord m) f.definition = f.sample := by
  rw [shown_definition, get_sampleRecord hdistinct hf, if_neg (by simp [hsample])]

theorem isRecord_sampleRecord : IsRecord m (sampleRecord m) := by
  rw [IsRecord, members_eq_map hdistinct, map_fst_sampleRecord, List.map_map]
  exact List.map_congr_left fun f _ ↦ (Member.name_ofField f).symm

theorem build_sampleRecord : build m (sampleRecord m) = .ok (sampleRecord m) := by
  rw [build_eq_ok_iff hdistinct]
  constructor
  · intro e he
    have hname : e.1 ∈ m.fields.map fun f ↦ memberName f.name := by
      rw [← map_fst_sampleRecord]
      exact List.mem_map_of_mem he
    exact List.mem_map.mp hname
  · have hvalues : (sampleRecord m).map (fun e ↦ (e.1, some e.2)) =
        m.fields.map fun f ↦ (memberName f.name, some f.sample) := by
      rw [sampleRecord, List.map_map, Function.comp_def]
    rw [hvalues]
    refine List.map_congr_left fun f hf ↦ ?_
    rw [lookup?_sampleRecord hdistinct hf]
    rfl

theorem ofFields_sample :
    ofFields m ((m.fields.map fun f ↦ (f.name, f.sample)).map fun e ↦ (e.1.getD "", e.2)) =
      .ok (sampleRecord m) := by
  have hgiven : byMember ((m.fields.map fun f ↦ (f.name, f.sample)).map
      fun e ↦ (e.1.getD "", e.2)) = sampleRecord m := by
    rw [← map_fst_sampleRecord, ← List.nil_append (sampleRecord m)] at hdistinct
    have hfold := Value.foldl_putEntry hdistinct
    rw [List.nil_append] at hfold
    rw [← hfold, sampleRecord, byMember, List.foldl_map, List.foldl_map, List.foldl_map]
    simp only [memberName, Option.getD_some]
  rw [ofFields, hgiven, build_sampleRecord hdistinct]

/-- The sample of a message is written exactly if the samples of its fields pass their checks. -/
theorem serialize_sampleRecord_iff (hm : m.WellFormed)
    (hsamples : ∀ f ∈ m.fields, f.sample.isNull = false) :
    serialize m (sampleRecord m) =
        .ok (.ok (m.machine.states.flatMap (State.written (sampleRecord m)))) ↔
      ∀ f ∈ m.fields, Accepts f f.sample := by
  have hiff (f : Compiled.Field) (hf : f ∈ m.fields) :
      fieldErrors (sampleRecord m) f = .ok [] ↔ Accepts f f.sample := by
    rw [fieldErrors, lookup?_sampleRecord hdistinct hf, Accepts]
  rw [serialize_eq_ok_iff hm, and_iff_left rfl, forall₂_congr hiff, and_iff_left_iff_imp]
  intro haccepts f hf v hv
  have hget := get_sampleRecord hdistinct hf
  rw [Compiled.Field.name] at hget
  rw [sent?_of_get hget (hsamples f hf)] at hv
  obtain rfl := Option.some.inj hv
  exact ((accepts_iff_of_isNull (hsamples f hf)).mp (haccepts f hf)).1.fault?_eq_none

variable (hsamples : ∀ f ∈ m.fields, f.sample.isNull = false)

include hsamples

theorem fieldBytes_sampleRecord (hf : f ∈ m.fields) :
    fieldBytes (sampleRecord m) f.definition = Wire.render f.sample := by
  have hget := get_sampleRecord hdistinct hf
  rw [Compiled.Field.name] at hget
  rw [fieldBytes, sent?_of_get hget (hsamples f hf), Option.elim_some]

/-- The bytes that are kept with a sample are those that its record is written as, and all of its
values can be written. -/
theorem written_of_renderAll (h : Compiled.Sound source m)
    (hmeasured : ∀ f ∈ m.fields, f.Measured) {bytes : Bytes}
    (hbytes : Step.renderAll m.steps (m.fields.map fun f ↦ (f.name, f.sample)) = .ok bytes) :
    bytes = m.machine.states.flatMap (State.written (sampleRecord m)) ∧
      ∀ f ∈ m.fields, Wire.fault? f.sample = none := by
  have hm := h.wellFormed
  have hvalues : (m.fields.map fun f ↦ (f.name, f.sample)) =
      valuesOf m (sampleRecord m).frozen := by
    refine List.map_congr_left fun f hf ↦ ?_
    rw [Record.get_frozen, get_sampleRecord hdistinct hf,
      frozen_sample h hf (hmeasured f hf) (hsamples f hf)]
  have hrequired : HasRequired m (sampleRecord m) := by
    intro f hf _
    rw [get_sampleRecord hdistinct hf, hsamples f hf]
  rw [hvalues, renderAll_valuesOf hm hrequired] at hbytes
  cases hparts : m.steps.mapM (emit (sampleRecord m)) with
  | error e =>
    rw [hparts] at hbytes
    cases hbytes
  | ok parts =>
    rw [hparts] at hbytes
    obtain ⟨hhas, hsteps⟩ := mapM_emit_eq_ok_iff.mp hparts
    refine ⟨?_, fun f hf ↦ ?_⟩
    · rw [← hm.flatMap_stepBytes, List.flatMap_def, hsteps]
      exact (Except.ok.inj hbytes).symm
    · have hget := get_sampleRecord hdistinct hf
      rw [Compiled.Field.name] at hget
      exact hhas _ (hm.field_mem_steps_iff.mpr ⟨f, hf, rfl⟩) _ (sent?_of_get hget (hsamples f hf))

theorem sendable_sampleRecord (haccepts : ∀ f ∈ m.fields, Accepts f f.sample) :
    Sendable m (sampleRecord m) := by
  intro f hf
  refine ⟨.inr ?_, fun _ ↦ ?_⟩
  · rw [shown_sampleRecord hdistinct hf (hsamples f hf)]
    exact (accepts_iff_of_isNull (hsamples f hf)).mp (haccepts f hf)
  · rw [get_sampleRecord hdistinct hf, hsamples f hf]

theorem fill_sampleRecord (haccepts : ∀ f ∈ m.fields, Accepts f f.sample) :
    fill m (sampleRecord m) = sampleRecord m := by
  have hr := sendable_sampleRecord hdistinct hsamples haccepts
  rw [fill_eq_map hr hdistinct (isRecord_sampleRecord hdistinct)]
  conv_rhs => rw [sampleRecord]
  refine List.map_congr_left fun f hf ↦ ?_
  rw [shown_sampleRecord hdistinct hf (hsamples f hf)]

/-- The sample of a message is read back where no stop straddles the end of a field. -/
theorem parse_sampleRecord (lenient : Bool) (h : Compiled.Sound source m)
    (hmeasured : ∀ f ∈ m.fields, f.Measured) (hsure : m.machine.ambiguous = [])
    (haccepts : ∀ f ∈ m.fields, Accepts f f.sample)
    (hwhole : ∀ state ∈ m.machine.states, ∀ f x, state.field? = some f →
      state.extraction? = some x → Whole (sampleRecord m) f x) :
    parseWith lenient (build m) m (m.machine.states.flatMap (State.written (sampleRecord m))) 0 =
      .ok (.ok ⟨sampleRecord m,
        (m.machine.states.flatMap (State.written (sampleRecord m))).length⟩) := by
  have hm := h.wellFormed
  have hr := sendable_sampleRecord hdistinct hsamples haccepts
  have hreadable : ∀ state ∈ m.machine.states, Readable m (sampleRecord m) [] state :=
    fun state hstate ↦ {
      mem := hstate
      width := by
        rintro d x follow rfl -
        obtain ⟨f, hf, rfl, -⟩ := hm.exists_field hstate rfl
        rw [shown_sampleRecord hdistinct hf (hsamples f hf), hsamples f hf]
      buffer := fun _ ↦ rfl }
  have hfrozen : (sampleRecord m).frozen = sampleRecord m := by
    rw [sampleRecord, Record.frozen, List.map_map]
    refine List.map_congr_left fun f hf ↦ ?_
    rw [Function.comp_apply, frozen_sample h hf (hmeasured f hf) (hsamples f hf)]
  -- All samples are written, so the record is read back without any default to fill in.
  have hbuild := build_takenBy hm hr hdistinct (isRecord_sampleRecord hdistinct)
  rw [fill_sampleRecord hdistinct hsamples haccepts, hfrozen] at hbuild
  have hparse : parseWith lenient (build m) m
        ([] ++ m.machine.states.flatMap (State.written (sampleRecord m)))
        (([] : Bytes).length : Nat) =
      .ok (.ok ⟨sampleRecord m,
        (m.machine.states.flatMap (State.written (sampleRecord m))).length⟩) :=
    (parseWith_iff_reads hm).mpr ⟨_, [], _, (List.append_nil _).symm,
      reads_of_whole hm hr (hm.linked hsure) hwhole hreadable, hbuild, rfl⟩
  exact hparse

/-- No stop straddles the end of a sample that is made of safe characters. -/
theorem whole_sampleRecord (h : Compiled.Sound source m) (hf : f ∈ m.fields)
    (hmeasured : f.Measured) (hdefault : f.definition.defaultValue.isNull = true)
    (hword : isWorded f = false) {x : Extraction} (hstops : ∀ s ∈ x.stops, s ∈ f.stops) :
    Whole (sampleRecord m) f.definition x := by
  obtain ⟨hempty, -, hdescribes⟩ := h.describes_sample hf hmeasured (hsamples f hf) hdefault
  have havoids := avoids_of_describes (h.settled hf) hempty (h.countable hf hmeasured) hword
    hdescribes
  intro s _ t ht
  rw [fieldBytes_sampleRecord hdistinct hsamples hf]
  exact (havoids _ (List.mem_map_of_mem (hstops t ht))).not_straddles _

end Records

/-! ## Samples that are cut off -/

/-- A message that rejects truncation can tell the ends of its fields from its own bytes, unless an
optional one is read by width. -/
theorem selfDelimiting_of_rejectsTruncation (hm : m.WellFormed) (hsure : m.machine.ambiguous = [])
    (h : m.machine.rejectsTruncation = true)
    (hwidth : ∀ f x follow, .optionalField f x follow ∈ m.machine.states → x.isFixed = false) :
    ∀ state ∈ m.machine.states, state.SelfDelimiting := by
  intro state hstate
  have hends := Machine.ne_endOfBuffer_of_rejectsTruncation (hm.linked hsure) h hstate
  cases state with
  | extractField f x => exact fun hx ↦ hends (congrArg some hx)
  | optionalField f x follow =>
    exact ⟨fun hx ↦ hends (congrArg some hx), hwidth f x follow hstate⟩
  | _ => trivial

theorem exists_of_truncatedBytes {cut : Bytes} (h : m.truncatedBytes = some cut) :
    m.machine.rejectsTruncation = true ∧ ∃ last, m.sampleBytes = some (cut ++ [last]) := by
  rw [Compiled.Message.truncatedBytes, Compiled.Message.rejectsTruncation] at h
  split at h
  · rename_i hrejects
    rw [Bool.and_eq_true] at hrejects
    obtain ⟨bytes, hbytes, rfl⟩ := Option.map_eq_some_iff.mp h
    rw [hbytes, Option.any_some, Bool.not_eq_true', List.isEmpty_eq_false_iff] at hrejects
    refine ⟨hrejects.1, bytes.getLast hrejects.2, ?_⟩
    rw [hbytes, List.dropLast_append_getLast]
  · cases h

/-! ## Samples of compiled messages -/

theorem exists_sampleBytes (h : Compiled.Sound source m) {values : Step.Values}
    (hvalues : m.sample = some values) :
    ∃ bytes, m.sampleBytes = some bytes ∧ Step.renderAll m.steps values = .ok bytes := by
  have hbytes := h.sampled.sampleBytes_eq
  rw [hvalues] at hbytes
  obtain ⟨bytes, hrendered, hsome⟩ := bind_eq_ok_iff.mp hbytes
  exact ⟨bytes, (pure_eq_ok_iff.mp hsome).symm, hrendered⟩

namespace Package

/-- The sample of a compiled message whose members have different names and whose bounds are
integers, in a package that keeps the message and hides no name for a success. It is a record of the
message, and is written as the bytes that are kept with it exactly if the defaults in it fit between
the stops of their fields. Then it is read back from these bytes as it was, unless field boundaries
are ambiguous, or a default or a word could be straddled by a stop. Without its last byte it is
refused where that is announced, or is a fault for the reasons that parsers have for faults, unless
an optional field is read by width. -/
theorem parse_sample {spec : Spec} {p : Compiled.Protocol}
    (hcompile : Compiled.compile spec = .ok p) (hm : m ∈ p.messages) {values : Step.Values}
    (hvalues : m.sample = some values)
    (hdistinct : (m.fields.map fun f ↦ memberName f.name).Nodup)
    (hmeasured : ∀ f ∈ m.fields, f.Measured) {package : Package} (hkept : package.Keeps m)
    (hparsed : package.hidesInParser "ParseSuccess" = false)
    (hserialized : package.hides "SerializeSuccess" = false) :
    ∃ r bytes, package.record m (values.map fun e ↦ (e.1.getD "", e.2)) = .ok r ∧
      m.sampleBytes = some bytes ∧
      (package.serialize m r = .ok (.ok bytes) ↔
        ∀ f ∈ m.fields, f.definition.defaultValue.isNull = false →
          FieldCheck.Fits f.definition.isRequired (stopsOf f)
            (Wire.render f.definition.defaultValue)) ∧
      (package.serialize m r = .ok (.ok bytes) → m.machine.ambiguous = [] →
        (m.SeparatorsApart ∨
          ∀ f ∈ m.fields, f.definition.defaultValue.isNull = true ∧ isWorded f = false) →
        package.parse m bytes 0 = .ok (.ok ⟨r, bytes.length⟩) ∧
        ∀ cut, m.truncatedBytes = some cut →
          (∀ f x follow, .optionalField f x follow ∈ m.machine.states → x.isFixed = false) →
          (∃ failure, package.parse m cut 0 = .ok (.error failure)) ∨
            package.parse m cut 0 = .error .invalid ∨
            package.parse m cut 0 = .error .inconsistent) := by
  obtain ⟨source, hsound⟩ := Compiled.sound_of_compile hcompile hm
  have hwf := hsound.wellFormed
  obtain ⟨bytes, hbytes, hrendered⟩ := exists_sampleBytes hsound hvalues
  rw [hsound.sampled.sample_eq, Compiled.sampleOf_eq_some_iff hwf.nodup] at hvalues
  obtain ⟨hsamples, rfl⟩ := hvalues
  obtain ⟨rfl, hwritable⟩ :=
    written_of_renderAll hdistinct hsamples hsound hmeasured hrendered
  have hserialize (data : Bytes) : package.serialize m (sampleRecord m) = .ok (.ok data) ↔
      Codec.serialize m (sampleRecord m) = .ok (.ok data) := by
    rw [serialize_eq_ok_iff, hkept.function, and_iff_left hserialized]
  have hparse (data : Bytes) : package.parse m data 0 =
      parseWith (package.hidesInParser "Invalid") (Codec.build m) m data 0 := by
    rw [parse_eq_parseWith hparsed, hkept.function, hkept.build_eq]
  have hwritten := serialize_sampleRecord_iff hdistinct hwf hsamples
  refine ⟨sampleRecord m, _, ?_, hbytes, ?_, ?_⟩
  · rw [record, hkept.build_eq]
    exact ofFields_sample hdistinct
  · rw [hserialize, hwritten]
    exact forall₂_congr fun f hf ↦
      accepts_sample_iff hsound hf (hmeasured f hf) (hsamples f hf) (hwritable f hf)
  · simp only [hserialize, hparse]
    intro hserialize hsure hseparate
    have haccepts := hwritten.mp hserialize
    have hwhole : ∀ state ∈ m.machine.states, ∀ d x, state.field? = some d →
        state.extraction? = some x → Whole (sampleRecord m) d x := by
      intro state hstate d x hd hx
      -- Defaults and words may hold any bytes; all other samples avoid the stops by themselves.
      rcases hseparate with hapart | hplain
      · obtain ⟨g, states, hg, htied⟩ := (hwf.linked hsure).exists_tied hstate hx
        cases hd.symm.trans hg
        exact whole_of_apart hwf (sendable_sampleRecord hdistinct hsamples haccepts) hstate hd hx
          htied fun d t ↦ hapart.of_separator?
      · obtain ⟨f, hf, rfl, -, hstops⟩ := hwf.exists_field hstate hd
        exact whole_sampleRecord hdistinct hsamples hsound hf (hmeasured f hf) (hplain f hf).1
          (hplain f hf).2 (hstops x hx)
    have hread := parse_sampleRecord hdistinct hsamples (package.hidesInParser "Invalid") hsound
      hmeasured hsure haccepts hwhole
    refine ⟨hread, fun cut hcut hwidth ↦ ?_⟩
    obtain ⟨hrejects, last, heq⟩ := exists_of_truncatedBytes hcut
    rw [hbytes, Option.some.injEq] at heq
    rw [heq] at hread
    have hstates := selfDelimiting_of_rejectsTruncation hwf hsure hrejects hwidth
    exact (stalls_parseWith hwf hsure hstates (List.cons_ne_nil last []) hread rfl).refused_or hwf
      hserialize

theorem parse_sample_position :
    ∃ protocol m values, Compiled.compile (Compiled.specOf positionMessage) = .ok protocol ∧
      protocol.messages = [m] ∧ m.sample = some values ∧
      m.sampleBytes = some (Utf8.ofString "1,a,7\r\n") ∧
      ∃ r, (ofProtocol protocol).record m (values.map fun e ↦ (e.1.getD "", e.2)) = .ok r ∧
        (ofProtocol protocol).serialize m r = .ok (.ok (Utf8.ofString "1,a,7\r\n")) ∧
        (ofProtocol protocol).parse m (Utf8.ofString "1,a,7\r\n") 0 = .ok (.ok ⟨r, 7⟩) ∧
        ((∃ failure,
            (ofProtocol protocol).parse m (Utf8.ofString "1,a,7\r") 0 = .ok (.error failure)) ∨
          (ofProtocol protocol).parse m (Utf8.ofString "1,a,7\r") 0 = .error .invalid ∨
          (ofProtocol protocol).parse m (Utf8.ofString "1,a,7\r") 0 = .error .inconsistent) := by
  have hcompile := Compiled.exists_compile_specOf positionMessage
    (fun protocol m ↦
      m.sample.isSome && decide (m.sampleBytes = some (Utf8.ofString "1,a,7\r\n")) &&
      decide (m.truncatedBytes = some (Utf8.ofString "1,a,7\r")) &&
      decide ((ofProtocol protocol).IsPlain ∧ m.machine.ambiguous = [] ∧
        (m.fields.map fun f ↦ memberName f.name).Nodup ∧ m.SeparatorsApart ∧
        ∀ e ∈ m.machine.extractions, e.2.isFixed = false) &&
      m.fields.all fun f ↦ f.constraints.bounds.all isCountable && f.constraints.maximum.isNull &&
        (f.definition.defaultValue.isNull ||
          decide (FieldCheck.Fits f.definition.isRequired (stopsOf f)
            (Wire.render f.definition.defaultValue)))) (by decide +kernel)
  obtain ⟨protocol, m, hprotocol, hmessages, h⟩ := hcompile
  have hmem : m ∈ protocol.messages := hmessages ▸ List.mem_singleton_self m
  simp only [Bool.and_eq_true, decide_eq_true_iff] at h
  obtain ⟨⟨⟨⟨hsample, hkept⟩, hcut⟩, hplain, hsure, hdistinct, hapart, hwidths⟩, hfields⟩ := h
  obtain ⟨values, hvalues⟩ := Option.isSome_iff_exists.mp hsample
  have hfield := List.all_eq_true.mp hfields
  simp only [Bool.and_eq_true, Bool.or_eq_true, decide_eq_true_iff, List.all_eq_true] at hfield
  have hmeasured : ∀ f ∈ m.fields, f.Measured := by
    intro f hf
    obtain ⟨⟨hcountable, hmaximum⟩, -⟩ := hfield f hf
    refine ⟨hcountable, fun hfalse ↦ ?_⟩
    rw [hfalse] at hmaximum
    cases hmaximum
  obtain ⟨r, bytes, hr, hbytes, hwritten, hread⟩ := parse_sample hprotocol hmem hvalues hdistinct
    hmeasured (hplain.keeps hmem) hplain.success hplain.written
  rw [hkept, Option.some.injEq] at hbytes
  subst hbytes
  have hserialize := hwritten.mpr fun f hf hdefault ↦ by
    obtain ⟨-, hnull | hfits⟩ := hfield f hf
    · rw [hdefault] at hnull
      cases hnull
    · exact hfits
  obtain ⟨hparse, hrefused⟩ := hread hserialize hsure (.inl hapart)
  refine ⟨protocol, m, values, hprotocol, hmessages, hvalues, hkept, r, hr, hserialize, hparse, ?_⟩
  refine hrefused _ hcut fun f x follow hstate ↦ ?_
  exact hwidths (f, x) (Machine.mem_extractions_iff.mpr ⟨_, hstate, rfl, rfl⟩)

end Package

def isText (text : String) : Value → Bool
  | .text s => decide (s = text)
  | _ => false

theorem eq_text_of_isText {text : String} {v : Value} (h : isText text v = true) :
    v = .text text := by
  cases v with
  | text s => rw [of_decide_eq_true h]
  | _ => cases h

/-- Two texts with nothing between them: the sample is written, but not read back as it was. -/
theorem Package.parse_joined_sample :
    ∃ p, Compiled.compile (Compiled.joinedSpec none) = .ok p ∧ ∃ m ∈ p.messages, ∃ values r q,
      m.sample = some values ∧ (ofProtocol p).record m (values.map fun e ↦ (e.1.getD "", e.2)) = .ok r ∧
      r.get "a" = .text "a" ∧ r.get "b" = .text "a" ∧
      m.sampleBytes = some (Utf8.ofString "aa") ∧
      (ofProtocol p).serialize m r = .ok (.ok (Utf8.ofString "aa")) ∧
      (ofProtocol p).parse m (Utf8.ofString "aa") 0 = .ok (.ok q) ∧
      q.record.get "a" = .text "aa" ∧ q.record.get "b" = .text "" := by
  obtain ⟨p, hp, h⟩ : ∃ p, Compiled.compile (Compiled.joinedSpec none) = .ok p ∧
      (p.messages.any fun m ↦ decide (m.sampleBytes = some (Utf8.ofString "aa")) &&
        m.sample.any fun values ↦
        gives ((ofProtocol p).record m (values.map fun e ↦ (e.1.getD "", e.2))) fun r ↦
          isText "a" (r.get "a") && isText "a" (r.get "b") &&
          (gives ((ofProtocol p).serialize m r) fun written ↦
            gives written (· == Utf8.ofString "aa")) &&
          gives ((ofProtocol p).parse m (Utf8.ofString "aa") 0) fun result ↦ gives result fun q ↦
            isText "aa" (q.record.get "a") && isText "" (q.record.get "b")) = true :=
    exists_of_gives (by decide +kernel)
  obtain ⟨m, hm, h⟩ := List.any_eq_true.mp h
  rw [Bool.and_eq_true, decide_eq_true_iff] at h
  obtain ⟨hkept, h⟩ := h
  obtain ⟨values, hvalues, h⟩ := (Option.any_eq_true _ _).mp h
  obtain ⟨r, hr, h⟩ := exists_of_gives h
  simp only [Bool.and_eq_true] at h
  obtain ⟨⟨⟨ha, hb⟩, hwritten⟩, hparse⟩ := h
  have hwritten := eq_of_gives_gives hwritten
  obtain ⟨q, hparse, hq⟩ := exists_of_gives_gives hparse
  rw [Bool.and_eq_true] at hq
  exact ⟨p, hp, m, hm, values, r, q, hvalues, hr, eq_text_of_isText ha, eq_text_of_isText hb, hkept,
    hwritten, hparse, eq_text_of_isText hq.1, eq_text_of_isText hq.2⟩

end Codec

end TextProtocol
