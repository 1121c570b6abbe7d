import TextProtocol.Proofs.Codec.RoundTrip
import TextProtocol.Proofs.Compile.ValueRules

/-!
# Defaults in place of null

A serializer checks the members of a record, and writes the default of a field in place of a member
that is null. Defaults are checked when a message is compiled, on their own and not as the values
that a serializer is given. The two checks ask for the same kind, the same bounds and the same
pattern. Where they differ is `StandsIn`: nothing but the serializer asks that a value is not empty
and hides none of the stops of its field, that it can be written at all, and that the bounds are
such as packages carry unchanged.

So what is written passes the checks of its fields exactly as far as the defaults in it stand in.
-/

namespace TextProtocol

open Fault (bind_eq_ok_iff pure_eq_ok_iff gives exists_of_gives exists_of_gives_gives
  eq_of_gives_gives)

/-! ## Bounds that packages carry -/

def Constraints.bounds (c : Constraints) : List Value :=
  [c.minLength, c.maxLength, c.minimum, c.maximum]

namespace Codec

/-- Whether packages carry a bound unchanged. -/
def isCarried : Value → Bool
  | .real _ | .object _ => false
  | _ => true

theorem carried_of_isCountable {v : Value} (h : Value.isCountable v = true) : carried v = v := by
  cases v with
  | real x | object entries => cases h
  | _ => rfl

theorem isLimit_of_isCountable {v : Value} (h : Value.isCountable v = true) :
    FieldCheck.isLimit v = true := by
  cases v with
  | null | bool b | int n => rfl
  | _ => cases h

theorem boundViolations_carried_iff (side : FieldCheck.Side) {n : Int} {bound : Value}
    (violation : Violation)
    (h : (if bound.isNull then .ok false else side.isBroken (.int n) bound) = .ok false) :
    FieldCheck.boundViolations side (.int n) (carried bound) violation = .ok [] ↔
      isCarried bound = true := by
  cases bound with
  | null => exact ⟨fun _ ↦ rfl, fun _ ↦ rfl⟩
  | bool | int => exact ⟨fun _ ↦ rfl, fun _ ↦ bind_eq_ok_iff.mpr ⟨false, h, rfl⟩⟩
  | real => cases side <;> exact ⟨fun h ↦ (by cases h), fun h ↦ (by cases h)⟩
  | _ => cases side <;> cases h

/-! ## Defaults and the checks of their fields -/

theorem textViolations_default_iff {c : Constraints} {codes : List Nat}
    (hpattern : ∀ p, c.pattern = some p → Pattern.isPattern p = .ok true)
    (h : ∀ p ∈ Check.stringProbes c codes, p.condition = .ok false) :
    FieldCheck.textViolations (carried c.minLength) (carried c.maxLength) c.pattern codes =
        .ok [] ↔ isCarried c.minLength = true ∧ isCarried c.maxLength = true := by
  simp only [Check.stringProbes, List.forall_mem_cons] at h
  obtain ⟨hlonger, hshorter, hunmatched, -⟩ := h
  have hmatches : FieldCheck.patternViolations c.pattern codes = .ok [] := by
    have hrun : Check.Probe.run ⟨Check.isUnmatched codes (c.pattern.getD ""), [],
        DefaultProblem.unmatched (c.pattern.getD "")⟩ = .ok [] :=
      Check.Probe.run_eq_nil_iff.mpr hunmatched
    obtain ⟨found, hfound, hnil⟩ := FieldCheck.exists_patternViolations hpattern hrun
    rw [hfound, hnil.mpr rfl]
  rw [← boundViolations_carried_iff .below (.tooShort (carried c.minLength)) hshorter,
    ← boundViolations_carried_iff .above (.tooLong (carried c.maxLength)) hlonger,
    FieldCheck.textViolations]
  simp only [bind_eq_ok_iff, pure_eq_ok_iff, List.append_eq_nil_iff]
  constructor
  · rintro ⟨short, hshort, long, hlong, other, -, ⟨rfl, rfl⟩, -⟩
    exact ⟨hshort, hlong⟩
  · rintro ⟨hshort, hlong⟩
    exact ⟨[], hshort, [], hlong, [], hmatches, ⟨rfl, rfl⟩, rfl⟩

theorem numberViolations_default_iff {c : Constraints} {n : Int}
    (h : ∀ p ∈ Check.numberProbes c (.int n), p.condition = .ok false) :
    FieldCheck.numberViolations (carried c.minimum) (carried c.maximum) (.int n) = .ok [] ↔
      isCarried c.minimum = true ∧ isCarried c.maximum = true := by
  simp only [Check.numberProbes, List.forall_mem_cons] at h
  obtain ⟨hbelow, habove, -⟩ := h
  rw [← boundViolations_carried_iff .below (.below (carried c.minimum)) hbelow,
    ← boundViolations_carried_iff .above (.above (carried c.maximum)) habove,
    FieldCheck.numberViolations]
  simp only [bind_eq_ok_iff, pure_eq_ok_iff, List.append_eq_nil_iff]
  constructor
  · rintro ⟨low, hlow, high, hhigh, rfl, rfl⟩
    exact ⟨hlow, hhigh⟩
  · rintro ⟨hlow, hhigh⟩
    exact ⟨[], hlow, [], hhigh, rfl, rfl⟩

/-- A default that was checked when its message was compiled meets the demands of its field exactly
if it can be written, and if packages carry the bounds of the field. -/
theorem demands_default_iff {f : Compiled.Field}
    (hconstraints : Constraints.ofField f.definition = .ok f.constraints) {found : List Finding}
    (hfound : Check.fieldFindings f.definition = .ok found)
    (hsound : ∀ x ∈ found, x.severity ≠ .error)
    (hdefault : f.definition.defaultValue.isNull = false) :
    (checkOf f).Demands f.definition.defaultValue ↔
      Wire.fault? f.definition.defaultValue = none ∧
        ∀ b ∈ f.constraints.bounds, isCarried b = true := by
  have hrules := Check.not_onRules_of_severity hsound
  obtain ⟨-, -, hown⟩ := Check.fieldFindings_spec hfound hrules
  obtain ⟨t, c, htype, hfits, hc, hprobes⟩ := Check.defaultFindings_spec hown hsound hdefault
  rw [hconstraints, Except.ok.injEq] at hc
  subst hc
  -- Only bounds for the kind of the field can be there; the others are null, which is carried.
  rw [Constraints.ofField, htype] at hconstraints
  rw [checkOf, htype, Constraints.bounds]
  generalize f.definition.defaultValue = v at *
  cases t with
  | string limit =>
    cases v with
    | text s =>
      obtain ⟨maxLength, -, hconstraints⟩ := bind_eq_ok_iff.mp hconstraints
      rw [pure_eq_ok_iff] at hconstraints
      rw [← hconstraints] at hprobes ⊢
      have hiff := textViolations_default_iff
        (fun p hp ↦ Check.isPattern_of_fieldFindings hfound hrules hp) hprobes
      simpa [FieldCheck.Demands, Wire.fault?, Value.isShowable, isCarried] using hiff
    | unpaired t => exact iff_of_false (fun h ↦ h.elim) fun h ↦ by cases h.1
    | _ => cases hfits
  | number low high =>
    cases v with
    | int n =>
      obtain ⟨minimum, -, hconstraints⟩ := bind_eq_ok_iff.mp hconstraints
      obtain ⟨maximum, -, hconstraints⟩ := bind_eq_ok_iff.mp hconstraints
      rw [pure_eq_ok_iff] at hconstraints
      rw [← hconstraints] at hprobes ⊢
      have hiff := numberViolations_default_iff hprobes
      simp only [FieldCheck.Demands, hiff, Wire.fault?_int]
      simp [isCarried, and_comm]
    | _ => cases hfits
  | boolean =>
    rw [pure_eq_ok_iff] at hconstraints
    cases v with
    | bool b =>
      simp [← hconstraints, FieldCheck.Demands, Wire.fault?, Value.isShowable, isCarried]
    | _ => cases hfits
  | enum values =>
    rw [pure_eq_ok_iff] at hconstraints
    cases v with
    | text s =>
      have hmem : values.contains s = true := hfits
      rw [← hconstraints]
      simpa [FieldCheck.Demands, Wire.fault?, Value.isShowable, isCarried] using hmem
    | _ => cases hfits
  | bytes length => cases hfits

/-- What a default that was checked when its message was compiled still has to satisfy, to pass the
check of its field in place of null. -/
structure StandsIn (f : Compiled.Field) : Prop where
  ne_nil : Wire.render f.definition.defaultValue ≠ []
  free : ∀ s ∈ stopsOf f, Wire.hidesStop (Wire.render f.definition.defaultValue) s = false
  written : Wire.fault? f.definition.defaultValue = none
  carried : ∀ b ∈ f.constraints.bounds, isCarried b = true

instance (f : Compiled.Field) : Decidable (StandsIn f) :=
  decidable_of_iff (Wire.render f.definition.defaultValue ≠ [] ∧
      (∀ s ∈ stopsOf f, Wire.hidesStop (Wire.render f.definition.defaultValue) s = false) ∧
      Wire.fault? f.definition.defaultValue = none ∧ ∀ b ∈ f.constraints.bounds, isCarried b = true)
    ⟨fun h ↦ ⟨h.1, h.2.1, h.2.2.1, h.2.2.2⟩, fun h ↦ ⟨h.ne_nil, h.free, h.written, h.carried⟩⟩

/-- Whether the check of a field finds nothing wrong with a value. -/
def Accepts (f : Compiled.Field) (v : Value) : Prop :=
  (checkOf f).run (f.name.getD "") f.definition.isRequired (stopsOf f) v = .ok []

variable {m : Compiled.Message} {f : Compiled.Field} {r : Record}

theorem accepts_default_iff (hm : m.WellFormed) (hf : f ∈ m.fields)
    (hoptional : f.definition.isRequired = false)
    (hdefault : f.definition.defaultValue.isNull = false) :
    Accepts f f.definition.defaultValue ↔ StandsIn f := by
  obtain ⟨found, hfound, hsound⟩ := hm.findings f hf
  rw [Accepts, FieldCheck.run_eq_nil_iff, FieldCheck.Fits, Wire.hiddenStop?_eq_none_iff,
    demands_default_iff (hm.constraints_eq f hf) hfound hsound hdefault, hdefault, hoptional]
  constructor
  · rintro (⟨hnull, -⟩ | ⟨⟨hwritten, hcarried⟩, hfree, hrequired | hne⟩)
    · cases hnull
    · cases hrequired
    · exact ⟨hne, hfree, hwritten, hcarried⟩
  · intro h
    exact .inr ⟨⟨h.written, h.carried⟩, h.free, .inr h.ne_nil⟩

theorem accepts_of_fieldErrors (h : fieldErrors r f = .ok []) :
    Accepts f (r.get (memberName f.name)) := by
  obtain ⟨v, hv, h⟩ := fieldErrors_eq_nil_iff.mp h
  rw [Record.get, hv, Option.getD_some, Accepts, FieldCheck.run_eq_nil_iff]
  exact h

theorem isRequired_of_accepts {v : Value} (h : Accepts f v) (hnull : v.isNull = true) :
    f.definition.isRequired = false := by
  rcases FieldCheck.run_eq_nil_iff.mp h with ⟨-, hoptional⟩ | ⟨hdemands, -⟩
  · exact hoptional
  · rw [hdemands.isNull_eq_false] at hnull
    cases hnull

/-- The value that is written for a field without errors passes its check, unless it is a default
that does not stand in. -/
theorem accepts_shown_iff (hm : m.WellFormed) (hf : f ∈ m.fields) (h : fieldErrors r f = .ok []) :
    Accepts f (shown r f.definition) ↔
      ((r.get (memberName f.name)).isNull = true → f.definition.defaultValue.isNull = false →
        StandsIn f) := by
  have hgiven := accepts_of_fieldErrors h
  rw [shown_definition]
  cases hnull : (r.get (memberName f.name)).isNull with
  | false => exact ⟨fun _ ↦ nofun, fun _ ↦ hgiven⟩
  | true =>
    have hoptional := isRequired_of_accepts hgiven hnull
    cases hdefault : f.definition.defaultValue.isNull with
    | false =>
      exact (accepts_default_iff hm hf hoptional hdefault).trans
        ⟨fun hstands _ _ ↦ hstands, fun hstands ↦ hstands rfl rfl⟩
    | true =>
      refine ⟨fun _ _ ↦ nofun, fun _ ↦ ?_⟩
      exact FieldCheck.run_eq_nil_iff.mpr (.inl ⟨hdefault, hoptional⟩)

/-- A value that passes the check of a field contains none of its stops. -/
theorem not_occursAt_of_accepts {v : Value} (h : Accepts f v) (hnull : v.isNull = false)
    {s : Bytes} (hs : s ∈ stopsOf f) {i : Nat} (hi : i < (Wire.render v).length) :
    ¬Wire.OccursAt s (Wire.render v) i := by
  rcases FieldCheck.run_eq_nil_iff.mp h with ⟨hnull', -⟩ | ⟨-, hfree, -⟩
  · rw [hnull] at hnull'
    cases hnull'
  · exact Wire.not_occursAt_of_hidesStop (Wire.hiddenStop?_eq_none_iff.mp hfree s hs) hi

/-- What a serializer writes for a record: each step that writes a field writes the member of the
record, which passes the check of the field, or else its default. That passes the check too, and so
contains none of the stops of the field, exactly if it stands in for null. -/
theorem accepts_written_iff {spec : Spec} {p : Compiled.Protocol}
    (hcompile : Compiled.compile spec = .ok p) (hm : m ∈ p.messages) {bytes : Bytes}
    (h : serialize m r = .ok (.ok bytes)) :
    (∃ parts, m.steps.mapM (emit r) = .ok parts ∧ bytes = parts.flatten) ∧
      ∀ d, .field d ∈ m.steps → ∃ f ∈ m.fields, f.definition = d ∧
        ∃ part, emit r (.field d) = .ok part ∧
          part = (if (shown r d).isNull then [] else Wire.render (shown r d)) ∧
          Accepts f (r.get (memberName d.name)) ∧
          (Accepts f (shown r d) ↔
            ((r.get (memberName d.name)).isNull = true → d.defaultValue.isNull = false →
              StandsIn f)) ∧
          (Accepts f (shown r d) →
            ∀ s ∈ stopsOf f, ∀ i < part.length, ¬Wire.OccursAt s part i) := by
  obtain ⟨source, hsource⟩ := Compiled.sound_of_compile hcompile hm
  have hwf := hsource.wellFormed
  obtain ⟨herrors, hhas, hbytes⟩ := (serialize_eq_ok_iff hwf).mp h
  constructor
  · refine ⟨_, mapM_emit_eq_ok_iff.mpr ⟨fun d hd ↦ ?_, rfl⟩, ?_⟩
    · obtain ⟨f, hf, rfl⟩ := hwf.field_mem_steps_iff.mp hd
      exact hhas f hf
    · rw [← List.flatMap_def, hwf.flatMap_stepBytes, hbytes]
  · intro d hd
    obtain ⟨f, hf, rfl⟩ := hwf.field_mem_steps_iff.mp hd
    have hgiven := accepts_of_fieldErrors (herrors f hf)
    have hpart : fieldBytes r f.definition =
        if (shown r f.definition).isNull then [] else Wire.render (shown r f.definition) := by
      refine fieldBytes_eq fun hrequired ↦ ?_
      cases hnull : (r.get (memberName f.definition.name)).isNull with
      | false => rfl
      | true => exact absurd hrequired (by simp [isRequired_of_accepts hgiven hnull])
    refine ⟨f, hf, rfl, _, emitField_eq_ok_iff.mpr ⟨hhas f hf, rfl⟩, hpart, hgiven,
      accepts_shown_iff hwf hf (herrors f hf), fun haccepts s hs i hi ↦ ?_⟩
    rw [hpart] at hi ⊢
    cases hnull : (shown r f.definition).isNull with
    | true => simp [hnull] at hi
    | false =>
      rw [hnull] at hi
      exact not_occursAt_of_accepts haccepts hnull hs hi

/-- A protocol with a message of two texts, of which the first may be absent and has a default. -/
def pairSpec (default : String) : Spec where
  metadata := some { name := some "pair", port := .int 7 }
  messages := some [some {
    name := some "pair"
    direction := some .request
    format := some "\x7ba\x7d\x7bb\x7d"
    fields := some [
      some { name := some "a", type := some (.string .null), required := some false,
             defaultValue := .text default },
      some { name := some "b", type := some (.string .null) }]
    delimiter := some ","
    terminator := some "\n" }]

def pairRecord : Record :=
  [("a", .null), ("b", .text "z")]

theorem accepts_written_iff_pair :
    ∃ p, Compiled.compile (pairSpec "x") = .ok p ∧ ∃ m ∈ p.messages,
      serialize m pairRecord = .ok (.ok (Utf8.ofString "x,z\n")) ∧
      (∃ parts, m.steps.mapM (emit pairRecord) = .ok parts ∧
        Utf8.ofString "x,z\n" = parts.flatten) ∧
      ∀ d, .field d ∈ m.steps → ∃ f ∈ m.fields, f.definition = d ∧
        ∃ part, emit pairRecord (.field d) = .ok part ∧ Accepts f (shown pairRecord d) ∧
          ∀ s ∈ stopsOf f, ∀ i < part.length, ¬Wire.OccursAt s part i := by
  obtain ⟨p, hp, h⟩ : ∃ p, Compiled.compile (pairSpec "x") = .ok p ∧
      (p.messages.any fun m ↦
        (gives (serialize m pairRecord) fun written ↦ gives written (· == Utf8.ofString "x,z\n")) &&
        m.fields.all fun f ↦ f.definition.defaultValue.isNull || decide (StandsIn f)) = true :=
    exists_of_gives (by decide +kernel)
  obtain ⟨m, hm, h⟩ := List.any_eq_true.mp h
  rw [Bool.and_eq_true, List.all_eq_true] at h
  obtain ⟨hwritten, hstands⟩ := h
  have hwritten := eq_of_gives_gives hwritten
  obtain ⟨hsteps, hfields⟩ := accepts_written_iff hp hm hwritten
  refine ⟨p, hp, m, hm, hwritten, hsteps, fun d hd ↦ ?_⟩
  obtain ⟨f, hf, rfl, part, hpart, -, -, hiff, hstops⟩ := hfields d hd
  have haccepts : Accepts f (shown pairRecord f.definition) := by
    refine hiff.mpr fun _ hdefault ↦ ?_
    have hfield := hstands f hf
    rwa [hdefault, Bool.false_or, decide_eq_true_iff] at hfield
  exact ⟨f, hf, rfl, part, hpart, haccepts, hstops haccepts⟩

/-- A default that contains the delimiter is written in place of null, although the check of its
field refuses it. -/
theorem serialize_writes_refused_default :
    ∃ p, Compiled.compile (pairSpec "x,y") = .ok p ∧ ∃ m ∈ p.messages,
      serialize m pairRecord = .ok (.ok (Utf8.ofString "x,y,z\n")) ∧
      ∃ f ∈ m.fields, .field f.definition ∈ m.steps ∧
        emit pairRecord (.field f.definition) = .ok (Utf8.ofString "x,y") ∧
        Utf8.ofString "," ∈ stopsOf f ∧ ¬Accepts f (shown pairRecord f.definition) := by
  obtain ⟨p, hp, h⟩ : ∃ p, Compiled.compile (pairSpec "x,y") = .ok p ∧
      (p.messages.any fun m ↦
        (gives (serialize m pairRecord) fun written ↦
          gives written (· == Utf8.ofString "x,y,z\n")) &&
        m.fields.any fun f ↦
          gives (emit pairRecord (.field f.definition)) (· == Utf8.ofString "x,y") &&
          decide (Utf8.ofString "," ∈ stopsOf f) &&
          gives ((checkOf f).run (f.name.getD "") f.definition.isRequired (stopsOf f)
            (shown pairRecord f.definition)) (!·.isEmpty)) = true :=
    exists_of_gives (by decide +kernel)
  obtain ⟨m, hm, h⟩ := List.any_eq_true.mp h
  rw [Bool.and_eq_true, List.any_eq_true] at h
  obtain ⟨hwritten, f, hf, h⟩ := h
  rw [Bool.and_eq_true, Bool.and_eq_true, decide_eq_true_iff] at h
  obtain ⟨⟨hemit, hstop⟩, hrun⟩ := h
  obtain ⟨bytes, hwritten, hbytes⟩ := exists_of_gives_gives hwritten
  obtain ⟨part, hemit, hpart⟩ := exists_of_gives hemit
  rw [beq_iff_eq] at hbytes hpart
  subst hbytes hpart
  obtain ⟨errors, hrun, herrors⟩ := exists_of_gives hrun
  obtain ⟨source, hsource⟩ := Compiled.sound_of_compile hp hm
  refine ⟨p, hp, m, hm, hwritten, f, hf, ?_, hemit, hstop, fun haccepts ↦ ?_⟩
  · exact hsource.wellFormed.field_mem_steps_iff.mpr ⟨f, hf, rfl⟩
  · rw [Accepts, hrun, Except.ok.injEq] at haccepts
    rw [haccepts] at herrors
    cases herrors

end Codec

end TextProtocol
