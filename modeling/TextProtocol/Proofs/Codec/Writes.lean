import TextProtocol.Proofs.Compile.Message
import TextProtocol.Proofs.Wire.Coercion

/-!
# What serializers write

A record is written exactly if each of its fields passes its check, and then what is written is what
the states of the parser go through, `serialize_eq_ok_iff`. A field that is read by width has that
width on the wire, `integer?_fixedWidth`.
-/

namespace TextProtocol

open Fault (bind_eq_ok_iff pure_eq_ok_iff mapM_eq_ok_iff exists_of_mem_items)

namespace Codec

variable {m : Compiled.Message} {r : Record}

theorem fieldErrors_eq_nil_iff {f : Compiled.Field} :
    fieldErrors r f = .ok [] ↔ ∃ v, Value.lookup? r (memberName f.name) = some v ∧
      (v.isNull = true ∧ f.definition.isRequired = false ∨ (checkOf f).Demands v ∧
        FieldCheck.Fits f.definition.isRequired (stopsOf f) (Wire.render v)) := by
  rw [fieldErrors]
  cases Value.lookup? r (memberName f.name) with
  | none => simp
  | some v => simp [FieldCheck.run_eq_nil_iff]

theorem validate_eq_nil_iff : validate m r = .ok [] ↔ ∀ f ∈ m.fields, fieldErrors r f = .ok [] := by
  rw [validate, bind_eq_ok_iff]
  constructor
  · rintro ⟨found, hfound, h⟩ f hf
    rw [pure_eq_ok_iff, List.flatten_eq_nil_iff] at h
    obtain ⟨errors, herrors, heq⟩ := exists_of_mem_items (mapM_eq_ok_iff.mp hfound) hf
    rw [heq, h errors herrors]
  · intro h
    refine ⟨m.fields.map fun _ ↦ [], mapM_eq_ok_iff.mpr ?_, ?_⟩
    · rw [List.map_map]
      exact List.map_congr_left h
    · simp

/-- A record is written exactly if no field has errors, and what is written for each has bytes. -/
theorem serialize_eq_ok_iff (hm : m.WellFormed) {bytes : Bytes} :
    serialize m r = .ok (.ok bytes) ↔
      (∀ f ∈ m.fields, fieldErrors r f = .ok []) ∧ (∀ f ∈ m.fields, HasBytes r f.definition) ∧
        m.machine.states.flatMap (State.written r) = bytes := by
  have hbytes : (∀ f ∈ m.fields, HasBytes r f.definition) ↔
      ∀ d, .field d ∈ m.steps → HasBytes r d := by
    simp only [hm.field_mem_steps_iff]
    constructor
    · rintro h d ⟨f, hf, rfl⟩
      exact h f hf
    · exact fun h f hf ↦ h _ ⟨f, hf, rfl⟩
  rw [← validate_eq_nil_iff, ← hm.flatMap_stepBytes, hbytes, serialize, bind_eq_ok_iff]
  constructor
  · rintro ⟨errors, herrors, h⟩
    cases errors with
    | nil =>
      obtain ⟨parts, hparts, h⟩ := bind_eq_ok_iff.mp h
      obtain ⟨hsteps, rfl⟩ := mapM_emit_eq_ok_iff.mp hparts
      exact ⟨herrors, hsteps, Except.ok.inj (pure_eq_ok_iff.mp h)⟩
    | cons e rest => cases h
  · rintro ⟨herrors, hsteps, rfl⟩
    exact ⟨[], herrors, bind_eq_ok_iff.mpr ⟨_, mapM_emit_eq_ok_iff.mpr ⟨hsteps, rfl⟩, rfl⟩⟩

theorem hasBytes_of_fieldErrors {f : Compiled.Field} (h : fieldErrors r f = .ok [])
    (hdefault : f.definition.isRequired = false → Wire.fault? f.definition.defaultValue = none) :
    HasBytes r f.definition := by
  obtain ⟨v, hfind, hv⟩ := fieldErrors_eq_nil_iff.mp h
  have hget : r.get (memberName f.definition.name) = v := by
    rw [Record.get, ← Compiled.Field.name, hfind, Option.getD_some]
  have hfault : Wire.fault? v = none := by
    obtain ⟨hnull, -⟩ | ⟨hdemands, -⟩ := hv
    · exact Wire.fault?_of_isNull hnull
    · exact hdemands.fault?_eq_none
  intro w hw
  rw [sent?, hget] at hw
  cases hrequired : f.definition.isRequired <;> cases hnull : v.isNull <;>
    cases hmissing : f.definition.defaultValue.isNull <;> simp_all

/-! ## Fields of fixed width -/

theorem integer?_of_carried {length : Value} {n : Nat} (hnull : length.isNull = false)
    (h : (carried length).isNull = true ∨ (carried length).same (.nat n) = true) :
    length.integer? = some (n : Int) := by
  cases length with
  | null => cases hnull
  | bool b =>
    have hsame := h.resolve_left Bool.false_ne_true
    simpa [carried, Value.nat, Value.same, Value.number?, Number.eq, Value.integer?] using hsame
  | int k =>
    have hsame := h.resolve_left Bool.false_ne_true
    simpa [carried, Value.nat, Value.same, Value.number?, Number.eq, Value.integer?] using hsame
  | _ => simp [carried, Value.nat, Value.isNull, Value.same, Value.number?] at h

theorem integer?_fixedWidth {f : Compiled.Field}
    (hconstraints : Constraints.ofField f.definition = .ok f.constraints) {length : Value}
    (hlength : f.definition.fixedWidth? = some length) {v : Value} (hv : (checkOf f).Demands v) :
    length.integer? = some ((Wire.render v).length : Int) := by
  rw [Spec.Field.fixedWidth?] at hlength
  split at hlength
  · rename_i width htype
    split at hlength
    · cases hlength
    · rename_i hnull
      cases hlength
      have hwidth : f.constraints.length = length := by
        rw [Constraints.ofField, htype] at hconstraints
        rw [← Except.ok.inj hconstraints]
      rw [checkOf, htype, hwidth] at hv
      cases v with
      | bytes data | buffer data => exact integer?_of_carried (by simpa using hnull) hv
      | _ => exact hv.elim
  · rename_i values htype
    split at hlength
    · rename_i width hwidths
      split at hlength
      · cases hlength
      · cases hlength
        have hvalues : f.constraints.values = values := by
          rw [Constraints.ofField, htype] at hconstraints
          rw [← Except.ok.inj hconstraints]
        rw [checkOf, htype, hvalues] at hv
        cases v with
        | text s =>
          have hmem : (Utf8.ofString s).length ∈
              (values.map fun v ↦ (Utf8.ofString v).length).eraseDups :=
            List.mem_eraseDups.mpr
              (List.mem_map.mpr ⟨s, List.contains_iff_mem.mp hv, rfl⟩)
          rw [hwidths, List.mem_singleton] at hmem
          rw [FieldCheck.render_text, hmem]
          rfl
        | _ => exact hv.elim
    · cases hlength
  · cases hlength

end Codec

end TextProtocol
