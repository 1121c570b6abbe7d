import TextProtocol.Proofs.Compile.Findings

/-!
# Compiled fields and their samples

A message compiles only if each of its fields has a test domain and the search for a sample of it
comes to an end, with a value or with a reason why there is none. That is more than a technicality:
a width that is no integer would be a fault there, so compiled fields of fixed width have integers
for their widths, `integer?_width`.

The message itself has a sample exactly if all of its fields have one, and then it has the samples
of the fields under their names, `sampleOf_eq_some_iff`.
-/

namespace TextProtocol

open Fault (bind_eq_ok_iff pure_eq_ok_iff exists_of_mem_results)

/-! ## Sizes -/

namespace Example

theorem exists_integer?_of_repetitions {size : Value} {k : Nat} (h : repetitions size = .ok k) :
    ∃ n, size.integer? = some n ∧ k = n.toNat := by
  rw [repetitions] at h
  split at h
  · rename_i n hn
    split at h
    · cases h
      exact ⟨n, hn, rfl⟩
    · cases h
  · cases h

theorem exists_integer?_of_ofLength {length v : Value} (h : ofLength length = .ok v) :
    ∃ n, length.integer? = some n := by
  rw [ofLength] at h
  obtain ⟨long, -, h⟩ := bind_eq_ok_iff.mp h
  cases long with
  | true =>
    obtain ⟨k, hk, -⟩ := bind_eq_ok_iff.mp h
    obtain ⟨n, hn, -⟩ := exists_integer?_of_repetitions hk
    exact ⟨n, hn⟩
  | false =>
    cases hn : length.integer? with
    | some n => exact ⟨n, rfl⟩
    | none =>
      rw [hn] at h
      cases h

end Example

namespace Compiled

variable {source : Spec.Message} {values : Step.Values} {fields : List Field}

/-! ## Domains and samples -/

/-- Where the domain and the sample of a field come from. -/
structure Field.Sampled (f : Field) : Prop where
  domain_eq : Domain.ofField f.definition f.constraints f.stops = .ok f.domain
  sample_eq : ∃ result, Example.ofField f.definition f.constraints f.domain = .ok result ∧
    f.sample = result.toOption.getD .null

theorem sampled_of_compileField {machine : Machine} {f : Spec.Field} {r : FieldResult}
    (h : compileField machine f = .ok r) : r.field.Sampled := by
  rw [compileField] at h
  obtain ⟨constraints, -, h⟩ := bind_eq_ok_iff.mp h
  obtain ⟨domain, hdomain, h⟩ := bind_eq_ok_iff.mp h
  obtain ⟨result, hresult, h⟩ := bind_eq_ok_iff.mp h
  rw [pure_eq_ok_iff] at h
  subst h
  refine ⟨hdomain, result, hresult, ?_⟩
  cases result <;> rfl

theorem Field.Sampled.sample_eq_default {f : Field} (h : f.Sampled)
    (hdefault : f.definition.defaultValue.isNull = false) :
    f.sample = f.definition.defaultValue := by
  obtain ⟨result, hresult, hsample⟩ := h.sample_eq
  rw [Example.ofField, hdefault] at hresult
  cases hresult
  exact hsample

/-- Where the sample of a message comes from. -/
structure Message.Sampled (m : Message) : Prop where
  fields : ∀ f ∈ m.fields, f.Sampled
  sample_eq : m.sample = sampleOf m.fields
  sampleBytes_eq : m.sample.mapM (Step.renderAll m.steps) = .ok m.sampleBytes

theorem Sound.sampled {m : Message} (h : Sound source m) : m.Sampled := by
  obtain ⟨-, warnings, hcompile⟩ := h
  obtain ⟨definitions, -, -, reading, -, -, -, -, -, hassemble⟩ := compileMessage_spec hcompile
  have hsample : m.sample = sampleOf m.fields ∧
      m.sample.mapM (Step.renderAll m.steps) = .ok m.sampleBytes := by
    rw [assemble] at hassemble
    obtain ⟨boundary, -, hassemble⟩ := bind_eq_ok_iff.mp hassemble
    obtain ⟨results, -, hassemble⟩ := bind_eq_ok_iff.mp hassemble
    obtain ⟨sampleBytes, hbytes, hassemble⟩ := bind_eq_ok_iff.mp hassemble
    rw [pure_eq_ok_iff, Prod.mk.injEq] at hassemble
    rw [← hassemble.1]
    exact ⟨rfl, hbytes⟩
  refine ⟨fun f hf ↦ ?_, hsample.1, hsample.2⟩
  obtain ⟨-, -, -, -, results, hresults, hfields⟩ := assemble_spec hassemble
  rw [hfields] at hf
  obtain ⟨r, hr, rfl⟩ := List.mem_map.mp hf
  obtain ⟨d, -, heq⟩ := exists_of_mem_results hresults hr
  exact sampled_of_compileField heq

/-! ## Samples of messages -/

theorem put_of_not_mem {name : Option String} (h : name ∉ values.map Prod.fst) (v : Value) :
    Step.Values.put values name v = values ++ [(name, v)] := by
  rw [Step.Values.put, if_neg]
  intro hany
  obtain ⟨e, he, heq⟩ := List.any_eq_true.mp hany
  exact h (List.mem_map.mpr ⟨e, he, eq_of_beq heq⟩)

theorem foldl_put (h : (values.map Prod.fst ++ fields.map (·.name)).Nodup) :
    fields.foldl (fun vs f ↦ Step.Values.put vs f.name f.sample) values =
      values ++ fields.map fun f ↦ (f.name, f.sample) := by
  induction fields generalizing values with
  | nil => exact (List.append_nil values).symm
  | cons f rest ih =>
    rw [List.map_cons] at h
    have hnew : f.name ∉ values.map Prod.fst := fun hmem ↦
      (List.nodup_append.mp h).2.2 _ hmem _ List.mem_cons_self rfl
    rw [List.foldl_cons, put_of_not_mem hnew, ih, List.map_cons, List.append_assoc]
    · rfl
    · rw [List.map_append, List.append_assoc]
      exact h

theorem sampleOf_eq_some_iff (h : (fields.map (·.name)).Nodup) :
    sampleOf fields = some values ↔
      (∀ f ∈ fields, f.sample.isNull = false) ∧
        (fields.map fun f ↦ (f.name, f.sample)) = values := by
  have hnodup : (([] : Step.Values).map Prod.fst ++
      (fields.filter fun f ↦ !f.sample.isNull).map (·.name)).Nodup :=
    h.sublist (List.filter_sublist.map _)
  rw [sampleOf, foldl_put hnodup, List.nil_append, List.length_map]
  constructor
  · intro hsome
    split at hsome
    · rename_i hlength
      have hall := List.length_filter_eq_length_iff.mp (eq_of_beq hlength)
      rw [List.filter_eq_self.mpr hall, Option.some.injEq] at hsome
      exact ⟨fun f hf ↦ by simpa using hall f hf, hsome⟩
    · cases hsome
  · rintro ⟨hall, rfl⟩
    rw [List.filter_eq_self.mpr fun f hf ↦ by simp [hall f hf], if_pos (beq_self_eq_true _)]

/-- A field of a message with a sample is rendered as its own sample. -/
theorem render_samples (hnodup : (fields.map (·.name)).Nodup) {f : Field} (hf : f ∈ fields)
    (hnull : f.sample.isNull = false) :
    Step.render (fields.map fun f ↦ (f.name, f.sample)) (.field f.definition) =
      Step.renderValue f.sample := by
  have hget : Step.Values.get (fields.map fun f ↦ (f.name, f.sample)) f.name = f.sample := by
    rw [Step.Values.get]
    cases hfind : (fields.map fun f ↦ (f.name, f.sample)).find? (·.1 == f.name) with
    | none =>
      have hne := List.find?_eq_none.mp hfind _ (List.mem_map_of_mem hf)
      simp at hne
    | some e =>
      obtain ⟨g, hg, rfl⟩ := List.mem_map.mp (List.mem_of_find?_eq_some hfind)
      have hname : g.name = f.name := by simpa using List.find?_some hfind
      rw [List.inj_on_of_nodup_map hnodup hg hf hname]
      rfl
  rw [Step.render, ← Field.name, hget]
  simp [hnull]

/-! ## Widths -/

theorem Sound.integer?_width {m : Message} (h : Sound source m) {f : Field} (hf : f ∈ m.fields)
    {width : Value} (hwidth : f.definition.fixedWidth? = some width) :
    ∃ n, width.integer? = some n := by
  rw [Spec.Field.fixedWidth?] at hwidth
  split at hwidth
  · rename_i length htype
    split at hwidth
    · cases hwidth
    · rename_i hnull
      cases hwidth
      obtain ⟨found, hfound, herrors⟩ := h.wellFormed.findings f hf
      have hdefault := Check.isNull_defaultValue_of_bytes hfound herrors htype
      obtain ⟨-, result, hresult, -⟩ := h.sampled.fields f hf
      rw [Example.ofField, hdefault, htype] at hresult
      simp only [Bool.not_true, Bool.false_eq_true, if_false, if_neg hnull] at hresult
      obtain ⟨v, hv, -⟩ := bind_eq_ok_iff.mp hresult
      exact Example.exists_integer?_of_ofLength hv
  · split at hwidth
    · split at hwidth
      · cases hwidth
      · cases hwidth
        exact ⟨_, rfl⟩
    · cases hwidth
  · cases hwidth

/-- The lengths that are asked of compiled fields are integers, or there is none. -/
theorem Sound.isCountable_length {m : Message} (h : Sound source m) {f : Field}
    (hf : f ∈ m.fields) : Value.isCountable f.constraints.length = true := by
  have hc := h.wellFormed.constraints_eq f hf
  rw [Constraints.ofField] at hc
  cases htype : f.definition.type with
  | none =>
    rw [htype] at hc
    cases hc
  | some t =>
    rw [htype] at hc
    cases t with
    | string limit =>
      obtain ⟨maxLength, -, hc⟩ := bind_eq_ok_iff.mp hc
      rw [← Except.ok.inj hc]
      rfl
    | number low high =>
      obtain ⟨minimum, -, hc⟩ := bind_eq_ok_iff.mp hc
      obtain ⟨maximum, -, hc⟩ := bind_eq_ok_iff.mp hc
      rw [← Except.ok.inj hc]
      rfl
    | boolean | enum values =>
      rw [← Except.ok.inj hc]
      rfl
    | bytes length =>
      rw [← Except.ok.inj hc]
      cases hnull : length.isNull with
      | true => exact Bool.or_eq_true_iff.mpr (.inl hnull)
      | false =>
        have hwidth : f.definition.fixedWidth? = some length := by
          rw [Spec.Field.fixedWidth?, htype]
          exact if_neg (by simp [hnull])
        obtain ⟨n, hn⟩ := h.integer?_width hf hwidth
        exact Bool.or_eq_true_iff.mpr (.inr (Option.isSome_iff_exists.mpr ⟨n, hn⟩))

end Compiled

end TextProtocol
