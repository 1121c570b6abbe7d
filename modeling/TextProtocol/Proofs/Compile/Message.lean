import Mathlib.Data.List.Nodup
import TextProtocol.Codec.Parse
import TextProtocol.Compile.Protocol
import TextProtocol.Proofs.Layout.Machine
import TextProtocol.Proofs.Wire.StopCheck

/-!
# Sound messages

A message is sound when the checks find no error in it and it compiles; these are the messages of
which a compiled protocol consists, `sound_of_compile`. What a sound message is like is collected
in `WellFormed`: its states, steps and fields come from one row of segments, in which each field
stands under the only definition of its name, no literal is empty, and widths are positive.

Claims about parsers and serializers start from `Sound.wellFormed`.
-/

namespace TextProtocol

open Fault (bind_eq_ok_iff bind_pure_eq_error_iff mapError_eq_ok_iff pure_eq_ok_iff
  throw_eq_error_iff mapM_eq_ok_iff exists_of_mem_items exists_of_mem_results
  exists_of_mapM_eq_error map_results_eq)

namespace Spec.Field

def isNumber (f : Field) : Bool :=
  match f.type with
  | some (.number ..) => true
  | _ => false

theorem exists_of_isNumber {f : Field} (h : f.isNumber = true) :
    ∃ low high, f.type = some (.number low high) := by
  rw [isNumber.eq_def] at h
  split at h
  · rename_i low high htype
    exact ⟨low, high, htype⟩
  · cases h

def isString (f : Field) : Bool :=
  match f.type with
  | some (.string _) => true
  | _ => false

theorem exists_of_isString {f : Field} (h : f.isString = true) :
    ∃ limit, f.type = some (.string limit) := by
  rw [isString.eq_def] at h
  split at h
  · rename_i limit htype
    exact ⟨limit, htype⟩
  · cases h

end Spec.Field

/-! ## Segments of formats -/

namespace Segment

variable {fields : List Spec.Field}

theorem separator?_ne (text : Option String) : separator? text ≠ some "" := by
  intro h
  have := (Option.filter_eq_some_iff.mp h).2
  simp at this

@[simp] theorem separator?_separator? (text : Option String) :
    separator? (separator? text) = separator? text := by
  rw [separator?, separator?, Option.filter_filter]
  simp

theorem mem_of_named? {name : String} {f : Spec.Field} (h : named? fields name = some f) :
    f ∈ fields ∧ f.name = some name := by
  have hname := List.find?_some h
  exact ⟨List.mem_reverse.mp (List.mem_of_find?_eq_some h), eq_of_beq hname⟩

/-- A segment of a format: text that is not empty, or a declared field. -/
def Stands (fields : List Spec.Field) : Segment → Prop
  | .literal text => text ≠ ""
  | .field f => f ∈ fields

theorem stands_ofItems {items : List Format.Item} {r : Reading}
    (h : ofItems fields items = .ok r) : ∀ s ∈ r.segments, s.Stands fields := by
  induction items generalizing r with
  | nil =>
    cases h
    exact List.forall_mem_nil _
  | cons item rest ih =>
    cases item with
    | literal text =>
      rw [ofItems] at h
      obtain ⟨later, hlater, h⟩ := bind_eq_ok_iff.mp h
      rw [pure_eq_ok_iff] at h
      subst h
      split
      · exact ih hlater
      · rename_i hempty
        refine List.forall_mem_cons.mpr ⟨?_, ih hlater⟩
        rintro rfl
        exact hempty rfl
    | placeholder name column =>
      rw [ofItems] at h
      split at h
      · rename_i f hf
        obtain ⟨later, hlater, h⟩ := bind_eq_ok_iff.mp h
        rw [pure_eq_ok_iff] at h
        subst h
        exact List.forall_mem_cons.mpr ⟨(mem_of_named? hf).1, ih hlater⟩
      · obtain ⟨declared, -, h⟩ := bind_eq_ok_iff.mp h
        obtain ⟨later, hlater, h⟩ := bind_eq_ok_iff.mp h
        have hrest := ih hlater
        rw [pure_eq_ok_iff] at h
        rwa [← h]

theorem map_named?_ofItems {items : List Format.Item} {r : Reading}
    (h : ofItems fields items = .ok r) (hdefined : r.undefined = []) :
    (items.filterMap Format.Item.name?).map (named? fields) =
      (r.segments.filterMap field?).map some := by
  induction items generalizing r with
  | nil =>
    cases h
    rfl
  | cons item rest ih =>
    cases item with
    | literal text =>
      rw [ofItems] at h
      obtain ⟨later, hlater, h⟩ := bind_eq_ok_iff.mp h
      rw [pure_eq_ok_iff] at h
      subst h
      split at hdefined
      · rename_i hempty
        rw [if_pos hempty]
        exact ih hlater hdefined
      · rename_i hempty
        have hrest := ih hlater hdefined
        rwa [if_neg hempty]
    | placeholder name column =>
      rw [ofItems] at h
      split at h
      · rename_i f hf
        obtain ⟨later, hlater, h⟩ := bind_eq_ok_iff.mp h
        rw [pure_eq_ok_iff] at h
        subst h
        exact List.cons_eq_cons.mpr ⟨hf, ih hlater hdefined⟩
      · obtain ⟨declared, -, h⟩ := bind_eq_ok_iff.mp h
        obtain ⟨later, -, h⟩ := bind_eq_ok_iff.mp h
        rw [pure_eq_ok_iff] at h
        subst h
        cases hdefined

/-- The fields that placeholders name are the declared ones, if these have different names and a
placeholder each. -/
theorem mem_fields_iff {shown : List Spec.Field} {names : List String}
    (h : names.map (named? fields) = shown.map some) (hnodup : (fields.map (·.name)).Nodup)
    (hreferenced : ∀ f ∈ fields, f.name ∈ names.map some) {f : Spec.Field} :
    f ∈ shown ↔ f ∈ fields := by
  constructor
  · intro hf
    have hmem : some f ∈ names.map (named? fields) := h ▸ List.mem_map_of_mem hf
    obtain ⟨name, -, hname⟩ := List.mem_map.mp hmem
    exact (mem_of_named? hname).1
  · intro hf
    obtain ⟨name, hname, heq⟩ := List.mem_map.mp (hreferenced f hf)
    have hmem : named? fields name ∈ shown.map some := h ▸ List.mem_map_of_mem hname
    obtain ⟨g, hg, hnamed⟩ := List.mem_map.mp hmem
    obtain ⟨hgmem, hgname⟩ := mem_of_named? hnamed.symm
    rwa [List.inj_on_of_nodup_map hnodup hf hgmem (heq.symm.trans hgname.symm)]

/-- A copy of the terminator is taken off the last literal and nothing else changes. -/
theorem withoutTerminator_spec (terminator : Option String) {segments : List Segment}
    (hliteral : ∀ text, .literal text ∈ segments → text ≠ "") :
    (∀ text, .literal text ∈ withoutTerminator terminator segments → text ≠ "") ∧
      (withoutTerminator terminator segments).filterMap field? = segments.filterMap field? := by
  rw [withoutTerminator]
  split
  · rename_i t text _ hlast
    have hsplit : segments = segments.dropLast ++ [.literal text] :=
      (List.dropLast_append_getLast? _ hlast).symm
    have hfront : ∀ other, .literal other ∈ segments.dropLast → other ≠ "" := fun other h ↦
      hliteral other (List.mem_of_mem_take (List.dropLast_eq_take ▸ h))
    have hfields : segments.dropLast.filterMap field? = segments.filterMap field? := by
      rw [hsplit, List.dropLast_concat, List.filterMap_append]
      exact (List.append_nil _).symm
    split
    · dsimp only
      split
      · exact ⟨hfront, hfields⟩
      · rename_i hempty
        refine ⟨fun other hother ↦ ?_, ?_⟩
        · rcases List.mem_append.mp hother with hother | hother
          · exact hfront other hother
          · rw [List.mem_singleton] at hother
            cases hother
            intro heq
            rw [heq] at hempty
            exact hempty rfl
        · rw [List.filterMap_append, hfields]
          exact List.append_nil _
    · exact ⟨hliteral, rfl⟩
  · exact ⟨hliteral, rfl⟩

end Segment

/-! ## What checks rule out -/

namespace Check

variable {f : Spec.Field} {found : List Finding} {declared : List (Option String)}

theorem repeated_eq_nil_iff {α : Type} [BEq α] [LawfulBEq α] {items : List α} :
    repeated items = [] ↔ items.Nodup := by
  rw [repeated, List.filter_eq_nil_iff, List.nodup_iff_count_le_one]
  constructor
  · intro h a
    by_cases ha : a ∈ items
    · simpa using h a (List.mem_eraseDups.mpr ha)
    · rw [List.count_eq_zero.mpr ha]
      exact Nat.zero_le 1
  · intro h a _
    simpa using h a

theorem pos_of_nonPositive {v : Value} {n : Int} (h : nonPositive v = .ok false)
    (hn : v.integer? = some n) : 0 < n := by
  cases v with
  | bool b =>
    cases hn
    cases b
    · cases h
    · decide
  | int k =>
    cases hn
    have hlt : Value.lt (.int n) (.int 0) = .ok (decide (n < 0)) := by
      simp [Value.lt, Value.number?, Number.lt]
    have hsame : Value.same (.int n) (.int 0) = (n == 0) := by
      simp [Value.same, Value.number?, Number.eq]
    rw [nonPositive, hlt, hsame] at h
    have := Except.ok.inj h
    simp at this
    omega
  | _ => cases hn

/-! ### Probes -/

section Probes

variable {α : Type} {p : Probe α} {probes : List (Probe α)} {found : List α} {e : Fault}

/-- Something is there that is looked for, and a message about it would show a value with too many
digits. -/
def Probe.Unsayable (p : Probe α) : Prop :=
  p.condition = .ok true ∧ ∃ v ∈ p.shown, v.isShowable = false

theorem Probe.run_eq_nil_iff : p.run = .ok [] ↔ p.condition = .ok false := by
  rw [run]
  cases p.condition with
  | error e => exact iff_of_false (by rintro ⟨⟩) (by rintro ⟨⟩)
  | ok b =>
    cases b with
    | false => exact iff_of_true rfl rfl
    | true =>
      refine iff_of_false ?_ (by rintro ⟨⟩)
      change ¬(if p.shown.all Value.isShowable = true then pure [p.finding] else throw _) = _
      split <;> rintro ⟨⟩

theorem Probe.run_eq_error_iff :
    p.run = .error e ↔ p.condition = .error e ∨ p.Unsayable ∧ e = .invalid := by
  rw [run, Unsayable]
  cases p.condition with
  | error e' => simp [bind, Except.bind]
  | ok b =>
    cases b with
    | false => exact iff_of_false (by rintro ⟨⟩) (by rintro (⟨⟨⟩⟩ | ⟨⟨⟨⟩, -⟩, -⟩))
    | true =>
      change (if p.shown.all Value.isShowable = true then pure [p.finding] else throw _) = _ ↔ _
      split
      · rename_i hall
        refine iff_of_false (by rintro ⟨⟩) ?_
        rintro (⟨⟨⟩⟩ | ⟨⟨-, v, hv, hshown⟩, -⟩)
        rw [List.all_eq_true.mp hall v hv] at hshown
        cases hshown
      · rename_i hall
        rw [List.all_eq_true] at hall
        simp only [not_forall, Bool.not_eq_true, exists_prop] at hall
        simp only [throw_eq_error_iff, reduceCtorEq, false_or, hall, and_self, true_and]

theorem Probe.mem_of_run (h : p.run = .ok found) {x : α} (hx : x ∈ found) : x = p.finding := by
  rw [run] at h
  obtain ⟨b, -, h⟩ := bind_eq_ok_iff.mp h
  split at h
  · cases h
    cases hx
  · split at h
    · cases h
      exact List.mem_singleton.mp hx
    · cases h

/-- Probes find nothing exactly if nothing is there of all that is looked for. -/
theorem runAll_eq_nil_iff : runAll probes = .ok [] ↔ ∀ p ∈ probes, p.condition = .ok false := by
  simp only [runAll, bind_eq_ok_iff, mapM_eq_ok_iff, pure_eq_ok_iff, List.flatten_eq_nil_iff,
    ← Probe.run_eq_nil_iff]
  constructor
  · rintro ⟨results, hresults, hnil⟩ p hp
    obtain ⟨found, hfound, hrun⟩ := exists_of_mem_items hresults hp
    rw [hrun, hnil found hfound]
  · intro h
    refine ⟨probes.map fun _ ↦ [], ?_, by simp⟩
    rw [List.map_map]
    exact List.map_congr_left h

theorem exists_of_mem_runAll (h : runAll probes = .ok found) {x : α} (hx : x ∈ found) :
    ∃ p ∈ probes, x = p.finding := by
  rw [runAll] at h
  obtain ⟨results, hresults, h⟩ := bind_eq_ok_iff.mp h
  rw [pure_eq_ok_iff] at h
  subst h
  obtain ⟨own, hown, hx⟩ := List.mem_flatten.mp hx
  obtain ⟨p, hp, hrun⟩ := exists_of_mem_results (mapM_eq_ok_iff.mp hresults) hown
  exact ⟨p, hp, p.mem_of_run hrun hx⟩

theorem runAll_cons_eq_ok_iff :
    runAll (p :: probes) = .ok found ↔
      ∃ own later, p.run = .ok own ∧ runAll probes = .ok later ∧ own ++ later = found := by
  simp only [runAll, List.mapM_cons, bind_eq_ok_iff, pure_eq_ok_iff]
  constructor
  · rintro ⟨_, ⟨own, hown, results, hresults, rfl⟩, rfl⟩
    exact ⟨own, results.flatten, hown, ⟨results, hresults, rfl⟩, rfl⟩
  · rintro ⟨own, _, hown, ⟨results, hresults, rfl⟩, rfl⟩
    exact ⟨own :: results, ⟨own, hown, results, hresults, rfl⟩, rfl⟩

theorem runAll_append (first later : List (Probe α)) :
    runAll (first ++ later) = do return (← runAll first) ++ (← runAll later) := by
  simp [runAll]

/-- Probes for what can be looked for fail only if a message cannot be made. -/
theorem runAll_eq_error_iff (h : ∀ p ∈ probes, ∃ b, p.condition = .ok b) :
    runAll probes = .error e ↔ (∃ p ∈ probes, p.Unsayable) ∧ e = .invalid := by
  have hrun {p : Probe α} (hp : p ∈ probes) {e : Fault} :
      p.run = .error e ↔ p.Unsayable ∧ e = .invalid := by
    obtain ⟨b, hb⟩ := h p hp
    rw [Probe.run_eq_error_iff, hb, or_iff_right (by rintro ⟨⟩)]
  rw [runAll, bind_pure_eq_error_iff]
  constructor
  · intro herror
    obtain ⟨p, hp, herror⟩ := exists_of_mapM_eq_error herror
    obtain ⟨hsay, he⟩ := (hrun hp).mp herror
    exact ⟨⟨p, hp, hsay⟩, he⟩
  · rintro ⟨⟨p, hp, hsay⟩, rfl⟩
    cases hall : probes.mapM Probe.run with
    | ok results =>
      obtain ⟨found, -, hfound⟩ := exists_of_mem_items (mapM_eq_ok_iff.mp hall) hp
      rw [(hrun hp).mpr ⟨hsay, rfl⟩] at hfound
      cases hfound
    | error e =>
      obtain ⟨q, hq, herror⟩ := exists_of_mapM_eq_error hall
      rw [((hrun hq).mp herror).2]

end Probes

/-- What is found in a field is wrong with its type and its rule, or, if nothing is, with its merged
constraints and its default. -/
theorem fieldFindings_eq_ok_iff :
    fieldFindings f = .ok found ↔
      found ≠ [] ∧ runAll (ownProbes f) = .ok found ∨
        runAll (ownProbes f) = .ok [] ∧ ∃ c, Constraints.ofField f = .ok c ∧
          ∃ merged ofDefault, runAll (mergedProbes c) = .ok merged ∧
            defaultFindings f = .ok ofDefault ∧ merged ++ ofDefault = found := by
  rw [fieldFindings, bind_eq_ok_iff]
  constructor
  · rintro ⟨own, hown, h⟩
    cases own with
    | nil =>
      obtain ⟨c, hc, h⟩ := bind_eq_ok_iff.mp h
      obtain ⟨merged, hmerged, h⟩ := bind_eq_ok_iff.mp h
      obtain ⟨ofDefault, hdefault, h⟩ := bind_eq_ok_iff.mp h
      exact .inr ⟨hown, c, hc, merged, ofDefault, hmerged, hdefault, pure_eq_ok_iff.mp h⟩
    | cons x rest =>
      rw [pure_eq_ok_iff] at h
      subst h
      exact .inl ⟨List.cons_ne_nil _ _, hown⟩
  · rintro (⟨hne, hown⟩ | ⟨hown, c, hc, merged, ofDefault, hmerged, hdefault, rfl⟩)
    · refine ⟨found, hown, ?_⟩
      cases found with
      | nil => exact absurd rfl hne
      | cons => rfl
    · refine ⟨[], hown, bind_eq_ok_iff.mpr ⟨c, hc, bind_eq_ok_iff.mpr ⟨merged, hmerged, ?_⟩⟩⟩
      exact bind_eq_ok_iff.mpr ⟨ofDefault, hdefault, rfl⟩

/-- Whether a finding is an error in what a field asks of its values, and not one in its default. -/
def OnRules (x : Finding) : Prop :=
  x.severity = .error ∧ x.code ≠ "invalid_default"

/-- All that is looked for in the type and the rule of a field is an error in them. -/
theorem onRules_of_mem_ownProbes {p : Probe Finding} (hp : p ∈ ownProbes f) :
    OnRules p.finding := by
  rw [ownProbes] at hp
  rcases List.mem_append.mp hp with hp | hp
  · cases htype : f.type with
    | none =>
      rw [htype] at hp
      cases hp
    | some t =>
      rw [htype] at hp
      cases t with
      | string | number | bytes =>
        rw [List.mem_singleton.mp hp]
        exact ⟨rfl, by simp [Finding.code]⟩
      | boolean => cases hp
      | enum values =>
        rcases List.mem_cons.mp hp with rfl | hp
        · exact ⟨rfl, by simp [Finding.code]⟩
        · obtain ⟨v, -, rfl⟩ := List.mem_map.mp hp
          exact ⟨rfl, by simp [Finding.code]⟩
  · cases hr : f.rule with
    | none =>
      rw [hr] at hp
      cases hp
    | some r =>
      rw [hr, Option.elim_some, ruleProbes] at hp
      simp only [List.mem_cons, List.not_mem_nil, or_false] at hp
      rcases hp with rfl | rfl | rfl | rfl | rfl <;> exact ⟨rfl, by simp [Finding.code]⟩

/-- Nothing is found in the type and the rule of a field if nothing but its default is found fault
with. -/
theorem ownProbes_of_fieldFindings (h : fieldFindings f = .ok found)
    (hrules : ∀ x ∈ found, ¬OnRules x) : ∀ p ∈ ownProbes f, p.condition = .ok false := by
  rcases fieldFindings_eq_ok_iff.mp h with ⟨hne, hown⟩ | ⟨hown, -⟩
  · obtain ⟨x, hx⟩ := List.exists_mem_of_ne_nil found hne
    obtain ⟨p, hp, rfl⟩ := exists_of_mem_runAll hown hx
    exact absurd (onRules_of_mem_ownProbes hp) (hrules _ hx)
  · exact runAll_eq_nil_iff.mp hown

theorem not_onRules_of_severity (h : ∀ x ∈ found, x.severity ≠ .error) : ∀ x ∈ found, ¬OnRules x :=
  fun x hx hrules ↦ h x hx hrules.1

/-- A field without errors that is read by width has a positive one. -/
theorem fixedWidth_pos (h : fieldFindings f = .ok found) (hsound : ∀ x ∈ found, x.severity ≠ .error)
    {v : Value} (hv : f.fixedWidth? = some v) {n : Int} (hn : v.integer? = some n) : 0 < n := by
  have hown := ownProbes_of_fieldFindings h (not_onRules_of_severity hsound)
  rw [Spec.Field.fixedWidth?] at hv
  split at hv
  · rename_i length hlength
    split at hv
    · cases hv
    · cases hv
      rw [ownProbes, hlength] at hown
      exact pos_of_nonPositive (hown _ (List.mem_append_left _ List.mem_cons_self)) hn
  · split at hv
    · rename_i width _
      split at hv
      · cases hv
      · rename_i hne
        cases hv
        cases hn
        have : width ≠ 0 := fun hzero ↦ hne (by rw [hzero]; rfl)
        exact Int.natCast_pos.mpr (Nat.pos_of_ne_zero this)
    · cases hv
  · cases hv

/-- No error is found in names that stand once each. -/
theorem any_isError_repeated {name : Option String} :
    ((repeated declared).map fun n ↦ (⟨.repeatedField n, name, n⟩ : Diagnostic)).any
      (·.isError) = false ↔ declared.Nodup := by
  rw [← repeated_eq_nil_iff, List.any_map, List.any_eq_false, List.eq_nil_iff_forall_not_mem]
  simp [Diagnostic.isError, Finding.severity]

theorem any_isError_placeholders {name : Option String} {names : List String} :
    (placeholderDiagnostics name declared names).any (·.isError) = false ↔
      ∀ n, n ∈ declared ↔ n ∈ names.map some := by
  have hparts : (placeholderDiagnostics name declared names).any (·.isError) = false ↔
      (∀ n ∈ names, some n ∈ declared) ∧ ∀ n ∈ declared, n ∈ names.map some := by
    simp [placeholderDiagnostics, Diagnostic.isError, Finding.severity]
  rw [hparts]
  constructor
  · rintro ⟨hdefined, hreferenced⟩ n
    refine ⟨hreferenced n, fun hn ↦ ?_⟩
    obtain ⟨text, htext, rfl⟩ := List.mem_map.mp hn
    exact hdefined text htext
  · intro hsame
    exact ⟨fun n hn ↦ (hsame _).mpr (List.mem_map_of_mem hn), fun n hn ↦ (hsame n).mp hn⟩

theorem any_isError_formatDiagnostics {m : Spec.Message} {found : List Diagnostic}
    (h : formatDiagnostics m declared = .ok found) :
    found.any (·.isError) = false ↔ ∃ format names, m.format = some format ∧
      Format.placeholderNames format = .ok names ∧ ∀ n, n ∈ declared ↔ n ∈ names.map some := by
  rw [formatDiagnostics] at h
  split at h
  · cases h
  · rename_i format hformat
    split at h
    · rename_i e herror
      cases h
      refine iff_of_false (by rintro ⟨⟩) ?_
      rintro ⟨format', names, hformat', hnames, -⟩
      cases hformat.symm.trans hformat'
      cases herror.symm.trans hnames
    · rename_i names hnames
      cases h
      rw [any_isError_placeholders]
      constructor
      · intro hsame
        exact ⟨format, names, hformat, hnames, hsame⟩
      · rintro ⟨format', names', hformat', hnames', hsame⟩
        cases hformat.symm.trans hformat'
        cases hnames.symm.trans hnames'
        exact hsame

/-- The diagnostics on a message: on the names of its fields, on its format and on its fields. -/
theorem ofMessage_eq_ok_iff {m : Spec.Message} {found : List Diagnostic} :
    ofMessage m = .ok found ↔ ∃ (fields : List Spec.Field) (ofFormat : List Diagnostic)
      (ofFields : List (List Diagnostic)), Spec.itemsOf m.fields = .ok fields ∧
      formatDiagnostics m (fields.map (·.name)) = .ok ofFormat ∧
      fields.map (ofField · m.name) = ofFields.map .ok ∧
      (repeated (fields.map (·.name))).map (fun n ↦ ⟨.repeatedField n, m.name, n⟩) ++ ofFormat ++
        ofFields.flatten = found := by
  simp only [ofMessage, bind_eq_ok_iff, pure_eq_ok_iff, mapM_eq_ok_iff]
  constructor
  · rintro ⟨fields, hfields, ofFormat, hformat, ofFields, hown, heq⟩
    exact ⟨fields, ofFormat, ofFields, hfields, hformat, hown, heq⟩
  · rintro ⟨fields, ofFormat, ofFields, hfields, hformat, hown, heq⟩
    exact ⟨fields, hfields, ofFormat, hformat, ofFields, hown, heq⟩

/-- What a message without errors is like: field names differ, the format can be read, each field
has a placeholder, and no field has errors of its own. -/
theorem ofMessage_spec {source : Spec.Message} {found : List Diagnostic}
    (h : ofMessage source = .ok found) (hsound : found.any (·.isError) = false) :
    ∃ fields format names, Spec.itemsOf source.fields = .ok fields ∧ source.format = some format ∧
      Format.placeholderNames format = .ok names ∧ (fields.map (·.name)).Nodup ∧
      (∀ f ∈ fields, f.name ∈ names.map some) ∧
      ∀ f ∈ fields, ∃ own, fieldFindings f = .ok own ∧ ∀ x ∈ own, x.severity ≠ .error := by
  obtain ⟨fields, ofFormat, ofFields, hfields, hformat, hown, rfl⟩ := ofMessage_eq_ok_iff.mp h
  rw [List.any_append, List.any_append, Bool.or_eq_false_iff, Bool.or_eq_false_iff,
    any_isError_repeated, any_isError_formatDiagnostics hformat] at hsound
  obtain ⟨⟨hnodup, format, names, hformat, hnames, hsame⟩, hnone⟩ := hsound
  refine ⟨fields, format, names, hfields, hformat, hnames, hnodup,
    fun f hf ↦ (hsame _).mp (List.mem_map_of_mem hf), fun f hf ↦ ?_⟩
  obtain ⟨own, hmem, heq⟩ := exists_of_mem_items hown hf
  rw [ofField] at heq
  obtain ⟨findings, hfindings, heq⟩ := bind_eq_ok_iff.mp heq
  rw [pure_eq_ok_iff] at heq
  refine ⟨findings, hfindings, fun x hx ↦ ?_⟩
  have hflat : (⟨x, source.name, f.name⟩ : Diagnostic) ∈ ofFields.flatten :=
    List.mem_flatten.mpr ⟨own, hmem, heq ▸ List.mem_map.mpr ⟨x, hx, rfl⟩⟩
  have hwarning := List.any_eq_false.mp hnone _ hflat
  simpa [Diagnostic.isError] using hwarning

end Check

/-! ## Sound messages -/

namespace Compiled

variable {m : Message} {source : Spec.Message} {warnings : List Diagnostic}

/-- A message in which checks find no error, and what it compiles to. -/
structure Sound (source : Spec.Message) (m : Message) : Prop where
  passes : ∃ found, Check.ofMessage source = .ok found ∧ found.any (·.isError) = false
  compiles : ∃ warnings, compileMessage source = .ok (m, warnings)

/-- What a message compiles to, if checks find no error in it. -/
def soundMessage? (source : Spec.Message) : Option Message :=
  match Check.ofMessage source, compileMessage source with
  | .ok found, .ok (m, _) => if found.any (·.isError) then none else some m
  | _, _ => none

theorem sound_of_soundMessage? (h : soundMessage? source = some m) : Sound source m := by
  rw [soundMessage?.eq_def] at h
  split at h
  · rename_i found compiled warnings hfound hcompiled
    split at h
    · cases h
    · rename_i herrors
      cases h
      exact ⟨⟨found, hfound, by simpa using herrors⟩, warnings, hcompiled⟩
  · cases h

theorem exists_sound (source : Spec.Message) (P : Message → Bool)
    (h : (soundMessage? source).any P = true) : ∃ m, Sound source m ∧ P m = true := by
  cases hm : soundMessage? source with
  | none =>
    rw [hm] at h
    cases h
  | some m =>
    rw [hm] at h
    exact ⟨m, sound_of_soundMessage? hm, h⟩

def lone? (messages : List Message) : Option Message :=
  if messages.length = 1 then messages.head? else none

theorem eq_of_lone? {messages : List Message} (h : lone? messages = some m) : messages = [m] := by
  rw [lone?] at h
  split at h
  · rename_i hlength
    obtain ⟨other, rfl⟩ := List.length_eq_one_iff.mp hlength
    rw [List.head?_cons, Option.some.injEq] at h
    rw [h]
  · cases h

/-- A line with a number, a text that may be absent, and a number with a default. -/
def positionLine (format : String) (delimiter : Option String) (z : Value) : Spec.Message where
  name := some "position"
  direction := some .request
  format := some format
  fields := some [
    some { name := some "x", type := some (.number .null .null) },
    some { name := some "label", type := some (.string .null), required := some false },
    some { name := some "z", type := some (.number .null .null), required := some false,
           defaultValue := z }]
  delimiter
  terminator := some "\r\n"

def singleLine (name : String) (type : Spec.FieldType) : Spec.Message where
  name := some name
  direction := some .request
  format := some "\x7ba\x7d"
  fields := some [some { name := some "a", type := some type }]
  terminator := some "\n"

def specOf (message : Spec.Message) : Spec where
  metadata := some { name := some "line", port := .int 7 }
  messages := some [some message]

theorem exists_compile_specOf (message : Spec.Message) (P : Protocol → Message → Bool)
    (h : Fault.gives (compile (specOf message)) (fun protocol ↦
      (lone? protocol.messages).any (P protocol)) = true) :
    ∃ protocol m, compile (specOf message) = .ok protocol ∧ protocol.messages = [m] ∧
      P protocol m = true := by
  obtain ⟨protocol, hprotocol, h⟩ := Fault.exists_of_gives h
  obtain ⟨m, hlone, h⟩ := (Option.any_eq_true _ _).mp h
  exact ⟨protocol, m, hprotocol, eq_of_lone? hlone, h⟩

/-- A protocol with one message, of two texts with nothing between them. -/
def joinedSpec (terminator : Option String) : Spec where
  metadata := some { name := some "joined", port := .int 7 }
  messages := some [some {
    name := some "joined"
    direction := some .request
    format := some "\x7ba\x7d\x7bb\x7d"
    fields := some [
      some { name := some "a", type := some (.string .null) },
      some { name := some "b", type := some (.string .null) }]
    terminator }]

/-- A protocol with two messages of one field each whose functions go by the same names. -/
def homonymSpec (first second : Spec.FieldType) (format : String) : Spec where
  metadata := some { name := some "status", port := .int 7 }
  messages := some [
    some { name := some "status line", direction := some .response, format := some "\x7bcode\x7d",
           fields := some [some { name := some "code", type := some first }] },
    some { name := some "status_line", direction := some .request, format,
           fields := some [some { name := some "code", type := some second }] }]

/-- A protocol with one message, of a number up to a line feed. -/
def numberSpec (minimum : Value) : Spec where
  metadata := some { name := some "number", port := .int 7 }
  messages := some [some {
    name := some "number"
    direction := some .request
    format := some "\x7bn\x7d"
    fields := some [some { name := some "n", type := some (.number minimum .null) }]
    terminator := some "\n" }]

theorem sound_of_compileSound {metadata : Option Spec.Metadata}
    {checked : List (Spec.Message × List Diagnostic)} {compiled : List (Message × List Diagnostic)}
    (hchecked : ∀ e ∈ checked, Check.ofMessage e.1 = .ok e.2)
    (h : compileSound metadata checked = .ok compiled) :
    ∀ e ∈ compiled, ∃ source, Sound source e.1 := by
  induction checked generalizing compiled with
  | nil =>
    cases h
    simp
  | cons head rest ih =>
    obtain ⟨source, found⟩ := head
    have hrest : ∀ e ∈ rest, Check.ofMessage e.1 = .ok e.2 := fun e he ↦
      hchecked e (List.mem_cons_of_mem _ he)
    rw [compileSound] at h
    cases herrors : found.any (·.isError) with
    | true =>
      cases metadata with
      | none =>
        rw [if_pos herrors] at h
        cases h
      | some data =>
        rw [if_pos herrors] at h
        exact ih hrest h
    | false =>
      rw [if_neg (by simp [herrors])] at h
      obtain ⟨first, hfirst, h⟩ := bind_eq_ok_iff.mp h
      obtain ⟨later, hlater, h⟩ := bind_eq_ok_iff.mp h
      rw [pure_eq_ok_iff] at h
      subst h
      intro e he
      rcases List.mem_cons.mp he with rfl | he
      · exact ⟨source, ⟨found, hchecked _ List.mem_cons_self, herrors⟩, e.2, hfirst⟩
      · exact ih hrest hlater e he

/-- A compiled protocol has its messages from those that were checked, and says of connections what
its specification does. -/
theorem compile_spec {spec : Spec} {p : Protocol} (h : compile spec = .ok p) :
    ∃ checked compiled, (∀ e ∈ checked, Check.ofMessage e.1 = .ok e.2) ∧
      compileSound spec.metadata checked = .ok compiled ∧ p.messages = compiled.map (·.1) ∧
      spec.connection = some p.connection := by
  rw [compile] at h
  obtain ⟨ofSpec, -, h⟩ := bind_eq_ok_iff.mp h
  obtain ⟨messages, -, h⟩ := bind_eq_ok_iff.mp h
  obtain ⟨checked, hchecked, h⟩ := bind_eq_ok_iff.mp h
  rw [mapError_eq_ok_iff, mapM_eq_ok_iff] at hchecked
  have hpairs : ∀ e ∈ checked, Check.ofMessage e.1 = .ok e.2 := by
    intro e he
    obtain ⟨source, -, heq⟩ := exists_of_mem_results hchecked he
    obtain ⟨found, hfound, heq⟩ := bind_eq_ok_iff.mp heq
    rw [pure_eq_ok_iff] at heq
    subst heq
    exact hfound
  dsimp only at h
  split at h
  · cases h
  · obtain ⟨compiled, hcompiled, h⟩ := bind_eq_ok_iff.mp h
    split at h
    · cases h
    · split at h
      · rename_i hconnection _ _
        rw [pure_eq_ok_iff] at h
        subst h
        exact ⟨checked, compiled, hpairs, hcompiled, rfl, hconnection⟩
      · cases h

theorem sound_of_compile {spec : Spec} {p : Protocol} (h : compile spec = .ok p)
    (hm : m ∈ p.messages) : ∃ source, Sound source m := by
  obtain ⟨checked, compiled, hpairs, hcompiled, hmessages, -⟩ := compile_spec h
  rw [hmessages, List.mem_map] at hm
  obtain ⟨e, he, rfl⟩ := hm
  exact sound_of_compileSound hpairs hcompiled e he

/-- What a sound message is like. Its delimiter and its terminator may be missing. -/
structure Message.WellFormed (m : Message) : Prop where
  states_eq : m.machine.states =
    State.ofSegments (Segment.separator? m.delimiter) m.terminator false m.machine.segments
  ambiguous_eq : m.machine.ambiguous =
    Segment.ambiguous (Segment.separator? m.delimiter) m.terminator m.machine.segments
  steps_eq : m.steps = Step.ofSegments m.machine.segments m.delimiter m.terminator
  separator?_terminator : Segment.separator? m.terminator = m.terminator
  literal_ne : ∀ text, .literal text ∈ m.machine.segments → text ≠ ""
  mem_segments_iff : ∀ f, f ∈ m.machine.segments.filterMap Segment.field? ↔
    f ∈ m.fields.map (·.definition)
  nodup : (m.fields.map (·.name)).Nodup
  constraints_eq : ∀ f ∈ m.fields, Constraints.ofField f.definition = .ok f.constraints
  stops_eq : ∀ f ∈ m.fields, f.stops = m.machine.stopsOf f.name
  findings : ∀ f ∈ m.fields, ∃ own, Check.fieldFindings f.definition = .ok own ∧
    ∀ x ∈ own, x.severity ≠ .error

theorem compileField_spec {machine : Machine} {f : Spec.Field} {r : FieldResult}
    (h : compileField machine f = .ok r) :
    r.field.definition = f ∧ Constraints.ofField f = .ok r.field.constraints ∧
      r.field.stops = machine.stopsOf f.name := by
  rw [compileField] at h
  obtain ⟨constraints, hconstraints, h⟩ := bind_eq_ok_iff.mp h
  obtain ⟨domain, -, h⟩ := bind_eq_ok_iff.mp h
  obtain ⟨sample, -, h⟩ := bind_eq_ok_iff.mp h
  rw [pure_eq_ok_iff] at h
  subst h
  exact ⟨rfl, hconstraints, rfl⟩

theorem assemble_spec {definitions : List Spec.Field} {segments : List Segment}
    (h : assemble source definitions segments = .ok (m, warnings)) :
    m.delimiter = separator source.delimiter ∧
      m.machine = Machine.ofSegments segments m.delimiter (separator source.terminator) ∧
      m.terminator = m.machine.terminator ∧
      m.steps = Step.ofSegments m.machine.segments m.delimiter m.terminator ∧
      ∃ results : List FieldResult,
        definitions.map (compileField m.machine) = results.map .ok ∧
          m.fields = results.map (·.field) := by
  rw [assemble] at h
  obtain ⟨boundary, -, h⟩ := bind_eq_ok_iff.mp h
  obtain ⟨results, hresults, h⟩ := bind_eq_ok_iff.mp h
  obtain ⟨sampleBytes, -, h⟩ := bind_eq_ok_iff.mp h
  rw [pure_eq_ok_iff, Prod.mk.injEq] at h
  obtain ⟨rfl, -⟩ := h
  exact ⟨rfl, rfl, rfl, rfl, results, mapM_eq_ok_iff.mp hresults, rfl⟩

theorem map_definition_of_assemble {definitions : List Spec.Field} {segments : List Segment}
    (h : assemble source definitions segments = .ok (m, warnings)) :
    m.fields.map (·.definition) = definitions := by
  obtain ⟨-, -, -, -, results, hresults, hfields⟩ := assemble_spec h
  rw [hfields, List.map_map]
  exact (map_results_eq hresults (g := id) fun f r hr ↦ (compileField_spec hr).1).trans
    (List.map_id definitions)

theorem compileMessage_spec (h : compileMessage source = .ok (m, warnings)) :
    ∃ definitions format items reading, Spec.itemsOf source.fields = .ok definitions ∧
      source.format = some format ∧ Format.tokenize format = .ok items ∧
      Segment.ofItems definitions items = .ok reading ∧ reading.undefined = [] ∧
      assemble source definitions reading.segments = .ok (m, warnings) := by
  rw [compileMessage] at h
  obtain ⟨definitions, hdefinitions, h⟩ := bind_eq_ok_iff.mp h
  obtain ⟨reading, hreading, h⟩ := bind_eq_ok_iff.mp h
  rw [mapError_eq_ok_iff] at hdefinitions hreading
  rw [Segment.ofFormat.eq_def] at hreading
  split at hreading
  · cases hreading
  · rename_i format hformat
    split at hreading
    · cases hreading
    · rename_i items hitems
      rw [mapError_eq_ok_iff] at hreading
      split at h
      · rename_i hdefined
        rw [mapError_eq_ok_iff] at h
        exact ⟨definitions, format, items, reading, hdefinitions, hformat, hitems, hreading,
          hdefined, h⟩
      · cases h

theorem Sound.wellFormed (h : Sound source m) : m.WellFormed := by
  obtain ⟨⟨found, hfound, herrors⟩, warnings, hcompile⟩ := h
  obtain ⟨fields, format, names, hfields, hformat, hnames, hnodup, hreferenced, hown⟩ :=
    Check.ofMessage_spec hfound herrors
  obtain ⟨definitions, format', items, reading, hdefinitions, hformat', hitems, hreading,
    hdefined, hassemble⟩ := compileMessage_spec hcompile
  rw [hdefinitions, Except.ok.injEq] at hfields
  rw [hformat', Option.some.injEq] at hformat
  subst hfields hformat
  have hitemNames : items.filterMap Format.Item.name? = names := by
    rw [Format.placeholderNames, hitems] at hnames
    exact Except.ok.inj hnames
  have hliteral (text : String) := Segment.stands_ofItems hreading (.literal text)
  have hnamed := Segment.map_named?_ofItems hreading hdefined
  rw [hitemNames] at hnamed
  obtain ⟨-, hmachine, hterminator, hsteps, results, hresults, hmfields⟩ := assemble_spec hassemble
  obtain ⟨hliteral', hsegments⟩ :=
    Segment.withoutTerminator_spec (Segment.separator? (separator source.terminator)) hliteral
  have hterminator' : m.terminator = Segment.separator? (separator source.terminator) := by
    rw [hterminator, hmachine, Machine.terminator_ofSegments]
  have hdefinition := map_definition_of_assemble hassemble
  have hcompiled : ∀ f ∈ m.fields, f.definition ∈ definitions ∧
      Constraints.ofField f.definition = .ok f.constraints ∧
      f.stops = m.machine.stopsOf f.name := by
    intro f hf
    rw [hmfields] at hf
    obtain ⟨r, hr, rfl⟩ := List.mem_map.mp hf
    obtain ⟨d, hd, heq⟩ := exists_of_mem_results hresults hr
    obtain ⟨rfl, hconstraints, hstops⟩ := compileField_spec heq
    exact ⟨hd, hconstraints, hstops⟩
  exact {
    states_eq := by rw [hterminator', hmachine]; rfl
    ambiguous_eq := by rw [hterminator', hmachine]; rfl
    steps_eq := hsteps
    separator?_terminator := by rw [hterminator', Segment.separator?_separator?]
    literal_ne := by rw [hmachine]; exact hliteral'
    mem_segments_iff := fun f ↦ by
      rw [hdefinition, hmachine]
      exact hsegments ▸ Segment.mem_fields_iff hnamed hnodup hreferenced
    nodup := by
      rw [← hdefinition, List.map_map] at hnodup
      exact hnodup
    constraints_eq := fun f hf ↦ (hcompiled f hf).2.1
    stops_eq := fun f hf ↦ (hcompiled f hf).2.2
    findings := fun f hf ↦ hown _ (hcompiled f hf).1 }

/-- The delimiter of a message cannot begin inside its terminator, unless the two are the same. -/
def Message.SeparatorsApart (m : Message) : Prop :=
  ∀ d ∈ m.delimiter, ∀ t ∈ m.terminator, d ≠ t →
    Wire.Apart (Utf8.ofString d) (Utf8.ofString t)

instance (m : Message) : Decidable m.SeparatorsApart :=
  inferInstanceAs (Decidable (∀ d ∈ m.delimiter, ∀ t ∈ m.terminator, d ≠ t →
    Wire.Apart (Utf8.ofString d) (Utf8.ofString t)))

theorem Message.SeparatorsApart.of_separator? (h : m.SeparatorsApart) {d t : String}
    (hd : Segment.separator? m.delimiter = some d) (ht : m.terminator = some t) (hne : d ≠ t) :
    Wire.Apart (Utf8.ofString d) (Utf8.ofString t) :=
  h d (Option.filter_eq_some_iff.mp hd).1 t ht hne

namespace Message.WellFormed

variable {m : Message}

theorem linked (h : m.WellFormed) (hsure : m.machine.ambiguous = []) :
    State.Linked (Segment.separator? m.delimiter) m.terminator m.machine.states := by
  rw [h.states_eq]
  refine linked_ofSegments (Segment.separator?_ne _) ?_ h.literal_ne (h.ambiguous_eq ▸ hsure) false
  rw [← h.separator?_terminator]
  exact Segment.separator?_ne _

theorem width_pos (h : m.WellFormed) {f : Field} (hf : f ∈ m.fields) {v : Value}
    (hv : f.definition.fixedWidth? = some v) {n : Int} (hn : v.integer? = some n) : 0 < n := by
  obtain ⟨own, hfindings, hsound⟩ := h.findings f hf
  exact Check.fixedWidth_pos hfindings hsound hv hn

/-- A state of a message that reads a field by width reads as many bytes as the field always has. -/
theorem fixedWidth?_of_extraction (h : m.WellFormed) {state : State}
    (hstate : state ∈ m.machine.states) {n : Value}
    (hx : state.extraction? = some (.fixedLength n)) :
    ∃ f, state.field? = some f ∧ f.fixedWidth? = some n := by
  cases hf : state.field? with
  | none =>
    cases state with
    | extractField f x | optionalField f x follow => cases hf
    | _ => cases hx
  | some f =>
    obtain ⟨rest, follow, -, rfl⟩ := State.exists_of_mem_ofSegments (h.states_eq ▸ hstate) hf
    rw [State.extraction?_ofField, Option.some.injEq] at hx
    exact ⟨f, rfl, Extraction.fixedWidth?_of_derive hx⟩

theorem flatMap_stepBytes (h : m.WellFormed) (r : Record) :
    m.steps.flatMap (Codec.stepBytes r) = m.machine.states.flatMap (State.written r) := by
  rw [h.states_eq, flatMap_written_ofSegments, h.steps_eq, Step.ofSegments,
    h.separator?_terminator]

theorem field_mem_steps_iff (h : m.WellFormed) {f : Spec.Field} :
    Step.field f ∈ m.steps ↔ ∃ field ∈ m.fields, field.definition = f := by
  rw [← List.mem_map, ← h.mem_segments_iff, h.steps_eq, Step.field_mem_ofSegments_iff]

theorem exists_state_iff (h : m.WellFormed) {f : Spec.Field} :
    (∃ state ∈ m.machine.states, state.field? = some f) ↔
      ∃ field ∈ m.fields, field.definition = f := by
  rw [← List.mem_filterMap, ← List.mem_map, ← h.mem_segments_iff, h.states_eq,
    filterMap_field_ofSegments]

theorem fieldOf?_definition (h : m.WellFormed) {field : Field} (hf : field ∈ m.fields) :
    Codec.fieldOf? m field.definition = some field := by
  rw [Codec.fieldOf?]
  cases hfind : m.fields.find? (·.name == field.definition.name) with
  | none => exact absurd (List.find?_eq_none.mp hfind field hf) (by simp [Field.name])
  | some other =>
    have hname := List.find?_some hfind
    rw [List.inj_on_of_nodup_map h.nodup (List.mem_of_find?_eq_some hfind) hf (eq_of_beq hname)]

/-- A state of a message that extracts a field has a compiled field, and all its stops are stops of
that field. -/
theorem exists_field (h : m.WellFormed) {state : State} (hstate : state ∈ m.machine.states)
    {f : Spec.Field} (hf : state.field? = some f) :
    ∃ field ∈ m.fields, field.definition = f ∧ Codec.fieldOf? m f = some field ∧
      ∀ x, state.extraction? = some x → ∀ s ∈ x.stops, s ∈ field.stops := by
  obtain ⟨field, hfield, rfl⟩ := h.exists_state_iff.mp ⟨state, hstate, hf⟩
  refine ⟨field, hfield, rfl, h.fieldOf?_definition hfield, fun x hx s hs ↦ ?_⟩
  rw [h.stops_eq field hfield, Machine.mem_stopsOf_iff]
  exact ⟨field.definition, x, Machine.mem_extractions_iff.mpr ⟨state, hstate, hf, hx⟩, rfl, hs⟩

end Message.WellFormed

end Compiled

end TextProtocol
