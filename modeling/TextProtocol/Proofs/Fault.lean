import TextProtocol.Fault

/-!
# Computations that may fault

How a computation in several steps comes to a result: every step does, and the results are passed
on. Stated once here for sequences of two steps and for a step taken on each item of a list.
-/

namespace TextProtocol.Fault

variable {ε α β γ : Type}

variable {f : α → Except ε β} {items : List α} {x : Except ε α} {e : ε} {results : List β}

@[simp] theorem ok_bind {a : α} : (Except.ok a >>= f) = f a := rfl

theorem bind_eq_ok_iff {b : β} : x >>= f = .ok b ↔ ∃ a, x = .ok a ∧ f a = .ok b := by
  cases x with
  | error e => simp [bind, Except.bind]
  | ok a => simp [bind, Except.bind]

theorem bind_eq_error_iff :
    x >>= f = .error e ↔ x = .error e ∨ ∃ a, x = .ok a ∧ f a = .error e := by
  cases x with
  | error e => simp [bind, Except.bind]
  | ok a => simp [bind, Except.bind]

/-- How two steps fault, if the fault of the second does not depend on what the first comes to. -/
theorem bind_eq_error_iff_of_faults {P Q : ε → Prop} (hx : ∀ e, x = .error e ↔ P e)
    (hf : ∀ a e, f a = .error e ↔ Q e) : x >>= f = .error e ↔ P e ∨ (∀ e', ¬P e') ∧ Q e := by
  simp only [bind_eq_error_iff, hf, ← hx]
  cases x <;> simp

theorem bind_eq_error_iff_of_forall {P : Prop} {d : ε} {Q : ε → Prop}
    (hx : ∀ e, x = .error e ↔ P ∧ e = d) (hf : ∀ a e, f a = .error e ↔ Q e) :
    x >>= f = .error e ↔ P ∧ e = d ∨ ¬P ∧ Q e := by
  rw [bind_eq_error_iff_of_faults hx hf]
  simp

theorem mapError_eq_ok_iff {ε' : Type} {f : ε → ε'} {a : α} : x.mapError f = .ok a ↔ x = .ok a := by
  cases x with
  | error e => exact ⟨nofun, nofun⟩
  | ok b =>
    constructor
    · intro h
      cases h
      rfl
    · intro h
      cases h
      rfl

@[simp] theorem pure_eq_ok_iff {a b : α} : (pure a : Except ε α) = .ok b ↔ a = b := by
  simp [pure, Except.pure]

@[simp] theorem bind_pure_eq_error_iff {f : α → β} :
    (x >>= fun a ↦ pure (f a)) = .error e ↔ x = .error e := by
  cases x with
  | error e' => simp [bind, Except.bind]
  | ok a => exact ⟨nofun, nofun⟩

@[simp] theorem throw_eq_error_iff {e' : ε} : (throw e : Except ε α) = .error e' ↔ e' = e := by
  simp [throw, throwThe, MonadExceptOf.throw, eq_comm]

/-- Whether a computation comes to a result, and to one with a property. -/
def gives (x : Except ε α) (P : α → Bool) : Bool :=
  match x with
  | .ok a => P a
  | .error _ => false

theorem exists_of_gives {P : α → Bool} (h : gives x P = true) : ∃ a, x = .ok a ∧ P a = true := by
  cases x with
  | error e => cases h
  | ok a => exact ⟨a, rfl, h⟩

theorem exists_of_gives_gives {x : Except ε (Except β α)} {P : α → Bool}
    (h : gives x (fun result ↦ gives result P) = true) : ∃ a, x = .ok (.ok a) ∧ P a = true := by
  obtain ⟨result, hx, hresult⟩ := exists_of_gives h
  obtain ⟨a, rfl, ha⟩ := exists_of_gives hresult
  exact ⟨a, hx, ha⟩

theorem eq_of_gives_gives [BEq α] [LawfulBEq α] {x : Except ε (Except β α)} {a : α}
    (h : gives x (fun result ↦ gives result (· == a)) = true) : x = .ok (.ok a) := by
  obtain ⟨b, hx, hb⟩ := exists_of_gives_gives h
  rw [hx, eq_of_beq hb]

def faults (x : Except Fault α) (fault : Fault) : Bool :=
  match x with
  | .ok _ => false
  | .error e => decide (e = fault)

theorem eq_error_of_faults {x : Except Fault α} {fault : Fault} (h : faults x fault = true) :
    x = .error fault := by
  cases x with
  | ok a => cases h
  | error e => rw [of_decide_eq_true h]

theorem mapM_eq_ok_iff : items.mapM f = .ok results ↔ items.map f = results.map .ok := by
  induction items generalizing results with
  | nil => cases results <;> simp
  | cons a items ih =>
    rw [List.mapM_cons, List.map_cons, bind_eq_ok_iff]
    constructor
    · rintro ⟨b, hb, h⟩
      obtain ⟨bs, hbs, h⟩ := bind_eq_ok_iff.mp h
      rw [pure_eq_ok_iff] at h
      rw [← h, List.map_cons, hb, ih.mp hbs]
    · intro h
      cases results with
      | nil => simp at h
      | cons b bs =>
        rw [List.map_cons, List.cons.injEq] at h
        refine ⟨b, h.1, bind_eq_ok_iff.mpr ⟨bs, ih.mpr h.2, ?_⟩⟩
        rw [pure_eq_ok_iff]

theorem mapM_congr {g : α → Except ε β} (h : ∀ a ∈ items, f a = g a) :
    items.mapM f = items.mapM g := by
  induction items with
  | nil => rfl
  | cons a items ih =>
    rw [List.forall_mem_cons] at h
    rw [List.mapM_cons, List.mapM_cons, h.1, ih h.2]

/-- A step that can be taken back on each item of a list can be taken back on the list. -/
theorem exists_mapM {ε' : Type} {g : β → Except ε' α}
    (h : ∀ a ∈ items, ∃ b, f a = .ok b ∧ g b = .ok a) :
    ∃ results, items.mapM f = .ok results ∧ results.mapM g = .ok items := by
  induction items with
  | nil => exact ⟨[], rfl, rfl⟩
  | cons a items ih =>
    rw [List.forall_mem_cons] at h
    obtain ⟨b, hb, ha⟩ := h.1
    obtain ⟨bs, hbs, hitems⟩ := ih h.2
    refine ⟨b :: bs, ?_, ?_⟩
    · rw [List.mapM_cons, hb, hbs]
      rfl
    · rw [List.mapM_cons, ha, hitems]
      rfl

theorem exists_of_mapM_eq_error (h : items.mapM f = .error e) : ∃ a ∈ items, f a = .error e := by
  induction items with
  | nil => cases h
  | cons a items ih =>
    rw [List.mapM_cons] at h
    obtain h | ⟨b, -, h⟩ := bind_eq_error_iff.mp h
    · exact ⟨a, List.mem_cons_self, h⟩
    · obtain ⟨a', ha', h⟩ := ih (bind_pure_eq_error_iff.mp h)
      exact ⟨a', List.mem_cons_of_mem _ ha', h⟩

theorem exists_results (h : ∀ a ∈ items, ∃ b, f a = .ok b) :
    ∃ results, items.mapM f = .ok results := by
  cases hresult : items.mapM f with
  | ok results => exact ⟨results, rfl⟩
  | error e =>
    obtain ⟨a, ha, herror⟩ := exists_of_mapM_eq_error hresult
    obtain ⟨b, hb⟩ := h a ha
    cases hb.symm.trans herror

theorem exists_of_mem_items (h : items.map f = results.map .ok) {a : α} (ha : a ∈ items) :
    ∃ b ∈ results, f a = .ok b := by
  have hmem : f a ∈ results.map .ok := h ▸ List.mem_map_of_mem ha
  obtain ⟨b, hb, heq⟩ := List.mem_map.mp hmem
  exact ⟨b, hb, heq.symm⟩

theorem exists_of_mem_results (h : items.map f = results.map .ok) {b : β} (hb : b ∈ results) :
    ∃ a ∈ items, f a = .ok b := by
  have hmem : Except.ok b ∈ items.map f := h ▸ List.mem_map_of_mem hb
  obtain ⟨a, ha, heq⟩ := List.mem_map.mp hmem
  exact ⟨a, ha, heq⟩

/-- What each result has in common with its item, the two lists have in common. -/
theorem map_results_eq {g : α → γ} {g' : β → γ} (h : items.map f = results.map .ok)
    (hg : ∀ a b, f a = .ok b → g' b = g a) : results.map g' = items.map g := by
  induction items generalizing results with
  | nil => cases results <;> simp_all
  | cons a items ih =>
    cases results with
    | nil => simp at h
    | cons b results =>
      rw [List.map_cons, List.map_cons, List.cons.injEq] at h
      rw [List.map_cons, List.map_cons, hg a b h.1, ih h.2]

end TextProtocol.Fault
