import TextProtocol.Network.Pool

/-!
# What pool operations do

Two things can be seen of a pool: the connection of a key, `pooled?`, and whether a connection has
been closed on this side, `isReleased`. Each operation is described by what it does to these two.

No operation loses a connection: one that is pooled stays so until it is closed, and one that is
closed stays so. This is `Keeps`, which holds from step to step and so along every sequence of
operations.
-/

namespace TextProtocol.Pool

variable {p q : Pool} {key other : String} {n m : Nat}

/-- Whether a connection has been closed on this side. -/
def isReleased (p : Pool) (n : Nat) : Bool :=
  p.connections[n]?.any (0 < ·.closeCalls)

/-- Whether the pooled connections are among those that were opened. -/
def WellFormed (p : Pool) : Prop :=
  ∀ e ∈ p.entries, e.2 < p.connections.length

/-! ## Connections of keys -/

theorem mem_entries_of_pooled? (h : p.pooled? key = some n) : (key, n) ∈ p.entries := by
  obtain ⟨e, he, rfl⟩ := Option.map_eq_some_iff.mp h
  have hkey := List.find?_some he
  rw [← eq_of_beq hkey]
  exact List.mem_of_find?_eq_some he

theorem WellFormed.pooled?_lt (h : p.WellFormed) (hn : p.pooled? key = some n) :
    n < p.connections.length :=
  h _ (mem_entries_of_pooled? hn)

theorem isReleased_lt (h : p.isReleased n = true) : n < p.connections.length := by
  refine Nat.lt_of_not_le fun hle ↦ ?_
  rw [isReleased, List.getElem?_eq_none hle] at h
  cases h

@[simp] theorem pooled?_close (p : Pool) (n : Nat) : (p.close n).pooled? key = p.pooled? key :=
  rfl

@[simp] theorem pooled?_opened (p : Pool) (c : Connection) :
    (p.opened c).2.pooled? key = p.pooled? key :=
  rfl

@[simp] theorem pooled?_forget_self (p : Pool) : (p.forget key).pooled? key = none := by
  rw [pooled?, forget, Option.map_eq_none_iff, List.find?_eq_none]
  intro e he heq
  have hne := (List.mem_filter.mp he).2
  rw [eq_of_beq heq] at hne
  simp at hne

theorem pooled?_forget_of_ne (h : other ≠ key) :
    (p.forget key).pooled? other = p.pooled? other := by
  have hsame : (fun e : String × Nat ↦ decide ((e.1 != key) = true ∧ (e.1 == other) = true)) =
      fun e ↦ e.1 == other := by
    funext e
    by_cases he : e.1 = other <;> simp [he, h]
  rw [pooled?, pooled?, forget, List.find?_filter, hsame]

theorem pooled?_append (h : p.pooled? key = none) :
    pooled? { p with entries := p.entries ++ [(key, n)] } key = some n := by
  rw [pooled?, Option.map_eq_none_iff] at h
  rw [pooled?, List.find?_append, h]
  simp

theorem pooled?_append_of_ne (h : other ≠ key) :
    pooled? { p with entries := p.entries ++ [(key, n)] } other = p.pooled? other := by
  have hne : (key == other) = false := beq_eq_false_iff_ne.mpr h.symm
  rw [pooled?, pooled?, List.find?_append, List.find?_cons, hne]
  simp

/-! ## Closing -/

@[simp] theorem length_connections_update (p : Pool) (n : Nat) (f : Connection → Connection) :
    (p.update n f).connections.length = p.connections.length :=
  List.length_modify ..

@[simp] theorem length_connections_close (p : Pool) (n : Nat) :
    (p.close n).connections.length = p.connections.length :=
  length_connections_update ..

theorem getElem?_update (p : Pool) (n m : Nat) (f : Connection → Connection) :
    (p.update n f).connections[m]? =
      p.connections[m]?.map fun c ↦ if n = m then f c else c := by
  rw [update, List.getElem?_modify]
  rfl

/-- Closed connections stay closed whatever else changes about connections. -/
theorem isReleased_update {f : Connection → Connection}
    (hf : ∀ c, c.closeCalls ≤ (f c).closeCalls) (h : p.isReleased m = true) :
    (p.update n f).isReleased m = true := by
  rw [isReleased, Option.any_eq_true] at h ⊢
  obtain ⟨c, hc, hpos⟩ := h
  rw [decide_eq_true_iff] at hpos
  refine ⟨_, by rw [getElem?_update, hc]; rfl, ?_⟩
  rw [decide_eq_true_iff]
  split
  · exact Nat.lt_of_lt_of_le hpos (hf c)
  · exact hpos

theorem isReleased_close_of_isReleased (h : p.isReleased m = true) :
    (p.close n).isReleased m = true :=
  isReleased_update (fun _ ↦ Nat.le_succ _) h

theorem isReleased_close (h : n < p.connections.length) : (p.close n).isReleased n = true := by
  rw [isReleased, close, record, getElem?_update, List.getElem?_eq_getElem h]
  simp [Connection.close]

/-! ## Operations -/

/-- No connection is lost: one that is pooled in `p` is so in `q`, or has been closed. -/
structure Keeps (p q : Pool) : Prop where
  wellFormed : q.WellFormed
  length_le : p.connections.length ≤ q.connections.length
  isReleased : ∀ n, p.isReleased n = true → q.isReleased n = true
  pooled? : ∀ key n, p.pooled? key = some n → q.pooled? key = some n ∨ q.isReleased n = true

theorem Keeps.refl (h : p.WellFormed) : Keeps p p :=
  ⟨h, Nat.le_refl _, fun _ hn ↦ hn, fun _ _ hn ↦ .inl hn⟩

theorem Keeps.trans {r : Pool} (h : Keeps p q) (h' : Keeps q r) : Keeps p r where
  wellFormed := h'.wellFormed
  length_le := Nat.le_trans h.length_le h'.length_le
  isReleased n hn := h'.isReleased n (h.isReleased n hn)
  pooled? key n hn := by
    rcases h.pooled? key n hn with hn | hn
    · exact h'.pooled? key n hn
    · exact .inr (h'.isReleased n hn)

theorem Keeps.update (h : p.WellFormed) {f : Connection → Connection}
    (hf : ∀ c, c.closeCalls ≤ (f c).closeCalls) : Keeps p (p.update n f) where
  wellFormed := by
    intro e he
    rw [length_connections_update]
    exact h e he
  length_le := Nat.le_of_eq (length_connections_update ..).symm
  isReleased _ := isReleased_update hf
  pooled? _ _ hm := .inl hm

theorem Keeps.record (h : Keeps p q) (e : Event) : Keeps p (q.record e) :=
  ⟨h.wellFormed, h.length_le, h.isReleased, h.pooled?⟩

theorem Keeps.close (h : p.WellFormed) : Keeps p (p.close n) :=
  .record (.update h fun _ ↦ Nat.le_succ _) _

theorem Keeps.opened (h : p.WellFormed) (c : Connection) : Keeps p (p.opened c).2 where
  wellFormed := by
    intro e he
    rw [Pool.opened, List.length_append]
    exact Nat.lt_add_right _ (h e he)
  length_le := by
    rw [Pool.opened, List.length_append]
    exact Nat.le_add_right ..
  isReleased n hn := by
    rw [Pool.isReleased, Pool.opened, List.getElem?_append_left (isReleased_lt hn)]
    exact hn
  pooled? _ _ hm := .inl hm

theorem Keeps.forget_close (h : p.WellFormed) (hn : p.pooled? key = some n) :
    Keeps p ((p.forget key).close n) where
  wellFormed := by
    intro e he
    rw [length_connections_close]
    exact h e (List.mem_filter.mp he).1
  length_le := Nat.le_of_eq (length_connections_close ..).symm
  isReleased _ hm := isReleased_close_of_isReleased hm
  pooled? other m hm := by
    by_cases hother : other = key
    · rw [hother, hn, Option.some.injEq] at hm
      exact .inr (hm ▸ isReleased_close (h.pooled?_lt hn))
    · rw [pooled?_close, pooled?_forget_of_ne hother]
      exact .inl hm

/-- A lookup finds the connection of the key, or leaves the key without any. -/
theorem lookup_cases (p : Pool) (key : String) :
    (∃ n, p.pooled? key = some n ∧ p.isClosed n = false ∧ p.lookup key = (some n, p)) ∨
      (∃ n, p.pooled? key = some n ∧ p.isClosed n = true ∧
        p.lookup key = (none, (p.forget key).close n)) ∨
      p.pooled? key = none ∧ p.lookup key = (none, p) := by
  rw [lookup]
  cases hpooled : p.pooled? key with
  | none => exact .inr (.inr ⟨rfl, rfl⟩)
  | some n =>
    cases hclosed : p.isClosed n with
    | false => exact .inl ⟨n, rfl, hclosed, by simp [hclosed]⟩
    | true => exact .inr (.inl ⟨n, rfl, hclosed, by simp [hclosed]⟩)

theorem lookup_eq_some (h : p.lookup key = (some n, q)) :
    q = p ∧ p.pooled? key = some n ∧ p.isClosed n = false := by
  rcases p.lookup_cases key with ⟨m, hm, hopen, heq⟩ | ⟨m, -, -, heq⟩ | ⟨-, heq⟩
  · rw [heq] at h
    cases h
    exact ⟨rfl, hm, hopen⟩
  · rw [heq] at h
    cases h
  · rw [heq] at h
    cases h

theorem lookup_eq_none (hp : p.WellFormed) (h : p.lookup key = (none, q)) :
    Keeps p q ∧ q.pooled? key = none ∧ q.connections.length = p.connections.length := by
  rcases p.lookup_cases key with ⟨m, -, -, heq⟩ | ⟨m, hm, -, heq⟩ | ⟨hnone, heq⟩
  · rw [heq] at h
    cases h
  · rw [heq] at h
    cases h
    exact ⟨.forget_close hp hm, by simp, length_connections_close ..⟩
  · rw [heq] at h
    cases h
    exact ⟨.refl hp, hnone, rfl⟩

theorem Keeps.lookup (h : p.WellFormed) (key : String) : Keeps p (p.lookup key).2 := by
  rcases p.lookup_cases key with ⟨m, -, -, heq⟩ | ⟨m, hm, -, heq⟩ | ⟨-, heq⟩
  · rw [heq]
    exact .refl h
  · rw [heq]
    exact .forget_close h hm
  · rw [heq]
    exact .refl h

/-- The completion of an acquire returns the connection that is pooled by then, and keeps the new
one only if it is that. -/
theorem complete_spec (key : String) (h : p.WellFormed) (hn : n < p.connections.length) :
    Keeps p (p.complete key n).2 ∧
      (p.complete key n).2.pooled? key = some (p.complete key n).1 ∧
      ((p.complete key n).1 = n ∨ (p.complete key n).2.isReleased n = true) := by
  rcases hlookup : p.lookup key with ⟨found, q⟩
  cases found with
  | some winner =>
    obtain ⟨rfl, hwinner, -⟩ := lookup_eq_some hlookup
    have heq : q.complete key n = (winner, q.close n) := by rw [complete, hlookup]
    rw [heq]
    exact ⟨.close h, by simpa using hwinner, .inr (isReleased_close hn)⟩
  | none =>
    obtain ⟨hkeeps, hnone, hlength⟩ := lookup_eq_none h hlookup
    have heq : p.complete key n = (n, { q with entries := q.entries ++ [(key, n)] }) := by
      rw [complete, hlookup]
    rw [heq]
    refine ⟨hkeeps.trans ⟨?_, Nat.le_refl _, fun _ hm ↦ hm, ?_⟩, pooled?_append hnone, .inl rfl⟩
    · intro e he
      rcases List.mem_append.mp he with he | he
      · exact hkeeps.wellFormed e he
      · rw [List.mem_singleton.mp he]
        exact hlength.symm ▸ hn
    · intro other m hm
      by_cases hother : other = key
      · rw [hother, hnone] at hm
        cases hm
      · rw [pooled?_append_of_ne hother]
        exact .inl hm

theorem Keeps.discard (h : p.WellFormed) (key : String) (connection : Option Nat) :
    Keeps p (p.discard key connection) := by
  cases connection with
  | none =>
    rw [Pool.discard]
    cases hpooled : p.pooled? key with
    | none => exact .refl h
    | some n => exact .forget_close h hpooled
  | some n =>
    rw [Pool.discard]
    split
    · rename_i heq
      exact .forget_close h (eq_of_beq heq)
    · exact .close h

theorem foldl_close (entries : List (String × Nat)) (h : p.WellFormed) :
    Keeps p (entries.foldl (fun q e ↦ q.close e.2) p) ∧
      ∀ e ∈ entries, e.2 < p.connections.length →
        (entries.foldl (fun q e ↦ q.close e.2) p).isReleased e.2 = true := by
  induction entries generalizing p with
  | nil => exact ⟨.refl h, by simp⟩
  | cons first rest ih =>
    have hclose : Keeps p (p.close first.2) := .close h
    obtain ⟨hkeeps, hreleased⟩ := ih hclose.wellFormed
    rw [List.foldl_cons]
    refine ⟨hclose.trans hkeeps, fun e he hlt ↦ ?_⟩
    rcases List.mem_cons.mp he with rfl | he
    · exact hkeeps.isReleased _ (isReleased_close hlt)
    · exact hreleased e he (by rwa [length_connections_close])

theorem Keeps.closeAll (h : p.WellFormed) : Keeps p p.closeAll := by
  have hempty : WellFormed { p with entries := [] } := fun e he ↦ nomatch he
  obtain ⟨hkeeps, hreleased⟩ := foldl_close p.entries hempty
  refine ⟨hkeeps.wellFormed, hkeeps.length_le, hkeeps.isReleased, fun key n hn ↦ .inr ?_⟩
  exact hreleased _ (mem_entries_of_pooled? hn) (h.pooled?_lt hn)

end TextProtocol.Pool
