import TextProtocol.Proofs.Network.Pool

/-!
# Pools of a single client

A client uses its pool for one key only. Between its calls the pool either is clear, with no
connection that is still open, or holds one connection, which is ready for requests: `Tidy`. What a
call does on the way is to look up or open a connection, to talk on it, `Steady`, and to discard it.
-/

namespace TextProtocol.Pool

variable {p q r : Pool} {key : String} {n : Nat}

/-- Whether the handshake on a connection is done. -/
def isReady (p : Pool) (n : Nat) : Bool :=
  p.connections[n]?.any (·.ready)

/-- Every connection that was opened is closed, and none is pooled for a key. -/
structure Clear (p : Pool) (key : String) : Prop where
  wellFormed : p.WellFormed
  pooled? : p.pooled? key = none
  isReleased : ∀ m < p.connections.length, p.isReleased m = true

/-- A connection is pooled for a key, and all others are closed. -/
structure Holds (p : Pool) (key : String) (n : Nat) : Prop where
  wellFormed : p.WellFormed
  pooled? : p.pooled? key = some n
  isReleased : ∀ m < p.connections.length, m ≠ n → p.isReleased m = true

/-- A connection that is ready is pooled for a key, and all others are closed. -/
def HoldsReady (p : Pool) (key : String) : Prop :=
  ∃ n, p.Holds key n ∧ p.isReady n = true

def Tidy (p : Pool) (key : String) : Prop :=
  p.Clear key ∨ p.HoldsReady key

/-- What talking on connections does to a pool: it pools nothing, reopens nothing and undoes no
handshake. -/
structure Steady (p q : Pool) : Prop where
  entries : q.entries = p.entries
  length : q.connections.length = p.connections.length
  isReleased : ∀ m, p.isReleased m = true → q.isReleased m = true
  isReady : ∀ m, p.isReady m = true → q.isReady m = true

theorem Steady.refl (p : Pool) : Steady p p :=
  ⟨rfl, rfl, fun _ h ↦ h, fun _ h ↦ h⟩

theorem Steady.trans (h : Steady p q) (h' : Steady q r) : Steady p r where
  entries := h'.entries.trans h.entries
  length := h'.length.trans h.length
  isReleased m hm := h'.isReleased m (h.isReleased m hm)
  isReady m hm := h'.isReady m (h.isReady m hm)

theorem Steady.record (h : Steady p q) (e : Event) : Steady p (q.record e) :=
  ⟨h.entries, h.length, h.isReleased, h.isReady⟩

theorem Steady.update {f : Connection → Connection} (hclose : ∀ c, c.closeCalls ≤ (f c).closeCalls)
    (hready : ∀ c, c.ready = true → (f c).ready = true) : Steady p (p.update n f) where
  entries := rfl
  length := length_connections_update ..
  isReleased _ := isReleased_update hclose
  isReady m hm := by
    rw [Pool.isReady, Option.any_eq_true] at hm ⊢
    obtain ⟨c, hc, hm⟩ := hm
    refine ⟨_, by rw [getElem?_update, hc]; rfl, ?_⟩
    split
    · exact hready c hm
    · exact hm

theorem Steady.wellFormed (h : Steady p q) (hp : p.WellFormed) : q.WellFormed := by
  intro e he
  rw [h.length]
  exact hp e (h.entries ▸ he)

theorem Steady.pooled? (h : Steady p q) : q.pooled? key = p.pooled? key := by
  rw [Pool.pooled?, Pool.pooled?, h.entries]

theorem Clear.steady (hp : p.Clear key) (h : Steady p q) : q.Clear key where
  wellFormed := h.wellFormed hp.wellFormed
  pooled? := h.pooled?.trans hp.pooled?
  isReleased m hm := h.isReleased m (hp.isReleased m (h.length ▸ hm))

theorem Holds.steady (hp : p.Holds key n) (h : Steady p q) : q.Holds key n where
  wellFormed := h.wellFormed hp.wellFormed
  pooled? := h.pooled?.trans hp.pooled?
  isReleased m hm hne := h.isReleased m (hp.isReleased m (h.length ▸ hm) hne)

theorem HoldsReady.steady (hp : p.HoldsReady key) (h : Steady p q) : q.HoldsReady key := by
  obtain ⟨n, hn, hready⟩ := hp
  exact ⟨n, hn.steady h, h.isReady n hready⟩

theorem Tidy.steady (hp : p.Tidy key) (h : Steady p q) : q.Tidy key :=
  hp.imp (·.steady h) (·.steady h)

theorem clear_empty (key : String) : ({} : Pool).Clear key where
  wellFormed := nofun
  pooled? := rfl
  isReleased := nofun

/-- The connection that is held can be forgotten and closed. -/
theorem Holds.forget_close (h : p.Holds key n) : ((p.forget key).close n).Clear key := by
  have hkeeps : Keeps p ((p.forget key).close n) := .forget_close h.wellFormed h.pooled?
  refine ⟨hkeeps.wellFormed, by simp, fun m hm ↦ ?_⟩
  by_cases hmn : m = n
  · rw [hmn]
    exact isReleased_close (h.wellFormed.pooled?_lt h.pooled?)
  · exact hkeeps.isReleased m (h.isReleased m (by rwa [length_connections_close] at hm) hmn)

theorem Holds.discard (h : p.Holds key n) : (p.discard key (some n)).Clear key := by
  rw [Pool.discard, h.pooled?, beq_self_eq_true, if_pos rfl]
  exact h.forget_close

/-- A lookup finds the connection that is held, or leaves the pool clear. -/
theorem Tidy.lookup (h : p.Tidy key) :
    (∃ n, p.lookup key = (some n, p) ∧ p.Holds key n ∧ p.isReady n = true) ∨
      ∃ q, p.lookup key = (none, q) ∧ q.Clear key := by
  rcases h with h | ⟨n, h, hready⟩
  · refine .inr ⟨p, ?_, h⟩
    rw [Pool.lookup, h.pooled?]
  · rcases p.lookup_cases key with ⟨m, hm, -, heq⟩ | ⟨m, hm, -, heq⟩ | ⟨hnone, -⟩
    · obtain rfl : n = m := Option.some.inj (h.pooled?.symm.trans hm)
      exact .inl ⟨n, heq, h, hready⟩
    · obtain rfl : n = m := Option.some.inj (h.pooled?.symm.trans hm)
      exact .inr ⟨_, heq, h.forget_close⟩
    · rw [h.pooled?] at hnone
      cases hnone

/-- When the pool is clear, there is no other connection that could win over a new one. -/
theorem Clear.complete_opened_eq (h : p.Clear key) (c : Connection) :
    (p.opened c).2.complete key (p.opened c).1 =
      (p.connections.length, { (p.opened c).2 with
        entries := (p.opened c).2.entries ++ [(key, p.connections.length)] }) := by
  rw [Pool.complete, Pool.lookup, pooled?_opened, h.pooled?]
  rfl

theorem Clear.complete_opened (h : p.Clear key) (c : Connection) :
    ((p.opened c).2.complete key (p.opened c).1).2.Holds key
      ((p.opened c).2.complete key (p.opened c).1).1 := by
  have hopened : Keeps p (p.opened c).2 := .opened h.wellFormed c
  have hlength : (p.opened c).2.connections.length = p.connections.length + 1 := by
    rw [Pool.opened, List.length_append, List.length_singleton]
  have hlt : (p.opened c).1 < (p.opened c).2.connections.length := by
    rw [hlength]
    exact Nat.lt_succ_self _
  obtain ⟨hkeeps, hpooled, -⟩ := complete_spec key hopened.wellFormed hlt
  refine ⟨hkeeps.wellFormed, hpooled, fun m hm hne ↦ ?_⟩
  rw [h.complete_opened_eq] at hm hne
  have hold : m < p.connections.length := by
    change m < (p.opened c).2.connections.length at hm
    omega
  exact hkeeps.isReleased m (hopened.isReleased m (h.isReleased m hold))

theorem isReady_update_ready (h : n < p.connections.length) :
    (p.update n fun c ↦ { c with ready := true }).isReady n = true := by
  rw [isReady, getElem?_update, List.getElem?_eq_getElem h]
  simp

end TextProtocol.Pool
