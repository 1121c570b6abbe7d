import Mathlib
import TextProtocol.Proofs.Network.Pool
import TextProtocol.Proofs.Wire.Number

/-!
# Ownership of pooled connections

A pool is used by several callers at once. An acquire that has to open a connection waits for it,
and meanwhile anything may happen to the pool: other acquires begin and finish, connections are
given up or closed by the other side. `Traffic` is a pool with the acquires that wait, and an
`Action` is what happens next; every interleaving is a list of actions.

Whatever the interleaving, a connection that was opened to the end is either the pooled one of its
key or has been closed, and the connection that an acquire returns is the pooled one at that moment.
So no two connections of one key are ever in use, and since different hosts and ports have different
keys, no connection is used for another server than its own.
-/

namespace TextProtocol.Pool

/-! ## Keys -/

theorem colon_notMem_toString (port : Int) : ':' ∉ (toString port).toList := by
  intro h
  obtain ⟨k, rfl | rfl⟩ := port.eq_nat_or_neg
  · rw [FieldCheck.toList_toString_natCast] at h
    exact absurd (List.all_eq_true.mp (FieldCheck.all_isDigit_toDigits k) _ h) (by decide)
  · by_cases hk : k = 0
    · subst hk
      exact absurd h (by decide)
    · rw [FieldCheck.toList_toString_neg (Nat.pos_of_ne_zero hk)] at h
      rcases List.mem_cons.mp h with h | h
      · exact absurd h (by decide)
      · exact absurd (List.all_eq_true.mp (FieldCheck.all_isDigit_toDigits k) _ h) (by decide)

/-- Two lists that are equal have the last occurrence of an item at the same place. -/
theorem append_cons_inj {α : Type} {a : α} {first second first' second' : List α}
    (h : first ++ a :: second = first' ++ a :: second') (hsecond : a ∉ second)
    (hsecond' : a ∉ second') : first = first' ∧ second = second' := by
  rcases List.append_eq_append_iff.mp h with ⟨more, rfl, heq⟩ | ⟨more, rfl, heq⟩
  · cases more with
    | nil => simpa using heq
    | cons b more =>
      rw [List.cons_append, List.cons.injEq] at heq
      exact absurd (heq.2 ▸ List.mem_append_right _ List.mem_cons_self) hsecond
  · cases more with
    | nil => simpa [eq_comm] using heq
    | cons b more =>
      rw [List.cons_append, List.cons.injEq] at heq
      exact absurd (heq.2 ▸ List.mem_append_right _ List.mem_cons_self) hsecond'

/-- A host may hold colons, but a port does not, so the last colon of a key divides the two. -/
theorem key_inj {host host' : String} {port port' : Int}
    (h : key (.text host) (.int port) = key (.text host') (.int port')) :
    host = host' ∧ port = port' := by
  have hlist (host : String) (port : Int) : (key (.text host) (.int port)).toList =
      host.toList ++ ':' :: (toString port).toList := by
    have hkey : key (.text host) (.int port) = host ++ ":" ++ toString port := rfl
    rw [hkey, String.toList_append, String.toList_append, List.append_assoc]
    rfl
  have hsame := congrArg String.toList h
  rw [hlist, hlist] at hsame
  obtain ⟨hhost, hport⟩ :=
    append_cons_inj hsame (colon_notMem_toString port) (colon_notMem_toString port')
  exact ⟨String.toList_inj.mp hhost, Int.repr_inj.mp (String.toList_inj.mp hport)⟩

/-! ## Interleavings -/

/-- A pool in use. -/
structure Traffic where
  pool : Pool := {}
  /-- The acquires that wait for a connection, by their key and the connection. -/
  waiting : List (String × Nat) := []
  /-- The connections that were opened to the end, with the keys they were opened for. -/
  completed : List (String × Nat) := []

/-- What happens to a pool in use. -/
inductive Action where
  /-- An acquire begins. If it finds no live connection, one is opened or refused. -/
  | start (host : String) (port : Int) (refused : Bool)
  /-- A waiting acquire gets its connection and returns. -/
  | finish (i : Nat)
  /-- The connection of a waiting acquire fails. -/
  | fail (i : Nat)
  | get (host : String) (port : Int)
  | discard (host : String) (port : Int) (connection : Option Nat)
  | closeAll
  /-- The other side closes a connection. -/
  | peerClose (connection : Nat)

namespace Traffic

/-- The connection that an acquire returns, with its key, if one returns; and what is then. -/
def step (t : Traffic) : Action → Option (String × Nat) × Traffic
  | .start host port refused =>
    let key := key (.text host) (.int port)
    match Pool.start key [refused] t.pool with
    | (.found n, _, p) => (some (key, n), { t with pool := p })
    | (.connecting n, _, p) => (none, { t with pool := p, waiting := t.waiting ++ [(key, n)] })
    | (.refused, _, p) => (none, { t with pool := p })
  | .finish i =>
    match t.waiting[i]? with
    | none => (none, t)
    | some (key, n) =>
      let (returned, p) := Pool.finish key t.pool (.connecting n)
      (returned.map (key, ·),
        { pool := p, waiting := t.waiting.eraseIdx i, completed := t.completed ++ [(key, n)] })
  | .fail i => (none, { t with waiting := t.waiting.eraseIdx i })
  | .get host port => (none, { t with pool := (t.pool.lookup (key (.text host) (.int port))).2 })
  | .discard host port connection =>
    (none, { t with pool := t.pool.discard (key (.text host) (.int port)) connection })
  | .closeAll => (none, { t with pool := t.pool.closeAll })
  | .peerClose connection => (none, { t with pool := t.pool.peerClose connection })

def run (actions : List Action) : Traffic :=
  actions.foldl (fun t action ↦ (t.step action).2) {}

theorem run_concat (actions : List Action) (action : Action) :
    run (actions ++ [action]) = ((run actions).step action).2 := by
  rw [run, List.foldl_append]
  rfl

/-! ## The invariant -/

/-- Every connection that was opened to the end is pooled or closed. -/
structure Owned (t : Traffic) : Prop where
  wellFormed : t.pool.WellFormed
  waiting_lt : ∀ e ∈ t.waiting, e.2 < t.pool.connections.length
  completed : ∀ e ∈ t.completed, t.pool.pooled? e.1 = some e.2 ∨ t.pool.isReleased e.2 = true

variable {t : Traffic}

theorem Owned.of_keeps (h : t.Owned) {p : Pool} (hp : Keeps t.pool p) :
    Owned { t with pool := p } where
  wellFormed := hp.wellFormed
  waiting_lt e he := Nat.lt_of_lt_of_le (h.waiting_lt e he) hp.length_le
  completed e he := by
    rcases h.completed e he with he | he
    · exact hp.pooled? _ _ he
    · exact .inr (hp.isReleased _ he)

/-- An acquire that begins finds the pooled connection, or changes nothing for others; if it waits,
its connection has been opened. -/
theorem start_spec (h : t.Owned) (host : String) (port : Int) (refused : Bool) :
    (t.step (.start host port refused)).2.Owned ∧
      ∀ e, (t.step (.start host port refused)).1 = some e →
        (t.step (.start host port refused)).2.pool.pooled? e.1 = some e.2 := by
  rw [step, Pool.start]
  rcases hlookup : t.pool.lookup (key (.text host) (.int port)) with ⟨found, p⟩
  cases found with
  | some n =>
    obtain ⟨rfl, hn, -⟩ := lookup_eq_some hlookup
    refine ⟨h, fun e he ↦ ?_⟩
    cases he
    exact hn
  | none =>
    obtain ⟨hkeeps, -, -⟩ := lookup_eq_none h.wellFormed hlookup
    cases refused with
    | true => exact ⟨h.of_keeps hkeeps, nofun⟩
    | false =>
      have hopened : Keeps t.pool (p.opened {}).2 := hkeeps.trans (.opened hkeeps.wellFormed _)
      have hlater := h.of_keeps hopened
      refine ⟨⟨hlater.wellFormed, fun e he ↦ ?_, hlater.completed⟩, nofun⟩
      rcases List.mem_append.mp he with he | he
      · exact hlater.waiting_lt e he
      · rw [List.mem_singleton.mp he]
        simp [opened]

/-- An acquire that gets its connection returns the pooled one. -/
theorem finish_spec (h : t.Owned) (i : Nat) :
    (t.step (.finish i)).2.Owned ∧ ∀ e, (t.step (.finish i)).1 = some e →
      (t.step (.finish i)).2.pool.pooled? e.1 = some e.2 := by
  rw [step]
  cases hwaiting : t.waiting[i]? with
  | none => exact ⟨h, nofun⟩
  | some first =>
    obtain ⟨key, n⟩ := first
    have hn : n < t.pool.connections.length :=
      h.waiting_lt _ (List.mem_of_getElem? hwaiting)
    obtain ⟨hkeeps, hpooled, hown⟩ := complete_spec key h.wellFormed hn
    have hlater := h.of_keeps hkeeps
    refine ⟨⟨hlater.wellFormed, fun e he ↦ ?_, fun e he ↦ ?_⟩, fun e he ↦ ?_⟩
    · exact hlater.waiting_lt e (List.mem_of_mem_eraseIdx he)
    · rcases List.mem_append.mp he with he | he
      · exact hlater.completed e he
      · rw [List.mem_singleton.mp he]
        rcases hown with hown | hown
        · exact .inl (hpooled.trans (congrArg some hown))
        · exact .inr hown
    · cases he
      exact hpooled

/-- Every action keeps the invariant, and an acquire that returns does so with the pooled
connection. -/
theorem Owned.step (h : t.Owned) (action : Action) :
    (t.step action).2.Owned ∧
      ∀ e, (t.step action).1 = some e → (t.step action).2.pool.pooled? e.1 = some e.2 := by
  cases action with
  | start host port refused => exact start_spec h host port refused
  | finish i => exact finish_spec h i
  | fail i =>
    refine ⟨⟨h.wellFormed, fun e he ↦ ?_, h.completed⟩, nofun⟩
    exact h.waiting_lt e (List.mem_of_mem_eraseIdx he)
  | get host port => exact ⟨h.of_keeps (.lookup h.wellFormed _), nofun⟩
  | discard host port connection => exact ⟨h.of_keeps (.discard h.wellFormed _ _), nofun⟩
  | closeAll => exact ⟨h.of_keeps (.closeAll h.wellFormed), nofun⟩
  | peerClose connection =>
    exact ⟨h.of_keeps (.update h.wellFormed fun _ ↦ Nat.le_refl _), nofun⟩

theorem owned_empty : Owned {} where
  wellFormed _ he := nomatch he
  waiting_lt _ he := nomatch he
  completed _ he := nomatch he

theorem owned_run (actions : List Action) : (run actions).Owned := by
  induction actions using List.reverseRecOn with
  | nil => exact owned_empty
  | append_singleton actions action ih =>
    rw [run_concat]
    exact (ih.step action).1

/-- Along every interleaving, each connection that was opened to the end is the pooled one of its
key or has been closed, and an acquire returns the pooled connection of its key. Hence at most one
connection for each host and port is not closed. -/
theorem run_ownership (actions : List Action) :
    (∀ e ∈ (run actions).completed, (run actions).pool.pooled? e.1 = some e.2 ∨
        (run actions).pool.isReleased e.2 = true) ∧
      (∀ action e, ((run actions).step action).1 = some e →
        ((run actions).step action).2.pool.pooled? e.1 = some e.2) ∧
      (∀ e ∈ (run actions).completed, ∀ e' ∈ (run actions).completed, e.1 = e'.1 →
        (run actions).pool.isReleased e.2 = false → (run actions).pool.isReleased e'.2 = false →
          e = e') ∧
      ∀ host port host' port',
        key (.text host) (.int port) = key (.text host') (.int port') →
          host = host' ∧ port = port' := by
  have h := owned_run actions
  refine ⟨h.completed, fun action ↦ (h.step action).2, fun e he e' he' hkey hopen hopen' ↦ ?_,
    fun _ _ _ _ ↦ key_inj⟩
  have hpooled := (h.completed e he).resolve_right (by simp [hopen])
  have hpooled' := (h.completed e' he').resolve_right (by simp [hopen'])
  rw [hkey, hpooled', Option.some.injEq] at hpooled
  exact Prod.ext hkey hpooled.symm

-- Two acquires of one key wait at once. The second one to finish returns the connection of the
-- first, and its own is closed.
example : ((run [.start "h" 70 false, .start "h" 70 false, .finish 1]).step (.finish 0)).1 =
      some ("h:70", 1) ∧
    (run [.start "h" 70 false, .start "h" 70 false, .finish 1, .finish 0]).completed =
      [("h:70", 1), ("h:70", 0)] ∧
    (run [.start "h" 70 false, .start "h" 70 false, .finish 1, .finish 0]).pool.isReleased 0 := by
  decide +kernel

end Traffic

end TextProtocol.Pool
