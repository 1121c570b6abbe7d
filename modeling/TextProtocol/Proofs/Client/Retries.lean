import Mathlib.Data.ENat.Lattice
import TextProtocol.Proofs.Client.Cleanup
import TextProtocol.Proofs.Value.Order

/-!
# How often a request is tried

A request that fails for the connection or for time is tried again after a pause, as often as the
client is set to. `attempt` is the row of attempts that there would be if none of them was the last
one, and `finalPlace` is the place of the first of them that is not tried again. A request stops
there, or earlier when it has no more attempts left, and it ends as its last attempt does,
`request_eq_attempt`.

Nothing within an attempt is a pause, `unpausing_exchange`. So the pauses that are recorded tell the
attempts apart, and there is one between each attempt and the next.
-/

namespace TextProtocol

def Event.isPause : Event → Bool
  | .paused _ => true
  | .opening _ | .written .. | .received .. | .closed _ => false

/-! ## What happens without a pause -/

namespace Pool

variable {p q r : Pool}

/-- Whatever happens from one pool to another, it is no pause. -/
def Unpaused (p q : Pool) : Prop :=
  ∃ more, q.events = p.events ++ more ∧ ∀ e ∈ more, e.isPause = false

theorem Unpaused.of_events (h : q.events = p.events) : Unpaused p q :=
  ⟨[], by rw [h, List.append_nil], by simp⟩

theorem Unpaused.trans (h : Unpaused p q) (h' : Unpaused q r) : Unpaused p r := by
  obtain ⟨more, hq, hmore⟩ := h
  obtain ⟨later, hr, hlater⟩ := h'
  exact ⟨more ++ later, by rw [hr, hq, List.append_assoc], List.forall_mem_append.mpr
    ⟨hmore, hlater⟩⟩

theorem Unpaused.record {e : Event} (he : e.isPause = false) (h : q.events = p.events) :
    Unpaused p (q.record e) :=
  ⟨[e], by rw [Pool.record, h], by simpa using he⟩

theorem Unpaused.lookup (p : Pool) (key : String) : Unpaused p (p.lookup key).2 := by
  rcases p.lookup_cases key with ⟨n, -, -, heq⟩ | ⟨n, -, -, heq⟩ | ⟨-, heq⟩
  · exact .of_events (by rw [heq])
  · rw [heq]
    exact .record rfl rfl
  · exact .of_events (by rw [heq])

theorem Unpaused.complete (p : Pool) (key : String) (n : Nat) :
    Unpaused p (p.complete key n).2 := by
  have hlookup := Unpaused.lookup p key
  rw [Pool.complete]
  revert hlookup
  rcases p.lookup key with ⟨winner | winner, q⟩
  · intro hlookup
    exact hlookup.trans (.of_events rfl)
  · intro hlookup
    exact hlookup.trans (.record rfl rfl)

theorem Unpaused.discard (p : Pool) (key : String) (n : Nat) :
    Unpaused p (p.discard key (some n)) := by
  rw [Pool.discard]
  refine .record rfl ?_
  split <;> rfl

end Pool

namespace Client

open Pool (Unpaused)

section Unpausing

variable {ε α β : Type}

/-- A computation without a pause. It does not change either what ends waits that never end. -/
structure Unpausing (x : ExceptT ε (StateM Network) α) : Prop where
  ends : ∀ net, Ends x net
    (fun _ after ↦ after.interrupt = net.interrupt ∧ Unpaused net.pool after.pool)
    fun _ after ↦ after.interrupt = net.interrupt ∧ Unpaused net.pool after.pool

theorem Unpausing.bind {x : ExceptT ε (StateM Network) β} {f : β → ExceptT ε (StateM Network) α}
    (hx : Unpausing x) (hf : ∀ b, Unpausing (f b)) : Unpausing (x >>= f) := by
  refine ⟨fun net ↦ ?_⟩
  rw [ends_bind]
  refine (hx.ends net).mono (fun b between ⟨hinterrupt, hpool⟩ ↦ ?_) fun _ _ h ↦ h
  exact ((hf b).ends between).mono (fun _ _ h ↦ ⟨h.1.trans hinterrupt, hpool.trans h.2⟩)
    fun _ _ h ↦ ⟨h.1.trans hinterrupt, hpool.trans h.2⟩

theorem Unpausing.of_eq {x : ExceptT ε (StateM Network) α}
    (h : ∀ net, Ends x net (fun _ after ↦ after = net) fun _ after ↦ after = net) :
    Unpausing x where
  ends net := (h net).mono (fun _ _ heq ↦ heq ▸ ⟨rfl, .of_events rfl⟩)
    fun _ _ heq ↦ heq ▸ ⟨rfl, .of_events rfl⟩

theorem unpausing_withPool {f : Pool → α × Pool} (h : ∀ p, Unpaused p (f p).2) :
    Unpausing (withPool f : ExceptT ε (StateM Network) α) where
  ends net := (ends_withPool f).mpr ⟨rfl, h net.pool⟩

theorem unpausing_changePool {f : Pool → Pool} (h : ∀ p, Unpaused p (f p)) :
    Unpausing (changePool f : ExceptT ε (StateM Network) Unit) :=
  unpausing_withPool h

theorem unpausing_pure (a : α) : Unpausing (pure a : ExceptT ε (StateM Network) α) :=
  .of_eq fun _ ↦ rfl

theorem unpausing_throw (e : ε) : Unpausing (throw e : ExceptT ε (StateM Network) α) :=
  .of_eq fun _ ↦ rfl

theorem unpausing_get : Unpausing (get : ExceptT ε (StateM Network) Network) :=
  .of_eq fun _ ↦ rfl

theorem unpausing_lift {x : Talk β} (hx : Unpausing x) :
    Unpausing (ExceptT.lift x.run : ExceptT ε (StateM Network) (Except Trouble β)) where
  ends net := ends_lift.mpr (hx.ends net)

end Unpausing

/-! ## One attempt -/

theorem unpausing_write (n : Nat) (data : Bytes) : Unpausing (write n data) := by
  refine .bind unpausing_get fun net ↦ ?_
  refine .bind (unpausing_changePool fun p ↦ .record rfl rfl) fun _ ↦ ?_
  split
  · exact unpausing_throw _
  · exact unpausing_pure _

theorem unpausing_receive {α : Type} (n : Nat) (f : List Arrival → Received α) :
    Unpausing (receive n f) := by
  refine .bind unpausing_get fun net ↦ ?_
  refine .bind (unpausing_changePool fun p ↦ .record rfl rfl) fun _ ↦ ?_
  refine .of_eq fun net ↦ ?_
  rw [ends_mk]
  split <;> rfl

theorem unpausing_handshake (c : Client) (n : Nat) : Unpausing (c.handshake n) := by
  rw [handshake]
  split
  · exact unpausing_pure _
  · refine .bind (unpausing_write ..) fun _ ↦ ?_
    split
    · exact unpausing_pure _
    · exact unpausing_receive ..

theorem unpausing_discard (c : Client) (n : Nat) : Unpausing (c.discard n) :=
  unpausing_changePool fun p ↦ .discard p c.address n

theorem unpausing_interrupted (limit : Value) (timeout : Error) :
    Unpausing (interrupted limit timeout) :=
  .of_eq fun _ ↦ (ends_interrupted ..).mono (fun _ _ h ↦ h) fun _ _ h ↦ h.elim

theorem unpausing_openConnection (c : Client) (limit : Value) :
    Unpausing (c.openConnection limit) := by
  refine .bind (unpausing_changePool fun p ↦ .record rfl rfl) fun _ ↦ .bind ?_ fun offer ↦ ?_
  · exact ⟨fun net ↦ ends_nextOffer.mpr ⟨rfl, .of_events rfl⟩⟩
  · cases offer with
    | refuse | timeout => exact unpausing_throw _
    | silence => exact .bind (unpausing_interrupted ..) fun _ ↦ unpausing_throw _
    | accept peer =>
      exact .bind (unpausing_withPool fun p ↦ .of_events rfl) fun n ↦
        unpausing_withPool fun p ↦ .complete p c.address n

theorem unpausing_readyConnection (c : Client) (limit : Value) :
    Unpausing (c.readyConnection limit) := by
  refine .bind (.of_eq fun _ ↦ (ends_checkLimit limit).mono (fun _ _ h ↦ h) fun _ _ h ↦ h.1)
    fun _ ↦ .bind (.bind (unpausing_withPool fun p ↦ .lookup p c.address) fun found ↦ ?_)
    fun n ↦ .bind unpausing_get fun net ↦ ?_
  · cases found with
    | none => exact unpausing_openConnection ..
    | some n => exact unpausing_pure _
  · split
    · exact unpausing_pure _
    · refine .bind (unpausing_lift (unpausing_handshake c n)) fun shaken ↦ ?_
      cases shaken with
      | ok => exact .bind (unpausing_changePool fun p ↦ .of_events rfl) fun _ ↦ unpausing_pure _
      | error trouble =>
        refine .bind (unpausing_discard c n) fun _ ↦ .bind (.of_eq fun _ ↦ ?_) fun _ ↦
          unpausing_throw _
        exact (ends_connectError ..).mono (fun _ _ h ↦ h) fun _ _ h ↦ h.elim

theorem unpausing_exchange (c : Client) (payload : Bytes) (limit : Value) :
    Unpausing (c.exchange payload limit) := by
  have hconverse (n : Nat) : Unpausing (c.converse n payload) :=
    .bind (unpausing_write ..) fun _ ↦ unpausing_receive ..
  have hafter (n : Nat) (discards : Bool) {α : Type} {x : Run α} (hx : Unpausing x) :
      Unpausing (if discards then c.discard n >>= fun _ ↦ x else x) := by
    cases discards with
    | true => exact .bind (unpausing_discard c n) fun _ ↦ hx
    | false => exact hx
  refine .bind (unpausing_readyConnection ..) fun n ↦ .bind (unpausing_lift (hconverse n))
    fun talked ↦ ?_
  cases talked with
  | ok response => exact hafter n _ (unpausing_pure _)
  | error trouble =>
    refine hafter n _ (.bind (.of_eq fun _ ↦ ?_) fun _ ↦ unpausing_throw _)
    exact (ends_requestError ..).mono (fun _ _ h ↦ h.1) fun _ _ h ↦ h.elim

/-! ## One attempt after another -/

section Attempts

variable (c : Client) (payload : Bytes) (limit : Value) (net : Network)

/-- The network that an attempt at a request meets, by how many there were before it, if a pause
comes after each of these. -/
def networkAt : Nat → Network
  | 0 => net
  | i + 1 => (c.pause.run.run ((c.exchange payload limit).run.run (networkAt i)).2).2

/-- An attempt at a request, by how many there were before it: how it ends, and the network after
it. -/
def attempt (i : Nat) : Except Error Bytes × Network :=
  (c.exchange payload limit).run.run (c.networkAt payload limit net i)

/-- An attempt fails for the connection or for time, and the client knows it for that. -/
def Lapses : Except Error Bytes → Prop
  | .ok _ => False
  | .error e => ∃ k, e.class? = some k ∧ (k = .connection ∨ k = .timeout) ∧
      c.errorClasses.knows k = true

/-- The place, counted from one, of the first outcome that is neither a failure of the connection
nor one for time; infinite if there is none. -/
noncomputable def finalPlace (outcomes : ℕ → Except Error Bytes) : ℕ∞ :=
  ⨅ (i : ℕ) (_ : ¬c.Lapses (outcomes i)), ((i + 1 : ℕ) : ℕ∞)

variable {c payload limit net}

theorem lapses_error_iff {e : Error} :
    c.Lapses (.error e) ↔ e.isRetryable c.errorClasses = true := by
  rw [Lapses, Error.isRetryable, Option.any_eq_true]
  refine exists_congr fun k ↦ and_congr_right fun _ ↦ ?_
  rw [Bool.and_eq_true, Bool.or_eq_true, beq_iff_eq, beq_iff_eq]

/-- The first attempt may be set apart from the others. -/
theorem networkAt_succ (i : Nat) :
    c.networkAt payload limit net (i + 1) =
      c.networkAt payload limit (c.networkAt payload limit net 1) i := by
  induction i with
  | zero => rfl
  | succ i ih =>
    rw [networkAt, ih]
    rfl

theorem attempt_succ (i : Nat) :
    c.attempt payload limit net (i + 1) =
      c.attempt payload limit (c.networkAt payload limit net 1) i := by
  rw [attempt, networkAt_succ]
  rfl

theorem run_eq_iff {ε α : Type} {x : ExceptT ε (StateM Network) α} {t : Except ε α × Network} :
    (x.run.run net : Except ε α × Network) = t ↔
      Ends x net (fun a after ↦ (.ok a, after) = t) fun e after ↦ (.error e, after) = t := by
  rw [Ends]
  rcases (x.run.run net : Except ε α × Network) with ⟨r, after⟩
  cases r <;> exact Iff.rfl

/-- A client can pause, and nobody gives up while it does. -/
def Undisturbed (c : Client) (i : Interrupt) : Prop :=
  ∃ waits, c.settings.waits = .ok waits ∧ (i = .cancel → waits = false)

theorem ends_pause_of_undisturbed (h : c.Undisturbed net.interrupt) :
    Ends c.pause net
      (fun _ after ↦
        after = { net with pool := net.pool.record (.paused c.settings.retryDelay) })
      fun _ _ ↦ False := by
  obtain ⟨waits, hwaits, hcalm⟩ := h
  rw [pause, hwaits]
  simp only [ends_bind, ends_changePool, ends_get]
  split
  · rename_i hcancel
    rw [Bool.and_eq_true, beq_iff_eq] at hcancel
    rw [hcalm hcancel.1] at hcancel
    cases hcancel.2
  · rfl

theorem unpaused_attempt_zero (c : Client) (payload : Bytes) (limit : Value) (net : Network) :
    (c.attempt payload limit net 0).2.interrupt = net.interrupt ∧
      Unpaused net.pool (c.attempt payload limit net 0).2.pool :=
  ((unpausing_exchange c payload limit).ends net).after
    (P := fun after ↦ after.interrupt = net.interrupt ∧ Unpaused net.pool after.pool)
    (fun _ _ h ↦ h) fun _ _ h ↦ h

/-- The second attempt meets what the first one left, and a pause. -/
theorem networkAt_one (h : c.Undisturbed net.interrupt) (payload : Bytes) (limit : Value) :
    c.networkAt payload limit net 1 =
      { (c.attempt payload limit net 0).2 with
        pool := (c.attempt payload limit net 0).2.pool.record
          (.paused c.settings.retryDelay) } := by
  have hkept := (c.unpaused_attempt_zero payload limit net).1
  exact (ends_pause_of_undisturbed (hkept ▸ h)).after (fun _ _ heq ↦ heq) fun _ _ h ↦ h.elim

theorem undisturbed_networkAt_one (h : c.Undisturbed net.interrupt) (payload : Bytes)
    (limit : Value) : c.Undisturbed (c.networkAt payload limit net 1).interrupt := by
  rw [networkAt_one h payload limit]
  exact (c.unpaused_attempt_zero payload limit net).1 ▸ h

/-- Attempts at a request go on while they lapse and there are more of them. -/
theorem run_attempts (h : c.Undisturbed net.interrupt) (payload : Bytes) (limit : Value)
    (retries : Nat) :
    ∃ m ≤ retries, (∀ i < m, c.Lapses (c.attempt payload limit net i).1) ∧
      (m < retries → ¬c.Lapses (c.attempt payload limit net m).1) ∧
      (c.attempts payload limit retries).run.run net = c.attempt payload limit net m := by
  induction retries generalizing net with
  | zero => exact ⟨0, Nat.le_refl 0, by simp, fun h ↦ absurd h (Nat.lt_irrefl 0), rfl⟩
  | succ retries ih =>
    have hfirst := run_eq_iff.mp (show (c.exchange payload limit).run.run net =
      c.attempt payload limit net 0 from rfl)
    by_cases hlapses : c.Lapses (c.attempt payload limit net 0).1
    · obtain ⟨m, hm, hbefore, hlast, hrun⟩ := ih (undisturbed_networkAt_one h payload limit)
      simp only [← attempt_succ] at hbefore hlast hrun
      refine ⟨m + 1, Nat.succ_le_succ hm, fun i hi ↦ ?_, fun hlt ↦ ?_, run_eq_iff.mpr ?_⟩
      · cases i with
        | zero => exact hlapses
        | succ i => exact hbefore i (Nat.lt_of_succ_lt_succ hi)
      · exact hlast (Nat.lt_of_succ_lt_succ hlt)
      · -- The pause comes to an end, and the rest is a request of its own.
        rw [attempts, ends_tryCatch]
        refine hfirst.mono (fun a after heq ↦ ?_) fun e after heq ↦ ?_
        · rw [← heq] at hlapses
          exact hlapses.elim
        · rw [← heq, lapses_error_iff] at hlapses
          have hkept := (c.unpaused_attempt_zero payload limit net).1
          have hone := networkAt_one h payload limit
          rw [← heq] at hkept hone
          rw [if_pos hlapses, ends_bind]
          refine (ends_pause_of_undisturbed (hkept ▸ h)).mono (fun _ paused hpaused ↦ ?_)
            fun _ _ h ↦ h.elim
          rw [hpaused, ← hone]
          exact run_eq_iff.mp hrun
    · refine ⟨0, Nat.zero_le _, by simp, fun _ ↦ hlapses, run_eq_iff.mpr ?_⟩
      rw [attempts, ends_tryCatch]
      refine hfirst.mono (fun _ _ h ↦ h) fun e after heq ↦ ?_
      rw [← heq, lapses_error_iff] at hlapses
      rw [if_neg hlapses]
      exact heq

/-- The events of a row of attempts, with one pause between each of them and the next. -/
theorem exists_rows (h : c.Undisturbed net.interrupt) (m : Nat) :
    ∃ rows : List (List Event), rows.length = m + 1 ∧
      (∀ row ∈ rows, ∀ e ∈ row, e.isPause = false) ∧
      (c.attempt payload limit net m).2.pool.events =
        net.pool.events ++ [.paused c.settings.retryDelay].intercalate rows := by
  induction m generalizing net with
  | zero =>
    obtain ⟨row, hrow, hunpaused⟩ := (c.unpaused_attempt_zero payload limit net).2
    exact ⟨[row], rfl, by simpa using hunpaused, by rw [hrow, List.intercalate_singleton]⟩
  | succ m ih =>
    obtain ⟨row, hrow, hunpaused⟩ := (c.unpaused_attempt_zero payload limit net).2
    obtain ⟨rows, hlength, hrows, hevents⟩ := ih (undisturbed_networkAt_one h payload limit)
    have hne : rows ≠ [] := List.ne_nil_of_length_pos (by omega)
    refine ⟨row :: rows, by rw [List.length_cons, hlength],
      List.forall_mem_cons.mpr ⟨hunpaused, hrows⟩, ?_⟩
    rw [attempt_succ, hevents, networkAt_one h payload limit, Pool.record, hrow,
      List.intercalate_cons_of_ne_nil hne]
    simp only [List.append_assoc]

/-- Where the first outcome that does not lapse is told by what comes before it. -/
theorem succ_eq_min_finalPlace {outcomes : ℕ → Except Error Bytes} {m retries : ℕ}
    (hm : m ≤ retries) (hbefore : ∀ i < m, c.Lapses (outcomes i))
    (hlast : m < retries → ¬c.Lapses (outcomes m)) :
    ((m + 1 : ℕ) : ℕ∞) = min (c.finalPlace outcomes) (retries + 1 : ℕ) := by
  apply le_antisymm
  · refine le_min (le_iInf₂ fun i hi ↦ ?_) ?_
    · have hle : m ≤ i := Nat.le_of_not_lt fun hlt ↦ hi (hbefore i hlt)
      exact_mod_cast Nat.succ_le_succ hle
    · exact_mod_cast Nat.succ_le_succ hm
  · rcases Nat.lt_or_ge m retries with hlt | hge
    · exact (min_le_left _ _).trans (iInf₂_le m (hlast hlt))
    · refine (min_le_right _ _).trans ?_
      exact_mod_cast Nat.succ_le_succ hge

theorem exists_waits {s : Settings} (h : s.retryDelay.number?.isSome = true) :
    ∃ waits, s.waits = .ok waits := by
  rw [Settings.waits]
  cases hv : s.retryDelay with
  | bool | int | real => exact ⟨_, rfl⟩
  | _ =>
    rw [hv] at h
    cases h

theorem retries_of_integer? {s : Settings} {n : Int} (h : s.retryAttempts.integer? = some n) :
    s.retries = .ok (max n 0).toNat := by
  rw [Settings.retries]
  rcases Value.eq_of_integer? h with heq | ⟨heq, rfl⟩ | ⟨heq, rfl⟩
  · rw [heq]
    exact congrArg Except.ok (by omega)
  · rw [heq]
    rfl
  · rw [heq]
    rfl

/-- The time limit of a request: the one that is given, or else that of the client. -/
def limitOf (c : Client) (limit : Value) : Value :=
  if limit.isNull then c.timeout else limit

/-- A request is tried up to the first attempt that does not fail for the connection or for time,
but no more often than its client is set to and once more. It ends as its last attempt does. There
is one pause between each attempt and the next, and it is as long as the client is set to. -/
theorem request_eq_attempt (c : Client) {n : Int}
    (hretries : c.settings.retryAttempts.integer? = some n)
    (hdelay : c.settings.retryDelay.number?.isSome = true) (payload : Bytes) (limit : Value)
    (net : Network) (hcalm : net.interrupt = .cancel → c.settings.waits = .ok false) :
    ∃ m : ℕ,
      ((m + 1 : ℕ) : ℕ∞) =
        min (c.finalPlace fun i ↦ (c.attempt payload (c.limitOf limit) net i).1)
          ((max n 0).toNat + 1 : ℕ) ∧
      (c.request payload limit).run.run net = c.attempt payload (c.limitOf limit) net m ∧
      ∃ rows : List (List Event), rows.length = m + 1 ∧
        (∀ row ∈ rows, ∀ e ∈ row, e.isPause = false) ∧
        ((c.request payload limit).run.run net).2.pool.events =
          net.pool.events ++ [.paused c.settings.retryDelay].intercalate rows := by
  have hundisturbed : c.Undisturbed net.interrupt := by
    obtain ⟨waits, hwaits⟩ := exists_waits hdelay
    exact ⟨waits, hwaits, fun hcancel ↦ Except.ok.inj (hwaits.symm.trans (hcalm hcancel))⟩
  have hcount := retries_of_integer? hretries
  obtain ⟨m, hm, hbefore, hlast, hrun⟩ := run_attempts hundisturbed payload
    (c.limitOf limit) (max n 0).toNat
  have hrequest : (c.request payload limit).run.run net =
      c.attempt payload (c.limitOf limit) net m := by
    rw [request, hcount]
    exact hrun
  refine ⟨m, succ_eq_min_finalPlace hm hbefore hlast, hrequest, ?_⟩
  rw [hrequest]
  exact exists_rows hundisturbed m

/-- A client that tries a request up to three times, and takes the first bytes for a reply. -/
def persistent : Client where
  settings := { retryAttempts := .int 2 }
  host := "localhost"
  port := .int 7
  timeout := .null
  isComplete _ := .ok true

/-- A network in which the third attempt to connect is the first one to succeed. -/
def hesitant : Network where
  offers := [.refuse "not yet", .timeout, .accept { arrivals := [.data [1]] }]

theorem request_eq_attempt_third :
    ∃ rows : List (List Event), rows.length = 3 ∧
      Fault.gives ((persistent.request [] .null).run.run hesitant).1 (· == [1]) = true ∧
      (∀ row ∈ rows, ∀ e ∈ row, e.isPause = false) ∧
      ((persistent.request [] .null).run.run hesitant).2.pool.events =
        [.paused persistent.settings.retryDelay].intercalate rows := by
  obtain ⟨m, hm, hrun, rows, hlength, hrows, hevents⟩ :=
    request_eq_attempt persistent rfl rfl [] .null hesitant (fun h ↦ by cases h)
  have hreply :
      Fault.gives ((persistent.request [] .null).run.run hesitant).1 (· == [1]) = true := by
    decide
  have hle : m + 1 ≤ 3 := by
    have hmin := hm.trans_le (min_le_right _ _)
    exact_mod_cast hmin
  refine ⟨rows, ?_, hreply, hrows, hevents⟩
  -- Neither of the first two attempts brings a reply.
  rw [hrun] at hreply
  rcases m with _ | _ | _ | m
  · cases hreply
  · cases hreply
  · exact hlength
  · omega

end Attempts

end Client

end TextProtocol
