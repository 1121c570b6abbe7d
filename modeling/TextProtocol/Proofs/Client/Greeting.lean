import TextProtocol.Proofs.Client.Cleanup
import TextProtocol.Proofs.Client.Handshake

/-!
# No request before the greeting

A client that greets its server writes nothing else on a connection before it has received the
expected reply there. This is a property of the order of events, `Polite`, and it holds of all that
happens in a sequence of calls: connections are opened, fail, are tried again and are used again.

It is carried along by `Mannerly`, which adds what a pool knows about the past: a connection that is
ready has had its reply, and a connection that has just been opened has not been written to. What
does neither write nor make a connection ready is `Silent` and keeps that.

Only a client that has something to say greets. One that expects a reply without a greeting of its
own does not wait for it.
-/

namespace TextProtocol

/-! ## The order of events -/

def Event.receivedOn (n : Nat) : Event → Bytes
  | .received m arrivals => if m = n then arrivals.flatMap Arrival.bytes else []
  | .opening _ | .written .. | .closed _ | .paused _ => []

def receivedOn (n : Nat) (events : List Event) : Bytes :=
  events.flatMap (Event.receivedOn n)

theorem receivedOn_append (n : Nat) (events more : List Event) :
    receivedOn n (events ++ more) = receivedOn n events ++ receivedOn n more :=
  List.flatMap_append

theorem infix_receivedOn_append {expected : Bytes} {n : Nat} {events : List Event}
    (h : expected <:+: receivedOn n events) (more : List Event) :
    expected <:+: receivedOn n (events ++ more) := by
  rw [receivedOn_append]
  exact h.trans (List.prefix_append ..).isInfix

/-- Whatever is written on a connection is the greeting, before anything else is written there, or
comes after the expected reply. -/
def Polite (greeting expected : Bytes) (events : List Event) : Prop :=
  ∀ before n data after, events = before ++ .written n data :: after →
    (data = greeting ∧ ∀ other, .written n other ∉ before) ∨ expected <:+: receivedOn n before

namespace Polite

variable {greeting expected : Bytes} {events more : List Event}

theorem nil : Polite greeting expected [] := by
  intro before n data after heq
  simp at heq

/-- One more event is fine unless it is a write that is neither the greeting nor after the reply. -/
theorem concat (h : Polite greeting expected events) {e : Event}
    (he : ∀ n data, e = .written n data →
      (data = greeting ∧ ∀ other, .written n other ∉ events) ∨
        expected <:+: receivedOn n events) :
    Polite greeting expected (events ++ [e]) := by
  intro before n data after heq
  rcases List.eq_nil_or_concat after with rfl | ⟨front, last, rfl⟩
  · obtain ⟨rfl, hlast⟩ := List.append_inj' heq rfl
    exact he n data (List.singleton_inj.mp hlast)
  · rw [List.concat_eq_append, ← List.cons_append, ← List.append_assoc] at heq
    obtain ⟨hevents, -⟩ := List.append_inj' heq rfl
    exact h before n data front hevents

theorem append (h : Polite greeting expected events)
    (hmore : ∀ n data, Event.written n data ∉ more) :
    Polite greeting expected (events ++ more) := by
  induction more generalizing events with
  | nil => rwa [List.append_nil]
  | cons e more ih =>
    have hfirst : Polite greeting expected (events ++ [e]) := by
      refine h.concat fun n data heq ↦ ?_
      exact absurd (heq ▸ List.mem_cons_self) (hmore n data)
    rw [← List.singleton_append, ← List.append_assoc]
    exact ih hfirst fun n data hmem ↦ hmore n data (List.mem_cons_of_mem _ hmem)

end Polite

/-! ## Pools -/

namespace Pool

variable {p q r : Pool} {key : String} {n : Nat} {greeting expected : Bytes}

/-- Nothing is written from one pool to another, and no connection becomes ready. -/
structure Silent (p q : Pool) : Prop where
  events : ∃ more, q.events = p.events ++ more ∧ ∀ n data, Event.written n data ∉ more
  length_le : p.connections.length ≤ q.connections.length
  isReady : ∀ n, q.isReady n = true → p.isReady n = true

theorem Silent.refl (p : Pool) : Silent p p :=
  ⟨⟨[], (List.append_nil _).symm, by simp⟩, Nat.le_refl _, fun _ h ↦ h⟩

theorem Silent.trans (h : Silent p q) (h' : Silent q r) : Silent p r where
  events := by
    obtain ⟨more, hq, hmore⟩ := h.events
    obtain ⟨later, hr, hlater⟩ := h'.events
    refine ⟨more ++ later, by rw [hr, hq, List.append_assoc], fun n data hmem ↦ ?_⟩
    rcases List.mem_append.mp hmem with hmem | hmem
    · exact hmore n data hmem
    · exact hlater n data hmem
  length_le := Nat.le_trans h.length_le h'.length_le
  isReady n hn := h.isReady n (h'.isReady n hn)

theorem Silent.isPrefix (h : Silent p q) : p.events <+: q.events := by
  obtain ⟨more, hq, -⟩ := h.events
  exact ⟨more, hq.symm⟩

theorem Silent.record (h : Silent p q) {e : Event} (he : ∀ n data, e ≠ .written n data) :
    Silent p (q.record e) := by
  refine h.trans ⟨⟨[e], rfl, fun n data hmem ↦ ?_⟩, Nat.le_refl _, fun _ h ↦ h⟩
  exact he n data (List.mem_singleton.mp hmem).symm

theorem Silent.update {f : Connection → Connection} (hf : ∀ c, (f c).ready = c.ready) :
    Silent p (p.update n f) where
  events := ⟨[], (List.append_nil _).symm, by simp⟩
  length_le := Nat.le_of_eq (length_connections_update p n f).symm
  isReady m hm := by
    rw [Pool.isReady, getElem?_update] at hm
    rw [Pool.isReady]
    cases hc : p.connections[m]? with
    | none =>
      rw [hc] at hm
      exact hm
    | some c =>
      rw [hc, Option.map_some, Option.any_some] at hm
      rw [Option.any_some]
      split at hm
      · rwa [hf] at hm
      · exact hm

theorem Silent.close (p : Pool) (n : Nat) : Silent p (p.close n) := by
  have hupdate : Silent p (p.update n Connection.close) := .update fun _ ↦ rfl
  exact hupdate.record fun _ _ h ↦ by cases h

/-- Which connection is pooled for a key makes no difference. -/
theorem Silent.entries (entries : List (String × Nat)) : Silent p { p with entries } :=
  ⟨⟨[], (List.append_nil _).symm, by simp⟩, Nat.le_refl _, fun _ h ↦ h⟩

theorem Silent.opened (p : Pool) {c : Connection} (hc : c.ready = false) :
    Silent p (p.opened c).2 where
  events := ⟨[], (List.append_nil _).symm, by simp⟩
  length_le := by
    rw [Pool.opened, List.length_append]
    exact Nat.le_add_right ..
  isReady m hm := by
    rw [Pool.isReady, Pool.opened] at hm
    by_cases hlt : m < p.connections.length
    · rwa [List.getElem?_append_left hlt] at hm
    · rw [List.getElem?_append_right (Nat.le_of_not_lt hlt), Option.any_eq_true] at hm
      obtain ⟨other, hother, hready⟩ := hm
      rw [List.mem_singleton.mp (List.mem_of_getElem? hother), hc] at hready
      cases hready

theorem Silent.lookup (p : Pool) (key : String) : Silent p (p.lookup key).2 := by
  rcases p.lookup_cases key with ⟨m, -, -, heq⟩ | ⟨m, -, -, heq⟩ | ⟨-, heq⟩
  · rw [heq]
    exact .refl p
  · rw [heq]
    exact (Silent.entries _).trans (.close _ m)
  · rw [heq]
    exact .refl p

theorem Silent.complete (p : Pool) (key : String) (n : Nat) : Silent p (p.complete key n).2 := by
  have hlookup := Silent.lookup p key
  rw [Pool.complete]
  revert hlookup
  rcases p.lookup key with ⟨winner | winner, q⟩
  · intro hlookup
    exact hlookup.trans (.entries _)
  · intro hlookup
    exact hlookup.trans (.close _ n)

theorem Silent.discard (p : Pool) (key : String) (n : Nat) : Silent p (p.discard key (some n)) := by
  rw [Pool.discard]
  refine .trans ?_ (.close _ n)
  split
  · exact .entries _
  · exact .refl p

/-- What has happened so far is polite, and the pool knows enough about it to go on: connections
that are ready have had their reply, and what was written went to connections of the pool. -/
structure Mannerly (greeting expected : Bytes) (p : Pool) : Prop where
  polite : Polite greeting expected p.events
  ready : ∀ n, p.isReady n = true → expected <:+: receivedOn n p.events
  written : ∀ n data, Event.written n data ∈ p.events → n < p.connections.length

theorem mannerly_empty : Mannerly greeting expected {} where
  polite := .nil
  ready n hn := by cases hn
  written n data h := absurd h List.not_mem_nil

theorem Mannerly.silent (h : Mannerly greeting expected p) (hq : Silent p q) :
    Mannerly greeting expected q := by
  obtain ⟨more, heq, hmore⟩ := hq.events
  refine ⟨?_, fun n hn ↦ ?_, fun n data hmem ↦ ?_⟩
  · rw [heq]
    exact h.polite.append hmore
  · rw [heq]
    exact infix_receivedOn_append (h.ready n (hq.isReady n hn)) more
  · rw [heq] at hmem
    rcases List.mem_append.mp hmem with hmem | hmem
    · exact Nat.lt_of_lt_of_le (h.written n data hmem) hq.length_le
    · exact absurd hmem (hmore n data)

/-- A write is fine if it is the first on its connection and the greeting, or if the reply has been
received. -/
theorem Mannerly.write (h : Mannerly greeting expected p) (hn : n < p.connections.length)
    {data : Bytes}
    (hdata : (data = greeting ∧ ∀ other, Event.written n other ∉ p.events) ∨
      expected <:+: receivedOn n p.events) {f : Connection → Connection}
    (hf : ∀ c, (f c).ready = c.ready) :
    Mannerly greeting expected ((p.update n f).record (.written n data)) := by
  refine ⟨h.polite.concat fun m other heq ↦ ?_, fun m hm ↦ ?_, fun m other hmem ↦ ?_⟩
  · cases heq
    exact hdata
  · exact infix_receivedOn_append (h.ready m ((Silent.update hf).isReady m hm)) _
  · rw [record, length_connections_update]
    rcases List.mem_append.mp hmem with hmem | hmem
    · exact h.written m other hmem
    · cases List.mem_singleton.mp hmem
      exact hn

/-- A connection becomes ready when the reply has been received. -/
theorem Mannerly.makeReady (h : Mannerly greeting expected p)
    (hn : expected <:+: receivedOn n p.events) :
    Mannerly greeting expected (p.update n fun c ↦ { c with ready := true }) := by
  refine ⟨h.polite, fun m hm ↦ ?_, fun m data hmem ↦ ?_⟩
  · by_cases hmn : n = m
    · exact hmn ▸ hn
    · refine h.ready m ?_
      rw [isReady, getElem?_update] at hm
      rw [isReady]
      simpa only [if_neg hmn, Option.map_id'] using hm
  · rw [length_connections_update]
    exact h.written m data hmem

end Pool

/-! ## Calls -/

namespace Client

open Fault (exists_of_gives)
open Pool

variable {c : Client} {net : Network} {n : Nat} {limit : Value} {payload : Bytes}
  {greeting expected : Bytes}

/-- A client greets its servers and expects a reply. -/
structure Greets (c : Client) (greeting expected : Bytes) : Prop where
  send : c.settings.handshakeSend = some greeting
  expect : c.settings.handshakeExpect = some expected

theorem ends_write_mannerly (h : net.pool.Mannerly greeting expected)
    (hn : n < net.pool.connections.length) {data : Bytes}
    (hdata : (data = greeting ∧ ∀ other, Event.written n other ∉ net.pool.events) ∨
      expected <:+: receivedOn n net.pool.events) :
    Ends (write n data) net (fun _ after ↦ after.pool.Mannerly greeting expected)
      fun _ after ↦ after.pool.Mannerly greeting expected := by
  have hwrite := h.write hn hdata (f := fun c ↦ { c with writes := c.writes + 1 }) fun _ ↦ rfl
  simp only [write, ends_bind, ends_get, ends_changePool]
  split
  · exact hwrite
  · exact hwrite

theorem ends_receive_silent {α : Type} (n : Nat) (f : List Arrival → Received α) :
    Ends (receive n f) net
      (fun a after ↦ Silent net.pool after.pool ∧ ∃ arrivals, (f arrivals).result = .ok a ∧
        after.pool.events = net.pool.events ++
          [.received n (arrivals.take (arrivals.length - (f arrivals).rest.length))])
      fun _ after ↦ Silent net.pool after.pool := by
  have hsilent {g : Connection → Connection} (hg : ∀ c, (g c).ready = c.ready)
      (arrivals : List Arrival) :
      Silent net.pool ((net.pool.update n g).record (.received n arrivals)) :=
    (Silent.update hg).record fun _ _ h ↦ by cases h
  simp only [receive, ends_bind, ends_get, ends_changePool, ends_mk]
  split
  · rename_i a heq
    refine ⟨hsilent ?_ _, _, heq, rfl⟩
    exact fun _ ↦ rfl
  · refine hsilent ?_ _
    exact fun _ ↦ rfl

/-- After a handshake on a connection that has not been written to, the reply has been received. -/
theorem ends_handshake_mannerly (hc : c.Greets greeting expected)
    (h : net.pool.Mannerly greeting expected) (hn : n < net.pool.connections.length)
    (hfresh : ∀ other, Event.written n other ∉ net.pool.events) :
    Ends (c.handshake n) net
      (fun _ after ↦ after.pool.Mannerly greeting expected ∧
        expected <:+: receivedOn n after.pool.events)
      fun _ after ↦ after.pool.Mannerly greeting expected := by
  rw [handshake, hc.send]
  simp only [hc.expect, ends_bind]
  refine (ends_write_mannerly h hn (.inl ⟨rfl, hfresh⟩)).mono (fun _ greeted hgreeted ↦ ?_)
    fun _ _ h ↦ h
  refine (ends_receive_silent n (awaitReply expected [])).mono (fun _ after hafter ↦ ?_)
    fun _ _ hsilent ↦ hgreeted.silent hsilent
  obtain ⟨hsilent, arrivals, hok, hevents⟩ := hafter
  refine ⟨hgreeted.silent hsilent, ?_⟩
  obtain ⟨taken, heq, hwithin⟩ := exists_append_of_awaitReply expected [] arrivals
  have hreceived : receivedOn n [.received n taken] = taken.flatMap Arrival.bytes := by
    simp [receivedOn, Event.receivedOn]
  rw [hevents, Arrival.take_of_eq_append heq, receivedOn_append, hreceived]
  exact (hwithin hok).trans (List.suffix_append ..).isInfix

/-- A connection for a request is ready already, or has just been opened. -/
theorem ends_acquire_silent (h : net.pool.Tidy c.address) :
    Ends (c.acquire limit) net
      (fun n after ↦ Silent net.pool after.pool ∧
        (after.pool.isReady n = true ∨ net.pool.connections.length ≤ n))
      fun _ after ↦ Silent net.pool after.pool := by
  have hlookup := Silent.lookup net.pool c.address
  rw [acquire, ends_bind, ends_withPool]
  rcases h.lookup with ⟨n, heq, -, hready⟩ | ⟨q, heq, hq⟩
  · rw [heq]
    exact ⟨.refl _, .inl hready⟩
  · rw [heq] at hlookup ⊢
    have hopening : Silent net.pool (q.record (.opening c.address)) :=
      hlookup.record fun _ _ h ↦ by cases h
    dsimp only
    rw [openConnection, ends_bind, ends_changePool, ends_bind, ends_nextOffer]
    split
    · exact hopening
    · exact hopening
    · rw [ends_bind]
      exact (ends_interrupted ..).mono (fun _ _ heq ↦ heq ▸ hopening) fun _ _ h ↦ h.elim
    · rename_i peer _
      simp only [ends_bind, ends_withPool]
      refine ⟨(hopening.trans (.opened _ rfl)).trans (.complete ..), .inr ?_⟩
      have hclear : (q.record (.opening c.address)).Clear c.address :=
        hq.steady (.record (.refl _) _)
      rw [hclear.complete_opened_eq]
      exact hopening.length_le

/-- A connection for a request is ready, and a pool that is mannerly stays so on the way to it. -/
theorem ends_readyConnection_mannerly (hc : c.Greets greeting expected)
    (h : net.pool.Mannerly greeting expected) (htidy : net.pool.Tidy c.address) :
    Ends (c.readyConnection limit) net (fun _ after ↦ after.pool.Mannerly greeting expected)
      fun _ after ↦ after.pool.Mannerly greeting expected := by
  rw [readyConnection, ends_bind]
  refine (ends_checkLimit limit).mono (fun _ after hafter ↦ ?_) fun _ _ h' ↦ h'.1 ▸ h
  subst hafter
  rw [ends_bind]
  refine ((ends_acquire htidy).and (ends_acquire_silent htidy)).mono ?_
    fun _ _ h' ↦ h.silent h'.2
  rintro n acquired ⟨hn, hsilent, hready⟩
  have hacquired := h.silent hsilent
  rw [ends_bind, ends_get]
  split
  · exact hacquired
  · rename_i hnot
    -- The connection has just been opened, so nothing has been written to it.
    have hnew : after.pool.connections.length ≤ n := hready.resolve_left hnot
    have hfresh (other : Bytes) : Event.written n other ∉ acquired.pool.events := by
      obtain ⟨more, heq, hmore⟩ := hsilent.events
      rw [heq, List.mem_append, not_or]
      refine ⟨fun hmem ↦ ?_, hmore n other⟩
      exact absurd (h.written n other hmem) (Nat.not_lt_of_le hnew)
    have hlt := hn.wellFormed.pooled?_lt hn.pooled?
    rw [ends_bind, ends_lift]
    refine (ends_handshake_mannerly hc hacquired hlt hfresh).mono (fun _ shaken hshaken ↦ ?_)
      fun t shaken hshaken ↦ ?_
    · exact hshaken.1.makeReady hshaken.2
    · simp only [Client.discard, ends_bind, ends_changePool]
      have hdiscarded := hshaken.silent (.discard shaken.pool c.address n)
      exact (ends_connectError ..).mono (fun _ _ heq ↦ heq ▸ hdiscarded) fun _ _ h ↦ h.elim

/-- What is written on a connection that is ready comes after the reply. -/
theorem ends_write_of_ready (h : net.pool.Mannerly greeting expected)
    (hn : net.pool.Holds c.address n) (hready : net.pool.isReady n = true) (data : Bytes) :
    Ends (write n data) net (fun _ after ↦ after.pool.Mannerly greeting expected)
      fun _ after ↦ after.pool.Mannerly greeting expected :=
  ends_write_mannerly h (hn.wellFormed.pooled?_lt hn.pooled?) (.inr (h.ready n hready))

theorem ends_exchange_mannerly (hc : c.Greets greeting expected)
    (h : net.pool.Mannerly greeting expected) (htidy : net.pool.Tidy c.address) :
    Ends (c.exchange payload limit) net (fun _ after ↦ after.pool.Mannerly greeting expected)
      fun _ after ↦ after.pool.Mannerly greeting expected := by
  rw [exchange, ends_bind]
  refine ((ends_readyConnection htidy).and (ends_readyConnection_mannerly hc h htidy)).mono ?_
    fun _ _ h' ↦ h'.2
  rintro n held ⟨⟨hn, hready⟩, hheld⟩
  have hconverse : Ends (c.converse n payload) held
      (fun _ after ↦ after.pool.Mannerly greeting expected)
      fun _ after ↦ after.pool.Mannerly greeting expected := by
    rw [converse, ends_bind]
    refine (ends_write_of_ready hheld hn hready payload).mono (fun _ written hwritten ↦ ?_)
      fun _ _ h ↦ h
    exact (ends_receive_silent n _).mono (fun _ _ h' ↦ hwritten.silent h'.1)
      fun _ _ h' ↦ hwritten.silent h'
  rw [ends_bind, ends_lift]
  refine hconverse.mono (fun _ talked htalked ↦ ?_) fun t talked htalked ↦ ?_
  · have hdiscarded := htalked.silent (.discard talked.pool c.address n)
    dsimp only
    split
    · exact hdiscarded
    · exact htalked
  · have hdiscarded := htalked.silent (.discard talked.pool c.address n)
    dsimp only
    split
    · simp only [Client.discard, ends_bind, ends_changePool]
      exact (ends_requestError limit t).mono (fun _ _ heq ↦ heq.1 ▸ hdiscarded) fun _ _ h ↦ h.elim
    · rw [ends_bind]
      exact (ends_requestError limit t).mono (fun _ _ heq ↦ heq.1 ▸ htalked) fun _ _ h ↦ h.elim

theorem ends_pause_silent (c : Client) :
    Ends c.pause net (fun _ after ↦ Silent net.pool after.pool)
      fun _ after ↦ Silent net.pool after.pool := by
  have hpaused : Silent net.pool (net.pool.record (.paused c.settings.retryDelay)) :=
    (Silent.refl _).record fun _ _ h ↦ by cases h
  rw [pause]
  split
  · exact .refl _
  · simp only [ends_bind, ends_changePool, ends_get]
    split
    · exact hpaused
    · exact hpaused

theorem ends_request_mannerly (hc : c.Greets greeting expected)
    (h : net.pool.Mannerly greeting expected) (htidy : net.pool.Tidy c.address) :
    Ends (c.request payload limit) net (fun _ after ↦ after.pool.Mannerly greeting expected)
      fun _ after ↦ after.pool.Mannerly greeting expected := by
  refine ends_request_of_exchange (P := (·.pool.Mannerly greeting expected)) ?_ ?_ htidy h
  · exact fun net limit htidy h ↦ ends_exchange_mannerly hc h htidy
  · intro net h
    exact (ends_pause_silent c).mono (fun _ _ hsilent ↦ h.silent hsilent)
      fun _ _ hsilent ↦ h.silent hsilent

theorem ends_disconnect_mannerly (h : net.pool.Mannerly greeting expected)
    (htidy : net.pool.Tidy c.address) :
    Ends c.disconnect net (fun _ after ↦ after.pool.Mannerly greeting expected)
      fun _ after ↦ after.pool.Mannerly greeting expected := by
  have hlookup := Silent.lookup net.pool c.address
  rw [disconnect, ends_bind, ends_withPool]
  rcases htidy.lookup with ⟨n, heq, hn, hready⟩ | ⟨q, heq, -⟩
  · have hdiscard (talked : Network) (htalked : talked.pool.Mannerly greeting expected) :
        (talked.pool.discard c.address (some n)).Mannerly greeting expected :=
      htalked.silent (.discard talked.pool c.address n)
    rw [heq]
    dsimp only
    split
    · exact hdiscard net h
    · exact hdiscard net h
    · rw [ends_bind, ends_lift]
      exact (ends_write_of_ready h hn hready _).mono (fun _ talked h ↦ hdiscard talked h)
        fun _ talked h ↦ hdiscard talked h
  · rw [heq] at hlookup ⊢
    exact h.silent hlookup

/-! ## Sequences of calls -/

theorem mannerly_after (hc : c.Greets greeting expected) (h : net.pool.Mannerly greeting expected)
    (htidy : net.pool.Tidy c.address) (move : Move) :
    (c.after net move).pool.Mannerly greeting expected := by
  cases move with
  | connect =>
    refine Ends.after (x := c.connect) (P := (·.pool.Mannerly greeting expected)) ?_
      (fun _ _ h ↦ h) fun _ _ h ↦ h
    rw [connect, ends_bind]
    exact ends_readyConnection_mannerly hc h htidy
  | request payload limit =>
    exact (ends_request_mannerly hc h htidy).after (P := (·.pool.Mannerly greeting expected))
      (fun _ _ h ↦ h) fun _ _ h ↦ h
  | disconnect =>
    exact (ends_disconnect_mannerly h htidy).after (P := (·.pool.Mannerly greeting expected))
      (fun _ _ h ↦ h) fun _ _ h ↦ h
  | peerClose n =>
    refine h.silent (.update ?_)
    exact fun _ ↦ rfl
  | interrupt i => exact h

theorem mannerly_afterAll (hc : c.Greets greeting expected) (offers : List Offer)
    (moves : List Move) : (c.afterAll offers moves).pool.Mannerly greeting expected := by
  have hrun : ∀ net : Network, net.pool.Tidy c.address → net.pool.Mannerly greeting expected →
      (moves.foldl c.after net).pool.Mannerly greeting expected := by
    induction moves with
    | nil => exact fun _ _ h ↦ h
    | cons move moves ih =>
      exact fun net htidy h ↦ ih _ (tidy_after htidy move) (mannerly_after hc h htidy move)
  exact hrun _ (.inl (clear_empty _)) mannerly_empty

/-! ## Clients without a greeting -/

/-- What has happened begins with a request on a new connection. -/
def Blurts (c : Client) (net : Network) : Prop :=
  [.opening c.address, .written 0 [0]] <+: net.pool.events

theorem collectReply_byte (untilClose : Bool) (isComplete : Bytes → Except Fault Bool) {t : Trouble}
    (h : (collectReply untilClose isComplete [] [.data [0]]).result = .error t) :
    ∃ f, t = .fault f := by
  rw [collectReply] at h
  cases untilClose with
  | true => cases h
  | false =>
    cases hlook : isComplete [0] with
    | error f =>
      simp only [List.nil_append, hlook] at h
      cases h
      exact ⟨f, rfl⟩
    | ok complete => cases complete <;> simp [hlook, collectReply, atEnd] at h

/-- Without a greeting, a request is sent as soon as there is a connection. -/
theorem ends_exchange_blurts (h : c.settings.handshakeSend = none) :
    Ends (c.exchange [0] (.int 1)) (networkOf [.data [0]]) (fun _ after ↦ c.Blurts after)
      fun e after ↦ c.Blurts after ∧ ∃ f, e = .fault f := by
  have hready : Ends (c.readyConnection (.int 1)) (networkOf [.data [0]])
      (fun n held ↦ n = 0 ∧ held.pool.connections = [{ arrivals := [.data [0]], ready := true }] ∧
        held.pool.events = [.opening c.address])
      fun _ _ ↦ False := by
    obtain ⟨⟨_, _, _, _, _, _, _, _, _⟩, _, _, _, _, _⟩ := c
    subst h
    exact ⟨rfl, rfl, rfl⟩
  rw [exchange, ends_bind]
  refine hready.mono ?_ fun _ _ h ↦ h.elim
  rintro _ held ⟨rfl, hconnections, hevents⟩
  have hconnection : held.pool.connections[0]? =
      some { arrivals := [.data [0]], ready := true } := by
    rw [hconnections]
    rfl
  rw [ends_bind, ends_lift]
  refine (ends_converse_of_connection hconnection rfl).mono ?_ ?_
  · rintro reply talked ⟨-, htalked, -⟩
    have hblurts : c.Blurts talked := by
      rw [Blurts, htalked, hevents]
      exact List.prefix_append [_, _] [_]
    dsimp only
    split
    · exact hblurts.trans (Silent.discard talked.pool c.address 0).isPrefix
    · exact hblurts
  · rintro t talked ⟨htrouble, htalked⟩
    obtain ⟨f, rfl⟩ := collectReply_byte _ _ (htrouble rfl)
    rw [hevents] at htalked
    exact ⟨htalked, f, rfl⟩

/-- A client that has no greeting sends its first request at once. -/
theorem blurts_of_handshakeSend (h : c.settings.handshakeSend = none) :
    c.Blurts (c.afterAll (networkOf [.data [0]]).offers [.request [0] (.int 1)]) := by
  have hexchange := ends_exchange_blurts h
  refine Ends.after (x := c.request [0] (.int 1)) (P := c.Blurts) ?_ (fun _ _ h ↦ h) fun _ _ h ↦ h
  rw [request]
  split
  · rename_i retries _
    cases retries with
    | zero => exact hexchange.mono (fun _ _ h ↦ h) fun _ _ h ↦ h.1
    | succ retries =>
      rw [attempts, ends_tryCatch]
      refine hexchange.mono (fun _ _ h ↦ h) ?_
      rintro _ after ⟨hafter, f, rfl⟩
      exact hafter
  · rw [ends_tryCatch]
    exact hexchange.mono (fun _ _ h ↦ h) fun _ _ h ↦ h.1

/-! ## Clients of a specification -/

def phraseBytes (text : String) : Bytes :=
  Utf8.ofString (Format.unescape text)

theorem unescapeChars_ne_nil {chars : List Char} (h : chars ≠ []) :
    Format.unescapeChars chars ≠ [] := by
  rw [Format.unescapeChars.eq_def]
  split
  · split <;> exact List.cons_ne_nil _ _
  · split <;> exact List.cons_ne_nil _ _
  · exact List.cons_ne_nil _ _
  · exact h

theorem phraseBytes_ne_nil {text : String} (h : text ≠ "") : phraseBytes text ≠ [] := by
  have hchars : text.toList ≠ [] := fun hnil ↦ h (String.toList_eq_nil_iff.mp hnil)
  refine FieldCheck.ofString_ne_nil fun hnil ↦ unescapeChars_ne_nil hchars ?_
  rw [Format.unescape] at hnil
  rw [← String.toList_ofList (l := Format.unescapeChars _), hnil]
  rfl

theorem phrase_of_ne {text : String} (h : text ≠ "") :
    (ClientSettings.phrase (some text)).map Utf8.ofString = some (phraseBytes text) := by
  rw [ClientSettings.phrase, Segment.separator?, Option.filter_some, if_pos (by simpa using h)]
  rfl

theorem handshake_of_ofProtocol? {p : Compiled.Protocol} {s : Settings}
    (h : Settings.ofProtocol? p = some s) {opening : Spec.Handshake}
    (hopening : p.connection.handshake = some opening) (hrequired : opening.required = some true) :
    s.handshakeSend = (ClientSettings.phrase opening.clientSends).map Utf8.ofString ∧
      s.handshakeExpect = (ClientSettings.phrase opening.serverResponds).map Utf8.ofString := by
  have hfilter : p.connection.handshake.filter (·.required == some true) = some opening := by
    rw [hopening, Option.filter_some, hrequired]
    rfl
  rw [Settings.ofProtocol?] at h
  split at h
  all_goals
    obtain ⟨timeout, -, h⟩ := Option.bind_eq_some_iff.mp h
    obtain ⟨delay, -, h⟩ := Option.bind_eq_some_iff.mp h
    cases h
    simp only [ClientSettings.ofProtocol, hfilter, Option.bind_some, and_self]

/-- Whatever happens, the client of a specification that wants a handshake sends no request on a
connection before it has received the expected reply there: exactly if it has a greeting. -/
theorem polite_afterAll_iff {spec : Spec} {protocol : Compiled.Protocol}
    (hcompile : Compiled.compile spec = .ok protocol) {connection : Spec.Connection}
    (hconnection : spec.connection = some connection) {opening : Spec.Handshake}
    (hopening : connection.handshake = some opening) (hrequired : opening.required = some true)
    {reply : String} (hresponds : opening.serverResponds = some reply) (hreply : reply ≠ "")
    {settings : Settings} (hsettings : Settings.ofProtocol? protocol = some settings)
    (host : String) (port timeout : Value) :
    let package := Codec.Package.ofProtocol protocol
    let c := ofSettings settings host port timeout package.isComplete (.ofPackage package)
    (∀ offers moves, Polite (phraseBytes (opening.clientSends.getD "")) (phraseBytes reply)
        (c.afterAll offers moves).pool.events) ↔
      ∃ greeting, greeting ≠ "" ∧ opening.clientSends = some greeting := by
  intro package c
  obtain ⟨-, -, -, -, -, hsame⟩ := Compiled.compile_spec hcompile
  rw [hconnection, Option.some.injEq] at hsame
  subst hsame
  obtain ⟨hsend, hexpect⟩ := handshake_of_ofProtocol? hsettings hopening hrequired
  rw [hresponds, phrase_of_ne hreply] at hexpect
  constructor
  · intro hpolite
    by_contra hnone
    -- Without a greeting there is a run that begins with a request.
    have hempty : opening.clientSends.getD "" = "" := by
      cases hsends : opening.clientSends with
      | none => rfl
      | some greeting =>
        by_contra hne
        exact hnone ⟨greeting, hne, hsends⟩
    have hsilent : c.settings.handshakeSend = none := by
      refine hsend.trans ?_
      cases hsends : opening.clientSends with
      | none => rfl
      | some greeting =>
        rw [hsends, Option.getD_some] at hempty
        rw [hempty]
        rfl
    obtain ⟨later, hlater⟩ := blurts_of_handshakeSend hsilent
    obtain ⟨hdata, -⟩ | hwithin := hpolite _ _ [.opening c.address] 0 [0] later hlater.symm
    · rw [hempty] at hdata
      cases hdata
    · exact phraseBytes_ne_nil hreply (List.infix_nil.mp hwithin)
  · rintro ⟨greeting, hne, hsends⟩ offers moves
    rw [hsends, phrase_of_ne hne] at hsend
    have hgreets : c.Greets (phraseBytes greeting) (phraseBytes reply) := ⟨hsend, hexpect⟩
    rw [hsends, Option.getD_some]
    exact (mannerly_afterAll hgreets offers moves).polite

/-- A protocol whose servers say OK when a connection opens. -/
def greetedSpec (clientSends : Option String) : Spec :=
  { countSpec with
    connection := some {
      handshake := some { required := some true, clientSends, serverResponds := some "OK" } } }

/-- A client that says HI waits for the OK before its first request. -/
theorem polite_afterAll_iff_hi :
    ∃ protocol settings, Compiled.compile (greetedSpec (some "HI")) = .ok protocol ∧
      Settings.ofProtocol? protocol = some settings ∧
      let package := Codec.Package.ofProtocol protocol
      let c := ofSettings settings "localhost" .null .null package.isComplete (.ofPackage package)
      ∀ offers moves, Polite (phraseBytes "HI") (phraseBytes "OK")
        (c.afterAll offers moves).pool.events := by
  obtain ⟨protocol, hprotocol, h⟩ : ∃ protocol,
      Compiled.compile (greetedSpec (some "HI")) = .ok protocol ∧
        (Settings.ofProtocol? protocol).isSome = true :=
    exists_of_gives (by decide +kernel)
  obtain ⟨settings, hsettings⟩ := Option.isSome_iff_exists.mp h
  refine ⟨protocol, settings, hprotocol, hsettings, ?_⟩
  exact (polite_afterAll_iff hprotocol rfl rfl rfl rfl (by decide) hsettings "localhost" .null
    .null).mpr ⟨"HI", by decide, rfl⟩

/-- A client that says nothing does not wait for the OK. -/
theorem request_precedes_reply :
    ∃ protocol settings, Compiled.compile (greetedSpec none) = .ok protocol ∧
      Settings.ofProtocol? protocol = some settings ∧
      let package := Codec.Package.ofProtocol protocol
      let c := ofSettings settings "localhost" .null .null package.isComplete (.ofPackage package)
      ∃ later, (c.afterAll [.accept { arrivals := [.data [0]] }]
        [.request [0] (.int 1)]).pool.events = .opening c.address :: .written 0 [0] :: later := by
  obtain ⟨protocol, hprotocol, h⟩ : ∃ protocol,
      Compiled.compile (greetedSpec none) = .ok protocol ∧
        (Settings.ofProtocol? protocol).any (·.handshakeSend.isNone) = true :=
    exists_of_gives (by decide +kernel)
  obtain ⟨settings, hsettings, hnone⟩ := (Option.any_eq_true ..).mp h
  refine ⟨protocol, settings, hprotocol, hsettings, ?_⟩
  intro package c
  have hsilent : c.settings.handshakeSend = none := Option.isNone_iff_eq_none.mp hnone
  obtain ⟨later, hlater⟩ := blurts_of_handshakeSend hsilent
  exact ⟨later, hlater.symm⟩

end Client

end TextProtocol
