import TextProtocol.Proofs.Client.Replies
import TextProtocol.Proofs.Client.Run
import TextProtocol.Proofs.Codec.LongNumbers
import TextProtocol.Proofs.Network.Tidiness

/-!
# What calls of a client leave in its pool

A call that fails leaves the pool clear, with two exceptions. A time limit that cannot be used is
found before the pool is looked at. And a failed look at a reply, or the lack of a reply that is not
known for what it is, leaves the connection where it is, with whatever is still to arrive on it.

The specification of each step of a call is an `Ends`, and those of the calls are put together from
them. They need no more than that the pool is tidy, which is what every call keeps, so they hold
after every sequence of calls.
-/

namespace TextProtocol.Client

open Fault (exists_of_gives)
open Pool

variable {c : Client} {net : Network} {n : Nat} {limit : Value} {payload : Bytes}

/-! ## Talking -/

theorem ends_write (n : Nat) (data : Bytes) :
    Ends (write n data) net (fun _ after ↦ Steady net.pool after.pool)
      fun t after ↦ Steady net.pool after.pool ∧ ∃ reason, t = .broken reason := by
  have hsteady : Steady net.pool (net.pool.update n fun c ↦ { c with writes := c.writes + 1 }) :=
    .update (fun _ ↦ Nat.le_refl _) fun _ h ↦ h
  simp only [write, ends_bind, ends_get, ends_changePool]
  split
  · exact ⟨hsteady.record _, _, rfl⟩
  · exact hsteady.record _

theorem ends_receive {α : Type} (n : Nat) (f : List Arrival → Received α) :
    Ends (receive n f) net (fun _ after ↦ Steady net.pool after.pool)
      fun t after ↦ Steady net.pool after.pool ∧ ∃ arrivals, (f arrivals).result = .error t := by
  simp only [receive, ends_bind, ends_get, ends_changePool, ends_mk]
  split
  · refine .record ?_ _
    exact .update (fun _ ↦ Nat.le_refl _) fun _ h ↦ h
  · rename_i t heq
    refine ⟨.record ?_ _, _, heq⟩
    exact .update (fun _ ↦ Nat.le_refl _) fun _ h ↦ h

theorem ends_handshake (c : Client) (n : Nat) :
    Ends (c.handshake n) net (fun _ after ↦ Steady net.pool after.pool)
      fun _ after ↦ Steady net.pool after.pool := by
  rw [handshake]
  split
  · exact .refl _
  · rw [ends_bind]
    refine (ends_write ..).mono (fun _ after hwrite ↦ ?_) fun _ _ h ↦ h.1
    split
    · exact hwrite
    · exact (ends_receive ..).mono (fun _ _ h ↦ hwrite.trans h) fun _ _ h ↦ hwrite.trans h.1

theorem isComplete_of_collectReply_eq_fault {untilClose : Bool}
    {isComplete : Bytes → Except Fault Bool} {buffer : Bytes} {arrivals : List Arrival} {f : Fault}
    (h : (collectReply untilClose isComplete buffer arrivals).result = .error (.fault f)) :
    ∃ data, isComplete data = .error f := by
  have hend {buffer : Bytes} : atEnd buffer ≠ .error (.fault f) := by
    cases buffer <;> simp [atEnd]
  fun_induction collectReply untilClose isComplete buffer arrivals with
  | case1 | case2 | case5 => exact absurd h hend
  | case3 | case4 | case7 => cases h
  | case6 _ _ _ _ _ _ ih => exact ih h
  | case8 _ _ _ _ _ _ _ ih => exact ih h
  | case9 _ _ _ _ _ _ g hg =>
    cases h
    exact ⟨_, hg⟩

theorem ends_converse (c : Client) (n : Nat) (payload : Bytes) :
    Ends (c.converse n payload) net (fun _ after ↦ Steady net.pool after.pool)
      fun t after ↦ Steady net.pool after.pool ∧
        ∀ f, t = .fault f → ∃ data, c.isComplete data = .error f := by
  rw [converse, ends_bind]
  refine (ends_write ..).mono (fun _ after hwrite ↦ ?_) ?_
  · refine (ends_receive ..).mono (fun _ _ h ↦ hwrite.trans h) ?_
    rintro t after ⟨hreceive, arrivals, harrivals⟩
    refine ⟨hwrite.trans hreceive, ?_⟩
    rintro f rfl
    exact isComplete_of_collectReply_eq_fault harrivals
  · rintro _ after ⟨hwrite, reason, rfl⟩
    exact ⟨hwrite, fun _ h ↦ nomatch h⟩

/-! ## Connecting -/

/-- A limit that cannot be used is a fault, and nothing else happens. -/
theorem ends_checkLimit (limit : Value) :
    Ends (checkLimit limit) net (fun _ after ↦ after = net)
      fun e after ↦ after = net ∧ ∃ f, e = .fault f := by
  unfold checkLimit
  split
  · rfl
  · split
    · split
      · rfl
      · exact ⟨rfl, _, rfl⟩
    · rfl
    · exact ⟨rfl, _, rfl⟩

theorem ends_interrupted (limit : Value) (timeout : Error) :
    Ends (interrupted limit timeout) net (fun _ after ↦ after = net) fun _ _ ↦ False := by
  rw [interrupted, ends_bind, ends_get]
  split <;> rfl

theorem ends_connectError (c : Client) (limit : Value) (t : Trouble) :
    Ends (c.connectError limit t) net (fun _ after ↦ after = net) fun _ _ ↦ False := by
  cases t with
  | broken | ended | fault => exact (ends_pure _).mpr rfl
  | silence => exact ends_interrupted ..

theorem ends_discard (h : net.pool.Holds c.address n) :
    Ends (c.discard n) net (fun _ after ↦ after.pool.Clear c.address) fun _ _ ↦ False :=
  (ends_changePool _).mpr h.discard

theorem ends_openConnection (h : net.pool.Clear c.address) :
    Ends (c.openConnection limit) net (fun n after ↦ after.pool.Holds c.address n)
      fun _ after ↦ after.pool.Clear c.address := by
  have hrecord : (net.pool.record (.opening c.address)).Clear c.address :=
    h.steady (.record (.refl _) _)
  rw [openConnection, ends_bind, ends_changePool, ends_bind, ends_nextOffer]
  split
  · exact hrecord
  · exact hrecord
  · rw [ends_bind]
    exact (ends_interrupted ..).mono (fun _ _ heq ↦ heq ▸ hrecord) fun _ _ h ↦ h.elim
  · exact hrecord.complete_opened _

theorem ends_acquire (h : net.pool.Tidy c.address) :
    Ends (c.acquire limit) net
      (fun n after ↦ after.pool.Holds c.address n)
      fun _ after ↦ after.pool.Clear c.address := by
  rw [acquire, ends_bind, ends_withPool]
  rcases h.lookup with ⟨n, heq, hn, -⟩ | ⟨q, heq, hq⟩
  · rw [heq]
    exact hn
  · rw [heq]
    exact ends_openConnection hq

/-- A connection for a request is held and ready. Without one the pool is clear, unless the limit
cannot be used. -/
theorem ends_readyConnection (h : net.pool.Tidy c.address) :
    Ends (c.readyConnection limit) net
      (fun n after ↦ after.pool.Holds c.address n ∧ after.pool.isReady n = true)
      fun e after ↦ (after = net ∧ ∃ f, e = .fault f) ∨ after.pool.Clear c.address := by
  rw [readyConnection, ends_bind]
  refine (ends_checkLimit limit).mono (fun _ after hafter ↦ ?_) fun _ _ h ↦ .inl h
  subst hafter
  rw [ends_bind]
  refine (ends_acquire h).mono (fun n acquired hn ↦ ?_) fun _ _ h ↦ .inr h
  rw [ends_bind, ends_get]
  split
  · rename_i hready
    exact ⟨hn, hready⟩
  · rw [ends_bind, ends_lift]
    refine (ends_handshake c n).mono (fun _ shaken hsteady ↦ ?_) fun t shaken hsteady ↦ ?_
    · have hn' := hn.steady hsteady
      have hupdate : Steady shaken.pool (shaken.pool.update n fun connection ↦
          { connection with ready := true }) :=
        .update (fun _ ↦ Nat.le_refl _) fun _ _ ↦ rfl
      exact ⟨hn'.steady hupdate, isReady_update_ready (hn'.wellFormed.pooled?_lt hn'.pooled?)⟩
    · simp only [ends_bind]
      refine (ends_discard (hn.steady hsteady)).mono (fun _ discarded hclear ↦ ?_)
        fun _ _ h ↦ h.elim
      exact (ends_connectError ..).mono (fun _ _ heq ↦ .inr (heq ▸ hclear)) fun _ _ h ↦ h.elim

theorem ends_connect (h : net.pool.Tidy c.address) :
    Ends c.connect net (fun _ after ↦ after.pool.HoldsReady c.address)
      fun e after ↦ (after = net ∧ ∃ f, e = .fault f) ∨ after.pool.Clear c.address := by
  rw [connect, ends_bind]
  exact (ends_readyConnection h).mono (fun n _ hn ↦ ⟨n, hn⟩) fun _ _ h ↦ h

theorem ends_disconnect (h : net.pool.Tidy c.address) :
    Ends c.disconnect net (fun _ after ↦ after.pool.Clear c.address) fun _ _ ↦ False := by
  rw [disconnect, ends_bind, ends_withPool]
  rcases h.lookup with ⟨n, heq, hn, -⟩ | ⟨q, heq, hq⟩
  · rw [heq]
    dsimp only
    split
    · exact ends_discard hn
    · exact ends_discard hn
    · rw [ends_bind, ends_lift]
      exact (ends_write ..).mono (fun _ _ hsteady ↦ ends_discard (hn.steady hsteady))
        fun _ _ hsteady ↦ ends_discard (hn.steady hsteady.1)
  · rw [heq]
    exact hq

/-! ## Requests -/

/-- The errors after which a connection stays where it is: looking at a reply fails, or the lack of
a reply is not known for what it is. -/
inductive Overlooked (c : Client) : Error → Prop
  | fault {f : Fault} {data : Bytes} : c.isComplete data = .error f → Overlooked c (.fault f)
  | noResponse : c.errorClasses.knows .connection = false → Overlooked c .noResponse

theorem Overlooked.isRetryable_eq_false {e : Error} (h : Overlooked c e) :
    e.isRetryable c.errorClasses = false := by
  cases h with
  | fault => rfl
  | noResponse h => simp [Error.isRetryable, Error.class?, h]

/-- What a request that fails leaves behind, if it began with the network `net`. -/
def Aborts (c : Client) (net : Network) (e : Error) (after : Network) : Prop :=
  (after = net ∧ ∃ f, e = .fault f) ∨ after.pool.Clear c.address ∨
    Overlooked c e ∧ after.pool.HoldsReady c.address

def Succeeds (c : Client) (after : Network) : Prop :=
  after.pool.Tidy c.address ∧
    (c.settings.keepAlive.truthy = false ∨ c.settings.readUntilClose.truthy = true →
      after.pool.Clear c.address)

/-- An error that a request may be repeated for leaves the pool clear. -/
theorem Aborts.clear {e : Error} {after : Network} (h : Aborts c net e after)
    (he : e.isRetryable c.errorClasses = true) : after.pool.Clear c.address := by
  rcases h with ⟨-, f, rfl⟩ | h | ⟨h, -⟩
  · cases he
  · exact h
  · rw [h.isRetryable_eq_false] at he
    cases he

theorem ends_requestError (limit : Value) (t : Trouble) :
    Ends (requestError limit t) net
      (fun e after ↦ after = net ∧ (∀ f, t = .fault f → e = .fault f) ∧
        (t = .ended → e = .noResponse))
      fun _ _ ↦ False := by
  cases t with
  | broken => exact (ends_pure _).mpr ⟨rfl, nofun, nofun⟩
  | silence => exact (ends_interrupted ..).mono (fun _ _ h ↦ ⟨h, nofun, nofun⟩) fun _ _ h ↦ h
  | ended => exact (ends_pure _).mpr ⟨rfl, nofun, fun _ ↦ rfl⟩
  | fault f => exact (ends_pure _).mpr ⟨rfl, fun _ h ↦ by cases h; rfl, nofun⟩

theorem ends_exchange (h : net.pool.Tidy c.address) :
    Ends (c.exchange payload limit) net (fun _ after ↦ c.Succeeds after) (c.Aborts net) := by
  rw [exchange, ends_bind]
  refine (ends_readyConnection h).mono (fun n held ⟨hn, hready⟩ ↦ ?_) fun _ _ h ↦
    h.imp_right .inl
  rw [ends_bind, ends_lift]
  refine (ends_converse c n payload).mono (fun _ talked hsteady ↦ ?_)
    fun t talked ⟨hsteady, hfault⟩ ↦ ?_
  · have hn' := hn.steady hsteady
    have hready' := hsteady.isReady n hready
    dsimp only
    cases hkeeps : c.settings.keepsConnections with
    | true =>
      rw [Settings.keepsConnections, Bool.and_eq_true, Bool.not_eq_true'] at hkeeps
      refine ⟨.inr ⟨n, hn', hready'⟩, ?_⟩
      rintro (hfalse | htrue)
      · rw [hkeeps.1] at hfalse
        cases hfalse
      · rw [hkeeps.2] at htrue
        cases htrue
    | false =>
      rw [Bool.not_false, if_pos rfl, ends_bind]
      exact (ends_discard hn').mono (fun _ _ h ↦ ⟨.inl h, fun _ ↦ h⟩) fun _ _ h ↦ h.elim
  · have hn' := hn.steady hsteady
    have hready' := hsteady.isReady n hready
    dsimp only
    cases hends : c.endsConnection t with
    | true =>
      rw [if_pos rfl, ends_bind]
      refine (ends_discard hn').mono (fun _ _ hclear ↦ ?_) fun _ _ h ↦ h.elim
      rw [ends_bind]
      exact (ends_requestError limit t).mono (fun _ _ h ↦ .inr (.inl (h.1 ▸ hclear)))
        fun _ _ h ↦ h.elim
    | false =>
      rw [if_neg Bool.false_ne_true, ends_bind]
      refine (ends_requestError limit t).mono (fun e after ⟨heq, hf, hended⟩ ↦ ?_)
        fun _ _ h ↦ h.elim
      -- The connection stays, so the trouble has to be one of those that are overlooked.
      refine .inr (.inr ⟨?_, heq ▸ ⟨n, hn', hready'⟩⟩)
      cases t with
      | broken | silence => cases hends
      | ended =>
        rw [hended rfl]
        exact .noResponse hends
      | fault f =>
        obtain ⟨data, hdata⟩ := hfault f rfl
        rw [hf f rfl]
        exact .fault hdata

theorem ends_pause (c : Client) :
    Ends c.pause net (fun _ after ↦ Steady net.pool after.pool)
      fun _ after ↦ Steady net.pool after.pool := by
  rw [pause]
  split
  · exact .refl _
  · simp only [ends_bind, ends_changePool, ends_get]
    split
    · exact .record (.refl _) _
    · exact .record (.refl _) _

theorem ends_attempts (h : net.pool.Tidy c.address) (retries : Nat) :
    Ends (c.attempts payload limit retries) net (fun _ after ↦ c.Succeeds after)
      (c.Aborts net) := by
  induction retries generalizing net with
  | zero => exact ends_exchange h
  | succ retries ih =>
    rw [attempts, ends_tryCatch]
    refine (ends_exchange h).mono (fun _ _ h ↦ h) fun e failed hfailed ↦ ?_
    split
    · rename_i hretryable
      have hclear := hfailed.clear hretryable
      rw [ends_bind]
      refine (ends_pause c).mono (fun _ paused hsteady ↦ ?_)
        fun _ paused hsteady ↦ .inr (.inl (hclear.steady hsteady))
      have hpaused := hclear.steady hsteady
      -- A later attempt may leave the network as the pause did, which is not how it was at first.
      refine (ih (.inl hpaused)).mono (fun _ _ h ↦ h) fun e after habort ↦ ?_
      rcases habort with ⟨rfl, -⟩ | habort
      · exact .inr (.inl hpaused)
      · exact .inr habort
    · exact hfailed

theorem ends_request (h : net.pool.Tidy c.address) :
    Ends (c.request payload limit) net (fun _ after ↦ c.Succeeds after) (c.Aborts net) := by
  rw [request]
  split
  · exact ends_attempts h _
  · rw [ends_tryCatch]
    refine (ends_exchange h).mono (fun _ _ h ↦ h) fun e failed hfailed ↦ ?_
    rw [ends_throw]
    split
    · rename_i hretryable
      exact .inr (.inl (hfailed.clear hretryable))
    · exact hfailed

/-- What one attempt keeps, and a pause, a request keeps. -/
theorem ends_request_of_exchange {P : Network → Prop} {Q : Bytes → Network → Prop}
    (hexchange : ∀ net limit, net.pool.Tidy c.address → P net →
      Ends (c.exchange payload limit) net Q fun _ after ↦ P after)
    (hpause : ∀ net, P net → Ends c.pause net (fun _ after ↦ P after) fun _ after ↦ P after)
    (htidy : net.pool.Tidy c.address) (h : P net) :
    Ends (c.request payload limit) net Q fun _ after ↦ P after := by
  have hattempts (limit : Value) (retries : Nat) :
      ∀ net : Network, net.pool.Tidy c.address → P net →
        Ends (c.attempts payload limit retries) net Q fun _ after ↦ P after := by
    induction retries with
    | zero => exact fun net htidy h ↦ hexchange net limit htidy h
    | succ retries ih =>
      intro net htidy h
      rw [attempts, ends_tryCatch]
      refine ((ends_exchange htidy).and (hexchange net limit htidy h)).mono (fun _ _ h' ↦ h'.2) ?_
      rintro e failed ⟨hfailed, hkept⟩
      split
      · rename_i hretryable
        rw [ends_bind]
        refine ((ends_pause c).and (hpause failed hkept)).mono ?_ fun _ _ h' ↦ h'.2
        rintro _ paused ⟨hsteady, hpaused⟩
        exact ih paused (.inl ((hfailed.clear hretryable).steady hsteady)) hpaused
      · exact hkept
  rw [request]
  split
  · exact hattempts _ _ net htidy h
  · rw [ends_tryCatch]
    exact (hexchange net _ htidy h).mono (fun _ _ h ↦ h) fun _ _ h ↦ h

/-! ## Replies that cannot be looked at -/

/-- The network of a client whose first connection brings some arrivals. -/
def networkOf (arrivals : List Arrival) : Network where
  offers := [.accept { arrivals }]

/-- A request and its reply on a connection: the reply is made of what arrives there, and so is the
trouble unless the connection cannot be written to. -/
theorem ends_converse_of_connection {connection : Connection} {received : Received Bytes}
    (hconnection : net.pool.connections[n]? = some connection)
    (hreceived : collectReply c.settings.readUntilClose.truthy c.isComplete []
      connection.arrivals = received) :
    Ends (c.converse n payload) net
      (fun reply after ↦ received.result = .ok reply ∧
        after.pool.events = net.pool.events ++ [.written n payload, .received n
          (connection.arrivals.take (connection.arrivals.length - received.rest.length))] ∧
        ∃ left, after.pool.connections[n]? = some left ∧ left.arrivals = received.rest)
      fun t after ↦
        (connection.writeFailure connection.writes = none → received.result = .error t) ∧
        net.pool.events ++ [.written n payload] <+: after.pool.events := by
  have hwritten : ((net.pool.update n fun c ↦ { c with writes := c.writes + 1 }).record
      (.written n payload)).connections[n]? =
        some { connection with writes := connection.writes + 1 } := by
    rw [record, getElem?_update, hconnection]
    simp
  simp only [converse, write, receive, ends_bind, ends_get, ends_changePool, hconnection,
    Option.bind_some]
  cases hwrite : connection.writeFailure connection.writes with
  | some reason => exact ⟨fun h ↦ absurd h (by simp), List.prefix_rfl⟩
  | none =>
    simp only [ends_pure, hwritten, Option.map_some, Option.getD_some, ends_mk, hreceived]
    split
    · rename_i reply hreply
      refine ⟨hreply, List.append_assoc .., { connection with
        writes := connection.writes + 1, arrivals := received.rest
        peerClosed := connection.peerClosed || received.ended }, ?_, rfl⟩
      rw [record, getElem?_update, hwritten, Option.map_some, if_pos rfl]
    · rename_i t ht
      exact ⟨fun _ ↦ ht, List.prefix_append ..⟩

theorem ends_converse_of_reply {connection : Connection} {f : Fault}
    (hconnection : net.pool.connections[n]? = some connection)
    (hwrite : connection.writeFailure connection.writes = none)
    (hreply : (collectReply c.settings.readUntilClose.truthy c.isComplete []
      connection.arrivals).result = .error (.fault f)) :
    Ends (c.converse n payload) net (fun _ _ ↦ False) fun t _ ↦ t = .fault f := by
  refine (ends_converse_of_connection hconnection rfl).mono (fun reply _ h ↦ ?_) fun t _ h ↦ ?_
  · rw [hreply] at h
    cases h.1
  · have htrouble := h.1 hwrite
    rw [hreply] at htrouble
    cases htrouble
    rfl

/-- When looking at a reply fails, the connection stays pooled. -/
theorem ends_request_of_reply (hsettings : c.settings = {}) (htimeout : c.timeout = .null)
    {arrivals : List Arrival} {f : Fault}
    (hreply : (collectReply false c.isComplete [] arrivals).result = .error (.fault f)) :
    Ends (c.request payload .null) (networkOf arrivals) (fun _ _ ↦ False)
      fun e after ↦ e = .fault f ∧ after.pool.HoldsReady c.address := by
  have hrequest : c.request payload .null = c.exchange payload .null := by
    rw [request, htimeout, hsettings]
    rfl
  have hconnect : Ends (c.readyConnection .null) (networkOf arrivals)
      (fun n after ↦ after.pool.connections[n]? = some { arrivals, ready := true })
      fun _ _ ↦ False := by
    obtain ⟨settings, host, port, timeout, isComplete, classes⟩ := c
    subst hsettings htimeout
    rfl
  rw [hrequest, exchange, ends_bind]
  refine (hconnect.and (ends_readyConnection (.inl (clear_empty _)))).mono ?_ fun _ _ h ↦ h.1.elim
  rintro n held ⟨hconnection, hheld, hready⟩
  have htrouble : Ends (c.converse n payload) held (fun _ _ ↦ False) fun t _ ↦ t = .fault f := by
    refine ends_converse_of_reply hconnection rfl ?_
    rw [hsettings]
    exact hreply
  rw [ends_bind, ends_lift]
  refine (htrouble.and (ends_converse c n payload)).mono (fun _ _ h ↦ h.1.elim) ?_
  rintro _ talked ⟨rfl, hsteady, -⟩
  exact ⟨rfl, n, hheld.steady hsteady, hsteady.isReady n hready⟩

/-! ## Sequences of calls -/

/-- What can happen to a client from call to call. -/
inductive Move where
  | connect
  | request (payload : Bytes) (limit : Value)
  | disconnect
  /-- The other side closes a connection. -/
  | peerClose (n : Nat)
  /-- From now on, waits end in some way. -/
  | interrupt (i : Interrupt)

def after (c : Client) (net : Network) : Move → Network
  | .connect => (c.connect.run.run net).2
  | .request payload limit => ((c.request payload limit).run.run net).2
  | .disconnect => (c.disconnect.run.run net).2
  | .peerClose n => { net with pool := net.pool.peerClose n }
  | .interrupt i => { net with interrupt := i }

/-- The network after some moves, with what attempts to connect meet. -/
def afterAll (c : Client) (offers : List Offer) (moves : List Move) : Network :=
  moves.foldl c.after { offers }

theorem tidy_after (h : net.pool.Tidy c.address) (move : Move) :
    (c.after net move).pool.Tidy c.address := by
  cases move with
  | connect =>
    refine (ends_connect h).after (P := (·.pool.Tidy c.address)) (fun _ _ hready ↦ .inr hready) ?_
    rintro _ after (⟨rfl, -⟩ | hclear)
    · exact h
    · exact .inl hclear
  | request payload limit =>
    refine (ends_request h).after (P := (·.pool.Tidy c.address)) (fun _ _ h ↦ h.1) ?_
    rintro _ after (⟨rfl, -⟩ | hclear | ⟨-, hready⟩)
    · exact h
    · exact .inl hclear
    · exact .inr hready
  | disconnect =>
    exact (ends_disconnect h).after (P := (·.pool.Tidy c.address)) (fun _ _ h ↦ .inl h) nofun
  | peerClose n => exact h.steady (.update (fun _ ↦ Nat.le_refl _) fun _ hready ↦ hready)
  | interrupt i => exact h

theorem tidy_afterAll (c : Client) (offers : List Offer) (moves : List Move) :
    (c.afterAll offers moves).pool.Tidy c.address := by
  have hrun : ∀ net : Network, net.pool.Tidy c.address →
      (moves.foldl c.after net).pool.Tidy c.address := by
    induction moves with
    | nil => exact fun _ h ↦ h
    | cons move moves ih => exact fun net h ↦ ih _ (tidy_after h move)
  exact hrun _ (.inl (clear_empty _))

/-- What the calls of a client leave behind, from a network on. -/
structure Accountable (c : Client) (net : Network) : Prop where
  connect : Ends c.connect net (fun _ after ↦ after.pool.HoldsReady c.address)
    fun e after ↦ (after = net ∧ ∃ f, e = .fault f) ∨ after.pool.Clear c.address
  request : ∀ payload limit,
    Ends (c.request payload limit) net (fun _ after ↦ c.Succeeds after) (c.Aborts net)
  disconnect : Ends c.disconnect net (fun _ after ↦ after.pool.Clear c.address) fun _ _ ↦ False

/-- Whatever has happened before, a call that fails leaves no connection behind, unless it has not
touched any or the error is overlooked; and a call that succeeds leaves one that is ready or
none. -/
theorem accountable_afterAll (c : Client) (offers : List Offer) (moves : List Move) :
    c.Accountable (c.afterAll offers moves) where
  connect := ends_connect (tidy_afterAll c offers moves)
  request _ _ := ends_request (tidy_afterAll c offers moves)
  disconnect := ends_disconnect (tidy_afterAll c offers moves)

/-- A protocol whose only message is a number that servers send. -/
def countSpec : Spec where
  metadata := some { name := some "count", port := .int 7 }
  messages := some [some {
    name := some "count", direction := some .response, format := some "\x7bn\x7d",
    fields := some [some { name := some "n", type := some (.number .null .null) }],
    terminator := some "\n" }]

/-- A server that sends one digit more than are read makes the request fail, and the connection
stays pooled. -/
theorem request_keeps_connection :
    ∃ protocol, Compiled.compile countSpec = .ok protocol ∧
      let c := Client.ofSettings {} "localhost" .null .null
        (Codec.Package.ofProtocol protocol).isComplete
      Ends (c.request [] .null) (networkOf [.data (Codec.ones 4096), .data (Codec.ones 205)])
        (fun _ _ ↦ False) fun e after ↦ e = .fault .invalid ∧ after.pool.HoldsReady c.address := by
  obtain ⟨protocol, hprotocol, h⟩ : ∃ protocol, Compiled.compile countSpec = .ok protocol ∧
      (Compiled.lone? protocol.messages).any (fun m ↦ m.isResponse && Codec.isCount m) = true :=
    exists_of_gives (by decide +kernel)
  refine ⟨protocol, hprotocol, ends_request_of_reply rfl rfl ?_⟩
  obtain ⟨m, hlone, h⟩ := (Option.any_eq_true _ _).mp h
  have hmessages := Compiled.eq_of_lone? hlone
  rw [Bool.and_eq_true] at h
  obtain ⟨f, field, hcount⟩ := Codec.exists_of_isCount h.2
  have hlook (data : Bytes) : (Codec.Package.ofProtocol protocol).isComplete data =
      (Codec.Package.ofProtocol protocol).parses data m := by
    refine Codec.Package.isComplete_eq_of_responses ?_
    rw [Codec.Package.ofProtocol, hmessages, List.filter_cons_of_pos h.1, List.filter_nil]
  have hown : (Codec.Package.ofProtocol protocol).functionOf m = m :=
    Codec.Package.functionOf_of_messages hmessages
  have hfirst : (Codec.Package.ofProtocol protocol).isComplete (Codec.ones 4096) = .ok false := by
    obtain ⟨failure, hparse⟩ := (Codec.parseWith_ones hcount _ _ (k := 4096) (by decide)).2
      (by decide)
    rw [hlook, Codec.Package.parses, Codec.Package.parse, hown, hparse]
    rfl
  have hsecond : (Codec.Package.ofProtocol protocol).isComplete (Codec.ones 4301) =
      .error .invalid := by
    rw [hlook, Codec.Package.parses, Codec.Package.parse, hown,
      (Codec.parseWith_ones hcount _ _ (by decide)).1 (by decide)]
    rfl
  -- The first chunk has few enough digits to be waited on, and the second one too many.
  have hall : Codec.ones 4096 ++ Codec.ones 205 = Codec.ones 4301 :=
    List.replicate_append_replicate
  have hne {k : Nat} : Codec.ones (k + 1) ≠ [] := List.cons_ne_nil _ _
  change (collectReply false (Codec.Package.ofProtocol protocol).isComplete [] _).result = _
  rw [collectReply_data hne, List.nil_append, hfirst]
  dsimp only
  rw [collectReply_data hne, hall, hsecond]

end TextProtocol.Client
