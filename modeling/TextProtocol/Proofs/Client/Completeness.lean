import TextProtocol.Proofs.Client.Cleanup
import TextProtocol.Proofs.Client.Handshake

/-!
# What counts as a reply

A client that can tell when a reply is complete looks at what has arrived after every piece. What it
returns is complete, unless the other side has closed the connection: then it is all that has
arrived, complete or not. Only where nothing has arrived at all is the end of the connection an
error.

`Gathered` says which bytes some arrivals come to, without the loop that reads them, and the loop
comes to exactly these.
-/

namespace TextProtocol

/-- Whether the next of some reads meets the end: the other side has closed, or it is empty. -/
def Arrival.endsNow : List Arrival → Bool
  | [] | .ended :: _ | .data [] :: _ => true
  | .silence :: _ | .failure _ :: _ | .data (_ :: _) :: _ => false

theorem Arrival.endsNow_data {chunk : Bytes} (h : chunk ≠ []) (rest : List Arrival) :
    endsNow (.data chunk :: rest) = false := by
  obtain ⟨b, bytes, rfl⟩ := List.exists_cons_of_ne_nil h
  rfl

namespace Client

open Fault (gives exists_of_gives)
open Pool

/-! ## Reading -/

/-- A reply that pieces come to after the bytes in `buffer`, when `rest` is what arrives after them:
it was not complete before the last piece, and with it the reply is complete or the end follows. -/
structure Gathered (isComplete : Bytes → Except Fault Bool) (buffer : Bytes) (chunks : List Bytes)
    (rest : List Arrival) (reply : Bytes) : Prop where
  chunk_ne : ∀ chunk ∈ chunks, chunk ≠ []
  reply_eq : reply = buffer ++ chunks.flatten
  reply_ne : reply ≠ []
  before : ∀ k < chunks.length, 0 < k → isComplete (buffer ++ (chunks.take k).flatten) = .ok false
  last : chunks ≠ [] ∧ isComplete reply = .ok true ∨
    (chunks ≠ [] → isComplete reply = .ok false) ∧ Arrival.endsNow rest = true

variable {isComplete : Bytes → Except Fault Bool} {buffer reply chunk : Bytes}
  {chunks : List Bytes} {rest arrivals : List Arrival}

/-- The first look, if there is a piece to look at: it fails in no case, and if the reply is
complete then there is no other piece. -/
theorem Gathered.look (h : Gathered isComplete buffer (chunk :: chunks) rest reply) :
    chunks = [] ∧ reply = buffer ++ chunk ∧ isComplete reply = .ok true ∨
      isComplete (buffer ++ chunk) = .ok false := by
  cases chunks with
  | nil =>
    have hreply : reply = buffer ++ chunk := by
      rw [h.reply_eq, List.flatten_singleton]
    rcases h.last with ⟨-, htrue⟩ | ⟨hfalse, -⟩
    · exact .inl ⟨rfl, hreply, htrue⟩
    · exact .inr (hreply ▸ hfalse (List.cons_ne_nil _ _))
  | cons second more =>
    have hfirst := h.before 1 (by simp) Nat.one_pos
    rw [List.take_succ_cons, List.take_zero, List.flatten_singleton] at hfirst
    exact .inr hfirst

/-- A piece with which the reply is not complete goes to the buffer. -/
theorem gathered_cons_iff (hchunk : chunk ≠ []) (hlook : isComplete (buffer ++ chunk) = .ok false) :
    Gathered isComplete buffer (chunk :: chunks) rest reply ↔
      Gathered isComplete (buffer ++ chunk) chunks rest reply := by
  have hflatten (more : List Bytes) :
      buffer ++ (chunk :: more).flatten = buffer ++ chunk ++ more.flatten := by
    rw [List.flatten_cons, List.append_assoc]
  have hsingle (hreply : reply = buffer ++ chunk ++ chunks.flatten) (hnil : chunks = []) :
      isComplete reply = .ok false := by
    rw [hreply, hnil, List.flatten_nil, List.append_nil, hlook]
  constructor
  · intro h
    have hreply := h.reply_eq.trans (hflatten chunks)
    refine ⟨fun c hc ↦ h.chunk_ne c (List.mem_cons_of_mem _ hc), hreply, h.reply_ne, ?_, ?_⟩
    · intro k hk hpos
      have hbefore := h.before (k + 1) (Nat.succ_lt_succ hk) (Nat.succ_pos k)
      rwa [List.take_succ_cons, hflatten] at hbefore
    · rcases h.last with ⟨-, htrue⟩ | ⟨hfalse, hend⟩
      · refine .inl ⟨fun hnil ↦ ?_, htrue⟩
        rw [hsingle hreply hnil] at htrue
        cases htrue
      · exact .inr ⟨fun _ ↦ hfalse (List.cons_ne_nil _ _), hend⟩
  · intro h
    refine ⟨?_, h.reply_eq.trans (hflatten chunks).symm, h.reply_ne, ?_, ?_⟩
    · rw [List.forall_mem_cons]
      exact ⟨hchunk, h.chunk_ne⟩
    · intro k hk hpos
      obtain ⟨j, rfl⟩ := Nat.exists_eq_succ_of_ne_zero (Nat.ne_of_gt hpos)
      rw [List.take_succ_cons, hflatten]
      by_cases hj : j = 0
      · rw [hj, List.take_zero, List.flatten_nil, List.append_nil, hlook]
      · exact h.before j (Nat.lt_of_succ_lt_succ hk) (Nat.pos_of_ne_zero hj)
    · rcases h.last with ⟨-, htrue⟩ | ⟨hfalse, hend⟩
      · exact .inl ⟨List.cons_ne_nil _ _, htrue⟩
      · refine .inr ⟨fun _ ↦ ?_, hend⟩
        by_cases hnil : chunks = []
        · exact hsingle h.reply_eq hnil
        · exact hfalse hnil

def Gathers (isComplete : Bytes → Except Fault Bool) (buffer : Bytes) (arrivals : List Arrival)
    (reply : Bytes) : Prop :=
  ∃ chunks rest, arrivals = chunks.map .data ++ rest ∧
    Gathered isComplete buffer chunks rest reply

/-- Without a piece, there is nothing to look at: the reply is what there was, at the end. -/
theorem gathers_iff_of_forall (h : ∀ chunk rest, arrivals = .data chunk :: rest → chunk = []) :
    Gathers isComplete buffer arrivals reply ↔
      reply = buffer ∧ reply ≠ [] ∧ Arrival.endsNow arrivals = true := by
  constructor
  · rintro ⟨chunks, rest, rfl, hgathered⟩
    cases chunks with
    | nil =>
      rcases hgathered.last with ⟨hne, -⟩ | ⟨-, hend⟩
      · exact absurd rfl hne
      · exact ⟨by simpa using hgathered.reply_eq, hgathered.reply_ne, hend⟩
    | cons chunk chunks =>
      exact absurd (h chunk _ rfl) (hgathered.chunk_ne chunk List.mem_cons_self)
  · rintro ⟨rfl, hne, hend⟩
    exact ⟨[], arrivals, rfl, by simp, by simp, hne, by simp, .inr ⟨fun h ↦ absurd rfl h, hend⟩⟩

/-- A piece that arrives is the first of the reply. -/
theorem gathers_data_iff (hchunk : chunk ≠ []) :
    Gathers isComplete buffer (.data chunk :: arrivals) reply ↔
      ∃ chunks rest, arrivals = chunks.map .data ++ rest ∧
        Gathered isComplete buffer (chunk :: chunks) rest reply := by
  constructor
  · rintro ⟨chunks, rest, heq, hgathered⟩
    cases chunks with
    | nil =>
      rw [List.map_nil, List.nil_append] at heq
      subst heq
      rcases hgathered.last with ⟨hne, -⟩ | ⟨-, hend⟩
      · exact absurd rfl hne
      · rw [Arrival.endsNow_data hchunk] at hend
        cases hend
    | cons first chunks =>
      cases heq
      exact ⟨chunks, rest, rfl, hgathered⟩
  · rintro ⟨chunks, rest, rfl, hgathered⟩
    exact ⟨chunk :: chunks, rest, rfl, hgathered⟩

theorem atEnd_eq_ok_iff : atEnd buffer = .ok reply ↔ reply = buffer ∧ reply ≠ [] := by
  cases buffer with
  | nil => simp [atEnd]
  | cons b bytes =>
    constructor
    · intro h
      cases h
      exact ⟨rfl, List.cons_ne_nil _ _⟩
    · rintro ⟨rfl, -⟩
      rfl

/-- The loop that reads a reply comes to what the arrivals come to, and to nothing else. -/
theorem collectReply_eq_ok_iff :
    (collectReply false isComplete buffer arrivals).result = .ok reply ↔
      Gathers isComplete buffer arrivals reply := by
  induction arrivals generalizing buffer with
  | nil =>
    rw [gathers_iff_of_forall (by simp)]
    simp [collectReply, atEnd_eq_ok_iff, Arrival.endsNow]
  | cons a arrivals ih =>
    cases a with
    | ended =>
      rw [gathers_iff_of_forall (by simp)]
      simp [collectReply, atEnd_eq_ok_iff, Arrival.endsNow]
    | silence | failure =>
      rw [gathers_iff_of_forall (by simp)]
      simp [collectReply, Arrival.endsNow]
    | data chunk =>
      by_cases hchunk : chunk = []
      · subst hchunk
        rw [gathers_iff_of_forall (by simp)]
        simp [collectReply, atEnd_eq_ok_iff, Arrival.endsNow]
      · rw [collectReply_data hchunk, gathers_data_iff hchunk]
        -- The three things that a look at the first piece can come to.
        cases hlook : isComplete (buffer ++ chunk) with
        | error f =>
          constructor
          · intro h
            cases h
          · rintro ⟨chunks, rest, -, hgathered⟩
            rcases hgathered.look with ⟨-, rfl, htrue⟩ | hfalse
            · rw [hlook] at htrue
              cases htrue
            · rw [hlook] at hfalse
              cases hfalse
        | ok complete =>
          cases complete with
          | true =>
            constructor
            · intro h
              cases h
              refine ⟨[], arrivals, rfl, by simpa using hchunk, by simp, by simp [hchunk], ?_,
                .inl ⟨List.cons_ne_nil _ _, hlook⟩⟩
              intro k hk hpos
              rw [List.length_singleton] at hk
              omega
            · rintro ⟨chunks, rest, -, hgathered⟩
              rcases hgathered.look with ⟨-, rfl, -⟩ | hfalse
              · rfl
              · rw [hlook] at hfalse
                cases hfalse
          | false =>
            dsimp only
            rw [ih, Gathers]
            simp only [gathered_cons_iff hchunk hlook]

/-- Reading takes some of what arrives, from the beginning, and a reply is what was taken. -/
theorem exists_append_of_collectReply (untilClose : Bool) (isComplete : Bytes → Except Fault Bool)
    (buffer : Bytes) (arrivals : List Arrival) :
    ∃ taken, arrivals = taken ++ (collectReply untilClose isComplete buffer arrivals).rest ∧
      ∀ reply, (collectReply untilClose isComplete buffer arrivals).result = .ok reply →
        reply = buffer ++ taken.flatMap Arrival.bytes := by
  have hatEnd {buffer : Bytes} (reply : Bytes) (h : atEnd buffer = .ok reply) :
      reply = buffer ++ [] := by
    rw [List.append_nil]
    exact (atEnd_eq_ok_iff.mp h).1
  fun_induction collectReply untilClose isComplete buffer arrivals with
  | case1 => exact ⟨[], rfl, hatEnd⟩
  | case2 => exact ⟨[.ended], rfl, hatEnd⟩
  | case3 => exact ⟨[.silence], rfl, fun _ h ↦ by cases h⟩
  | case4 _ reason => exact ⟨[.failure reason], rfl, fun _ h ↦ by cases h⟩
  | case5 => exact ⟨[.data []], rfl, hatEnd⟩
  | case6 buffer b bytes rest _ _ ih | case8 buffer b bytes rest _ _ _ ih =>
    obtain ⟨taken, heq, hreply⟩ := ih
    refine ⟨.data (b :: bytes) :: taken, congrArg (_ :: ·) heq, fun reply h ↦ ?_⟩
    rw [hreply reply h, List.flatMap_cons, ← List.append_assoc]
    rfl
  | case7 buffer b bytes =>
    refine ⟨[.data (b :: bytes)], rfl, fun reply h ↦ ?_⟩
    cases h
    rw [List.flatMap_singleton]
    rfl
  | case9 buffer b bytes => exact ⟨[.data (b :: bytes)], rfl, fun _ h ↦ by cases h⟩

/-! ## Requests -/

variable {c : Client} {net : Network} {limit : Value} {payload : Bytes}

/-- How a reply is come by: the request is written to a connection, and then the bytes of the reply
are received there, to which all that was to arrive there comes. The connection may be closed after
that, and nothing else happens. -/
def Answers (c : Client) (payload reply : Bytes) (after : Network) : Prop :=
  ∃ n earlier taken closing left,
    after.pool.events = earlier ++ [.written n payload, .received n taken] ++ closing ∧
    (closing = [] ∨ closing = [.closed n]) ∧ after.pool.connections[n]? = some left ∧
    reply = taken.flatMap Arrival.bytes ∧ Gathers c.isComplete [] (taken ++ left.arrivals) reply

theorem events_discard (p : Pool) (key : String) (n : Nat) :
    (p.discard key (some n)).events = p.events ++ [.closed n] := by
  rw [Pool.discard, close, record, update]
  split <;> rfl

theorem getElem?_discard (p : Pool) (key : String) (n : Nat) :
    (p.discard key (some n)).connections[n]? = p.connections[n]?.map Connection.close := by
  rw [Pool.discard, close, record, getElem?_update]
  simp only [if_true]
  split <;> rfl

theorem ends_exchange_answers (hclose : c.settings.readUntilClose.truthy = false)
    (htidy : net.pool.Tidy c.address) :
    Ends (c.exchange payload limit) net (fun reply after ↦ c.Answers payload reply after)
      fun _ _ ↦ True := by
  rw [exchange, ends_bind]
  refine (ends_readyConnection htidy).mono ?_ fun _ _ _ ↦ trivial
  rintro n held ⟨hn, -⟩
  obtain ⟨connection, hconnection⟩ : ∃ connection, held.pool.connections[n]? = some connection :=
    ⟨_, List.getElem?_eq_getElem (hn.wellFormed.pooled?_lt hn.pooled?)⟩
  rw [ends_bind, ends_lift]
  refine (ends_converse_of_connection hconnection rfl).mono ?_ ?_
  · rintro reply talked ⟨hreply, hevents, left, hleft, hrest⟩
    rw [hclose] at hreply hevents hrest
    obtain ⟨taken, htaken, hbytes⟩ :=
      exists_append_of_collectReply false c.isComplete [] connection.arrivals
    rw [Arrival.take_of_eq_append htaken] at hevents
    have hgathers : Gathers c.isComplete [] (taken ++ left.arrivals) reply := by
      rw [hrest, ← htaken]
      exact collectReply_eq_ok_iff.mp hreply
    dsimp only
    split
    · refine ⟨n, held.pool.events, taken, [.closed n], left.close, ?_, .inr rfl, ?_,
        hbytes reply hreply, hgathers⟩
      · rw [← hevents]
        exact events_discard ..
      · refine (getElem?_discard ..).trans ?_
        rw [hleft, Option.map_some]
    · exact ⟨n, held.pool.events, taken, [], left, by rw [hevents, List.append_nil], .inl rfl,
        hleft, hbytes reply hreply, hgathers⟩
  · intro t talked _
    dsimp only
    split
    · simp only [Client.discard, ends_bind, ends_changePool]
      exact (ends_requestError limit t).mono (fun _ _ _ ↦ trivial) fun _ _ h ↦ h.elim
    · rw [ends_bind]
      exact (ends_requestError limit t).mono (fun _ _ _ ↦ trivial) fun _ _ h ↦ h.elim

/-- Whatever has happened before, the bytes that a request returns are those that the server has
sent on one connection in answer to it, up to the first look at which they are complete or up to the
end of the connection. In the same way, the arrivals on a connection are read as a reply if and only
if they come to one. -/
theorem answers_afterAll (c : Client) (hclose : c.settings.readUntilClose.truthy = false)
    (offers : List Offer) (moves : List Move) (payload : Bytes) (limit : Value) :
    Ends (c.request payload limit) (c.afterAll offers moves)
        (fun reply after ↦ c.Answers payload reply after) (fun _ _ ↦ True) ∧
      ∀ arrivals reply, (collectReply c.settings.readUntilClose.truthy c.isComplete []
        arrivals).result = .ok reply ↔ Gathers c.isComplete [] arrivals reply := by
  refine ⟨?_, fun arrivals reply ↦ ?_⟩
  · refine ends_request_of_exchange (P := fun _ ↦ True) ?_ ?_ (tidy_afterAll c offers moves) trivial
    · exact fun net limit htidy _ ↦ ends_exchange_answers hclose htidy
    · exact fun net _ ↦ (ends_pause c).mono (fun _ _ _ ↦ trivial) fun _ _ _ ↦ trivial
  · rw [hclose]
    exact collectReply_eq_ok_iff

/-- The client of a protocol whose only message is a line that servers send. -/
theorem answers_afterAll_line :
    ∃ protocol settings, Compiled.compile lineSpec = .ok protocol ∧
      Settings.ofProtocol? protocol = some settings ∧
      settings.readUntilClose.truthy = false ∧
      let package := Codec.Package.ofProtocol protocol
      let c := ofSettings settings "localhost" .null .null package.isComplete (.ofPackage package)
      Ends (c.request [] .null) (c.afterAll [.accept { arrivals := lineChunks.map .data }] [])
        (fun reply after ↦ c.Answers [] reply after) fun _ _ ↦ True := by
  obtain ⟨protocol, hprotocol, h⟩ : ∃ protocol, Compiled.compile lineSpec = .ok protocol ∧
      (Settings.ofProtocol? protocol).any (fun s ↦ !s.readUntilClose.truthy) = true :=
    exists_of_gives (by decide +kernel)
  obtain ⟨settings, hsettings, hclose⟩ := (Option.any_eq_true ..).mp h
  rw [Bool.not_eq_true'] at hclose
  exact ⟨protocol, settings, hprotocol, hsettings, hclose, (answers_afterAll _ hclose _ _ _ _).1⟩

theorem ends_of_gives {x : Run Bytes} {P : Bytes → Bool} (h : gives (x.run.run net).1 P = true) :
    Ends x net (fun reply _ ↦ P reply = true) fun _ _ ↦ False := by
  rw [Ends]
  revert h
  rcases (x.run.run net : Except Error Bytes × Network) with ⟨r, after⟩
  intro h
  cases r with
  | ok reply => exact h
  | error e => cases h

/-- A reply that is cut short by the end of the connection is returned, though not complete. -/
theorem request_returns_cut_reply :
    ∃ protocol settings, Compiled.compile lineSpec = .ok protocol ∧
      Settings.ofProtocol? protocol = some settings ∧
      settings.readUntilClose.truthy = false ∧
      let package := Codec.Package.ofProtocol protocol
      let c := ofSettings settings "localhost" .null .null package.isComplete (.ofPackage package)
      Ends (c.request [] .null) (networkOf [.data (Utf8.ofString "3,")])
        (fun reply _ ↦ c.isComplete reply = .ok false) fun _ _ ↦ False := by
  obtain ⟨protocol, hprotocol, h⟩ : ∃ protocol, Compiled.compile lineSpec = .ok protocol ∧
      ((Settings.ofProtocol? protocol).any fun settings ↦
        let package := Codec.Package.ofProtocol protocol
        let c := ofSettings settings "localhost" .null .null package.isComplete (.ofPackage package)
        !settings.readUntilClose.truthy &&
          gives ((c.request [] .null).run.run (networkOf [.data (Utf8.ofString "3,")])).1
            fun reply ↦ gives (c.isComplete reply) (!·)) = true :=
    exists_of_gives (by decide +kernel)
  obtain ⟨settings, hsettings, h⟩ := (Option.any_eq_true ..).mp h
  rw [Bool.and_eq_true, Bool.not_eq_true'] at h
  refine ⟨protocol, settings, hprotocol, hsettings, h.1, ?_⟩
  refine (ends_of_gives h.2).mono (fun reply _ hlook ↦ ?_) fun _ _ h ↦ h
  obtain ⟨complete, hcomplete, hfalse⟩ := exists_of_gives hlook
  rw [Bool.not_eq_true'] at hfalse
  rw [hcomplete, hfalse]

end Client

end TextProtocol
