import TextProtocol.Proofs.Client.Run
import TextProtocol.Proofs.Network.Pool
import TextProtocol.Proofs.Wire.Search

/-!
# What a handshake leaves unread

A handshake reads piece by piece until the expected reply has arrived, and what comes in one piece
with the end of the reply is gone with it. So how much of the stream a request can still receive
depends on how the stream is cut: all that follows the reply if a piece ends with the reply, and
otherwise only what follows the piece in which the reply ends. No more than that is lost.
-/

namespace TextProtocol

open Wire (OccursAt occursAt_append occursAt_length_append indexOf?_isEarliest)

def Arrival.bytes : Arrival → Bytes
  | .data bytes => bytes
  | .ended | .silence | .failure _ => []

theorem Arrival.take_of_eq_append {arrivals taken rest : List Arrival}
    (h : arrivals = taken ++ rest) : arrivals.take (arrivals.length - rest.length) = taken := by
  rw [h, List.length_append, Nat.add_sub_cancel, List.take_left]

/-! ## The end of the reply -/

/-- Whether a beginning of a stream holds a reply depends on its length alone: it has to reach the
end of the first occurrence. -/
theorem Wire.isSome_indexOf?_iff {pattern before after data rest : Bytes}
    (hfirst : indexOf? pattern (before ++ pattern ++ after) = some before.length)
    (hstream : data ++ rest = before ++ pattern ++ after) :
    (indexOf? pattern data).isSome = true ↔ (before ++ pattern).length ≤ data.length := by
  have hearliest := indexOf?_isEarliest pattern (data ++ rest)
  rw [hstream, hfirst, ← hstream] at hearliest
  have hdata := indexOf?_isEarliest pattern data
  rw [List.length_append]
  constructor
  · intro hsome
    obtain ⟨i, hi⟩ := Option.isSome_iff_exists.mp hsome
    rw [hi] at hdata
    have hle := hdata.1.add_length_le
    have hoccurs : OccursAt pattern (data ++ rest) i := (occursAt_append rest hle).mpr hdata.1
    -- An occurrence in the beginning is one in the stream, so it is not before the first one.
    have hnot : ¬i < before.length := fun hlt ↦ hearliest.2 i hlt hoccurs
    omega
  · intro hle
    have hoccurs : OccursAt pattern data before.length :=
      (occursAt_append rest hle).mp hearliest.1
    cases hindex : indexOf? pattern data with
    | none =>
      rw [hindex] at hdata
      exact absurd hoccurs (hdata before.length)
    | some i => rfl

theorem Wire.infix_of_isSome_indexOf? {pattern data : Bytes}
    (h : (indexOf? pattern data).isSome = true) : pattern <:+: data := by
  obtain ⟨i, hi⟩ := Option.isSome_iff_exists.mp h
  have hearliest := indexOf?_isEarliest pattern data
  rw [hi] at hearliest
  exact hearliest.1.2.isInfix.trans (List.drop_suffix i data).isInfix

namespace Client

variable {expected received before after : Bytes} {chunks : List Bytes}

theorem exists_append_of_awaitReply (expected received : Bytes) (arrivals : List Arrival) :
    ∃ taken, arrivals = taken ++ (awaitReply expected received arrivals).rest ∧
      ((awaitReply expected received arrivals).result = .ok () →
        expected <:+: received ++ taken.flatMap Arrival.bytes) := by
  fun_induction awaitReply expected received arrivals with
  | case1 received arrivals hsome =>
    refine ⟨[], rfl, fun _ ↦ ?_⟩
    rw [List.flatMap_nil, List.append_nil]
    exact Wire.infix_of_isSome_indexOf? hsome
  | case2 => exact ⟨[], rfl, fun h ↦ by cases h⟩
  | case3 => exact ⟨[.ended], rfl, fun h ↦ by cases h⟩
  | case4 => exact ⟨[.silence], rfl, fun h ↦ by cases h⟩
  | case5 _ _ reason => exact ⟨[.failure reason], rfl, fun h ↦ by cases h⟩
  | case6 => exact ⟨[.data []], rfl, fun h ↦ by cases h⟩
  | case7 received _ b bytes rest ih =>
    obtain ⟨taken, heq, hwithin⟩ := ih
    refine ⟨.data (b :: bytes) :: taken, congrArg (_ :: ·) heq, fun hok ↦ ?_⟩
    rw [List.flatMap_cons, Arrival.bytes, ← List.append_assoc]
    exact hwithin hok

theorem awaitReply_of_isSome (h : (Wire.indexOf? expected received).isSome = true)
    (arrivals : List Arrival) :
    awaitReply expected received arrivals = ⟨.ok (), arrivals, false⟩ := by
  rw [awaitReply.eq_def, if_pos h]

theorem awaitReply_data (h : ¬(Wire.indexOf? expected received).isSome = true) {chunk : Bytes}
    (hchunk : chunk ≠ []) (rest : List Arrival) :
    awaitReply expected received (.data chunk :: rest) =
      awaitReply expected (received ++ chunk) rest := by
  obtain ⟨b, bytes, rfl⟩ := List.exists_cons_of_ne_nil hchunk
  rw [awaitReply.eq_def, if_neg h]

/-- The pieces of a stream that a handshake takes: they reach the end of the reply, and without the
last of them they do not. -/
structure Taken (size : Nat) (received : Bytes) (taken : List Bytes) : Prop where
  reaches : size ≤ (received ++ taken.flatten).length
  needed : ∀ front last, taken = front ++ [last] → (received ++ front.flatten).length < size

theorem Taken.cons {size : Nat} {chunk : Bytes} {taken : List Bytes}
    (h : Taken size (received ++ chunk) taken) (hshort : received.length < size) :
    Taken size received (chunk :: taken) where
  reaches := by
    rw [List.flatten_cons, ← List.append_assoc]
    exact h.reaches
  needed front last heq := by
    cases front with
    | nil => rwa [List.flatten_nil, List.append_nil]
    | cons first front =>
      rw [List.cons_append, List.cons.injEq] at heq
      rw [← heq.1, List.flatten_cons, ← List.append_assoc]
      exact h.needed front last heq.2

/-- Awaiting a reply takes pieces until they reach its end, and leaves the others. -/
theorem exists_taken_of_awaitReply
    (hfirst : Wire.indexOf? expected (before ++ expected ++ after) = some before.length)
    (hchunks : received ++ chunks.flatten = before ++ expected ++ after)
    (hne : ∀ chunk ∈ chunks, chunk ≠ []) (later : List Arrival) :
    ∃ taken rest, chunks = taken ++ rest ∧ Taken (before ++ expected).length received taken ∧
      awaitReply expected received (chunks.map .data ++ later) =
        ⟨.ok (), rest.map .data ++ later, false⟩ := by
  induction chunks generalizing received with
  | nil =>
    have hreach : (before ++ expected).length ≤ received.length := by
      rw [List.flatten_nil, List.append_nil] at hchunks
      rw [hchunks]
      exact (List.prefix_append _ after).length_le
    have hsome := (Wire.isSome_indexOf?_iff hfirst hchunks).mpr hreach
    exact ⟨[], [], rfl, ⟨by simpa using hreach, by simp⟩, awaitReply_of_isSome hsome _⟩
  | cons chunk chunks ih =>
    by_cases hreach : (before ++ expected).length ≤ received.length
    · have hsome := (Wire.isSome_indexOf?_iff hfirst hchunks).mpr hreach
      exact ⟨[], chunk :: chunks, rfl, ⟨by simpa using hreach, by simp⟩,
        awaitReply_of_isSome hsome _⟩
    · have hnone := mt (Wire.isSome_indexOf?_iff hfirst hchunks).mp hreach
      rw [List.flatten_cons, ← List.append_assoc] at hchunks
      obtain ⟨taken, rest, rfl, htaken, heq⟩ :=
        ih hchunks fun chunk hchunk ↦ hne chunk (List.mem_cons_of_mem _ hchunk)
      refine ⟨chunk :: taken, rest, rfl, htaken.cons (Nat.lt_of_not_le hreach), ?_⟩
      rw [List.map_cons, List.cons_append, awaitReply_data hnone (hne chunk List.mem_cons_self),
        heq]

/-! ## What is left of the stream -/

/-- What follows a reply in a stream of which some pieces are taken: the rest of the last piece that
was taken, and the pieces that were not. -/
theorem exists_lost_of_taken {taken rest : List Bytes}
    (hstream : (taken ++ rest).flatten = before ++ expected ++ after)
    (htaken : Taken (before ++ expected).length [] taken) :
    ∃ lost, taken.flatten = before ++ expected ++ lost ∧ after = lost ++ rest.flatten ∧
      ∀ front last, taken = front ++ [last] → lost.length < last.length := by
  have hreach := htaken.reaches
  rw [List.nil_append] at hreach
  rw [List.flatten_append] at hstream
  obtain ⟨lost, hlost⟩ : before ++ expected <+: taken.flatten :=
    List.prefix_of_prefix_length_le ⟨after, rfl⟩ ⟨rest.flatten, hstream⟩ hreach
  refine ⟨lost, hlost.symm, ?_, fun front last heq ↦ ?_⟩
  · rw [← hlost, List.append_assoc, List.append_cancel_left_eq] at hstream
    exact hstream.symm
  · -- Without its last piece, what was taken does not reach the end of the reply.
    have hshort := htaken.needed front last heq
    have hlength := congrArg List.length hlost
    rw [heq, List.flatten_append, List.flatten_singleton] at hlength
    simp only [List.length_append, List.nil_append] at hlength hshort
    omega

/-- All that follows the reply is left exactly if a piece ends where the reply does. -/
theorem flatten_rest_eq_iff {taken rest : List Bytes} {lost : Bytes}
    (htaken : Taken (before ++ expected).length [] taken)
    (hlost : taken.flatten = before ++ expected ++ lost) (hafter : after = lost ++ rest.flatten) :
    rest.flatten = after ↔ ∃ k, ((taken ++ rest).take k).flatten = before ++ expected := by
  constructor
  · intro hall
    have hnil : lost = [] := by
      rw [hafter] at hall
      exact List.append_left_eq_self.mp hall.symm
    refine ⟨taken.length, ?_⟩
    rw [List.take_left, hlost, hnil, List.append_nil]
  · rintro ⟨k, hk⟩
    have hlength := congrArg List.length hk
    suffices hnil : lost = [] by rw [hafter, hnil, List.nil_append]
    -- Fewer pieces than were taken are too short, so these are among those that end the reply.
    by_cases hfew : k < taken.length
    · obtain ⟨front, last, rfl⟩ : ∃ front last, taken = front ++ [last] :=
        ⟨_, _, (List.dropLast_concat_getLast (List.ne_nil_of_length_pos (by omega))).symm⟩
      have hle : k ≤ front.length := by
        rw [List.length_append, List.length_singleton] at hfew
        omega
      have hshort := htaken.needed front last rfl
      rw [List.append_assoc, List.take_append_of_le_length hle] at hlength
      have hsplit : (front.take k).flatten ++ (front.drop k).flatten = front.flatten := by
        rw [← List.flatten_append, List.take_append_drop]
      rw [List.nil_append, ← hsplit, List.length_append] at hshort
      omega
    · rw [List.take_append, List.take_of_length_le (Nat.le_of_not_lt hfew), List.flatten_append,
        hlost, List.length_append, List.length_append] at hlength
      exact List.eq_nil_of_length_eq_zero (by omega)

/-- After a handshake in which the server sends the expected reply, however its stream is cut, a
request can still receive what follows the reply, without the bytes that came in one piece with the
end of the reply. -/
theorem ends_handshake_of_chunks {c : Client} {net : Network} {n : Nat} {connection : Connection}
    {greeting : Bytes} (hsend : c.settings.handshakeSend = some greeting)
    (hexpect : c.settings.handshakeExpect = some expected)
    (hconnection : net.pool.connections[n]? = some connection)
    (hwrite : connection.writeFailure connection.writes = none) {later : List Arrival}
    (harrivals : connection.arrivals = chunks.map .data ++ later)
    (hchunks : chunks.flatten = before ++ expected ++ after)
    (hfirst : Wire.indexOf? expected (before ++ expected ++ after) = some before.length)
    (hne : ∀ chunk ∈ chunks, chunk ≠ []) :
    ∃ taken rest lost, chunks = taken ++ rest ∧ taken.flatten = before ++ expected ++ lost ∧
      after = lost ++ rest.flatten ∧
      (∀ front last, taken = front ++ [last] → lost.length < last.length) ∧
      (rest.flatten = after ↔ ∃ k, (chunks.take k).flatten = before ++ expected) ∧
      Ends (c.handshake n) net
        (fun _ shaken ↦ ∃ left, shaken.pool.connections[n]? = some left ∧
          left.arrivals = rest.map .data ++ later)
        fun _ _ ↦ False := by
  obtain ⟨taken, rest, rfl, htaken, hawait⟩ :=
    exists_taken_of_awaitReply hfirst ((List.nil_append _).trans hchunks) hne later
  obtain ⟨lost, hlost, hafter, hshort⟩ := exists_lost_of_taken hchunks htaken
  refine ⟨taken, rest, lost, rfl, hlost, hafter, hshort,
    flatten_rest_eq_iff htaken hlost hafter, ?_⟩
  have hwritten : ((net.pool.update n fun c ↦ { c with writes := c.writes + 1 }).record
      (.written n greeting)).connections[n]? =
        some { connection with writes := connection.writes + 1 } := by
    rw [Pool.record, Pool.getElem?_update, hconnection]
    simp
  rw [handshake, hsend]
  simp only [hexpect, write, receive, ends_bind, ends_get, ends_changePool, hconnection,
    Option.bind_some, hwrite, ends_pure, hwritten, Option.map_some, Option.getD_some, ends_mk,
    harrivals, hawait]
  refine ⟨{ connection with
    writes := connection.writes + 1, arrivals := rest.map .data ++ later
    peerClosed := connection.peerClosed || false }, ?_, rfl⟩
  rw [Pool.record, Pool.getElem?_update, hwritten, Option.map_some, if_pos rfl]

/-- A client that says HI and expects OK. -/
def greeter : Client where
  settings := {
    handshakeSend := some (Utf8.ofString "HI")
    handshakeExpect := some (Utf8.ofString "OK") }
  host := "localhost"
  port := .int 7
  timeout := .null
  isComplete := fun _ ↦ .ok true

/-- The network of a client with one connection, on which a stream arrives in pieces. -/
def dialled (chunks : List String) : Network where
  pool := { connections := [{ arrivals := chunks.map (.data ∘ Utf8.ofString) }] }

/-- The reply ends within the second of three pieces. -/
theorem ends_handshake_of_chunks_three :
    ∃ taken rest lost, ["xO", "K12", "3"].map Utf8.ofString = taken ++ rest ∧
      taken.flatten = Utf8.ofString "x" ++ Utf8.ofString "OK" ++ lost ∧
      Utf8.ofString "123" = lost ++ rest.flatten ∧
      (∀ front last, taken = front ++ [last] → lost.length < last.length) ∧
      (rest.flatten = Utf8.ofString "123" ↔
        ∃ k, ((["xO", "K12", "3"].map Utf8.ofString).take k).flatten =
          Utf8.ofString "x" ++ Utf8.ofString "OK") ∧
      Ends (greeter.handshake 0) (dialled ["xO", "K12", "3"])
        (fun _ shaken ↦ ∃ left, shaken.pool.connections[0]? = some left ∧
          left.arrivals = rest.map .data ++ [])
        fun _ _ ↦ False :=
  ends_handshake_of_chunks rfl rfl rfl rfl rfl (by decide) (by decide) (by decide)

/-- What follows the reply in one piece is not left for requests. -/
theorem handshake_drops_bytes :
    Wire.indexOf? (Utf8.ofString "OK") (Utf8.ofString "OK1") = some 0 ∧
      ¬Ends (greeter.handshake 0) (dialled ["OK1"])
        (fun _ shaken ↦ ∃ left, shaken.pool.connections[0]? = some left ∧
          left.arrivals.flatMap Arrival.bytes = Utf8.ofString "1")
        fun _ _ ↦ False := by
  refine ⟨by decide, fun h ↦ ?_⟩
  obtain ⟨left, hleft, hbytes⟩ := h
  cases hleft
  cases hbytes

end Client

end TextProtocol
