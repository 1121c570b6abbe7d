import TextProtocol.Client.Receive
import TextProtocol.Proofs.Codec.Beginnings
import TextProtocol.Proofs.Codec.Offsets

/-!
# Replies in pieces

A client looks at what has arrived after every piece, and takes the first data that can be parsed
for the reply. For a protocol with one response, which is self-delimiting, how a reply is cut to
pieces does not matter: it is taken when its last piece has arrived, and nothing after it is.

Clients parse with the functions of a package, which go by names. Where another message takes the
place of the response, `Package.functionOf`, its parser decides, and may be content with less.
-/

namespace TextProtocol

open Fault (bind_eq_ok_iff gives exists_of_gives exists_of_gives_gives)

namespace Codec

/-- Whether a computation fails neither for a number of too many digits nor for a match that
contradicts itself. -/
def isUnhindered {α : Type} : Except Fault α → Bool
  | .error .invalid | .error .inconsistent => false
  | _ => true

namespace Package

variable {package : Package} {m : Compiled.Message} {data : Bytes}

theorem isComplete_eq_of_responses (h : package.messages.filter (·.isResponse) = [m]) :
    package.isComplete data = package.parses data m := by
  rw [isComplete, h, List.anyM]
  cases package.parses data m with
  | error e => rfl
  | ok b => cases b <;> rfl

theorem isComplete_of_parse (h : package.messages.filter (·.isResponse) = [m]) {p : Parsed}
    (hp : package.parse m data 0 = .ok (.ok p)) : package.isComplete data = .ok true := by
  rw [isComplete_eq_of_responses h, parses, hp]
  rfl

/-- No proper beginning of a message that is parsed as a whole counts as complete. -/
theorem isComplete_of_beginning (h : package.messages.filter (·.isResponse) = [m])
    (hown : package.functionOf m = m) (hm : m.WellFormed) (hsure : m.machine.ambiguous = [])
    (hstates : ∀ state ∈ m.machine.states, state.SelfDelimiting) {r : Record} {more bytes : Bytes}
    (hwritten : package.serialize m r = .ok (.ok bytes)) {p : Parsed}
    (hp : package.parse m (data ++ more) 0 = .ok (.ok p))
    (hconsumed : p.consumed = (data ++ more).length) (hmore : more ≠ [])
    (hlook : isUnhindered (package.parse m data 0) = true) :
    package.isComplete data = .ok false := by
  have hserialize : Codec.serialize m r = .ok (.ok bytes) := by
    rw [serialize, hown] at hwritten
    obtain ⟨result, hresult, hwritten⟩ := bind_eq_ok_iff.mp hwritten
    rw [hresult]
    by_cases hhidden : package.hides
        (if result.isOk then "SerializeSuccess" else "SerializeFailure") = true
    · rw [if_pos hhidden] at hwritten
      cases hwritten
    · rw [if_neg hhidden] at hwritten
      exact hwritten
  have hwhole : parseWith (package.hidesInParser "Invalid") (package.build m) m (data ++ more) 0 =
      .ok (.ok p) := by
    rw [parse, hown] at hp
    obtain ⟨result, hresult, hp⟩ := bind_eq_ok_iff.mp hp
    rw [hresult]
    split at hp
    · cases hp
    · exact hp
  have hstalls := stalls_parseWith hm hsure hstates hmore hwhole hconsumed
  rw [isComplete_eq_of_responses h, parses]
  rcases hstalls.refused_or hm hserialize with ⟨failure, hresult⟩ | hresult | hresult
  · rw [parse, hown, hresult]
    rfl
  · rw [parse, hown, hresult] at hlook
    cases hlook
  · rw [parse, hown, hresult] at hlook
    cases hlook

end Package

end Codec

namespace Client

theorem collectReply_data {isComplete : Bytes → Except Fault Bool} {chunk : Bytes}
    (hchunk : chunk ≠ []) (buffer : Bytes) (rest : List Arrival) :
    collectReply false isComplete buffer (.data chunk :: rest) =
      match isComplete (buffer ++ chunk) with
      | .ok true => ⟨.ok (buffer ++ chunk), rest, false⟩
      | .ok false => collectReply false isComplete (buffer ++ chunk) rest
      | .error f => ⟨.error (.fault f), rest, false⟩ := by
  obtain ⟨b, bytes, rfl⟩ := List.exists_cons_of_ne_nil hchunk
  rfl

/-- A reply that is complete with its last piece, and not before, is taken as a whole. -/
theorem collectReply_pieces {isComplete : Bytes → Except Fault Bool} {chunks : List Bytes}
    {buffer : Bytes} (hne : ∀ chunk ∈ chunks, chunk ≠ []) (hchunks : chunks ≠ [])
    (hbefore : ∀ k < chunks.length, 0 < k →
      isComplete (buffer ++ (chunks.take k).flatten) = .ok false)
    (hall : isComplete (buffer ++ chunks.flatten) = .ok true) (later : List Arrival) :
    collectReply false isComplete buffer (chunks.map .data ++ later) =
      ⟨.ok (buffer ++ chunks.flatten), later, false⟩ := by
  induction chunks generalizing buffer with
  | nil => exact absurd rfl hchunks
  | cons chunk chunks ih =>
    rw [List.map_cons, List.cons_append, collectReply_data (hne chunk List.mem_cons_self)]
    cases chunks with
    | nil =>
      rw [List.flatten_singleton] at hall ⊢
      rw [hall, List.map_nil, List.nil_append]
    | cons second rest =>
      have hfirst := hbefore 1 (by simp) Nat.one_pos
      rw [List.take_succ_cons, List.take_zero, List.flatten_singleton] at hfirst
      rw [hfirst, List.flatten_cons, ← List.append_assoc]
      refine ih (fun chunk hchunk ↦ hne chunk (List.mem_cons_of_mem _ hchunk))
        (List.cons_ne_nil _ _) (fun k hk hpos ↦ ?_) ?_
      · have hnext := hbefore (k + 1) (Nat.succ_lt_succ hk) (Nat.succ_pos k)
        rwa [List.take_succ_cons, List.flatten_cons, ← List.append_assoc] at hnext
      · rwa [List.flatten_cons, ← List.append_assoc] at hall

/-- A reply of the only response of a protocol is taken as a whole and alone, however it is cut to
pieces, if the response is self-delimiting and its functions are its own. -/
theorem collectReply_of_chunks {spec : Spec} {protocol : Compiled.Protocol}
    (hcompile : Compiled.compile spec = .ok protocol) {package : Codec.Package}
    (hmessages : package.messages = protocol.messages) {m : Compiled.Message}
    (hresponses : protocol.responses = [m]) (hown : package.functionOf m = m)
    (hsure : m.machine.ambiguous = [])
    (hstates : ∀ state ∈ m.machine.states, state.SelfDelimiting) {r record : Record} {data : Bytes}
    (hwritten : package.serialize m r = .ok (.ok data)) (hdata : data ≠ [])
    (hread : package.parse m data 0 = .ok (.ok ⟨record, data.length⟩)) {chunks : List Bytes}
    (hchunks : chunks.flatten = data) (hne : ∀ chunk ∈ chunks, chunk ≠ [])
    (hlooks : ∀ k < chunks.length, 0 < k →
      Codec.isUnhindered (package.parse m (chunks.take k).flatten 0) = true)
    (later : List Arrival) :
    collectReply false package.isComplete [] (chunks.map .data ++ later) =
      ⟨.ok data, later, false⟩ := by
  subst hchunks
  have hresponse : package.messages.filter (·.isResponse) = [m] := hmessages ▸ hresponses
  have hmem : m ∈ protocol.messages :=
    List.mem_of_mem_filter (hresponses ▸ List.mem_singleton_self m : m ∈ protocol.responses)
  obtain ⟨source, hsound⟩ := Compiled.sound_of_compile hcompile hmem
  refine collectReply_pieces hne (fun hnil ↦ hdata (by rw [hnil]; rfl)) (fun k hk hpos ↦ ?_)
    (Codec.Package.isComplete_of_parse hresponse hread) later
  have hsplit : (chunks.take k).flatten ++ (chunks.drop k).flatten = chunks.flatten := by
    rw [← List.flatten_append, List.take_append_drop]
  have hmore : (chunks.drop k).flatten ≠ [] := by
    rw [List.drop_eq_getElem_cons hk, List.flatten_cons]
    exact List.append_ne_nil_of_left_ne_nil (hne _ (List.getElem_mem hk)) _
  rw [← hsplit] at hread
  rw [List.nil_append]
  exact Codec.Package.isComplete_of_beginning hresponse hown hsound.wellFormed hsure hstates
    hwritten hread rfl hmore (hlooks k hk hpos)

/-- A protocol whose only message is a line that servers send. -/
def lineSpec : Spec where
  metadata := some { name := some "line", port := .int 7 }
  messages := some [some {
    Compiled.positionLine "\x7bx\x7d\x7blabel\x7d\x7bz\x7d" (some ",") .null with
    direction := some .response }]

/-- A line in three pieces, one of which ends within the terminator. -/
def lineChunks : List Bytes :=
  ["3,", "a,4\r", "\n"].map Utf8.ofString

theorem collectReply_of_chunks_line :
    ∃ protocol m r, Compiled.compile lineSpec = .ok protocol ∧
      protocol.responses = [m] ∧
      (Codec.Package.ofProtocol protocol).serialize m r = .ok (.ok lineChunks.flatten) ∧
      ∀ later, collectReply false (Codec.Package.ofProtocol protocol).isComplete []
        (lineChunks.map .data ++ later) = ⟨.ok lineChunks.flatten, later, false⟩ := by
  obtain ⟨protocol, hprotocol, h⟩ : ∃ protocol, Compiled.compile lineSpec = .ok protocol ∧
      (Compiled.lone? protocol.messages).any (fun m ↦
        let package := Codec.Package.ofProtocol protocol
        decide (m.isResponse = true ∧ m.machine.ambiguous = [] ∧
          (∀ state ∈ m.machine.states, state.SelfDelimiting) ∧ ∀ k < lineChunks.length, 0 < k →
            Codec.isUnhindered (package.parse m (lineChunks.take k).flatten 0) = true) &&
        gives (package.serialize m [("x", .int 3), ("label", .text "a"), ("z", .int 4)])
          (fun written ↦ gives written (· == lineChunks.flatten)) &&
        gives (package.parse m lineChunks.flatten 0)
          (fun read ↦ gives read (·.consumed == lineChunks.flatten.length))) = true :=
    exists_of_gives (by decide +kernel)
  obtain ⟨m, hlone, h⟩ := (Option.any_eq_true _ _).mp h
  have hmessages := Compiled.eq_of_lone? hlone
  rw [Bool.and_eq_true, Bool.and_eq_true, decide_eq_true_iff] at h
  obtain ⟨⟨⟨hresponse, hsure, hstates, hlooks⟩, hwritten⟩, hread⟩ := h
  obtain ⟨data, hwritten, hdata⟩ := exists_of_gives_gives hwritten
  obtain ⟨⟨record, consumed⟩, hread, hconsumed⟩ := exists_of_gives_gives hread
  rw [beq_iff_eq] at hdata hconsumed
  subst hdata hconsumed
  have hresponses : protocol.responses = [m] := by
    rw [Compiled.Protocol.responses, hmessages, List.filter_cons_of_pos hresponse,
      List.filter_nil]
  have hown : (Codec.Package.ofProtocol protocol).functionOf m = m :=
    Codec.Package.functionOf_of_messages hmessages
  exact ⟨protocol, m, _, hprotocol, hresponses, hwritten,
    collectReply_of_chunks hprotocol rfl hresponses hown hsure hstates hwritten (by decide) hread
      rfl (by decide) hlooks⟩

/-- A reply of the only response, which is self-delimiting, is cut short where another message takes
the place of the response. -/
theorem collectReply_cuts_reply :
    ∃ protocol m, Compiled.compile Codec.Package.sameNamesSpec = .ok protocol ∧
      protocol.responses = [m] ∧ m.machine.ambiguous = [] ∧
      (∀ state ∈ m.machine.states, state.SelfDelimiting) ∧
      (Codec.Package.ofProtocol protocol).serialize m [("code", .bytes [0x4f, 0x4b])] =
        .ok (.ok [0x4f, 0x4b]) ∧
      (∃ record, (Codec.Package.ofProtocol protocol).parse m [0x4f, 0x4b] 0 =
        .ok (.ok ⟨record, 2⟩)) ∧
      (collectReply false (Codec.Package.ofProtocol protocol).isComplete []
        [.data [0x4f], .data [0x4b]]).result = .ok [0x4f] := by
  obtain ⟨protocol, hprotocol, h⟩ : ∃ protocol,
      Compiled.compile Codec.Package.sameNamesSpec = .ok protocol ∧
      (Compiled.lone? protocol.responses).any (fun m ↦
        let package := Codec.Package.ofProtocol protocol
        decide (m.machine.ambiguous = [] ∧ ∀ state ∈ m.machine.states, state.SelfDelimiting) &&
        gives (package.serialize m [("code", .bytes [0x4f, 0x4b])])
          (fun written ↦ gives written (· == [0x4f, 0x4b])) &&
        gives (package.parse m [0x4f, 0x4b] 0) (fun read ↦ gives read (·.consumed == 2)) &&
        gives (collectReply false package.isComplete [] [.data [0x4f], .data [0x4b]]).result
          (· == [0x4f])) = true :=
    exists_of_gives (by decide +kernel)
  obtain ⟨m, hlone, h⟩ := (Option.any_eq_true _ _).mp h
  have hresponses := Compiled.eq_of_lone? hlone
  rw [Bool.and_eq_true, Bool.and_eq_true, Bool.and_eq_true, decide_eq_true_iff] at h
  obtain ⟨⟨⟨⟨hsure, hstates⟩, hwritten⟩, hread⟩, hreply⟩ := h
  obtain ⟨data, hwritten, hdata⟩ := exists_of_gives_gives hwritten
  obtain ⟨⟨record, consumed⟩, hread, hconsumed⟩ := exists_of_gives_gives hread
  obtain ⟨reply, hreply, hcut⟩ := exists_of_gives hreply
  rw [beq_iff_eq] at hdata hconsumed hcut
  subst hdata hconsumed hcut
  exact ⟨protocol, m, hprotocol, hresponses, hsure, hstates, hwritten, ⟨record, hread⟩, hreply⟩

end Client

end TextProtocol
