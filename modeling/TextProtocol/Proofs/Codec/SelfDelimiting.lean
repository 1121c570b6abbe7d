import TextProtocol.Proofs.Codec.Package
import TextProtocol.Proofs.Codec.Reads
import TextProtocol.Proofs.Wire.Coercion

/-!
# Self-delimiting messages

A message whose fields all end at a stop or by width is read from its own bytes alone: whatever
comes after them can be changed, added or cut off, and the parser reads the same message. So no
message is a proper beginning of another one.

What has to be ruled out for each field is that other bytes after the message put an earlier stop
into it, or fill up an optional field that is absent. The delimiter or literal that ends the field
is itself part of the message, so only a terminator that the delimiter could begin inside does harm.
-/

namespace TextProtocol

open Fault (exists_of_gives exists_of_gives_gives gives)

/-- Whether a state can tell the end of its field, if it has one, from the message itself: the field
does not go on to the end of the data, and is not an optional one that is read by width. -/
def State.SelfDelimiting : State → Prop
  | .extractField _ x => x ≠ .endOfBuffer
  | .optionalField _ x _ => x ≠ .endOfBuffer ∧ x.isFixed = false
  | _ => True

instance (state : State) : Decidable state.SelfDelimiting :=
  match state with
  | .extractField _ x => inferInstanceAs (Decidable (x ≠ .endOfBuffer))
  | .optionalField _ x _ => inferInstanceAs (Decidable (x ≠ .endOfBuffer ∧ x.isFixed = false))
  | .expectFixed _ | .expectDelimiter _ | .terminal _ => isTrue trivial

namespace Codec

variable {lenient : Bool} {m : Compiled.Message} {delimiter terminator : Option String}

/-- A field that is tied to a stop of the message ends where it did, whatever comes after. -/
theorem endsAt_congr_rest {f : Spec.Field} {x : Extraction} {states : List State}
    (htied : x.Tied delimiter terminator f states) (hbuffer : x ≠ .endOfBuffer)
    (hapart : ∀ d t, delimiter = some d → terminator = some t → d ≠ t →
      Wire.Apart (Utf8.ofString d) (Utf8.ofString t))
    {raw used rest : Bytes} {taken : List Taken}
    (hr : Reads lenient m states used rest taken)
    (hruns : x.RunsTo (raw ++ (used ++ rest)) raw.length) (rest' : Bytes) :
    x.EndsAt (raw ++ (used ++ rest')) raw.length := by
  cases htied with
  | @stop _ s others _ hstops hne hnext hothers =>
    obtain ⟨later, rfl⟩ := hr.exists_of_expected hnext
    have hocc : Wire.OccursAt (Utf8.ofString s) (raw ++ (Utf8.ofString s ++ later)) raw.length :=
      Wire.occursAt_length_append ..
    have hends := hruns.endsAt (hstops ▸ List.mem_cons_self) (by
      rw [List.append_assoc]
      exact Wire.occursAt_length_append ..)
    have hstops' : x.stops ≠ [] := by simp [hstops]
    rw [Extraction.endsAt_of_stops hstops', ← List.append_assoc, hstops, List.map_cons] at hends ⊢
    refine Wire.findStop_append_congr hends hocc (FieldCheck.ofString_ne_nil hne) fun t ht ↦ ?_
    obtain ⟨other, hother, rfl⟩ := List.mem_map.mp ht
    obtain ⟨hd, ht, hdiffers⟩ := hothers other hother
    exact hapart s other hd ht hdiffers
  | width hv =>
    rcases hruns with ⟨hwidth, -⟩ | ⟨hstops, -⟩
    · exact ⟨hwidth, by rw [List.length_append]; omega⟩
    · exact absurd rfl hstops
  | buffer => exact absurd rfl hbuffer

theorem Reads.congr_rest {states : List State}
    (hlinked : State.Linked delimiter terminator states)
    (hapart : ∀ d t, delimiter = some d → terminator = some t → d ≠ t →
      Wire.Apart (Utf8.ofString d) (Utf8.ofString t))
    (hstates : ∀ state ∈ states, state.SelfDelimiting) {used rest : Bytes}
    {taken : List Taken} (h : Reads lenient m states used rest taken) (rest' : Bytes) :
    Reads lenient m states used rest' taken := by
  induction hlinked generalizing used taken with
  | last =>
    cases h with
    | cons ht hr =>
      cases hr
      exact .cons (ht.congr_after rfl) .nil
  | text _ hnone _ ih =>
    cases h with
    | cons ht hr =>
      exact .cons (ht.congr_after hnone)
        (ih (fun s hs ↦ hstates s (List.mem_cons_of_mem _ hs)) hr)
  | required _ htied _ ih =>
    have hbuffer := hstates _ List.mem_cons_self
    cases h with
    | cons ht hr =>
      have hlater := ih (fun s hs ↦ hstates s (List.mem_cons_of_mem _ hs)) hr
      cases ht with
      | text hs => cases hs
      | required hfield hruns hv =>
        have hends := endsAt_congr_rest htied hbuffer hapart hr hruns rest'
        exact .cons (.required hfield (.inl hends) hv) hlater
  | optional _ htied _ ih =>
    obtain ⟨hbuffer, hwidth⟩ := hstates _ List.mem_cons_self
    cases h with
    | cons ht hr =>
      have hlater := ih (fun s hs ↦ hstates s (List.mem_cons_of_mem _ hs)) hr
      cases ht with
      | text hs => cases hs
      | present hfield hends hne hfollow hv =>
        refine .cons (.present hfield
          (endsAt_congr_rest htied hbuffer hapart hr (.inl hends) rest') hne ?_ hv) hlater
        intro s hs
        exact hlater.prefix_of_expected hs
      | absent hfield habsent =>
        refine .cons (.absent hfield ?_) hlater
        cases htied with
        | @stop _ s _ _ hstops _ hnext _ =>
          exact absent_of_stop (hstops ▸ List.mem_cons_self) (hlater.prefix_of_expected hnext)
        | width hv => cases hwidth
        | buffer => exact absurd rfl hbuffer

/-- A message is parsed alike whatever comes after its bytes. -/
theorem parseWith_congr_rest (hm : m.WellFormed) (hsure : m.machine.ambiguous = [])
    (hstates : ∀ state ∈ m.machine.states, state.SelfDelimiting) (hapart : m.SeparatorsApart)
    {make : Record → Except Fault Record} {before tail : Bytes} {p : Parsed}
    (h : parseWith lenient make m (before ++ tail) before.length = .ok (.ok p)) :
    ∃ used rest, tail = used ++ rest ∧ p.consumed = used.length ∧
      ∀ rest', parseWith lenient make m (before ++ (used ++ rest')) before.length =
        .ok (.ok p) := by
  obtain ⟨used, rest, taken, rfl, hr, hrecord, hconsumed⟩ := (parseWith_iff_reads hm).mp h
  refine ⟨used, rest, rfl, hconsumed, fun rest' ↦ (parseWith_iff_reads hm).mpr ?_⟩
  have hr' := hr.congr_rest (hm.linked hsure) (fun d t ↦ hapart.of_separator?) hstates rest'
  exact ⟨used, rest', taken, rfl, hr', hrecord, hconsumed⟩

/-- A message that is parsed is parsed from its own bytes alone: the bytes after it can be changed
or cut off, and none of its proper beginnings is parsed. -/
theorem parseWith_self_delimiting (hm : m.WellFormed) (hsure : m.machine.ambiguous = [])
    (hstates : ∀ state ∈ m.machine.states, state.SelfDelimiting) (hapart : m.SeparatorsApart)
    {make : Record → Except Fault Record} {data : Bytes} {offset : Nat} {p : Parsed}
    (h : parseWith lenient make m data offset = .ok (.ok p)) :
    ∃ n : Nat, p.consumed = n ∧ offset + n ≤ data.length ∧
      (∀ rest, parseWith lenient make m (data.take (offset + n) ++ rest) offset = .ok (.ok p)) ∧
      ∀ k < n, ∀ q, parseWith lenient make m (data.take (offset + k)) offset ≠ .ok (.ok q) := by
  obtain ⟨before, tail, rfl, rfl⟩ := exists_append_of_parseWith h
  obtain ⟨used, rest, rfl, hconsumed, hstable⟩ := parseWith_congr_rest hm hsure hstates hapart h
  refine ⟨used.length, hconsumed, by simp, fun rest' ↦ ?_, fun k hk q hq ↦ ?_⟩
  · rw [List.take_length_add_append, List.take_left, List.append_assoc]
    exact hstable rest'
  · -- A parse of a beginning would also be one of the whole, and so take as many bytes.
    rw [List.take_length_add_append] at hq
    obtain ⟨used', rest', heq, hconsumed', hstable'⟩ :=
      parseWith_congr_rest hm hsure hstates hapart hq
    have hwhole := hstable' (rest' ++ (used ++ rest).drop k)
    rw [← List.append_assoc used', ← heq, List.take_append_drop, h] at hwhole
    cases hwhole
    have hlength := congrArg List.length heq
    rw [List.length_take, List.length_append, List.length_append] at hlength
    omega

namespace Package

/-- A message that a package parses is parsed from its own bytes alone, if the parser for it is its
own: the bytes after it can be changed or cut off, and none of its proper beginnings is parsed. -/
theorem parse_self_delimiting {source : Spec.Message} (hm : Compiled.Sound source m)
    {package : Package} (hown : package.functionOf m = m) (hsure : m.machine.ambiguous = [])
    (hstates : ∀ state ∈ m.machine.states, state.SelfDelimiting) (hapart : m.SeparatorsApart)
    {data : Bytes} {offset : Nat} {p : Parsed} (h : package.parse m data offset = .ok (.ok p)) :
    ∃ n : Nat, p.consumed = n ∧ offset + n ≤ data.length ∧
      (∀ rest, package.parse m (data.take (offset + n) ++ rest) offset = .ok (.ok p)) ∧
      ∀ k < n, ∀ q, package.parse m (data.take (offset + k)) offset ≠ .ok (.ok q) := by
  simp only [ne_eq, parse_eq_ok_iff, hown] at h ⊢
  obtain ⟨h, hsuccess⟩ := h
  obtain ⟨n, hconsumed, hlength, hrest, hshort⟩ :=
    parseWith_self_delimiting hm.wellFormed hsure hstates hapart h
  exact ⟨n, hconsumed, hlength, fun rest ↦ ⟨hrest rest, hsuccess⟩,
    fun k hk q hq ↦ hshort k hk q hq.1⟩

/-- A line without optional values, from the third byte on, and another line. -/
def positionData : Bytes :=
  Utf8.ofString "..-5,,\r\n3,a,4\r\n"

def bareMessage : Spec.Message :=
  Compiled.positionLine "\x7bx\x7d\x7blabel\x7d\x7bz\x7d" (some ",") .null

theorem parse_self_delimiting_position :
    ∃ protocol m p, Compiled.compile (Compiled.specOf bareMessage) = .ok protocol ∧
      protocol.messages = [m] ∧ m.machine.ambiguous = [] ∧
      (∀ state ∈ m.machine.states, state.SelfDelimiting) ∧ m.SeparatorsApart ∧
      (ofProtocol protocol).parse m positionData (2 : Nat) = .ok (.ok p) ∧ p.consumed = 6 ∧
      (∀ rest, (ofProtocol protocol).parse m (positionData.take 8 ++ rest) (2 : Nat) =
        .ok (.ok p)) ∧
      ∀ k < 6, ∀ q,
        (ofProtocol protocol).parse m (positionData.take (2 + k)) (2 : Nat) ≠ .ok (.ok q) := by
  have hcompile := Compiled.exists_compile_specOf bareMessage
    (fun protocol m ↦ decide (m.machine.ambiguous = [] ∧
      (∀ state ∈ m.machine.states, state.SelfDelimiting) ∧ m.SeparatorsApart) &&
      gives ((ofProtocol protocol).parse m positionData (2 : Nat)) fun r ↦
        gives r (·.consumed == 6)) (by decide +kernel)
  obtain ⟨protocol, m, hprotocol, hmessages, h⟩ := hcompile
  rw [Bool.and_eq_true, decide_eq_true_iff] at h
  obtain ⟨⟨hsure, hstates, hapart⟩, h⟩ := h
  have hmem : m ∈ protocol.messages := hmessages ▸ List.mem_singleton_self m
  obtain ⟨source, hm⟩ := Compiled.sound_of_compile hprotocol hmem
  obtain ⟨p, hp, hconsumed⟩ := exists_of_gives_gives h
  rw [beq_iff_eq] at hconsumed
  obtain ⟨n, hn, -, hrest, hshort⟩ :=
    parse_self_delimiting hm (functionOf_of_messages hmessages) hsure hstates hapart hp
  have hlength : n = 6 := by omega
  subst hlength
  exact ⟨protocol, m, p, hprotocol, hmessages, hsure, hstates, hapart, hp, hconsumed, hrest, hshort⟩

/-- The first of the two messages has a width; the second goes on to the end of the data. -/
def sameNamesSpec : Spec :=
  Compiled.homonymSpec (.bytes (.int 2)) (.bytes .null) "\x7bcode\x7d"

/-- A message that is self-delimiting is parsed, and so is its beginning, where another message
takes the place of its parser. -/
theorem parse_takes_beginning :
    ∃ protocol m p q, Compiled.compile sameNamesSpec = .ok protocol ∧ m ∈ protocol.messages ∧
      m.machine.ambiguous = [] ∧ (∀ state ∈ m.machine.states, state.SelfDelimiting) ∧
      m.SeparatorsApart ∧ (ofProtocol protocol).parse m (Utf8.ofString "OK") 0 = .ok (.ok p) ∧
      p.consumed = 2 ∧ (ofProtocol protocol).parse m (Utf8.ofString "O") 0 = .ok (.ok q) := by
  obtain ⟨protocol, hprotocol, h⟩ : ∃ protocol, Compiled.compile sameNamesSpec = .ok protocol ∧
      (protocol.messages.any fun m ↦ decide (m.machine.ambiguous = [] ∧
        (∀ state ∈ m.machine.states, state.SelfDelimiting) ∧ m.SeparatorsApart) &&
        (gives ((ofProtocol protocol).parse m (Utf8.ofString "OK") 0) fun r ↦
          gives r (·.consumed == 2)) &&
        gives ((ofProtocol protocol).parse m (Utf8.ofString "O") 0) fun r ↦
          gives r fun _ ↦ true) = true :=
    exists_of_gives (by decide +kernel)
  obtain ⟨m, hm, h⟩ := List.any_eq_true.mp h
  rw [Bool.and_eq_true, Bool.and_eq_true, decide_eq_true_iff] at h
  obtain ⟨⟨⟨hsure, hstates, hapart⟩, hwhole⟩, hbeginning⟩ := h
  obtain ⟨p, hp, hconsumed⟩ := exists_of_gives_gives hwhole
  obtain ⟨q, hq, -⟩ := exists_of_gives_gives hbeginning
  rw [beq_iff_eq] at hconsumed
  exact ⟨protocol, m, p, q, hprotocol, hm, hsure, hstates, hapart, hp, hconsumed, hq⟩

end Package

end Codec

end TextProtocol
