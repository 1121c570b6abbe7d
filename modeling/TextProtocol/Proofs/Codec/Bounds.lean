import TextProtocol.Proofs.Codec.Offsets

/-!
# The bounds of parses

A parser goes forward through the data and never past its end. One state does so,
`position_of_step`, and a state that refuses the data reports the place where it began,
`exists_expected_of_step`. From these two facts follows what a row of states comes to,
`advances_steps`: a later place, or a failure at such a place that names one of the states and shows
the data there.
-/

namespace TextProtocol.Codec

open Fault (bind_eq_ok_iff pure_eq_ok_iff gives exists_of_gives)

variable {lenient : Bool} {m : Compiled.Message} {data : Bytes} {state : State} {x : Extraction}

/-! ## One state -/

theorem requiredEnd_bounds (hx : x.Positive) {k : Nat} (hk : k ≤ data.length) {stop : Int}
    (h : requiredEnd data k x = .ok (.ok stop)) : k ≤ stop ∧ stop ≤ data.length := by
  obtain ⟨before, tail, rfl, rfl⟩ := exists_append_of_le hk
  obtain ⟨n, hn, rfl⟩ := (requiredEnd_eq_ok_iff hx).mp h
  have hlength := hn.le_length
  rw [List.length_append]
  omega

theorem optionalEnd_bounds (hx : x.Positive) {k : Nat} (hk : k ≤ data.length) {stop : Int}
    (h : optionalEnd data k x = .ok (some stop)) : k ≤ stop ∧ stop ≤ data.length := by
  obtain ⟨before, tail, rfl, rfl⟩ := exists_append_of_le hk
  rcases endsAt_or_of_optionalEnd hx h with ⟨n, -, hn, heq⟩ | ⟨-, -, heq⟩
  · have hlength := hn.le_length
    rw [Option.some.inj heq, List.length_append]
    omega
  · cases heq

/-- A text that stands at a place ends within the data. -/
theorem add_length_le_of_standsAt {k : Nat} (hk : k ≤ data.length) {text : String}
    (h : standsAt data k text = true) : k + (Utf8.ofString text).length ≤ data.length := by
  obtain ⟨before, tail, rfl, rfl⟩ := exists_append_of_le hk
  have hlength := (standsAt_append_iff.mp h).length_le
  rw [List.length_append]
  omega

/-- A state that succeeds goes on from where it began, and stays within the data. -/
theorem position_of_step (hx : ∀ x, state.extraction? = some x → x.Positive) {k : Nat}
    (hk : k ≤ data.length) {values : Record} {next : Cursor}
    (h : step lenient m data state ⟨k, values⟩ = .ok (.ok next)) :
    k ≤ next.position ∧ next.position ≤ data.length := by
  cases hexpected : state.expected? with
  | some s =>
    rw [step_of_expected hexpected, Except.ok.injEq, expect] at h
    split at h
    · rename_i hstands
      have hlength := add_length_le_of_standsAt hk hstands
      rw [← Except.ok.inj h]
      dsimp only
      omega
    · cases h
  | none =>
    cases moves_of_step h with
    | text hs =>
      rw [hexpected] at hs
      cases hs
    | terminal | absent => exact ⟨Int.le_refl _, Int.ofNat_le.mpr hk⟩
    | required hstop => exact requiredEnd_bounds (hx _ rfl) hk hstop
    | present hstop => exact optionalEnd_bounds (hx _ rfl) hk hstop

theorem label_of_expected {s : String} (h : state.expected? = some s) :
    state.label = state.kind := by
  cases state with
  | extractField f x | optionalField f x follow => cases h
  | _ => rfl

/-- A state that fails reports itself and the place where it began. -/
theorem exists_expected_of_step {c : Cursor} {failure : ParseFailure}
    (h : step lenient m data state c = .ok (.error failure)) :
    ∃ expected, failure = .atOffset state.label data c.position expected := by
  cases hexpected : state.expected? with
  | some s =>
    rw [step_of_expected hexpected, Except.ok.injEq, expect] at h
    split at h
    · cases h
    · rw [label_of_expected hexpected]
      exact ⟨s, (Except.error.inj h).symm⟩
  | none =>
    cases state with
    | expectFixed text | expectDelimiter text => cases hexpected
    | terminal text =>
      cases hexpected
      cases h
    | optionalField f x follow =>
      -- An optional field that cannot be read is absent.
      rw [step] at h
      split at h
      · obtain ⟨next, -, h⟩ := bind_eq_ok_iff.mp h
        cases h
      · cases h
    | extractField f x =>
      rw [step] at h
      split at h
      · rw [extract] at h
        obtain ⟨stop, -, h⟩ := bind_eq_ok_iff.mp h
        cases stop with
        | error expected => exact ⟨expected, (Except.error.inj (Except.ok.inj h)).symm⟩
        | ok stop =>
          obtain ⟨result, -, h⟩ := bind_eq_ok_iff.mp h
          cases result with
          | error expected => exact ⟨expected, (Except.error.inj (Except.ok.inj h)).symm⟩
          | ok v => cases h
      · cases h

/-! ## Rows of states -/

/-- A failure that states report on data which they began to read at an offset: it lies between the
offset and the end of the data, names one of the states, and shows what stands in its place. -/
structure FailsWithin (states : List State) (data : Bytes) (offset : Int)
    (failure : ParseFailure) : Prop where
  offset_le : offset ≤ failure.offset
  le_length : failure.offset ≤ data.length
  state_eq : ∃ state ∈ states, failure.state = state.label
  actual_eq : failure.actual = ParseFailure.preview data failure.offset

/-- What states come to that begin at an offset: a place between there and the end of the data, or
a failure at such a place. -/
def Advances (states : List State) (data : Bytes) (offset : Int) :
    Except ParseFailure Cursor → Prop
  | .ok last => offset ≤ last.position ∧ last.position ≤ data.length
  | .error failure => FailsWithin states data offset failure

theorem advances_steps {states : List State}
    (hx : ∀ state ∈ states, ∀ x, state.extraction? = some x → x.Positive) {k : Nat}
    (hk : k ≤ data.length) {values : Record} {result : Except ParseFailure Cursor}
    (h : steps lenient m data states ⟨k, values⟩ = .ok result) : Advances states data k result := by
  induction states generalizing k values with
  | nil =>
    cases h
    exact ⟨Int.le_refl _, Int.ofNat_le.mpr hk⟩
  | cons state states ih =>
    have hstate := hx state List.mem_cons_self
    rw [steps] at h
    obtain ⟨first, hfirst, h⟩ := bind_eq_ok_iff.mp h
    cases first with
    | error failure =>
      cases h
      obtain ⟨expected, rfl⟩ := exists_expected_of_step hfirst
      exact ⟨Int.le_refl _, Int.ofNat_le.mpr hk, ⟨state, List.mem_cons_self, rfl⟩, rfl⟩
    | ok next =>
      obtain ⟨hge, hle⟩ := position_of_step hstate hk hfirst
      obtain ⟨l, values', rfl⟩ := exists_nat_of_step hstate hfirst
      have hrest := ih (fun s hs ↦ hx s (List.mem_cons_of_mem _ hs)) (Int.ofNat_le.mp hle) h
      cases result with
      | ok last => exact ⟨Int.le_trans hge hrest.1, hrest.2⟩
      | error failure =>
        obtain ⟨reported, hreported, heq⟩ := hrest.state_eq
        exact ⟨Int.le_trans hge hrest.offset_le, hrest.le_length,
          ⟨reported, List.mem_cons_of_mem _ hreported, heq⟩, hrest.actual_eq⟩

/-! ## Whole messages -/

/-- The number of bytes that a parse takes. One that fails takes nothing. -/
def bytesConsumed : ParseResult → Int
  | .ok parsed => parsed.consumed
  | .error _ => 0

/-- What the parser of a message reports on data which it began to read at an offset. -/
structure Reports (m : Compiled.Message) (data : Bytes) (offset : Int) (result : ParseResult) :
    Prop where
  nonneg : 0 ≤ bytesConsumed result
  le_rest : bytesConsumed result ≤ data.length - offset
  fails : ∀ failure, result = .error failure →
    bytesConsumed result = 0 ∧ FailsWithin m.machine.states data offset failure

/-- Parsers stay within the data, whatever they make of the values that they read. -/
theorem reports_of_parseWith (hm : m.WellFormed) {make : Record → Except Fault Record}
    {offset : Nat} (hoffset : offset ≤ data.length) {result : ParseResult}
    (h : parseWith lenient make m data offset = .ok result) : Reports m data offset result := by
  cases result with
  | ok parsed =>
    obtain ⟨-, last, hlast, -, hconsumed⟩ := parseWith_eq_ok_iff.mp h
    obtain ⟨hge, hle⟩ := advances_steps (positive_of_wellFormed hm) hoffset hlast
    refine ⟨?_, ?_, fun failure hfailure ↦ by cases hfailure⟩
    · rw [bytesConsumed, hconsumed]
      omega
    · rw [bytesConsumed, hconsumed]
      omega
  | error failure =>
    have hinside : ¬(data.length : Int) < offset := by omega
    rw [parseWith_of_not_lt hinside] at h
    obtain ⟨reached, hreached, h⟩ := bind_eq_ok_iff.mp h
    have hadvances := advances_steps (positive_of_wellFormed hm) hoffset hreached
    cases reached with
    | error other =>
      cases h
      refine ⟨Int.le_refl _, by rw [bytesConsumed]; omega, fun failure' heq ↦ ?_⟩
      cases heq
      exact ⟨rfl, hadvances⟩
    | ok last =>
      dsimp only at h
      cases hmake : make last.values with
      | error e =>
        rw [hmake] at h
        cases h
      | ok record =>
        rw [hmake] at h
        cases h

namespace Package

def failsAt (offset : Int) : ParseResult → Bool
  | .error failure => failure.offset == offset
  | .ok _ => false

end Package

end TextProtocol.Codec
