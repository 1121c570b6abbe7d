import TextProtocol.Proofs.Codec.SelfDelimiting
import TextProtocol.Proofs.Codec.Writes

/-!
# Beginnings of messages

A parser that is given too little of a self-delimiting message does not take it for a whole one. Up
to some state it does what it does on the whole message. From there on the text that the next state
expects is nowhere in the data, so the parse is refused, unless it faults on the way because the
bytes of a required field are cut off in the wrong place.

The comparison goes state by state, `stepsAlike_of_linked`, and does not ask that separators cannot
overlap: what matters is that the text that ends a field in the whole message is not in the data.
-/

namespace TextProtocol

open Fault (bind_eq_ok_iff bind_eq_error_iff bind_pure_eq_error_iff pure_eq_ok_iff)

/-! ## Searches in too little data -/

namespace Wire

/-- A search for the stop that ends a field finds it in the beginning of the data too, or the stop
is nowhere in that beginning. -/
theorem findStop_beginning {stop tail more : Bytes} {others : List Bytes} {n : Nat}
    (h : findStop (tail ++ more) 0 (stop :: others) = some n)
    (hocc : OccursAt stop (tail ++ more) n) :
    n ≤ tail.length ∧ OccursAt stop tail n ∧ findStop tail 0 (stop :: others) = some n ∨
      ∀ i, ¬OccursAt stop tail i := by
  have hkeeps {s : Bytes} {i : Nat} (hs : OccursAt s tail i) : OccursAt s (tail ++ more) i :=
    (occursAt_append more hs.add_length_le).mpr hs
  obtain ⟨-, hfirst⟩ := findStop_eq_some_iff.mp h
  by_cases hfits : n + stop.length ≤ tail.length
  · have hstop : OccursAt stop tail n := (occursAt_append more hfits).mp hocc
    refine .inl ⟨hstop.1, hstop, findStop_eq_some_iff.mpr ⟨⟨stop, List.mem_cons_self, hstop⟩, ?_⟩⟩
    intro j hj s hs hoccurs
    exact hfirst j hj s hs (hkeeps hoccurs)
  · -- Any other occurrence would be later in the data, and so be cut off all the more.
    refine .inr fun i hi ↦ ?_
    have hlater : ¬i < n := fun hlt ↦ hfirst i hlt stop List.mem_cons_self (hkeeps hi)
    have := hi.add_length_le
    omega

theorem standsAt_append_add {before tail pattern : Bytes} {n : Nat} (hn : n ≤ tail.length) :
    standsAt (before ++ tail) ((before.length + n : Nat) : Int) pattern = true ↔
      OccursAt pattern tail n := by
  rw [standsAt, placeOf_natCast, List.length_append, Bool.and_eq_true, decide_eq_true_iff,
    List.isPrefixOf_iff_prefix, ← List.drop_drop, List.drop_left, OccursAt]
  exact and_congr_left' (by omega)

end Wire

/-! ## Faults of coercions -/

namespace FieldCheck

theorem isLimit_of_boundViolations {side : Side} {bound : Value} {violation : Violation} {n : Int}
    {found : List Violation} (h : boundViolations side (.int n) bound violation = .ok found) :
    isLimit bound = true := by
  cases bound with
  | null | bool | int | real => rfl
  | _ => cases side <;> cases h

theorem Demands.regular {c : FieldCheck} {v : Value} (h : c.Demands v) : c.Regular := by
  cases c with
  | text minLength maxLength pattern =>
    cases v with
    | text s =>
      rw [Demands, textViolations] at h
      obtain ⟨short, hshort, h⟩ := bind_eq_ok_iff.mp h
      obtain ⟨long, hlong, h⟩ := bind_eq_ok_iff.mp h
      obtain ⟨unmatched, hunmatched, -⟩ := bind_eq_ok_iff.mp h
      refine ⟨isLimit_of_boundViolations hshort, isLimit_of_boundViolations hlong, fun p hp ↦ ?_⟩
      subst hp
      obtain ⟨b, hb, -⟩ := bind_eq_ok_iff.mp hunmatched
      exact Pattern.isPattern_of_foundIn hb
    | _ => exact h.elim
  | number minimum maximum =>
    cases v with
    | int n =>
      obtain ⟨below, hbelow, h⟩ := bind_eq_ok_iff.mp h.1
      obtain ⟨above, habove, -⟩ := bind_eq_ok_iff.mp h
      exact ⟨isLimit_of_boundViolations hbelow, isLimit_of_boundViolations habove⟩
    | _ => exact h.elim
  | boolean | choice | bytes => trivial

/-- A check that some value passes can be made on any bytes, up to the number of digits and to
patterns whose matches contradict themselves. -/
theorem coerce_eq_error {c : FieldCheck} {v : Value} {raw : Bytes} {e : Fault} (hv : c.Demands v)
    (h : c.coerce raw = .error e) : e = .invalid ∨ e = .inconsistent := by
  have hregular := hv.regular
  rw [coerce.eq_def] at h
  cases c with
  | text minLength maxLength pattern =>
    dsimp only at h
    split at h
    · cases h
    · rename_i s _
      have hfaults := hregular.textViolations_eq_error_iff (v := .text s) rfl e
      obtain ⟨-, rfl⟩ | ⟨-, -, rfl⟩ := hfaults.mp (bind_pure_eq_error_iff.mp h)
      · exact .inl rfl
      · exact .inr rfl
  | number minimum maximum =>
    obtain h | ⟨read, -, h⟩ := bind_eq_error_iff.mp h
    · cases hs : readText raw with
      | none =>
        rw [hs] at h
        cases h
      | some s =>
        rw [hs] at h
        exact .inl (readNumber_eq_error_iff.mp h).2
    · cases read with
      | none => cases h
      | some n =>
        have hfaults := hregular.numberViolations_eq_error_iff n e
        exact .inl (hfaults.mp (bind_pure_eq_error_iff.mp h)).2
  | bytes length => exact .inl (lengthViolations_eq_error_iff.mp (bind_pure_eq_error_iff.mp h)).2
  | boolean | choice values => cases h

end FieldCheck

/-! ## Rows of states -/

namespace Codec

variable {lenient : Bool} {m : Compiled.Message} {delimiter terminator : Option String}
  {data before tail more : Bytes} {state : State} {states : List State} {values : Record}
  {c next last : Cursor} {s : String}

/-- How a parse of too little data ends: it is refused, or the bytes of a required field cannot be
coerced. -/
inductive Stalls {α : Type} (m : Compiled.Message) : Except Fault (Except ParseFailure α) → Prop
  | refused (failure : ParseFailure) : Stalls m (.ok (.error failure))
  | fault {f : Spec.Field} {x : Extraction} {field : Compiled.Field} {raw : Bytes} {e : Fault} :
      .extractField f x ∈ m.machine.states → f.isRequired = true → fieldOf? m f = some field →
      (checkOf field).coerce raw = .error e → Stalls m (.error e)

theorem steps_of_step (h : step lenient m data state c = .ok (.ok next)) :
    steps lenient m data (state :: states) c = steps lenient m data states next := by
  rw [steps, h]
  rfl

theorem exists_step_of_steps (h : steps lenient m data (state :: states) c = .ok (.ok last)) :
    ∃ next, step lenient m data state c = .ok (.ok next) ∧
      steps lenient m data states next = .ok (.ok last) := by
  rw [steps] at h
  obtain ⟨result, hresult, h⟩ := bind_eq_ok_iff.mp h
  cases result with
  | error failure => cases h
  | ok next => exact ⟨next, hresult, h⟩

theorem stalls_of_step {failure : ParseFailure}
    (h : step lenient m data state c = .ok (.error failure)) :
    Stalls m (steps lenient m data (state :: states) c) := by
  rw [steps, h]
  exact .refused failure

theorem standsAt_of_steps (hs : states.head?.bind State.expected? = some s)
    (h : steps lenient m data states c = .ok (.ok last)) : standsAt data c.position s = true := by
  cases states with
  | nil => cases hs
  | cons state states =>
    obtain ⟨next, hnext, -⟩ := exists_step_of_steps h
    rw [step_of_expected hs, Except.ok.injEq, expect] at hnext
    split at hnext
    · assumption
    · cases hnext

theorem refused_of_expected (hs : states.head?.bind State.expected? = some s)
    (h : ¬standsAt data c.position s = true) :
    ∃ failure, steps lenient m data states c = .ok (.error failure) := by
  cases states with
  | nil => cases hs
  | cons state states =>
    refine ⟨.atOffset state.kind data c.position s, ?_⟩
    rw [steps, step_of_expected hs, expect, if_neg h]
    rfl

theorem stalls_of_expected (hs : states.head?.bind State.expected? = some s)
    (h : ¬standsAt data c.position s = true) : Stalls m (steps lenient m data states c) := by
  obtain ⟨failure, hsteps⟩ := refused_of_expected hs h
  rw [hsteps]
  exact .refused failure

/-! ## Too little data for one state -/

variable {f : Spec.Field} {field : Compiled.Field} {x : Extraction}

theorem step_of_requiredEnd (lenient : Bool) (hfield : fieldOf? m f = some field) {stop : Int}
    (hend : requiredEnd data c.position x = .ok (.ok stop)) :
    step lenient m data (.extractField f x) c =
      valueIn lenient (checkOf field) (Wire.between data c.position stop) >>= fun
        | .error expected =>
          pure (.error (.atOffset (State.extractField f x).label data c.position expected))
        | .ok v => pure (.ok (store c f v stop)) := by
  simp only [step, hfield, extract, hend]
  rfl

theorem exists_requiredEnd (before tail : Bytes) (hstops : x.stops ≠ []) :
    ∃ n ≤ tail.length, requiredEnd (before ++ tail) before.length x =
      .ok (.ok ((before.length + n : Nat) : Int)) := by
  rw [requiredEnd_of_stops hstops, stopAfter_append]
  cases hfind : Wire.findStop tail 0 (x.stops.map Utf8.ofString) with
  | none => exact ⟨tail.length, Nat.le_refl _, by simp⟩
  | some n =>
    obtain ⟨⟨_, -, hocc⟩, -⟩ := Wire.findStop_eq_some_iff.mp hfind
    exact ⟨n, hocc.1, by simp [Int.add_comm]⟩

/-- A required field whose next separator is not in the data ends somewhere, but not there. -/
theorem stalls_required (hstate : .extractField f x ∈ m.machine.states)
    (hrequired : f.isRequired = true) (hfield : fieldOf? m f = some field)
    (hstops : x.stops ≠ []) (hnext : states.head?.bind State.expected? = some s)
    (hmissing : ∀ i, ¬Wire.OccursAt (Utf8.ofString s) tail i) :
    Stalls m (steps lenient m (before ++ tail) (.extractField f x :: states)
      ⟨before.length, values⟩) := by
  obtain ⟨n, hn, hend⟩ := exists_requiredEnd before tail hstops
  have hstep := step_of_requiredEnd lenient (c := ⟨before.length, values⟩) hfield hend
  cases hvalue : valueIn lenient (checkOf field)
      (Wire.between (before ++ tail) before.length ((before.length + n : Nat) : Int)) with
  | error e =>
    rw [steps, hstep, hvalue]
    exact .fault hstate hrequired hfield (valueIn_eq_error_iff.mp hvalue)
  | ok result =>
    rw [hvalue] at hstep
    cases result with
    | error expected => exact stalls_of_step hstep
    | ok v =>
      rw [steps_of_step hstep]
      refine stalls_of_expected hnext fun hstands ↦ ?_
      exact hmissing n ((Wire.standsAt_append_add hn).mp hstands)

theorem extractOptional_cases {check : FieldCheck} {follow : Option String} (hx : x.Positive)
    (h : extractOptional lenient (before ++ tail) f check x follow ⟨before.length, values⟩ =
      .ok next) :
    next = ⟨before.length, values⟩ ∨ ∃ raw after v, tail = raw ++ after ∧ raw ≠ [] ∧
      x.EndsAt tail raw.length ∧ (∀ s ∈ follow, Utf8.ofString s <+: after) ∧
      valueIn lenient check raw = .ok (.ok v) ∧
      next = ⟨(before ++ raw).length, Value.putEntry values (memberName f.name) v⟩ := by
  rw [extractOptional] at h
  obtain ⟨stop?, hstop, h⟩ := bind_eq_ok_iff.mp h
  rcases endsAt_or_of_optionalEnd hx hstop with ⟨n, hn, hends, rfl⟩ | ⟨-, -, rfl⟩
  · obtain ⟨raw, after, rfl, rfl⟩ := exists_append_of_le hends.le_length
    dsimp only at h
    rw [← List.length_append] at h
    split at h
    · rename_i hfollow
      rw [follow_all_standsAt_iff] at hfollow
      obtain ⟨result, hresult, h⟩ := bind_eq_ok_iff.mp h
      rw [Wire.between_append] at hresult
      cases result with
      | error expected =>
        cases h
        exact .inl rfl
      | ok v =>
        cases h
        exact .inr ⟨raw, after, v, rfl, List.ne_nil_of_length_pos hn, hends, hfollow, hresult, rfl⟩
    · cases h
      exact .inl rfl
  · cases h
    exact .inl rfl

theorem extractOptional_of_present {check : FieldCheck} {follow : Option String}
    {raw after : Bytes} {v : Value} (hne : raw ≠ []) (hends : x.EndsAt (raw ++ after) raw.length)
    (hfollow : ∀ s ∈ follow, Utf8.ofString s <+: after)
    (hv : valueIn lenient check raw = .ok (.ok v)) :
    extractOptional lenient (before ++ (raw ++ after)) f check x follow ⟨before.length, values⟩ =
      .ok ⟨(before ++ raw).length, Value.putEntry values (memberName f.name) v⟩ := by
  rw [extractOptional, optionalEnd_of_endsAt (List.length_pos_of_ne_nil hne) hends]
  refine bind_eq_ok_iff.mpr ⟨_, rfl, ?_⟩
  dsimp only
  rw [← List.length_append, if_pos (follow_all_standsAt_iff.mpr hfollow), Wire.between_append, hv]
  rfl

theorem positive_of_stops (h : x.stops ≠ []) : x.Positive := by
  rintro length rfl
  exact absurd rfl h

theorem extractOptional_of_absent {check : FieldCheck} (hstops : x.stops ≠ [])
    (h : ∀ raw after, tail = raw ++ after → raw ≠ [] → x.EndsAt tail raw.length →
      ¬Utf8.ofString s <+: after) :
    extractOptional lenient (before ++ tail) f check x (some s) ⟨before.length, values⟩ =
      .ok ⟨before.length, values⟩ := by
  by_cases hends : ∃ n, 0 < n ∧ x.EndsAt tail n
  · obtain ⟨n, hn, hends⟩ := hends
    obtain ⟨raw, after, rfl, rfl⟩ := exists_append_of_le hends.le_length
    have hfollow : ¬(some s).all (standsAt (before ++ (raw ++ after))
        ((before ++ raw).length : Nat)) = true := by
      rw [follow_all_standsAt_iff]
      exact fun hs ↦ h raw after rfl (List.ne_nil_of_length_pos hn) hends (hs s rfl)
    rw [extractOptional, optionalEnd_of_endsAt hn hends]
    refine bind_eq_ok_iff.mpr ⟨_, rfl, ?_⟩
    dsimp only
    rw [← List.length_append, if_neg hfollow]
    rfl
  · have hend : optionalEnd (before ++ tail) before.length x = .ok none := by
      refine optionalEnd_of_not_endsAt (positive_of_stops hstops) ?_ fun n hn ↦ ?_
      · rintro length rfl
        exact absurd rfl hstops
      · exact Nat.eq_zero_of_not_pos fun hpos ↦ hends ⟨n, hpos, hn⟩
    rw [extractOptional, hend]
    rfl

theorem step_of_absent (hfield : fieldOf? m f = some field) (hstops : x.stops ≠ [])
    (h : ∀ raw after, tail = raw ++ after → raw ≠ [] → x.EndsAt tail raw.length →
      ¬Utf8.ofString s <+: after) :
    step lenient m (before ++ tail) (.optionalField f x (some s)) ⟨before.length, values⟩ =
      .ok (.ok ⟨before.length, values⟩) := by
  simp only [step, hfield, extractOptional_of_absent hstops h]
  rfl

/-- An optional field whose next separator is not in the data is absent. -/
theorem stalls_optional (hfield : fieldOf? m f = some field) (hstops : x.stops ≠ [])
    (hnext : states.head?.bind State.expected? = some s)
    (hmissing : ∀ i, ¬Wire.OccursAt (Utf8.ofString s) tail i) :
    Stalls m (steps lenient m (before ++ tail) (.optionalField f x (some s) :: states)
      ⟨before.length, values⟩) := by
  have hstep : step lenient m (before ++ tail) (.optionalField f x (some s))
      ⟨before.length, values⟩ = .ok (.ok ⟨before.length, values⟩) := by
    refine step_of_absent hfield hstops ?_
    rintro raw after rfl - - ⟨later, rfl⟩
    exact hmissing raw.length (Wire.occursAt_length_append ..)
  rw [steps_of_step hstep]
  refine stalls_of_expected hnext fun hstands ↦ ?_
  exact hmissing 0 (Wire.occursAt_zero.mpr (standsAt_append_iff.mp hstands))

/-- What a state does on too little data: the same as on the whole, or the parse stalls. -/
def StepsAlike (lenient : Bool) (m : Compiled.Message) (state : State) (states : List State)
    (before tail more : Bytes) (values : Record) : Prop :=
  (∃ raw later values', tail = raw ++ later ∧
    step lenient m (before ++ (tail ++ more)) state ⟨before.length, values⟩ =
      .ok (.ok ⟨(before ++ raw).length, values'⟩) ∧
    step lenient m (before ++ tail) state ⟨before.length, values⟩ =
      .ok (.ok ⟨(before ++ raw).length, values'⟩)) ∨
  Stalls m (steps lenient m (before ++ tail) (state :: states) ⟨before.length, values⟩)

theorem stepsAlike_text (hs : state.expected? = some s)
    (h : steps lenient m (before ++ (tail ++ more)) (state :: states) ⟨before.length, values⟩ =
      .ok (.ok last)) : StepsAlike lenient m state states before tail more values := by
  have hhead : (state :: states).head?.bind State.expected? = some s := hs
  have hwhole : Utf8.ofString s <+: tail ++ more :=
    standsAt_append_iff.mp (standsAt_of_steps hhead h)
  have hstep {tail : Bytes} (hstands : Utf8.ofString s <+: tail) :
      step lenient m (before ++ tail) state ⟨before.length, values⟩ =
        .ok (.ok ⟨(before ++ Utf8.ofString s).length, values⟩) := by
    rw [step_of_expected hs, expect, if_pos (standsAt_append_iff.mpr hstands), List.length_append]
    rfl
  by_cases hstands : Utf8.ofString s <+: tail
  · obtain ⟨later, heq⟩ := hstands
    exact .inl ⟨_, later, values, heq.symm, hstep hwhole, hstep ⟨later, heq⟩⟩
  · exact .inr (stalls_of_expected hhead fun h ↦ hstands (standsAt_append_iff.mp h))

theorem fieldOf?_of_step (hstate : state.field? = some f)
    (h : step lenient m data state c = .ok (.ok next)) : ∃ field, fieldOf? m f = some field := by
  cases hfield : fieldOf? m f with
  | some field => exact ⟨field, rfl⟩
  | none =>
    cases state with
    | extractField g x | optionalField g x follow =>
      cases hstate
      simp only [step, hfield] at h
      cases h
    | _ => cases hstate

theorem stepsAlike_required (hstate : .extractField f x ∈ m.machine.states)
    (hrequired : f.isRequired = true) (htied : x.Tied delimiter terminator f states)
    (hbuffer : x ≠ .endOfBuffer) (hx : x.Positive)
    (h : steps lenient m (before ++ (tail ++ more)) (.extractField f x :: states)
      ⟨before.length, values⟩ = .ok (.ok last)) :
    StepsAlike lenient m (.extractField f x) states before tail more values := by
  obtain ⟨next, hwhole, hrest⟩ := exists_step_of_steps h
  obtain ⟨field, hfield⟩ := fieldOf?_of_step rfl hwhole
  have hstep {data : Bytes} {c : Cursor} : step lenient m data (.extractField f x) c =
      extract lenient data (.extractField f x) f (checkOf field) x c := by
    simp only [step, hfield]
  have hextract := hstep ▸ hwhole
  obtain ⟨raw, after, v, heq, hruns, hv, rfl⟩ := (extract_eq_ok_iff hx).mp hextract
  -- The bytes of the field are the same if they are all there and it ends after them.
  have hsame (hle : raw.length ≤ tail.length) (hends : x.EndsAt tail raw.length) :
      StepsAlike lenient m (.extractField f x) states before tail more values := by
    have hraw : raw <+: tail ++ more := ⟨after, heq.symm⟩
    obtain ⟨later, rfl⟩ :=
      List.prefix_of_prefix_length_le hraw (List.prefix_append tail more) hle
    refine .inl ⟨raw, later, _, rfl, hwhole, hstep.trans ((extract_eq_ok_iff hx).mpr ?_)⟩
    exact ⟨raw, later, v, rfl, .inl hends, hv, rfl⟩
  cases htied with
  | @stop _ s others _ hstops _ hnext _ =>
    have hne : x.stops ≠ [] := by simp [hstops]
    have hocc : Wire.OccursAt (Utf8.ofString s) (tail ++ more) raw.length := by
      have hstands := standsAt_of_steps hnext hrest
      rw [heq, ← List.append_assoc, standsAt_append_iff] at hstands
      obtain ⟨later, rfl⟩ := hstands
      rw [heq]
      exact Wire.occursAt_length_append ..
    have hfind := heq ▸ hruns.endsAt (hstops ▸ List.mem_cons_self) (heq ▸ hocc)
    rw [Extraction.endsAt_of_stops hne, hstops, List.map_cons] at hfind
    rcases Wire.findStop_beginning hfind hocc with ⟨hle, -, hfound⟩ | hmissing
    · refine hsame hle ?_
      rw [Extraction.endsAt_of_stops hne, hstops]
      exact hfound
    · exact .inr (stalls_required hstate hrequired hfield hne hnext hmissing)
  | @width length _ hlength =>
    have hw : length.integer? = some (raw.length : Int) := by
      rcases hruns with ⟨hw, -⟩ | ⟨hstops, -⟩
      · exact hw
      · exact absurd rfl hstops
    by_cases hle : raw.length ≤ tail.length
    · exact hsame hle ⟨hw, hle⟩
    · have hend : requiredEnd (before ++ tail) before.length (.fixedLength length) =
          .ok (.error s!"{length.plain} bytes") := by
        rw [requiredEnd, widthOf_eq_ok_iff.mpr hw]
        refine congrArg Except.ok (if_pos ?_)
        rw [List.length_append]
        omega
      refine .inr ?_
      rw [steps, hstep, extract, hend]
      exact .refused _
  | buffer => exact absurd rfl hbuffer

theorem stepsAlike_optional (htied : x.Tied delimiter terminator f states)
    (hbuffer : x ≠ .endOfBuffer) (hwidth : x.isFixed = false)
    (h : steps lenient m (before ++ (tail ++ more))
      (.optionalField f x (states.head?.bind State.expected?) :: states) ⟨before.length, values⟩ =
        .ok (.ok last)) :
    StepsAlike lenient m (.optionalField f x (states.head?.bind State.expected?)) states before tail
      more values := by
  obtain ⟨next, hwhole, hrest⟩ := exists_step_of_steps h
  obtain ⟨field, hfield⟩ := fieldOf?_of_step rfl hwhole
  cases htied with
  | @stop _ s others _ hstops _ hnext _ =>
    rw [hnext] at hwhole ⊢
    have hne : x.stops ≠ [] := by simp [hstops]
    have hmem : Utf8.ofString s ∈ x.stops.map Utf8.ofString :=
      List.mem_map_of_mem (hstops ▸ List.mem_cons_self)
    have hextract : extractOptional lenient (before ++ (tail ++ more)) f (checkOf field) x (some s)
        ⟨before.length, values⟩ = .ok next := by
      simp only [step, hfield] at hwhole
      obtain ⟨next', hextract, heq⟩ := bind_eq_ok_iff.mp hwhole
      cases heq
      exact hextract
    rcases extractOptional_cases (positive_of_stops hne) hextract with
      rfl | ⟨raw, after, v, heq, hraw, hends, hfollow, hv, rfl⟩
    · -- The field is absent, so its stop stands at once.
      have hocc : Wire.OccursAt (Utf8.ofString s) (tail ++ more) 0 :=
        Wire.occursAt_zero.mpr (standsAt_append_iff.mp (standsAt_of_steps hnext hrest))
      have hfind : Wire.findStop (tail ++ more) 0 (x.stops.map Utf8.ofString) = some 0 :=
        Wire.findStop_eq_some_iff.mpr ⟨⟨_, hmem, hocc⟩, fun i hi ↦ absurd hi (Nat.not_lt_zero i)⟩
      rw [hstops, List.map_cons] at hfind
      rcases Wire.findStop_beginning hfind hocc with ⟨-, hocc', -⟩ | hmissing
      · refine .inl ⟨[], tail, values, rfl, ?_, ?_⟩
        · rw [List.append_nil]
          exact hwhole
        · rw [List.append_nil]
          refine step_of_absent hfield hne fun raw after _ hraw hends _ ↦ ?_
          rw [Extraction.endsAt_of_stops hne, Wire.findStop_eq_some_iff] at hends
          exact hends.2 0 (List.length_pos_of_ne_nil hraw) _ hmem hocc'
      · exact .inr (stalls_optional hfield hne hnext hmissing)
    · obtain ⟨later, rfl⟩ := hfollow s rfl
      have hocc : Wire.OccursAt (Utf8.ofString s) (tail ++ more) raw.length := by
        rw [heq]
        exact Wire.occursAt_length_append ..
      rw [Extraction.endsAt_of_stops hne, hstops, List.map_cons] at hends
      rcases Wire.findStop_beginning hends hocc with ⟨hle, hocc', hfound⟩ | hmissing
      · have hprefix : raw <+: tail ++ more := ⟨_, heq.symm⟩
        obtain ⟨after, rfl⟩ :=
          List.prefix_of_prefix_length_le hprefix (List.prefix_append tail more) hle
        refine .inl ⟨raw, after, _, rfl, hwhole, ?_⟩
        have hends' : x.EndsAt (raw ++ after) raw.length := by
          rw [Extraction.endsAt_of_stops hne, hstops]
          exact hfound
        have hfollow' : ∀ t ∈ some s, Utf8.ofString t <+: after := by
          intro t ht
          cases ht
          have hstands := hocc'.2
          rwa [List.drop_left] at hstands
        simp only [step, hfield, extractOptional_of_present hraw hends' hfollow' hv]
        rfl
      · exact .inr (stalls_optional hfield hne hnext hmissing)
  | width => cases hwidth
  | buffer => exact absurd rfl hbuffer

theorem stepsAlike_of_linked (hlinked : State.Linked delimiter terminator (state :: states))
    (hmem : state ∈ m.machine.states) (hstate : state.SelfDelimiting)
    (hx : ∀ x, state.extraction? = some x → x.Positive)
    (h : steps lenient m (before ++ (tail ++ more)) (state :: states) ⟨before.length, values⟩ =
      .ok (.ok last)) : StepsAlike lenient m state states before tail more values := by
  cases hlinked with
  | last =>
    cases terminator with
    | some t => exact stepsAlike_text rfl h
    | none => exact .inl ⟨[], tail, values, rfl, by rw [List.append_nil]; rfl, by
        rw [List.append_nil]; rfl⟩
  | text hs => exact stepsAlike_text hs h
  | required hrequired htied => exact stepsAlike_required hmem hrequired htied hstate (hx _ rfl) h
  | optional _ htied => exact stepsAlike_optional htied hstate.1 hstate.2 h

theorem stalls_of_beginning (hlinked : states = [] ∨ State.Linked delimiter terminator states)
    (hmem : ∀ state ∈ states, state ∈ m.machine.states)
    (hstates : ∀ state ∈ states, state.SelfDelimiting)
    (hx : ∀ state ∈ states, ∀ x, state.extraction? = some x → x.Positive) (hmore : more ≠ [])
    (h : steps lenient m (before ++ (tail ++ more)) states ⟨before.length, values⟩ =
      .ok (.ok last))
    (hlast : last.position = (before ++ (tail ++ more)).length) :
    Stalls m (steps lenient m (before ++ tail) states ⟨before.length, values⟩) := by
  induction states generalizing before tail values with
  | nil =>
    cases h
    have := List.length_pos_of_ne_nil hmore
    simp only [List.length_append, Int.natCast_inj] at hlast
    omega
  | cons state states ih =>
    have hlinked := hlinked.resolve_left (List.cons_ne_nil _ _)
    have hrest : states = [] ∨ State.Linked delimiter terminator states := by
      cases hlinked with
      | last => exact .inl rfl
      | text _ _ hrest | required _ _ hrest | optional _ _ hrest => exact .inr hrest
    rcases stepsAlike_of_linked hlinked (hmem _ List.mem_cons_self) (hstates _ List.mem_cons_self)
        (hx _ List.mem_cons_self) h with
      ⟨raw, later, values', rfl, hwhole, hbeginning⟩ | hstalls
    · rw [steps_of_step hwhole, List.append_assoc, ← List.append_assoc before] at h
      rw [steps_of_step hbeginning, ← List.append_assoc]
      rw [List.append_assoc, ← List.append_assoc before] at hlast
      exact ih hrest (fun s hs ↦ hmem s (List.mem_cons_of_mem _ hs))
        (fun s hs ↦ hstates s (List.mem_cons_of_mem _ hs))
        (fun s hs ↦ hx s (List.mem_cons_of_mem _ hs)) h hlast
    · exact hstalls

/-! ## Whole messages -/

/-- A parser that takes all of some data for a message stalls on every proper beginning of it. -/
theorem stalls_parseWith (hm : m.WellFormed) (hsure : m.machine.ambiguous = [])
    (hstates : ∀ state ∈ m.machine.states, state.SelfDelimiting) (hmore : more ≠ [])
    {make : Record → Except Fault Record} {p : Parsed}
    (h : parseWith lenient make m (tail ++ more) 0 = .ok (.ok p))
    (hp : p.consumed = (tail ++ more).length) : Stalls m (parseWith lenient make m tail 0) := by
  have hoffset (data : Bytes) : ¬(data.length : Int) < 0 := by omega
  rw [parseWith, if_neg (hoffset _)] at h
  obtain ⟨result, hresult, h⟩ := bind_eq_ok_iff.mp h
  cases result with
  | error failure => cases h
  | ok last =>
    obtain ⟨record, -, h⟩ := bind_eq_ok_iff.mp h
    cases h
    have hstalls : Stalls m (steps lenient m ([] ++ tail) m.machine.states ⟨0, []⟩) :=
      stalls_of_beginning (.inr (hm.linked hsure)) (fun _ hstate ↦ hstate) hstates
        (positive_of_wellFormed hm) hmore hresult (by simpa using hp)
    rw [List.nil_append] at hstalls
    rw [parseWith, if_neg (hoffset _)]
    cases hsteps : steps lenient m tail m.machine.states ⟨0, []⟩ with
    | error e =>
      rw [hsteps] at hstalls
      cases hstalls with
      | fault hstate hrequired hfield hcoerce => exact .fault hstate hrequired hfield hcoerce
    | ok result =>
      rw [hsteps] at hstalls
      cases hstalls with
      | refused failure => exact .refused failure

/-- For a message that can be written, a parse that stalls is refused, up to numbers of too many
digits and matches that contradict themselves. -/
theorem Stalls.refused_or {α : Type} {result : Except Fault (Except ParseFailure α)}
    (h : Stalls m result) (hm : m.WellFormed) {r : Record} {bytes : Bytes}
    (hr : serialize m r = .ok (.ok bytes)) :
    (∃ failure, result = .ok (.error failure)) ∨ result = .error .invalid ∨
      result = .error .inconsistent := by
  cases h with
  | refused failure => exact .inl ⟨failure, rfl⟩
  | @fault f _ field raw e hstate hrequired hfield hcoerce =>
    obtain ⟨other, hmem, rfl, hother, -⟩ := hm.exists_field hstate rfl
    obtain rfl : field = other := Option.some.inj (hfield.symm.trans hother)
    obtain ⟨v, -, hv⟩ := fieldErrors_eq_nil_iff.mp (((serialize_eq_ok_iff hm).mp hr).1 field hmem)
    have hdemands : (checkOf field).Demands v := by
      rcases hv with ⟨-, hoptional⟩ | ⟨hdemands, -⟩
      · rw [hrequired] at hoptional
        cases hoptional
      · exact hdemands
    rcases FieldCheck.coerce_eq_error hdemands hcoerce with rfl | rfl
    · exact .inr (.inl rfl)
    · exact .inr (.inr rfl)

end Codec

end TextProtocol
