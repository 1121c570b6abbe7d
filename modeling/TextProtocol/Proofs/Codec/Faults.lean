import TextProtocol.Proofs.Codec.Defaults
import TextProtocol.Proofs.Codec.LongNumbers
import TextProtocol.Proofs.Codec.Offsets
import TextProtocol.Proofs.Compile.Sample

/-!
# What parsers cannot look at

A parser answers with a message or with a failure, whatever the bytes are, except where looking at
the bytes of a field is itself a fault. `LooksAt` says which bytes a row of states looks at for
which field, and `Trips` what is wrong with such bytes: a numeral has more digits than are read, a
number or a length cannot be compared with a bound as packages carry it, a bound that is not kept
cannot be shown, or a pattern matches and the match contradicts itself. Nothing else about a
compiled message can go wrong: its states have their fields, its widths are integers, its patterns
are patterns, and the values of a parse that succeeds make a record, `exists_build_of_steps`.

In a package there is one more thing that can: names. A message may take the place of the type of
another, or hide the name of the result.
-/

namespace TextProtocol

open Fault (bind_eq_ok_iff bind_eq_error_iff bind_eq_error_iff_of_faults bind_pure_eq_error_iff
  pure_eq_ok_iff gives exists_of_gives eq_of_gives_gives)

/-! ## Numerals -/

namespace FieldCheck

theorem readText_eq_some_iff {raw : Bytes} {s : String} :
    readText raw = some s ↔ raw = Utf8.ofString s := by
  constructor
  · intro h
    exact (ofString_of_readText h).symm
  · rintro rfl
    exact readText_ofString s

end FieldCheck

namespace Codec

open Value (lookup? putEntry lookup?_putEntry lookup?_eq_none_iff isCountable)

variable {e : Fault} {field : Compiled.Field} {raw : Bytes} {c : Cursor} {low high bound : Value}
  {x : Extraction} {source : Spec.Message} {states : List State}

/-! ## Bounds -/

/-- How a bound faults: a number cannot be compared with it, or it is not kept and cannot be shown.
-/
def Hinders (bound : Value) (broken : Except Fault Bool) (e : Fault) : Prop :=
  isCountable bound = false ∧ e = .mismatch ∨ FieldCheck.Unsayable bound broken ∧ e = .invalid

theorem hinders_of_isCountable (h : isCountable bound = true) {broken : Except Fault Bool} :
    Hinders bound broken e ↔ FieldCheck.Unsayable bound broken ∧ e = .invalid := by
  simp [Hinders, h]

/-- Numbers are never compared with a bound that is not carried as one. -/
theorem hinders_of_not_isCountable (h : isCountable bound = false) {broken : Except Fault Bool}
    (hbroken : broken = .error .mismatch ∨ bound.isShowable = true) :
    (Except.error .mismatch : Except Fault (List Violation)) = .error e ↔
      Hinders bound broken e := by
  have hsay : ¬FieldCheck.Unsayable bound broken := by
    rintro ⟨rfl, hshown⟩
    simp [hshown] at hbroken
  simp [Hinders, h, hsay, eq_comm]

theorem boundViolations_carried_eq_error_iff {n : Int} {violation : Violation}
    (side : FieldCheck.Side) (e : Fault) :
    FieldCheck.boundViolations side (.int n) (carried bound) violation = .error e ↔
      Hinders bound (side.isBroken (.int n) bound) e := by
  cases hbound : isCountable bound with
  | true =>
    rw [carried_of_isCountable hbound, hinders_of_isCountable hbound,
      FieldCheck.boundViolations_eq_error_iff_of_isLimit (isLimit_of_isCountable hbound)]
  | false =>
    cases bound with
    | null | bool b | int k => cases hbound
    | real x => cases side <;> exact hinders_of_not_isCountable hbound (.inr rfl)
    | _ => cases side <;> exact hinders_of_not_isCountable hbound (.inl rfl)

/-- How a number faults on two bounds: on the low one, or on the high one that comes after it. -/
def Halts (low high : Value) (n : Int) (e : Fault) : Prop :=
  Hinders low ((Value.int n).lt low) e ∨
    (∀ e', ¬Hinders low ((Value.int n).lt low) e') ∧ Hinders high (high.lt (.int n)) e

theorem bounds_eq_error_iff {n : Int} (below above : Violation) (e : Fault) :
    (FieldCheck.boundViolations .below (.int n) (carried low) below >>= fun a ↦
      FieldCheck.boundViolations .above (.int n) (carried high) above >>= fun b ↦
        pure (a ++ b)) = .error e ↔ Halts low high n e := by
  refine bind_eq_error_iff_of_faults (boundViolations_carried_eq_error_iff .below) fun a e ↦ ?_
  rw [bind_pure_eq_error_iff]
  exact boundViolations_carried_eq_error_iff .above e

theorem numberViolations_eq_error_iff {n : Int} :
    FieldCheck.numberViolations (carried low) (carried high) (.int n) = .error e ↔
      Halts low high n e :=
  bounds_eq_error_iff _ _ e

theorem textViolations_eq_error_iff {pattern : Option String} {codes : List Nat} :
    FieldCheck.textViolations (carried low) (carried high) pattern codes = .error e ↔
      Halts low high codes.length e ∨ (∀ e', ¬Halts low high codes.length e') ∧
        ∃ p, pattern = some p ∧ Pattern.foundIn p codes = .error e := by
  have hpattern (found : List Violation) (e : Fault) :
      (FieldCheck.patternViolations pattern codes >>= fun unmatched ↦ pure (found ++ unmatched)) =
        .error e ↔ ∃ p, pattern = some p ∧ Pattern.foundIn p codes = .error e := by
    rw [bind_pure_eq_error_iff]
    cases pattern with
    | none => exact ⟨by rintro ⟨⟩, by rintro ⟨p, ⟨⟩, -⟩⟩
    | some p =>
      rw [FieldCheck.patternViolations, bind_pure_eq_error_iff]
      simp
  rw [← bind_eq_error_iff_of_faults
    (bounds_eq_error_iff (.tooShort (carried low)) (.tooLong (carried high))) hpattern,
    FieldCheck.textViolations]
  simp only [bind_assoc, pure_bind, Value.nat]

/-! ## Bytes that cannot be looked at -/

theorem coerce_number_eq_error_iff :
    (FieldCheck.number (carried low) (carried high)).coerce raw = .error e ↔
      ∃ s, raw = Utf8.ofString s ∧
        ((∃ digits, FieldCheck.Spells s.toList digits ∧ Text.maxDigits < digits.length) ∧
            e = .invalid ∨
          ∃ n, FieldCheck.readNumber s.toList = .ok (some n) ∧ Halts low high n e) := by
  simp only [← FieldCheck.readText_eq_some_iff, ← FieldCheck.readNumber_eq_error_iff,
    ← numberViolations_eq_error_iff]
  rw [FieldCheck.coerce]
  cases FieldCheck.readText raw with
  | none =>
    constructor
    · intro h
      cases h
    · rintro ⟨s, h, -⟩
      cases h
  | some s =>
    rw [Option.elim_some, bind_eq_error_iff]
    simp only [Option.some.injEq, exists_eq_left']
    refine or_congr_right ⟨?_, ?_⟩
    · rintro ⟨read, hread, h⟩
      cases read with
      | none => cases h
      | some n => exact ⟨n, hread, bind_pure_eq_error_iff.mp h⟩
    · rintro ⟨n, hread, h⟩
      exact ⟨some n, hread, bind_pure_eq_error_iff.mpr h⟩

theorem coerce_text_eq_error_iff {pattern : Option String} :
    (FieldCheck.text (carried low) (carried high) pattern).coerce raw = .error e ↔
      ∃ s, raw = Utf8.ofString s ∧
        (Halts low high (Text.codes s).length e ∨
          (∀ e', ¬Halts low high (Text.codes s).length e') ∧
            ∃ p, pattern = some p ∧ Pattern.foundIn p (Text.codes s) = .error e) := by
  simp only [← textViolations_eq_error_iff, ← FieldCheck.readText_eq_some_iff]
  rw [FieldCheck.coerce]
  cases FieldCheck.readText raw with
  | none =>
    constructor
    · intro h
      cases h
    · rintro ⟨s, h, -⟩
      cases h
  | some s =>
    dsimp only
    rw [bind_pure_eq_error_iff]
    simp

/-- What is wrong with bytes that cannot be looked at for a field, and the fault that it is. A
numeral has more digits than are read, or the number faults on its bounds. The length of a text
does, or a pattern matches and the match contradicts itself. Bytes are not as many as they have to
be, and the number cannot be shown. -/
def Trips (field : Compiled.Field) (raw : Bytes) (e : Fault) : Prop :=
  let c := field.constraints
  match field.definition.type with
  | some (.number ..) => ∃ s, raw = Utf8.ofString s ∧
    ((∃ digits, FieldCheck.Spells s.toList digits ∧ Text.maxDigits < digits.length) ∧
        e = .invalid ∨
      ∃ n, FieldCheck.readNumber s.toList = .ok (some n) ∧ Halts c.minimum c.maximum n e)
  | some (.string _) => ∃ s, raw = Utf8.ofString s ∧
    (Halts c.minLength c.maxLength (Text.codes s).length e ∨
      (∀ e', ¬Halts c.minLength c.maxLength (Text.codes s).length e') ∧
        ∃ p, c.pattern = some p ∧ Pattern.foundIn p (Text.codes s) = .error .inconsistent ∧
          e = .inconsistent)
  | some (.bytes _) =>
    FieldCheck.Unsayable c.length (.ok (!c.length.isNull && !c.length.same (.nat raw.length))) ∧
      e = .invalid
  | _ => False

/-- The bytes of a compiled field cannot be looked at exactly if something is wrong with them. -/
theorem coerce_checkOf_eq_error_iff {m : Compiled.Message} (h : Compiled.Sound source m)
    (hfield : field ∈ m.fields) : (checkOf field).coerce raw = .error e ↔ Trips field raw e := by
  have hconstraints := h.wellFormed.constraints_eq field hfield
  obtain ⟨found, hfound, herrors⟩ := h.wellFormed.findings field hfield
  have hrules := Check.not_onRules_of_severity herrors
  have htwisted (codes : List Nat) (p : String)
      (hp : (field.definition.rule.getD {}).pattern = some p) :
      Pattern.foundIn p codes = .error e ↔
        Pattern.foundIn p codes = .error .inconsistent ∧ e = .inconsistent := by
    constructor
    · intro h
      obtain rfl := Pattern.foundIn_eq_error (Check.isPattern_of_fieldFindings hfound hrules hp) h
      exact ⟨h, rfl⟩
    · rintro ⟨h, rfl⟩
      exact h
  rw [Constraints.ofField] at hconstraints
  rw [checkOf, Trips]
  cases htype : field.definition.type with
  | none =>
    rw [htype] at hconstraints
    cases hconstraints
  | some t =>
    rw [htype] at hconstraints
    cases t with
    | number low high => exact coerce_number_eq_error_iff
    | string limit =>
      obtain ⟨maxLength, -, hconstraints⟩ := bind_eq_ok_iff.mp hconstraints
      rw [pure_eq_ok_iff] at hconstraints
      dsimp only
      rw [coerce_text_eq_error_iff, ← hconstraints]
      refine exists_congr fun s ↦ and_congr_right fun _ ↦ or_congr_right ?_
      exact and_congr_right fun _ ↦ exists_congr fun p ↦ and_congr_right (htwisted _ p)
    | bytes limit =>
      dsimp only
      rw [carried_of_isCountable (h.isCountable_length hfield), FieldCheck.coerce,
        bind_pure_eq_error_iff, FieldCheck.lengthViolations_eq_error_iff]
    | boolean | enum values => exact ⟨fun h ↦ (by cases h), False.elim⟩

/-! ## States -/

variable {lenient : Bool} {m : Compiled.Message} {data : Bytes}

/-- The bytes that a state looks at for its field: a required field has an end, and an optional one
comes before what has to follow it. -/
inductive Inspects (m : Compiled.Message) (data : Bytes) :
    State → Cursor → Compiled.Field → Bytes → Prop
  | required {f : Spec.Field} {x : Extraction} {c : Cursor} {field : Compiled.Field} {stop : Int} :
      fieldOf? m f = some field → requiredEnd data c.position x = .ok (.ok stop) →
      Inspects m data (.extractField f x) c field (Wire.between data c.position stop)
  | optional {f : Spec.Field} {x : Extraction} {follow : Option String} {c : Cursor}
      {field : Compiled.Field} {stop : Int} :
      fieldOf? m f = some field → optionalEnd data c.position x = .ok (some stop) →
      follow.all (standsAt data stop) = true →
      Inspects m data (.optionalField f x follow) c field (Wire.between data c.position stop)

/-- The bytes that a row of states looks at for a field: a state that is reached does. -/
inductive LooksAt (lenient : Bool) (m : Compiled.Message) (data : Bytes) :
    List State → Cursor → Compiled.Field → Bytes → Prop
  | here {state : State} {states : List State} {c : Cursor} {field : Compiled.Field}
      {raw : Bytes} :
      Inspects m data state c field raw → LooksAt lenient m data (state :: states) c field raw
  | later {state : State} {states : List State} {c next : Cursor} {field : Compiled.Field}
      {raw : Bytes} :
      step lenient m data state c = .ok (.ok next) →
      LooksAt lenient m data states next field raw →
      LooksAt lenient m data (state :: states) c field raw

theorem exists_ends_of_width
    (hwidth : ∀ length, x = .fixedLength length → ∃ n, length.integer? = some n) (data : Bytes)
    (position : Int) :
    (∃ result, requiredEnd data position x = .ok result) ∧
      ∃ result, optionalEnd data position x = .ok result := by
  rcases x.cases_stops with ⟨length, rfl⟩ | rfl | hstops
  · obtain ⟨n, hn⟩ := hwidth length rfl
    rw [requiredEnd, optionalEnd, widthOf_eq_ok_iff.mpr hn]
    exact ⟨⟨_, rfl⟩, _, rfl⟩
  · exact ⟨⟨_, rfl⟩, _, rfl⟩
  · exact ⟨⟨_, requiredEnd_of_stops hstops data position⟩,
      _, optionalEnd_of_stops hstops data position⟩

theorem extract_eq_error_iff {state : State} {f : Spec.Field} {check : FieldCheck}
    (hwidth : ∀ length, x = .fixedLength length → ∃ n, length.integer? = some n) :
    extract lenient data state f check x c = .error e ↔
      ∃ stop, requiredEnd data c.position x = .ok (.ok stop) ∧
        check.coerce (Wire.between data c.position stop) = .error e := by
  obtain ⟨result, hresult⟩ := (exists_ends_of_width hwidth data c.position).1
  rw [extract, hresult]
  cases result with
  | error expected => exact iff_of_false (by rintro ⟨⟩) (by rintro ⟨stop, ⟨⟩, -⟩)
  | ok stop =>
    simp only [Except.ok.injEq, exists_eq_left']
    change (valueIn lenient check _ >>= _) = _ ↔ _
    rw [bind_eq_error_iff, valueIn_eq_error_iff]
    refine or_iff_left ?_
    rintro ⟨value, -, h⟩
    cases value <;> cases h

theorem extractOptional_eq_error_iff {f : Spec.Field} {check : FieldCheck} {follow : Option String}
    (hwidth : ∀ length, x = .fixedLength length → ∃ n, length.integer? = some n) :
    extractOptional lenient data f check x follow c = .error e ↔
      ∃ stop, optionalEnd data c.position x = .ok (some stop) ∧
        follow.all (standsAt data stop) = true ∧
        check.coerce (Wire.between data c.position stop) = .error e := by
  obtain ⟨result, hresult⟩ := (exists_ends_of_width hwidth data c.position).2
  rw [extractOptional, hresult]
  cases result with
  | none => exact iff_of_false (by rintro ⟨⟩) (by rintro ⟨stop, ⟨⟩, -⟩)
  | some stop =>
    simp only [Except.ok.injEq, Option.some.injEq, exists_eq_left']
    change (if follow.all (standsAt data stop) then valueIn lenient check _ >>= _ else _) = _ ↔ _
    split
    · rename_i hfollow
      rw [bind_eq_error_iff, valueIn_eq_error_iff, and_iff_right hfollow]
      refine or_iff_left ?_
      rintro ⟨value, -, h⟩
      cases value <;> cases h
    · rename_i hfollow
      exact iff_of_false (by rintro ⟨⟩) fun h ↦ hfollow h.1

/-- What the states of a compiled message are like: their fields are compiled, and widths are
integers. -/
structure Ready (m : Compiled.Message) (state : State) : Prop where
  field : ∀ f, state.field? = some f → ∃ field, fieldOf? m f = some field
  width : ∀ length, state.extraction? = some (.fixedLength length) → ∃ n, length.integer? = some n

/-- A state faults exactly if it looks at bytes that cannot be coerced. -/
theorem step_eq_error_iff {state : State} (hstate : Ready m state) :
    step lenient m data state c = .error e ↔
      ∃ field raw, Inspects m data state c field raw ∧ (checkOf field).coerce raw = .error e := by
  cases state with
  | extractField f x =>
    obtain ⟨field, hfield⟩ := hstate.field f rfl
    simp only [step, hfield]
    rw [extract_eq_error_iff fun length hx ↦ hstate.width length (congrArg some hx)]
    constructor
    · rintro ⟨stop, hstop, h⟩
      exact ⟨field, _, .required hfield hstop, h⟩
    · rintro ⟨_, _, hinspects, h⟩
      cases hinspects with
      | required hfield' hstop =>
        cases hfield.symm.trans hfield'
        exact ⟨_, hstop, h⟩
  | optionalField f x follow =>
    obtain ⟨field, hfield⟩ := hstate.field f rfl
    simp only [step, hfield]
    rw [bind_pure_eq_error_iff,
      extractOptional_eq_error_iff fun length hx ↦ hstate.width length (congrArg some hx)]
    constructor
    · rintro ⟨stop, hstop, hfollow, h⟩
      exact ⟨field, _, .optional hfield hstop hfollow, h⟩
    · rintro ⟨_, _, hinspects, h⟩
      cases hinspects with
      | optional hfield' hstop hfollow =>
        cases hfield.symm.trans hfield'
        exact ⟨_, hstop, hfollow, h⟩
  | expectFixed text | expectDelimiter text =>
    constructor
    · intro h
      cases h
    · rintro ⟨field, raw, hinspects, -⟩
      cases hinspects
  | terminal text =>
    constructor
    · intro h
      cases text <;> cases h
    · rintro ⟨field, raw, hinspects, -⟩
      cases hinspects

/-- A row of states faults exactly if it looks at bytes that cannot be coerced. -/
theorem steps_eq_error_iff (hstates : ∀ state ∈ states, Ready m state) :
    steps lenient m data states c = .error e ↔
      ∃ field raw, LooksAt lenient m data states c field raw ∧
        (checkOf field).coerce raw = .error e := by
  induction states generalizing c with
  | nil =>
    constructor
    · intro h
      cases h
    · rintro ⟨field, raw, hlooks, -⟩
      cases hlooks
  | cons state states ih =>
    have hrest : ∀ s ∈ states, Ready m s := fun s hs ↦ hstates s (List.mem_cons_of_mem _ hs)
    rw [steps, bind_eq_error_iff, step_eq_error_iff (hstates state List.mem_cons_self)]
    constructor
    · rintro (⟨field, raw, hinspects, h⟩ | ⟨result, hresult, h⟩)
      · exact ⟨field, raw, .here hinspects, h⟩
      · cases result with
        | error failure => cases h
        | ok next =>
          obtain ⟨field, raw, hlooks, hraw⟩ := (ih hrest).mp h
          exact ⟨field, raw, .later hresult hlooks, hraw⟩
    · rintro ⟨field, raw, hlooks, h⟩
      cases hlooks with
      | here hinspects => exact .inl ⟨field, raw, hinspects, h⟩
      | later hstep hlooks => exact .inr ⟨_, hstep, (ih hrest).mpr ⟨field, raw, hlooks, h⟩⟩

theorem mem_fields_of_looksAt (h : LooksAt lenient m data states c field raw) :
    field ∈ m.fields := by
  induction h with
  | here hinspects =>
    cases hinspects with
    | required hfield | optional hfield => exact List.mem_of_find?_eq_some hfield
  | later _ _ ih => exact ih

/-! ## Values that make a record -/

/-- What states do to the values of a cursor: they add values for their own fields, drop none, and
have a value for each required field. -/
structure Fills (states : List State) (c last : Cursor) : Prop where
  known : ∀ key ∈ last.values.map Prod.fst, key ∈ c.values.map Prod.fst ∨
    ∃ state ∈ states, ∃ f, state.field? = some f ∧ memberName f.name = key
  keeps : ∀ key ∈ c.values.map Prod.fst, key ∈ last.values.map Prod.fst
  takes : ∀ f x, .extractField f x ∈ states → memberName f.name ∈ last.values.map Prod.fst

theorem Moves.fills {state : State} {next : Cursor} (h : Moves data state c next) :
    Fills [state] c next := by
  have hstores {f : Spec.Field} {v : Value} {stop : Int} (hf : state.field? = some f) :
      Fills [state] c (store c f v stop) := by
    refine ⟨fun key hkey ↦ ?_, fun key hkey ↦ ?_, fun g x hg ↦ ?_⟩
    · rcases Value.mem_keys_putEntry.mp hkey with hkey | hkey
      · exact .inr ⟨state, List.mem_singleton_self _, f, hf, hkey⟩
      · exact .inl hkey
    · exact Value.mem_keys_putEntry.mpr (.inr hkey)
    · rw [← List.mem_singleton.mp hg] at hf
      cases hf
      exact Value.mem_keys_putEntry.mpr (.inl rfl)
  have hsame {c' : Cursor} (hvalues : c'.values = c.values)
      (hrequired : ∀ f x, state ≠ .extractField f x) : Fills [state] c c' := by
    refine ⟨fun key hkey ↦ .inl (hvalues ▸ hkey), fun key hkey ↦ hvalues.symm ▸ hkey,
      fun f x hf ↦ ?_⟩
    exact absurd (List.mem_singleton.mp hf).symm (hrequired f x)
  cases h with
  | text hs =>
    refine hsame rfl ?_
    rintro f x rfl
    cases hs
  | terminal | absent =>
    refine hsame rfl ?_
    intro f x heq
    cases heq
  | required _ | present _ => exact hstores rfl

theorem fills_of_steps {last : Cursor} (h : steps lenient m data states c = .ok (.ok last)) :
    Fills states c last := by
  induction states generalizing c with
  | nil =>
    cases h
    exact ⟨fun _ hkey ↦ .inl hkey, fun _ hkey ↦ hkey, fun _ _ hf ↦ absurd hf List.not_mem_nil⟩
  | cons state states ih =>
    obtain ⟨next, hnext, h⟩ := exists_step_of_steps h
    obtain ⟨hknown, hkeeps, htakes⟩ := (moves_of_step hnext).fills
    have hrest := ih h
    refine ⟨fun key hkey ↦ ?_, fun key hkey ↦ hrest.keeps key (hkeeps key hkey), fun f x hf ↦ ?_⟩
    · rcases hrest.known key hkey with hkey | ⟨s, hs, hfield⟩
      · rcases hknown key hkey with hkey | ⟨s, hs, hfield⟩
        · exact .inl hkey
        · exact .inr ⟨s, List.mem_cons.mpr (.inl (List.mem_singleton.mp hs)), hfield⟩
      · exact .inr ⟨s, List.mem_cons_of_mem _ hs, hfield⟩
    · rcases List.mem_cons.mp hf with hf | hf
      · exact hrest.keeps _ (htakes f x (List.mem_singleton.mpr hf))
      · exact hrest.takes f x hf

/-- A required field is extracted by a state that cannot do without it. -/
theorem extractField_mem (hm : m.WellFormed) (hfield : field ∈ m.fields)
    (hrequired : field.definition.isRequired = true) :
    ∃ x, .extractField field.definition x ∈ m.machine.states := by
  obtain ⟨state, hstate, hf⟩ := hm.exists_state_iff.mpr ⟨field, hfield, rfl⟩
  obtain ⟨rest, follow, -, rfl⟩ := State.exists_of_mem_ofSegments (hm.states_eq ▸ hstate) hf
  rw [State.ofField, if_pos hrequired] at hstate
  exact ⟨_, hstate⟩

/-- The values of a parse that succeeds make a record of the message. -/
theorem exists_build_of_steps (hm : m.WellFormed) {offset : Int} {last : Cursor}
    (h : steps lenient m data m.machine.states { position := offset } = .ok (.ok last)) :
    ∃ r, build m last.values = .ok r := by
  obtain ⟨hknown, -, htakes⟩ := fills_of_steps h
  refine exists_buildFrom (fun e he ↦ ?_) fun member hmember hdefault ↦ ?_
  · rcases hknown e.1 (List.mem_map_of_mem he) with hkey | ⟨state, hstate, f, hf, hname⟩
    · cases hkey
    · obtain ⟨field, hfield, rfl⟩ := hm.exists_state_iff.mp ⟨state, hstate, hf⟩
      exact mem_names_members_iff.mpr ⟨field, hfield, hname⟩
  · obtain ⟨field, hfield, hname, hrequired⟩ := exists_required_of_mem_members hmember hdefault
    obtain ⟨x, hstate⟩ := extractField_mem hm hfield hrequired
    rw [← hname]
    exact htakes field.definition x hstate

/-! ## Whole messages -/

theorem ready_of_sound (h : Compiled.Sound source m) :
    ∀ state ∈ m.machine.states, Ready m state := by
  intro state hstate
  refine ⟨fun f hf ↦ ?_, fun length hx ↦ ?_⟩
  · obtain ⟨field, -, -, hfield, -⟩ := h.wellFormed.exists_field hstate hf
    exact ⟨field, hfield⟩
  · obtain ⟨f, hf, hwidth⟩ := h.wellFormed.fixedWidth?_of_extraction hstate hx
    obtain ⟨field, hfield, rfl⟩ := h.wellFormed.exists_state_iff.mp ⟨state, hstate, hf⟩
    exact h.integer?_width hfield hwidth

/-- The parser of a message that compiles faults exactly if it begins inside the data and looks at
bytes with which something is wrong, or cannot make a record of what it has read, or if it begins
beyond the data at an offset that cannot be shown. -/
theorem parseWith_eq_error_iff (h : Compiled.Sound source m) {make : Record → Except Fault Record}
    {offset : Int} :
    parseWith lenient make m data offset = .error e ↔
      offset ≤ data.length ∧
          ((∃ field raw, LooksAt lenient m data m.machine.states { position := offset } field raw ∧
            Trips field raw e) ∨
          ∃ last, steps lenient m data m.machine.states { position := offset } = .ok (.ok last) ∧
            make last.values = .error e) ∨
        data.length < offset ∧ Text.isWritable offset = false ∧ e = .invalid := by
  by_cases hoffset : (data.length : Int) < offset
  · rw [parseWith, if_pos hoffset, and_iff_right hoffset, or_iff_right (by omega)]
    cases Text.isWritable offset with
    | true => exact ⟨by rintro ⟨⟩, by rintro ⟨⟨⟩, -⟩⟩
    | false => exact ⟨by rintro ⟨⟩; exact ⟨rfl, rfl⟩, by rintro ⟨-, rfl⟩; rfl⟩
  · have htrips : steps lenient m data m.machine.states { position := offset } = .error e ↔
        ∃ field raw, LooksAt lenient m data m.machine.states { position := offset } field raw ∧
          Trips field raw e := by
      rw [steps_eq_error_iff (ready_of_sound h)]
      refine exists_congr fun field ↦ exists_congr fun raw ↦ and_congr_right fun hlooks ↦ ?_
      exact coerce_checkOf_eq_error_iff h (mem_fields_of_looksAt hlooks)
    have hbeyond : ¬((data.length : Int) < offset ∧ Text.isWritable offset = false ∧
        e = .invalid) := fun h ↦ hoffset h.1
    rw [parseWith_of_not_lt hoffset, bind_eq_error_iff, htrips, or_iff_left hbeyond,
      and_iff_right (by omega)]
    refine or_congr_right ⟨?_, ?_⟩
    · rintro ⟨result, hresult, h⟩
      cases result with
      | error failure => cases h
      | ok last =>
        refine ⟨last, hresult, ?_⟩
        dsimp only at h
        cases hmake : make last.values with
        | error e' =>
          rw [hmake] at h
          cases h
          rfl
        | ok r =>
          rw [hmake] at h
          cases h
    · rintro ⟨last, hlast, hmake⟩
      refine ⟨_, hlast, ?_⟩
      dsimp only
      rw [hmake]
      rfl

namespace Package

theorem build_eq_error {package : Package} {given : Record} {e : Fault}
    (h : package.build m given = .error e) : e = .mismatch := by
  rw [Package.build] at h
  split at h <;> exact buildFrom_eq_error h

/-- The parsers of a package give a result for all data and all offsets, with these exceptions.
Within the data, a parser may come to look at the bytes of a field with which something is wrong.
Or the data is parsed, but the name of the result is hidden, or the type of the message has been
replaced by one that cannot hold what was read. Beyond the data, the offset may have too many digits
to be shown. -/
theorem parse_eq_error_iff {spec : Spec} {protocol : Compiled.Protocol}
    (hcompile : Compiled.compile spec = .ok protocol) {package : Package}
    (hpackage : package.messages = protocol.messages) (hm : m ∈ protocol.messages) (data : Bytes)
    (offset : Nat) {e : Fault} :
    let function := package.functionOf m
    let lenient := package.hidesInParser "Invalid"
    package.parse m data offset = .error e ↔
      offset ≤ data.length ∧
          ((∃ field raw, LooksAt lenient function data function.machine.states
              { position := offset } field raw ∧ Trips field raw e) ∨
            e = .mismatch ∧
              ∃ last, steps lenient function data function.machine.states { position := offset } =
                  .ok (.ok last) ∧
                (package.hidesInParser "ParseSuccess" = true ∨
                  package.build function ≠ Codec.build function ∧
                    ∀ r, package.build function last.values ≠ .ok r)) ∨
        data.length < offset ∧ Text.isWritable offset = false ∧ e = .invalid := by
  intro function lenient
  obtain ⟨source, hsound⟩ := Compiled.sound_of_compile hcompile
    (hpackage ▸ functionOf_mem (hpackage ▸ hm) : function ∈ protocol.messages)
  have hparse : package.parse m data offset = .error e ↔
      parseWith lenient (package.build function) function data offset = .error e ∨
        (∃ p, parseWith lenient (package.build function) function data offset = .ok (.ok p)) ∧
          package.hidesInParser "ParseSuccess" = true ∧ e = .mismatch := by
    rw [parse]
    change (parseWith lenient (package.build function) function data offset >>= _) = _ ↔ _
    cases parseWith lenient (package.build function) function data offset with
    | error e' => simp [bind, Except.bind]
    | ok result =>
      cases result with
      | error failure => exact ⟨(fun h ↦ by cases h), by simp⟩
      | ok p =>
        cases package.hidesInParser "ParseSuccess" with
        | false => exact ⟨(fun h ↦ by cases h), by simp⟩
        | true => exact ⟨fun h ↦ by cases h; simp, fun h ↦ by simp at h; rw [h]; rfl⟩
  rw [hparse, parseWith_eq_error_iff hsound, or_right_comm, Int.ofNat_le, Int.ofNat_lt]
  refine or_congr_left ⟨?_, ?_⟩
  · rintro (⟨hoffset, htrips | ⟨last, hlast, hbuild⟩⟩ | ⟨⟨p, hp⟩, hhidden, rfl⟩)
    · exact ⟨hoffset, .inl htrips⟩
    · obtain rfl := build_eq_error hbuild
      refine ⟨hoffset, .inr ⟨rfl, last, hlast, .inr ⟨fun hown ↦ ?_, fun r hr ↦ ?_⟩⟩⟩
      · obtain ⟨r, hr⟩ := exists_build_of_steps hsound.wellFormed hlast
        rw [hown, hr] at hbuild
        cases hbuild
      · cases hbuild.symm.trans hr
    · obtain ⟨hoffset, last, hlast, -⟩ := parseWith_eq_ok_iff.mp hp
      exact ⟨Int.ofNat_le.mp hoffset, .inr ⟨rfl, last, hlast, .inl hhidden⟩⟩
  · rintro ⟨hoffset, htrips | ⟨rfl, last, hlast, hcause⟩⟩
    · exact .inl ⟨hoffset, .inl htrips⟩
    · cases hbuild : package.build function last.values with
      | error e' =>
        obtain rfl := build_eq_error hbuild
        exact .inl ⟨hoffset, .inr ⟨last, hlast, hbuild⟩⟩
      | ok r =>
        have hhidden := hcause.resolve_right fun hother ↦ hother.2 r hbuild
        refine .inr ⟨⟨⟨r, last.position - offset⟩, ?_⟩, hhidden, rfl⟩
        exact parseWith_eq_ok_iff.mpr ⟨Int.ofNat_le.mpr hoffset, last, hlast, hbuild, rfl⟩

/-- Whether a message begins with a required number that takes one byte of some data, and has a
minimum that is no integer. -/
def trips (data : Bytes) (m : Compiled.Message) : Bool :=
  match m.machine.states with
  | .extractField f x :: _ => match fieldOf? m f with
    | some field => !isCountable field.constraints.minimum &&
        field.definition.isNumber &&
        gives (requiredEnd data 0 x) (fun stop ↦ gives stop (· == 1))
    | none => false
  | _ => false

/-- A number with a minimum that is no integer cannot be looked at. -/
theorem parse_eq_error_iff_number :
    ∃ protocol, Compiled.compile (Compiled.numberSpec (.real (.ofDecimal false 15 (-1)))) =
        .ok protocol ∧
      ∃ m ∈ protocol.messages,
        (ofProtocol protocol).parse m (Utf8.ofString "5\n") 0 = .error .mismatch := by
  obtain ⟨protocol, hprotocol, h⟩ : ∃ protocol, Compiled.compile (Compiled.numberSpec
        (.real (.ofDecimal false 15 (-1)))) = .ok protocol ∧
      (Compiled.lone? protocol.messages).any (trips (Utf8.ofString "5\n")) = true :=
    exists_of_gives (by decide +kernel)
  obtain ⟨m, hlone, h⟩ := (Option.any_eq_true _ _).mp h
  have hmessages := Compiled.eq_of_lone? hlone
  have hm : m ∈ protocol.messages := hmessages ▸ List.mem_singleton_self m
  refine ⟨protocol, hprotocol, m, hm, ?_⟩
  have hsame : (ofProtocol protocol).messages = protocol.messages := rfl
  refine (parse_eq_error_iff hprotocol hsame hm _ 0).mpr (.inl ⟨Nat.zero_le _, .inl ?_⟩)
  rw [functionOf_of_messages hmessages]
  rw [trips.eq_def] at h
  split at h
  · rename_i f x states hstates
    split at h
    · rename_i field hfield
      rw [Bool.and_eq_true, Bool.and_eq_true] at h
      obtain ⟨⟨hminimum, hnumber⟩, hend⟩ := h
      have hend := eq_of_gives_gives hend
      obtain ⟨low, high, htype⟩ := Spec.Field.exists_of_isNumber hnumber
      have hraw : Wire.between (Utf8.ofString "5\n") 0 1 = Utf8.ofString "5" := by decide
      have hread : FieldCheck.readNumber "5".toList = .ok (some 5) := by decide
      rw [hstates]
      refine ⟨field, _, .here (.required hfield hend), ?_⟩
      rw [Trips, htype]
      exact ⟨"5", hraw, .inr ⟨5, hread, .inl (.inl ⟨by simpa using hminimum, rfl⟩)⟩⟩
    · cases h
  · cases h

/-- One digit more than are read is enough for a parser to fault. -/
theorem parse_faults_on_ones :
    ∃ protocol, Compiled.compile (Compiled.numberSpec .null) = .ok protocol ∧
      ∃ m ∈ protocol.messages, (ofProtocol protocol).parse m (ones 4301) 0 = .error .invalid := by
  obtain ⟨protocol, hprotocol, h⟩ :
      ∃ protocol, Compiled.compile (Compiled.numberSpec .null) = .ok protocol ∧
        (Compiled.lone? protocol.messages).any isCount = true :=
    exists_of_gives (by decide +kernel)
  obtain ⟨m, hlone, h⟩ := (Option.any_eq_true _ _).mp h
  have hmessages := Compiled.eq_of_lone? hlone
  obtain ⟨f, field, hcount⟩ := exists_of_isCount h
  refine ⟨protocol, hprotocol, m, hmessages ▸ List.mem_singleton_self m, ?_⟩
  rw [parse, functionOf_of_messages hmessages,
    (parseWith_ones hcount _ _ (by decide)).1 (by decide)]
  rfl

end Package

end Codec

end TextProtocol
