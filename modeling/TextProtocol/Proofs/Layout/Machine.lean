import TextProtocol.Codec.Serialize
import TextProtocol.Proofs.Fault

/-!
# The shape of parser machines

The states of a machine and the steps of the plan for the same layout are made by two separate
passes over the segments. `Linked` is what parsers rely on: each field is tied to what comes after
it, by a stop that the next state expects, by a width, or by the end of the data. Every layout
without ambiguous fields compiles to a linked row of states, `linked_ofSegments`, and the plan
writes state by state what the parser is going to expect, `flatMap_written_ofSegments`.

Proofs about parsers go by induction on `Linked` and never look at segments again.
-/

namespace TextProtocol

variable {terminator delimiter : Option String} {f : Spec.Field} {rest segments : List Segment}
  {state : State} {states : List State}

/-! ## Linked states -/

instance (x : Extraction) : Decidable (x = .endOfBuffer) :=
  match x with
  | .endOfBuffer => isTrue rfl
  | .untilDelimiter .. | .untilLiteral _ | .untilTerminator _ | .fixedLength _ => isFalse nofun

/-- How the end of a field is tied to the states after it. Other stops than the one that the next
state expects occur only where fields are separated by the delimiter, and then the other one is the
terminator. -/
inductive Extraction.Tied (delimiter terminator : Option String) (f : Spec.Field) :
    Extraction → List State → Prop
  | stop {x : Extraction} {s : String} {others : List String} {rest : List State} :
      x.stops = s :: others → s ≠ "" → rest.head?.bind State.expected? = some s →
      (∀ t ∈ others, delimiter = some s ∧ terminator = some t ∧ s ≠ t) →
      Tied delimiter terminator f x rest
  | width {n : Value} {rest : List State} :
      f.fixedWidth? = some n → Tied delimiter terminator f (.fixedLength n) rest
  | buffer : Tied delimiter terminator f .endOfBuffer [.terminal none]

/-- A row of states in which each field is tied to what comes after it. -/
inductive State.Linked (delimiter terminator : Option String) : List State → Prop
  | last : Linked delimiter terminator [.terminal terminator]
  | text {state : State} {s : String} {rest : List State} :
      state.expected? = some s → state.field? = none →
      Linked delimiter terminator rest → Linked delimiter terminator (state :: rest)
  | required {f : Spec.Field} {x : Extraction} {rest : List State} :
      f.isRequired = true → x.Tied delimiter terminator f rest →
      Linked delimiter terminator rest → Linked delimiter terminator (.extractField f x :: rest)
  | optional {f : Spec.Field} {x : Extraction} {rest : List State} :
      f.isRequired = false → x.Tied delimiter terminator f rest →
      Linked delimiter terminator rest →
      Linked delimiter terminator (.optionalField f x (rest.head?.bind State.expected?) :: rest)

theorem State.Linked.exists_tied (h : State.Linked delimiter terminator states)
    (hstate : state ∈ states) {x : Extraction} (hx : state.extraction? = some x) :
    ∃ f rest, state.field? = some f ∧ x.Tied delimiter terminator f rest := by
  induction h with
  | last =>
    rw [List.mem_singleton.mp hstate] at hx
    cases hx
  | text _ hnone _ ih =>
    rcases List.mem_cons.mp hstate with rfl | hstate
    · cases state with
      | extractField f x | optionalField f x follow => cases hnone
      | _ => cases hx
    · exact ih hstate
  | @required f _ rest _ htied _ ih =>
    rcases List.mem_cons.mp hstate with rfl | hstate
    · cases hx
      exact ⟨f, rest, rfl, htied⟩
    · exact ih hstate
  | @optional f _ rest _ htied _ ih =>
    rcases List.mem_cons.mp hstate with rfl | hstate
    · cases hx
      exact ⟨f, rest, rfl, htied⟩
    · exact ih hstate

theorem State.Linked.isRequired_eq_false (h : State.Linked delimiter terminator states)
    {x : Extraction} {follow : Option String} (hstate : .optionalField f x follow ∈ states) :
    f.isRequired = false := by
  induction h with
  | last => cases List.mem_singleton.mp hstate
  | text hexpected _ _ ih =>
    rcases List.mem_cons.mp hstate with rfl | hstate
    · cases hexpected
    · exact ih hstate
  | required _ _ _ ih =>
    rcases List.mem_cons.mp hstate with heq | hstate
    · cases heq
    · exact ih hstate
  | optional hoptional _ _ ih =>
    rcases List.mem_cons.mp hstate with heq | hstate
    · cases heq
      exact hoptional
    · exact ih hstate

def State.ofField (f : Spec.Field) (x : Extraction) (follow : Option String) : State :=
  if f.isRequired then .extractField f x else .optionalField f x follow

@[simp] theorem State.field?_ofField (f : Spec.Field) (x : Extraction) (follow : Option String) :
    (State.ofField f x follow).field? = some f := by
  rw [State.ofField]
  split <;> rfl

@[simp] theorem State.extraction?_ofField (f : Spec.Field) (x : Extraction)
    (follow : Option String) : (State.ofField f x follow).extraction? = some x := by
  rw [State.ofField]
  split <;> rfl

/-- The states of a layout that begins with a field: a delimiter if a field stands before, the
state of the field, and those of the rest. -/
theorem State.ofSegments_field (delimiter terminator : Option String) (afterField : Bool)
    (f : Spec.Field) (rest : List Segment) :
    ofSegments delimiter terminator afterField (.field f :: rest) =
      (if afterField then delimiter.toList.map .expectDelimiter else []) ++
        ofField f (Extraction.derive delimiter terminator f rest).1
          ((ofSegments delimiter terminator true rest).head?.bind expected?) ::
        ofSegments delimiter terminator true rest := by
  cases delimiter <;> cases afterField <;> rfl

/-- The extraction of a field by what comes next is tied to the states of what comes next, unless
its boundary is ambiguous. -/
theorem Extraction.tied_ofNext (hdelimiter : delimiter ≠ some "")
    (hterminator : terminator ≠ some "") (hliteral : ∀ text, .literal text ∈ rest → text ≠ "")
    (hsure : (derive.ofNext delimiter terminator f rest).2 = false) :
    (derive.ofNext delimiter terminator f rest).1.Tied delimiter terminator f
      (State.ofSegments delimiter terminator true rest) := by
  cases rest with
  | nil =>
    cases terminator with
    | some t => exact .stop rfl (fun hempty ↦ hterminator (by rw [hempty])) rfl (by simp)
    | none => exact .buffer
  | cons segment later =>
    cases segment with
    | literal text => exact .stop rfl (hliteral text List.mem_cons_self) rfl (by simp)
    | field g =>
      cases delimiter with
      | some d =>
        refine .stop rfl (fun hempty ↦ hdelimiter (by rw [hempty])) rfl fun t ht ↦ ?_
        obtain ⟨ht, hne⟩ := Option.filter_eq_some_iff.mp (Option.mem_toList.mp ht)
        exact ⟨rfl, ht, fun heq ↦ by simp [heq] at hne⟩
      | none =>
        rw [derive.ofNext] at hsure ⊢
        cases hwidth : f.fixedWidth? with
        | some width => exact .width hwidth
        | none => simp [hwidth] at hsure

theorem Extraction.tied_derive (hdelimiter : delimiter ≠ some "")
    (hterminator : terminator ≠ some "") (hliteral : ∀ text, .literal text ∈ rest → text ≠ "")
    (hsure : (derive delimiter terminator f rest).2 = false) :
    (derive delimiter terminator f rest).1.Tied delimiter terminator f
      (State.ofSegments delimiter terminator true rest) := by
  rw [derive.eq_def] at hsure ⊢
  split at hsure
  · rename_i length htype
    by_cases hnull : length.isNull = true
    · rw [if_pos hnull] at hsure ⊢
      exact tied_ofNext hdelimiter hterminator hliteral hsure
    · rw [if_neg hnull]
      refine .width ?_
      rw [Spec.Field.fixedWidth?, htype]
      exact if_neg hnull
  · exact tied_ofNext hdelimiter hterminator hliteral hsure

theorem linked_ofSegments (hdelimiter : delimiter ≠ some "") (hterminator : terminator ≠ some "")
    (hliteral : ∀ text, .literal text ∈ segments → text ≠ "")
    (hsure : Segment.ambiguous delimiter terminator segments = []) (afterField : Bool) :
    State.Linked delimiter terminator
      (State.ofSegments delimiter terminator afterField segments) := by
  induction segments generalizing afterField with
  | nil => exact .last
  | cons segment rest ih =>
    have hrest : ∀ text, .literal text ∈ rest → text ≠ "" := fun text h ↦
      hliteral text (List.mem_cons_of_mem _ h)
    cases segment with
    | literal text => exact .text rfl rfl (ih hrest hsure false)
    | field f =>
      rw [Segment.ambiguous] at hsure
      split at hsure
      · simp at hsure
      · rename_i hderive
        rw [Bool.not_eq_true] at hderive
        have htied := Extraction.tied_derive hdelimiter hterminator hrest hderive
        have hlater := ih hrest hsure true
        have hown : State.Linked delimiter terminator
            (State.ofField f (Extraction.derive delimiter terminator f rest).1
                ((State.ofSegments delimiter terminator true rest).head?.bind State.expected?) ::
              State.ofSegments delimiter terminator true rest) := by
          cases hrequired : f.isRequired with
          | true =>
            rw [State.ofField, if_pos hrequired]
            exact .required hrequired htied hlater
          | false =>
            rw [State.ofField, if_neg (by simp [hrequired])]
            exact .optional hrequired htied hlater
        rw [State.ofSegments_field]
        cases afterField with
        | false => exact hown
        | true =>
          cases delimiter with
          | none => exact hown
          | some d => exact .text rfl rfl hown

/-! ## What is written for states -/

namespace Codec

def sent? (r : Record) (f : Spec.Field) : Option Value :=
  let v := r.get (memberName f.name)
  if f.isRequired then some v
  else if f.defaultValue.isNull then if v.isNull then none else some v
  else some (if v.isNull then f.defaultValue else v)

theorem sent?_of_get {r : Record} {f : Spec.Field} {v : Value}
    (hget : r.get (memberName f.name) = v) (hv : v.isNull = false) : sent? r f = some v := by
  rw [sent?, hget]
  cases f.isRequired <;> cases f.defaultValue.isNull <;> simp [hv]

/-- Whether a field is left out, or its value has bytes. -/
def HasBytes (r : Record) (f : Spec.Field) : Prop :=
  ∀ v ∈ sent? r f, Wire.fault? v = none

def fieldBytes (r : Record) (f : Spec.Field) : Bytes :=
  (sent? r f).elim [] Wire.render

def stepBytes (r : Record) : Step → Bytes
  | .literal text | .delimiter text | .terminator text => Utf8.ofString text
  | .field f => fieldBytes r f

theorem emitField_eq_ok_iff {r : Record} {f : Spec.Field} {bytes : Bytes} :
    emitField r f = .ok bytes ↔ HasBytes r f ∧ fieldBytes r f = bytes := by
  have hsent : emitField r f = (sent? r f).elim (.ok []) Wire.encode := by
    rw [emitField, sent?]
    split
    · rfl
    · split
      · split <;> rfl
      · rfl
  rw [hsent, HasBytes, fieldBytes]
  cases sent? r f with
  | none => simp
  | some v =>
    rw [Option.elim_some, Wire.encode]
    cases hfault : Wire.fault? v <;> simp [hfault]

theorem emit_eq_ok_iff {r : Record} {step : Step} {bytes : Bytes} :
    emit r step = .ok bytes ↔ (∀ f, step = .field f → HasBytes r f) ∧ stepBytes r step = bytes := by
  cases step with
  | literal | delimiter | terminator => simp [emit, stepBytes]
  | field f => simp [emit, stepBytes, emitField_eq_ok_iff]

/-- The steps of a plan are written if each value that they write has bytes. -/
theorem mapM_emit_eq_ok_iff {r : Record} {steps : List Step} {parts : List Bytes} :
    steps.mapM (emit r) = .ok parts ↔
      (∀ f, .field f ∈ steps → HasBytes r f) ∧ steps.map (stepBytes r) = parts := by
  rw [Fault.mapM_eq_ok_iff]
  induction steps generalizing parts with
  | nil => cases parts <;> simp
  | cons step steps ih =>
    cases parts with
    | nil => simp
    | cons part parts =>
      simp only [List.map_cons, List.cons.injEq, ih, emit_eq_ok_iff, List.mem_cons]
      constructor
      · rintro ⟨⟨hstep, hpart⟩, hsteps, hparts⟩
        exact ⟨fun f hf ↦ hf.elim (fun h ↦ hstep f h.symm) (hsteps f), hpart, hparts⟩
      · rintro ⟨h, hpart, hparts⟩
        exact ⟨⟨fun f hf ↦ h f (.inl hf.symm), hpart⟩, fun f hf ↦ h f (.inr hf), hparts⟩

end Codec

open Codec (fieldBytes stepBytes)

def State.written (r : Record) : State → Bytes
  | .extractField f _ | .optionalField f .. => fieldBytes r f
  | .expectFixed text | .expectDelimiter text => Utf8.ofString text
  | .terminal text => (text.map Utf8.ofString).getD []

theorem State.written_of_expected {r : Record} {s : String} (h : state.expected? = some s) :
    state.written r = Utf8.ofString s := by
  cases state with
  | expectFixed text | expectDelimiter text =>
    cases h
    rfl
  | terminal text =>
    cases h
    rfl
  | _ => cases h

theorem Step.ofSegmentsFrom_field (delimiter : Option String) (afterField : Bool)
    (f : Spec.Field) (rest : List Segment) :
    ofSegmentsFrom delimiter afterField (.field f :: rest) =
      (if afterField then delimiter.toList.map .delimiter else []) ++
        .field f :: ofSegmentsFrom delimiter true rest := by
  cases delimiter <;> cases afterField <;> rfl

/-- The plan of a layout writes, state by state, what the parser goes through. -/
theorem flatMap_written_ofSegments (r : Record) (delimiter terminator : Option String)
    (afterField : Bool) (segments : List Segment) :
    (State.ofSegments delimiter terminator afterField segments).flatMap (State.written r) =
      (Step.ofSegmentsFrom delimiter afterField segments ++
        terminator.toList.map Step.terminator).flatMap (stepBytes r) := by
  induction segments generalizing afterField with
  | nil => cases terminator <;> rfl
  | cons segment rest ih =>
    cases segment with
    | literal text =>
      rw [State.ofSegments, Step.ofSegmentsFrom, List.cons_append, List.flatMap_cons,
        List.flatMap_cons, ih]
      rfl
    | field f =>
      have hown (x : Extraction) (follow : Option String) :
          State.written r (State.ofField f x follow) = stepBytes r (.field f) := by
        rw [State.ofField]
        split <;> rfl
      rw [State.ofSegments_field, Step.ofSegmentsFrom_field, List.append_assoc,
        List.flatMap_append, List.flatMap_append, List.cons_append, List.flatMap_cons,
        List.flatMap_cons, hown, ih]
      cases delimiter <;> cases afterField <;> rfl

/-! ## The fields and the stops of states -/

def Segment.field? : Segment → Option Spec.Field
  | .field f => some f
  | .literal _ => none

/-- The states of a layout extract its fields, in their order. -/
theorem filterMap_field_ofSegments (delimiter terminator : Option String) (afterField : Bool)
    (segments : List Segment) :
    (State.ofSegments delimiter terminator afterField segments).filterMap State.field? =
      segments.filterMap Segment.field? := by
  induction segments generalizing afterField with
  | nil => rfl
  | cons segment rest ih =>
    cases segment with
    | literal text => exact ih false
    | field f =>
      rw [State.ofSegments_field, List.filterMap_append,
        List.filterMap_cons_some (State.field?_ofField ..), ih]
      cases delimiter <;> cases afterField <;> rfl

/-- The next separator after a field is never a width. -/
theorem Extraction.downstream_ne_fixedLength (terminator : Option String) (rest : List Segment)
    (n : Value) : downstream terminator rest ≠ .fixedLength n := by
  induction rest with
  | nil => cases terminator <;> nofun
  | cons segment rest ih =>
    cases segment with
    | literal text => nofun
    | field f => exact ih

theorem Extraction.ne_of_mem_stops_downstream (hterminator : terminator ≠ some "")
    (hliteral : ∀ text, .literal text ∈ rest → text ≠ "") {s : String}
    (hs : s ∈ (downstream terminator rest).stops) : s ≠ "" := by
  induction rest with
  | nil =>
    cases terminator with
    | none => cases hs
    | some t =>
      rw [List.mem_singleton.mp hs]
      exact fun hempty ↦ hterminator (congrArg some hempty)
  | cons segment rest ih =>
    cases segment with
    | literal text =>
      rw [List.mem_singleton.mp hs]
      exact hliteral text List.mem_cons_self
    | field f => exact ih (fun text h ↦ hliteral text (List.mem_cons_of_mem _ h)) hs

/-- No stop of a field is empty, also where its boundary is ambiguous. -/
theorem Extraction.ne_of_mem_stops_derive (hdelimiter : delimiter ≠ some "")
    (hterminator : terminator ≠ some "") (hliteral : ∀ text, .literal text ∈ rest → text ≠ "")
    {s : String} (hs : s ∈ (derive delimiter terminator f rest).1.stops) : s ≠ "" := by
  have hnext (hs : s ∈ (derive.ofNext delimiter terminator f rest).1.stops) : s ≠ "" := by
    rw [derive.ofNext.eq_def] at hs
    split at hs
    · exact ne_of_mem_stops_downstream hterminator hliteral hs
    · split at hs
      · rename_i d
        rcases List.mem_cons.mp hs with rfl | hs
        · exact fun hempty ↦ hdelimiter (congrArg some hempty)
        · have ht := (Option.filter_eq_some_iff.mp (Option.mem_toList.mp hs)).1
          exact fun hempty ↦ hterminator (by rw [ht, hempty])
      · split at hs
        · cases hs
        · exact ne_of_mem_stops_downstream hterminator hliteral hs
    · exact ne_of_mem_stops_downstream hterminator hliteral hs
  rw [derive.eq_def] at hs
  split at hs
  · split at hs
    · exact hnext hs
    · cases hs
  · exact hnext hs

/-- A field of bytes with a length is read by it, whatever comes next. -/
theorem Extraction.derive_of_bytes {length : Value} (htype : f.type = some (.bytes length))
    (hnull : length.isNull = false) :
    derive delimiter terminator f rest = (.fixedLength length, false) := by
  rw [derive, htype]
  simp only [hnull, Bool.false_eq_true, if_false]

theorem Extraction.fixedWidth?_of_derive {n : Value}
    (h : (derive delimiter terminator f rest).1 = .fixedLength n) : f.fixedWidth? = some n := by
  have hnext (h : (derive.ofNext delimiter terminator f rest).1 = .fixedLength n) :
      f.fixedWidth? = some n := by
    rw [derive.ofNext.eq_def] at h
    split at h
    · cases h
    · split at h
      · cases h
      · split at h
        · rename_i width hwidth
          cases h
          exact hwidth
        · exact absurd h (downstream_ne_fixedLength _ _ _)
    · exact absurd h (downstream_ne_fixedLength _ _ _)
  rw [derive.eq_def] at h
  split at h
  · rename_i length htype
    split at h
    · exact hnext h
    · rename_i hnull
      cases h
      rw [Spec.Field.fixedWidth?, htype]
      exact if_neg hnull
  · exact hnext h

/-- A state of a layout that extracts a field does so by what follows the field. -/
theorem State.exists_of_mem_ofSegments {afterField : Bool}
    (h : state ∈ ofSegments delimiter terminator afterField segments) (hf : state.field? = some f) :
    ∃ rest follow, .field f :: rest <:+ segments ∧
      state = ofField f (Extraction.derive delimiter terminator f rest).1 follow := by
  induction segments generalizing afterField with
  | nil =>
    rw [List.mem_singleton.mp h] at hf
    cases hf
  | cons segment rest ih =>
    -- Where the state belongs to a later segment, the suffix is one of the rest.
    have hlater {afterField : Bool} (h : state ∈ ofSegments delimiter terminator afterField rest) :
        ∃ rest' follow, .field f :: rest' <:+ segment :: rest ∧
          state = ofField f (Extraction.derive delimiter terminator f rest').1 follow := by
      obtain ⟨rest', follow, hsuffix, heq⟩ := ih h
      exact ⟨rest', follow, hsuffix.trans (List.suffix_cons _ _), heq⟩
    cases segment with
    | literal text =>
      rcases List.mem_cons.mp h with rfl | h
      · cases hf
      · exact hlater h
    | field g =>
      rw [ofSegments_field, List.mem_append, List.mem_cons] at h
      rcases h with h | rfl | h
      · cases afterField <;> cases delimiter <;> simp at h
        rw [h] at hf
        cases hf
      · rw [field?_ofField, Option.some.injEq] at hf
        subst hf
        exact ⟨rest, _, List.suffix_rfl, rfl⟩
      · exact hlater h

theorem Step.field_mem_ofSegments_iff :
    Step.field f ∈ Step.ofSegments segments delimiter terminator ↔
      f ∈ segments.filterMap Segment.field? := by
  have hsteps (separator : Option String) (afterField : Bool) :
      Step.field f ∈ ofSegmentsFrom separator afterField segments ↔
        f ∈ segments.filterMap Segment.field? := by
    induction segments generalizing afterField with
    | nil => simp [ofSegmentsFrom]
    | cons segment rest ih =>
      cases segment with
      | literal text => simp [ofSegmentsFrom, Segment.field?, ih]
      | field g =>
        rw [ofSegmentsFrom_field]
        cases separator <;> cases afterField <;> simp [Segment.field?, ih]
  rw [Step.ofSegments, List.mem_append, hsteps]
  simp

theorem getLast?_ofSegments (delimiter terminator : Option String) (afterField : Bool)
    (segments : List Segment) :
    (State.ofSegments delimiter terminator afterField segments).getLast? =
      some (.terminal terminator) := by
  induction segments generalizing afterField with
  | nil => rfl
  | cons segment rest ih =>
    cases segment with
    | literal text => rw [State.ofSegments, List.getLast?_cons, ih, Option.getD_some]
    | field f =>
      rw [State.ofSegments_field, List.getLast?_append, List.getLast?_cons, ih, Option.getD_some,
        Option.some_or]

theorem Machine.terminator_ofSegments (segments : List Segment)
    (delimiter terminator : Option String) :
    (Machine.ofSegments segments delimiter terminator).terminator =
      Segment.separator? terminator := by
  rw [Machine.terminator, Machine.ofSegments, getLast?_ofSegments]

theorem Machine.mem_extractions_iff {m : Machine} {x : Extraction} :
    (f, x) ∈ m.extractions ↔
      ∃ state ∈ m.states, state.field? = some f ∧ state.extraction? = some x := by
  rw [Machine.extractions, List.mem_filterMap]
  refine exists_congr fun state ↦ and_congr_right fun _ ↦ ?_
  cases hf : state.field? <;> cases hx : state.extraction? <;> simp

theorem Machine.map_extractions (m : Machine) :
    m.extractions.map Prod.fst = m.states.filterMap State.field? := by
  rw [Machine.extractions, List.map_filterMap]
  congr 1
  funext state
  cases state <;> rfl

theorem Machine.mem_stopsOf_iff {m : Machine} {name : Option String} {stop : String} :
    stop ∈ m.stopsOf name ↔ ∃ f x, (f, x) ∈ m.extractions ∧ f.name = name ∧ stop ∈ x.stops := by
  rw [Machine.stopsOf, List.mem_eraseDups, List.mem_flatMap]
  constructor
  · rintro ⟨⟨f, x⟩, hmem, hstop⟩
    rw [List.mem_filter] at hmem
    exact ⟨f, x, hmem.1, eq_of_beq hmem.2, hstop⟩
  · rintro ⟨f, x, hmem, hname, hstop⟩
    exact ⟨(f, x), List.mem_filter.mpr ⟨hmem, beq_iff_eq.mpr hname⟩, hstop⟩

/-- The stops of a field of a name are those of the fields of that name in the layout. -/
theorem Machine.exists_of_mem_stopsOf {name : Option String} {s : String}
    (h : s ∈ (ofSegments segments delimiter terminator).stopsOf name) :
    ∃ f rest, f.name = name ∧
      .field f :: rest <:+ Segment.withoutTerminator (Segment.separator? terminator) segments ∧
      s ∈ (Extraction.derive (Segment.separator? delimiter) (Segment.separator? terminator)
        f rest).1.stops := by
  obtain ⟨f, x, hmem, hname, hs⟩ := mem_stopsOf_iff.mp h
  obtain ⟨state, hstate, hf, hx⟩ := mem_extractions_iff.mp hmem
  obtain ⟨rest, follow, hsuffix, rfl⟩ := State.exists_of_mem_ofSegments hstate hf
  rw [State.extraction?_ofField, Option.some.injEq] at hx
  exact ⟨f, rest, hname, hsuffix, hx ▸ hs⟩

/-! ## Layouts that end in a text -/

/-- A field that goes on to the end of the data is the last thing of a layout. -/
theorem State.Linked.exists_append_of_endOfBuffer (h : State.Linked delimiter terminator states)
    (hstate : state ∈ states) (hx : state.extraction? = some .endOfBuffer) :
    ∃ before, states = before ++ [state, .terminal none] := by
  have hlater {first : State} {rest : List State}
      (hrest : ∃ before, rest = before ++ [state, .terminal none]) :
      ∃ before, first :: rest = before ++ [state, .terminal none] := by
    obtain ⟨before, rfl⟩ := hrest
    exact ⟨first :: before, rfl⟩
  induction h with
  | last =>
    rw [List.mem_singleton.mp hstate] at hx
    cases hx
  | text _ hnone _ ih =>
    rcases List.mem_cons.mp hstate with rfl | hstate
    · cases state with
      | extractField f x | optionalField f x follow => cases hnone
      | _ => cases hx
    · exact hlater (ih hstate)
  | required _ htied _ ih | optional _ htied _ ih =>
    rcases List.mem_cons.mp hstate with rfl | hstate
    · cases hx
      cases htied with
      | stop hstops => cases hstops
      | buffer => exact ⟨[], rfl⟩
    · exact hlater (ih hstate)

theorem Machine.ne_endOfBuffer_of_rejectsTruncation {machine : Machine}
    (hlinked : State.Linked delimiter terminator machine.states)
    (h : machine.rejectsTruncation = true) (hstate : state ∈ machine.states) :
    state.extraction? ≠ some .endOfBuffer := by
  intro hx
  -- Only the end comes after such a field, and neither of the two requires any bytes.
  obtain ⟨before, hstates⟩ := hlinked.exists_append_of_endOfBuffer hstate hx
  have hkind : state.isTerminal = false ∧ state.isFixedText = false := by
    cases state with
    | extractField f x | optionalField f x follow => exact ⟨rfl, rfl⟩
    | _ => cases hx
  have hterminator : machine.terminator = none := by
    rw [Machine.terminator, hstates, List.getLast?_append]
    rfl
  have hlast : (machine.states.filter (!·.isTerminal)).getLast? = some state := by
    have hkept : [state, .terminal none].filter (!·.isTerminal) = [state] := by
      rw [List.filter_cons_of_pos (by simp [hkind.1])]
      rfl
    rw [hstates, List.filter_append, hkept, List.getLast?_concat]
  rw [Machine.rejectsTruncation, hterminator, hlast, Option.any_some, hkind.2] at h
  cases h

end TextProtocol
