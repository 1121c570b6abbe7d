import Mathlib.Data.List.Chain
import Mathlib.Data.List.Forall2
import TextProtocol.Proofs.Compile.Message

/-!
# Machines and plans of one layout

The states of a parser and the steps of a serializer are made by two passes over one layout, each of
which looks at the neighbours of a segment in its own way. `Machine.Agrees` says how the two rows
hang together, place by place: every state has its step, delimiters stand where two fields meet, and
a state that extracts a field knows the state that comes after it.

What two neighbouring states can be is said once, in `State.Next`; all else about neighbours comes
from there.
-/

namespace TextProtocol

/-! ## States and steps -/

/-- A state goes through what a step writes. -/
inductive State.Mirrors : State → Step → Prop
  | text (s : String) : Mirrors (.expectFixed s) (.literal s)
  | delimiter (d : String) : Mirrors (.expectDelimiter d) (.delimiter d)
  | field {state : State} {f : Spec.Field} : state.field? = some f → Mirrors state (.field f)

/-- The segment that a state goes through. Delimiters and the end belong to none. -/
def State.segment? : State → Option Segment
  | .expectFixed text => some (.literal text)
  | .extractField f _ | .optionalField f .. => some (.field f)
  | .expectDelimiter _ | .terminal _ => none

namespace State

variable {delimiter terminator : Option String} {segments : List Segment} {f : Spec.Field}
  {state next : State}

theorem segment?_eq_field_iff : state.segment? = some (.field f) ↔ state.field? = some f := by
  cases state <;> simp [segment?, field?]

/-- Up to the end, the states of a layout mirror the steps of its plan. -/
theorem exists_mirrors (delimiter terminator : Option String) (afterField : Bool)
    (segments : List Segment) :
    ∃ body, ofSegments delimiter terminator afterField segments = body ++ [.terminal terminator] ∧
      List.Forall₂ Mirrors body (Step.ofSegmentsFrom delimiter afterField segments) := by
  induction segments generalizing afterField with
  | nil => exact ⟨[], rfl, .nil⟩
  | cons segment rest ih =>
    cases segment with
    | literal text =>
      obtain ⟨body, hbody, hmirrors⟩ := ih false
      refine ⟨.expectFixed text :: body, ?_, .cons (.text text) hmirrors⟩
      rw [ofSegments, hbody, List.cons_append]
    | field f =>
      obtain ⟨body, hbody, hmirrors⟩ := ih true
      have hgap : List.Forall₂ Mirrors
          (if afterField then delimiter.toList.map .expectDelimiter else [])
          (if afterField then delimiter.toList.map .delimiter else []) := by
        cases afterField with
        | false => exact .nil
        | true =>
          cases delimiter with
          | none => exact .nil
          | some d => exact .cons (.delimiter d) .nil
      rw [ofSegments_field, Step.ofSegmentsFrom_field, hbody]
      generalize hown : ofField f _ _ = own
      have hfield : own.field? = some f := hown ▸ field?_ofField ..
      refine ⟨_, ?_, List.rel_append hgap (.cons (.field hfield) hmirrors)⟩
      rw [List.append_assoc, List.cons_append]

theorem exists_ofSegments_cons (delimiter terminator : Option String) (afterField : Bool)
    (segment : Segment) (rest : List Segment) :
    ∃ own, ofSegments delimiter terminator afterField (segment :: rest) =
        own ++ ofSegments delimiter terminator segment.field?.isSome rest ∧
      own.filterMap segment? = [segment] ∧ own.getLast?.bind segment? = some segment := by
  cases segment with
  | literal text => exact ⟨[.expectFixed text], rfl, rfl, rfl⟩
  | field f =>
    rw [ofSegments_field]
    generalize hown : ofField f _ _ = own
    have hf : own.segment? = some (.field f) :=
      segment?_eq_field_iff.mpr (hown ▸ field?_ofField ..)
    refine ⟨_ ++ [own], List.append_cons .., ?_, ?_⟩
    · rw [List.filterMap_append, List.filterMap_cons_some hf]
      cases delimiter <;> cases afterField <;> rfl
    · rw [List.getLast?_concat, Option.bind_some, hf]

/-- The states of a layout go through its segments, in their order. -/
theorem filterMap_segment_ofSegments (delimiter terminator : Option String) (afterField : Bool)
    (segments : List Segment) :
    (ofSegments delimiter terminator afterField segments).filterMap segment? = segments := by
  induction segments generalizing afterField with
  | nil => rfl
  | cons segment rest ih =>
    obtain ⟨own, heq, hown, -⟩ :=
      exists_ofSegments_cons delimiter terminator afterField segment rest
    rw [heq, List.filterMap_append, hown, ih, List.singleton_append]

/-! ## Neighbours -/

/-- What two neighbouring states of a layout can be. -/
inductive Next (delimiter terminator : Option String) (segments : List Segment) :
    State → State → Prop
  | text {text : String} {rest : List Segment} {next : State} :
      (ofSegments delimiter terminator false rest).head? = some next →
      Next delimiter terminator segments (.expectFixed text) next
  | delimiter {d : String} {g : Spec.Field} {next : State} :
      delimiter = some d → next.field? = some g →
      Next delimiter terminator segments (.expectDelimiter d) next
  | field {f : Spec.Field} {rest : List Segment} {next : State} :
      .field f :: rest <:+ segments →
      (ofSegments delimiter terminator true rest).head? = some next →
      Next delimiter terminator segments
        (ofField f (Extraction.derive delimiter terminator f rest).1 next.expected?) next

theorem isChain_next {all : List Segment} (hall : segments <:+ all) (afterField : Bool) :
    (ofSegments delimiter terminator afterField segments).IsChain
      (Next delimiter terminator all) := by
  induction segments generalizing afterField with
  | nil => exact .singleton _
  | cons segment rest ih =>
    have hrest : rest <:+ all := (List.suffix_cons _ _).trans hall
    cases segment with
    | literal text =>
      rw [ofSegments, List.isChain_cons]
      exact ⟨fun next hnext ↦ .text hnext, ih hrest false⟩
    | field f =>
      have hown : (ofField f (Extraction.derive delimiter terminator f rest).1
            ((ofSegments delimiter terminator true rest).head?.bind expected?) ::
          ofSegments delimiter terminator true rest).IsChain (Next delimiter terminator all) := by
        rw [List.isChain_cons]
        refine ⟨fun next hnext ↦ ?_, ih hrest true⟩
        rw [Option.mem_def.mp hnext, Option.bind_some]
        exact .field hall hnext
      rw [ofSegments_field]
      cases afterField with
      | false => exact hown
      | true =>
        cases delimiter with
        | none => exact hown
        | some d => exact .cons_cons (.delimiter rfl (field?_ofField ..)) hown

/-- Where the boundary of a field is ambiguous, another field comes right after it. -/
theorem field?_of_ambiguous {rest : List Segment}
    (h : (Extraction.derive delimiter terminator f rest).2 = true)
    (hnext : (ofSegments delimiter terminator true rest).head? = some next) :
    next.field?.isSome = true := by
  have hofNext (h : (Extraction.derive.ofNext delimiter terminator f rest).2 = true) :
      next.field?.isSome = true := by
    cases rest with
    | nil => cases h
    | cons segment later =>
      cases segment with
      | literal text => cases h
      | field g =>
        cases delimiter with
        | some d => cases h
        | none =>
          rw [ofSegments_field] at hnext
          cases hnext
          rw [field?_ofField, Option.isSome_some]
  rw [Extraction.derive.eq_def] at h
  split at h
  · split at h
    · exact hofNext h
    · cases h
  · exact hofNext h

/-- What a state knows of the state that comes right after it. `ambiguous` are the names of the
fields whose boundary is guessed. -/
structure Foresees (ambiguous : List (Option String)) (state next : State) : Prop where
  /-- Before anything but a field, a field is read by width, to the end of the data, or up to the
  text that the next state requires. -/
  ends {x : Extraction} : state.extraction? = some x → next.field? = none →
    x.isFixed = true ∨ (x = .endOfBuffer ∧ next = .terminal none) ∨
      ∃ text, text ≠ "" ∧ x.stops.head? = some text ∧ next.expected? = some text
  /-- Directly before another field, a field is read by width, or its boundary is ambiguous. -/
  meets {f : Spec.Field} {x : Extraction} : state.field? = some f → state.extraction? = some x →
    next.field?.isSome = true → x.isFixed = true ∨ f.name ∈ ambiguous
  /-- What has to follow a field that may be absent is what the next state requires. -/
  follow {f : Spec.Field} {x : Extraction} {follow : Option String} :
    state = .optionalField f x follow → follow = next.expected?

theorem expected?_of_field (h : state.field?.isSome = true) : state.expected? = none := by
  cases state with
  | extractField f x | optionalField f x follow => rfl
  | _ => cases h

/-- A field that is tied to the states after it ends as the first of them requires. -/
theorem ends_of_tied {x : Extraction} {states : List State}
    (h : x.Tied delimiter terminator f states) (hnext : states.head? = some next) :
    x.isFixed = true ∨ (x = .endOfBuffer ∧ next = .terminal none) ∨
      ∃ text, text ≠ "" ∧ x.stops.head? = some text ∧ next.expected? = some text := by
  cases h with
  | @stop _ s others _ hstops hs hexpected _ =>
    rw [hnext, Option.bind_some] at hexpected
    exact .inr (.inr ⟨s, hs, by rw [hstops, List.head?_cons], hexpected⟩)
  | width _ => exact .inl rfl
  | buffer =>
    cases hnext
    exact .inr (.inl ⟨rfl, rfl⟩)

theorem name_mem_ambiguous {rest : List Segment} (hsuffix : .field f :: rest <:+ segments)
    (h : (Extraction.derive delimiter terminator f rest).2 = true) :
    f.name ∈ Segment.ambiguous delimiter terminator segments := by
  induction segments with
  | nil => simp at hsuffix
  | cons segment later ih =>
    rcases List.suffix_cons_iff.mp hsuffix with heq | hlater
    · cases heq
      rw [Segment.ambiguous, if_pos h]
      exact List.mem_cons_self
    · have hmem := ih hlater
      cases segment with
      | literal text => exact hmem
      | field g =>
        rw [Segment.ambiguous]
        split
        · exact List.mem_cons_of_mem _ hmem
        · exact hmem

theorem Next.foresees (hdelimiter : delimiter ≠ some "") (hterminator : terminator ≠ some "")
    (hliteral : ∀ text, .literal text ∈ segments → text ≠ "")
    (h : Next delimiter terminator segments state next) :
    Foresees (Segment.ambiguous delimiter terminator segments) state next := by
  cases h with
  | text _ | delimiter _ _ =>
    refine ⟨fun hx ↦ ?_, fun hf ↦ ?_, fun heq ↦ ?_⟩
    · cases hx
    · cases hf
    · cases heq
  | @field f rest _ hsuffix hnext =>
    have hrest : ∀ text, .literal text ∈ rest → text ≠ "" := fun text htext ↦
      hliteral text (hsuffix.subset (List.mem_cons_of_mem _ htext))
    have hsure (hsure : (Extraction.derive delimiter terminator f rest).2 = false) :=
      ends_of_tied (Extraction.tied_derive hdelimiter hterminator hrest hsure) hnext
    refine ⟨fun hx hnone ↦ ?_, fun hf hx hsome ↦ ?_, fun heq ↦ ?_⟩
    · rw [extraction?_ofField, Option.some.injEq] at hx
      subst hx
      cases hderive : (Extraction.derive delimiter terminator f rest).2 with
      | false => exact hsure hderive
      | true =>
        have hfield := field?_of_ambiguous hderive hnext
        rw [hnone] at hfield
        cases hfield
    · rw [field?_ofField, Option.some.injEq] at hf
      rw [extraction?_ofField, Option.some.injEq] at hx
      subst hf hx
      cases hderive : (Extraction.derive delimiter terminator f rest).2 with
      | true => exact .inr (name_mem_ambiguous hsuffix hderive)
      | false =>
        -- A field requires no text and is not the end, so only a width is left.
        rcases hsure hderive with hfixed | ⟨-, rfl⟩ | ⟨text, -, -, hexpected⟩
        · exact .inl hfixed
        · cases hsome
        · rw [expected?_of_field hsome] at hexpected
          cases hexpected
    · rw [ofField] at heq
      split at heq <;> cases heq
      rfl

/-! ## Delimiters -/

/-- The states `before` and `after` belong to the two sides of a place at which the fields `f` and
`g` of a layout meet, with `left` before `f` and `right` after `g`. -/
structure Adjoin (left : List Segment) (f g : Spec.Field) (right : List Segment)
    (before after : List State) : Prop where
  last : before.getLast?.bind field? = some f
  first : after.head?.bind field? = some g
  segments_before : before.filterMap segment? = left ++ [.field f]
  segments_after : after.filterMap segment? = .field g :: right

theorem Adjoin.append {left right : List Segment} {g : Spec.Field} {before after : List State}
    (h : Adjoin left f g right before after) (more : List State) :
    Adjoin (more.filterMap segment? ++ left) f g right (more ++ before) after where
  last := by
    cases hlast : before.getLast? with
    | none => simpa [hlast] using h.last
    | some state => simpa [List.getLast?_append, hlast] using h.last
  first := h.first
  segments_before := by rw [List.filterMap_append, h.segments_before, List.append_assoc]
  segments_after := h.segments_after

/-- Between the states of two fields that meet stands the delimiter, if there is one. -/
theorem exists_adjoin (delimiter terminator : Option String) (afterField : Bool)
    (left : List Segment) (f g : Spec.Field) (right : List Segment) :
    ∃ before after,
      ofSegments delimiter terminator afterField (left ++ .field f :: .field g :: right) =
        before ++ delimiter.toList.map .expectDelimiter ++ after ∧
      Adjoin left f g right before after := by
  induction left generalizing afterField with
  | nil =>
    obtain ⟨own, heq, hown, hlast⟩ :=
      exists_ofSegments_cons delimiter terminator afterField (.field f) (.field g :: right)
    rw [List.nil_append, heq, Segment.field?, Option.isSome_some, ofSegments_field, if_pos rfl]
    refine ⟨own, _, (List.append_assoc ..).symm, ?_⟩
    exact {
      last := by
        obtain ⟨state, hstate, hf⟩ := Option.bind_eq_some_iff.mp hlast
        rw [hstate, Option.bind_some, segment?_eq_field_iff.mp hf]
      first := field?_ofField ..
      segments_before := hown
      segments_after := by
        rw [List.filterMap_cons_some (segment?_eq_field_iff.mpr (field?_ofField ..)),
          filterMap_segment_ofSegments] }
  | cons segment left ih =>
    obtain ⟨own, heq, hown, -⟩ := exists_ofSegments_cons delimiter terminator afterField segment
      (left ++ .field f :: .field g :: right)
    obtain ⟨before, after, hrest, hadjoin⟩ := ih segment.field?.isSome
    refine ⟨own ++ before, after, ?_, ?_⟩
    · rw [List.cons_append, heq, hrest, List.append_assoc, List.append_assoc, List.append_assoc]
    · have h := hadjoin.append own
      rwa [hown] at h

theorem head?_ofSegments_ne_delimiter (delimiter terminator : Option String)
    (segments : List Segment) (d : String) :
    (ofSegments delimiter terminator false segments).head? ≠ some (.expectDelimiter d) := by
  cases segments with
  | nil => simp [ofSegments]
  | cons segment rest =>
    cases segment with
    | literal text => simp [ofSegments]
    | field f =>
      rw [ofSegments_field, if_neg Bool.false_ne_true, List.nil_append, List.head?_cons, ofField]
      split <;> simp

theorem Next.exists_field_before {d : String}
    (h : Next delimiter terminator segments state (.expectDelimiter d)) :
    ∃ f, state.field? = some f := by
  cases h with
  | text hhead => exact absurd hhead (head?_ofSegments_ne_delimiter _ _ _ _)
  | delimiter _ hfield => cases hfield
  | @field f _ _ _ _ => exact ⟨f, field?_ofField ..⟩

theorem Next.exists_field_after {d : String}
    (h : Next delimiter terminator segments (.expectDelimiter d) next) :
    delimiter = some d ∧ ∃ g, next.field? = some g := by
  generalize hstate : State.expectDelimiter d = state at h
  cases h with
  | text _ => cases hstate
  | @delimiter _ g _ hdelimiter hfield =>
    cases hstate
    exact ⟨hdelimiter, g, hfield⟩
  | field _ _ =>
    rw [ofField] at hstate
    split at hstate <;> cases hstate

theorem exists_adjoin_of_delimiter {before after : List State} {d : String}
    (h : ofSegments delimiter terminator false segments = before ++ .expectDelimiter d :: after) :
    delimiter = some d ∧ ∃ left f g right, segments = left ++ .field f :: .field g :: right ∧
      Adjoin left f g right before after := by
  have hchain : (ofSegments delimiter terminator false segments).IsChain
      (Next delimiter terminator segments) := isChain_next List.suffix_rfl false
  have hsegments := filterMap_segment_ofSegments delimiter terminator false segments
  have hlast := getLast?_ofSegments delimiter terminator false segments
  rcases List.eq_nil_or_concat' before with rfl | ⟨before, state, rfl⟩
  · exact absurd (by rw [h]; rfl) (head?_ofSegments_ne_delimiter delimiter terminator segments d)
  rcases after with - | ⟨next, after⟩
  · rw [h, List.getLast?_concat] at hlast
    cases hlast
  rw [h, List.append_assoc, List.singleton_append, List.isChain_append_cons_cons] at hchain
  rw [h, List.filterMap_append, List.filterMap_append] at hsegments
  obtain ⟨-, hbefore, hafter⟩ := hchain
  obtain ⟨f, hf⟩ := hbefore.exists_field_before
  obtain ⟨hdelimiter, g, hg⟩ := (List.isChain_cons_cons.mp hafter).1.exists_field_after
  have hstate := segment?_eq_field_iff.mpr hf
  have hnext := segment?_eq_field_iff.mpr hg
  refine ⟨hdelimiter, before.filterMap segment?, f, g, after.filterMap segment?, ?_, ?_⟩
  · rw [← hsegments, List.filterMap_cons_some hstate, List.filterMap_cons_none rfl,
      List.filterMap_cons_some hnext, List.append_assoc]
    rfl
  · exact {
      last := by rw [List.getLast?_concat, Option.bind_some, hf]
      first := hg
      segments_before := by
        rw [List.filterMap_append, List.filterMap_cons_some hstate]
        rfl
      segments_after := List.filterMap_cons_some hnext }

end State

/-! ## Agreement -/

/-- How the states of a machine agree with its segments and with the steps of a plan, where fields
that meet are separated by `delimiter`. -/
structure Machine.Agrees (m : Machine) (delimiter : Option String) (steps : List Step) : Prop where
  /-- State by state and step by step the same is read and written; the last state has a step if
  there is a terminator. -/
  mirrored : ∃ states written, m.states = states ++ [.terminal m.terminator] ∧
    steps = written ++ m.terminator.toList.map .terminator ∧
    List.Forall₂ State.Mirrors states written
  segments : m.states.filterMap State.segment? = m.segments
  /-- Between two fields that meet stands the delimiter, and nothing without one. -/
  separated {left right : List Segment} {f g : Spec.Field} :
    m.segments = left ++ .field f :: .field g :: right →
    ∃ before after, m.states = before ++ delimiter.toList.map .expectDelimiter ++ after ∧
      State.Adjoin left f g right before after
  /-- Nowhere else stands a delimiter. -/
  separates {before after : List State} {d : String} :
    m.states = before ++ .expectDelimiter d :: after →
    delimiter = some d ∧ ∃ left f g right, m.segments = left ++ .field f :: .field g :: right ∧
      State.Adjoin left f g right before after
  foreseen : m.states.IsChain (State.Foresees m.ambiguous)

/-- The machine of a layout and the plan for the machine's segments are two views of one layout. -/
theorem Machine.agrees_ofSegments {segments : List Segment}
    (hliteral : ∀ text, .literal text ∈ segments → text ≠ "")
    (delimiter terminator : Option String) :
    (ofSegments segments delimiter terminator).Agrees (Segment.separator? delimiter)
      (Step.ofSegments (ofSegments segments delimiter terminator).segments delimiter
        (ofSegments segments delimiter terminator).terminator) where
  mirrored := by
    obtain ⟨states, hstates, hmirrors⟩ := State.exists_mirrors (Segment.separator? delimiter)
      (Segment.separator? terminator) false (ofSegments segments delimiter terminator).segments
    rw [terminator_ofSegments]
    refine ⟨states, _, hstates, ?_, hmirrors⟩
    rw [Step.ofSegments, Segment.separator?_separator?]
  segments := State.filterMap_segment_ofSegments ..
  separated := by
    intro left right f g hsegments
    have h := State.exists_adjoin (Segment.separator? delimiter) (Segment.separator? terminator)
      false left f g right
    rwa [← hsegments] at h
  separates := State.exists_adjoin_of_delimiter
  foreseen := by
    obtain ⟨hrest, -⟩ := Segment.withoutTerminator_spec (Segment.separator? terminator) hliteral
    refine (State.isChain_next List.suffix_rfl false).imp fun state next h ↦ ?_
    exact h.foresees (Segment.separator?_ne _) (Segment.separator?_ne _) hrest

/-- A kind and an optional mark of two bytes between angle brackets, with the end of the line in the
last literal. -/
def Segment.tagLine : List Segment :=
  [.literal "<", .field { name := some "kind", type := some (.string .null) },
    .field { name := some "mark", type := some (.bytes (.int 2)), required := some false },
    .literal ">\r\n"]

/-- The plan for the line, in which the end of the line is written once. -/
def Step.tagLine : List Step :=
  [.literal "<", .field { name := some "kind", type := some (.string .null) }, .delimiter ",",
    .field { name := some "mark", type := some (.bytes (.int 2)), required := some false },
    .literal ">", .terminator "\r\n"]

theorem Machine.agrees_tagLine :
    (∀ text, .literal text ∈ Segment.tagLine → text ≠ "") ∧
      (ofSegments Segment.tagLine (some ",") (some "\r\n")).Agrees (some ",") Step.tagLine := by
  have hliteral : ∀ text, .literal text ∈ Segment.tagLine → text ≠ "" := by
    simp [Segment.tagLine]
  have hsteps : Step.ofSegments (ofSegments Segment.tagLine (some ",") (some "\r\n")).segments
      (some ",") (ofSegments Segment.tagLine (some ",") (some "\r\n")).terminator =
      Step.tagLine := by
    with_unfolding_all rfl
  have h := agrees_ofSegments hliteral (some ",") (some "\r\n")
  rw [hsteps] at h
  exact ⟨hliteral, h⟩

end TextProtocol
