import TextProtocol.Proofs.Layout.Machine

/-!
# The terminator is written once

A format may end in the terminator of its message, which the plan writes as well. So a copy of it at
the end of the last literal is taken out of the layout first, and the literal with it if nothing is
left. That changes which segment is the last one, but not what is written before the terminator:
the delimiter stands in front of a field and never at the end. A layout is written with the
terminator at its end, whether the format had it or not, `renderAll_withoutTerminator`.
-/

namespace TextProtocol

def Segment.EndsIn (t : String) (segments : List Segment) : Prop :=
  ∃ front text, segments = front ++ [.literal text] ∧ t.toList <:+ text.toList

/-! ## Layouts without their terminator -/

namespace Segment

theorem endsWith_iff {text t : String} : text.endsWith t = true ↔ t.toList <:+ text.toList := by
  rw [String.endsWith_eq_endsWith_toSlice, String.Slice.endsWith_string_iff, String.copy_toSlice]

theorem separator?_some {t : String} (h : t ≠ "") : separator? (some t) = some t := by
  simp [separator?, h]

theorem withoutTerminator_concat {t : String} (ht : t ≠ "") (front : List Segment) (s : String) :
    withoutTerminator (some t) (front ++ [.literal (s ++ t)]) =
      front ++ if s = "" then [] else [.literal s] := by
  have hsuffix : (s ++ t).endsWith t = true := by
    rw [endsWith_iff, String.toList_append]
    exact List.suffix_append _ _
  have hremainder : String.ofList ((s ++ t).toList.take ((s ++ t).length - t.length)) = s := by
    rw [String.toList_append, String.length_append, Nat.add_sub_cancel, ← String.length_toList,
      List.take_left, String.ofList_toList]
  simp only [withoutTerminator, separator?_some ht, List.getLast?_concat, hsuffix, if_pos,
    hremainder, List.dropLast_concat, String.isEmpty_iff]
  split
  · rw [List.append_nil]
  · rfl

theorem withoutTerminator_of_not_endsIn {t : String} {segments : List Segment}
    (h : ¬EndsIn t segments) : withoutTerminator (some t) segments = segments := by
  rw [withoutTerminator]
  split
  · rename_i s text hs hlast
    have hts : t = s := by
      rw [separator?, Option.filter_eq_some_iff] at hs
      exact Option.some.inj hs.1
    obtain ⟨front, hfront⟩ := List.getLast?_eq_some_iff.mp hlast
    exact if_neg fun hends ↦ h ⟨front, text, hfront, hts ▸ endsWith_iff.mp hends⟩
  · rfl

end Segment

/-! ## What is written -/

namespace Step

/-- A literal at the end is written after all the rest. -/
theorem ofSegmentsFrom_concat (delimiter : Option String) (afterField : Bool)
    (front : List Segment) (text : String) :
    ofSegmentsFrom delimiter afterField (front ++ [.literal text]) =
      ofSegmentsFrom delimiter afterField front ++ [.literal text] := by
  induction front generalizing afterField with
  | nil => rfl
  | cons segment rest ih =>
    cases segment with
    | literal first => rw [List.cons_append, ofSegmentsFrom, ih, ofSegmentsFrom, List.cons_append]
    | field f =>
      rw [List.cons_append, ofSegmentsFrom_field, ih, ofSegmentsFrom_field, List.append_assoc,
        List.cons_append]

section Bytes

variable (segments : List Segment) (delimiter : Option String) (values : Values)

theorem renderAll_append (first later : List Step) :
    renderAll (first ++ later) values = do
      return (← renderAll first values) ++ (← renderAll later values) := by
  simp [renderAll]

theorem renderAll_append_text (steps : List Step) {step : Step} {text : String}
    (h : render values step = .ok (Utf8.ofString text)) :
    renderAll (steps ++ [step]) values =
      (renderAll steps values).map (· ++ Utf8.ofString text) := by
  have hlast : renderAll [step] values = .ok (Utf8.ofString text) := by
    rw [renderAll, List.mapM_cons, h]
    exact congrArg Except.ok (List.append_nil _)
  rw [renderAll_append, hlast]
  cases renderAll steps values <;> rfl

theorem ofSegments_none : ofSegments segments delimiter none =
    ofSegmentsFrom (Segment.separator? delimiter) false segments :=
  List.append_nil _

theorem renderAll_concat (text : String) :
    renderAll (ofSegments (segments ++ [.literal text]) delimiter none) values =
      (renderAll (ofSegments segments delimiter none) values).map (· ++ Utf8.ofString text) := by
  rw [ofSegments_none, ofSegments_none, ofSegmentsFrom_concat]
  exact renderAll_append_text values _ rfl

theorem map_append_nil (x : Except Fault Bytes) : x.map (· ++ Utf8.ofString "") = x := by
  cases x with
  | error e => rfl
  | ok bytes => exact congrArg Except.ok (List.append_nil bytes)

theorem renderAll_concat_unless_empty (text : String) :
    renderAll (ofSegments (segments ++ if text = "" then [] else [.literal text]) delimiter none)
      values =
      (renderAll (ofSegments segments delimiter none) values).map (· ++ Utf8.ofString text) := by
  split
  · rename_i hempty
    rw [hempty, List.append_nil, map_append_nil]
  · exact renderAll_concat segments delimiter values text

theorem renderAll_terminator (t : String) :
    renderAll (ofSegments segments delimiter (some t)) values =
      (renderAll (ofSegments segments delimiter none) values).map (· ++ Utf8.ofString t) := by
  by_cases ht : t = ""
  · subst ht
    exact (map_append_nil _).symm
  · rw [ofSegments_none, ofSegments, Segment.separator?_some ht]
    exact renderAll_append_text values _ rfl

/-- A message is written with its terminator once at the end: where the layout does not end in it,
it is added, and where it does, nothing is. -/
theorem renderAll_withoutTerminator (t : String) :
    (Segment.EndsIn t segments →
      renderAll (ofSegments (Segment.withoutTerminator (some t) segments) delimiter (some t))
        values = renderAll (ofSegments segments delimiter none) values) ∧
    (¬Segment.EndsIn t segments →
      renderAll (ofSegments (Segment.withoutTerminator (some t) segments) delimiter (some t))
        values =
        (renderAll (ofSegments segments delimiter none) values).map (· ++ Utf8.ofString t)) := by
  constructor
  · rintro ⟨front, text, rfl, s, hs⟩
    obtain ⟨rest, rfl⟩ : ∃ rest, text = rest ++ t :=
      ⟨String.ofList s, by rw [← String.toList_inj, String.toList_append, String.toList_ofList, hs]⟩
    by_cases ht : t = ""
    · -- An empty terminator is none, and every text ends in it.
      subst ht
      rfl
    have htexts (bytes : Bytes) :
        bytes ++ Utf8.ofString rest ++ Utf8.ofString t = bytes ++ Utf8.ofString (rest ++ t) := by
      rw [List.append_assoc, Utf8.ofString, Utf8.ofString, Utf8.ofString, String.toList_append,
        Utf8.encode, Utf8.encode, Utf8.encode, List.flatMap_append]
    rw [renderAll_terminator, Segment.withoutTerminator_concat ht, renderAll_concat_unless_empty,
      renderAll_concat]
    cases renderAll (ofSegments front delimiter none) values with
    | error e => rfl
    | ok bytes => exact congrArg Except.ok (htexts bytes)
  · intro h
    rw [Segment.withoutTerminator_of_not_endsIn h, renderAll_terminator]

end Bytes

end Step

end TextProtocol
