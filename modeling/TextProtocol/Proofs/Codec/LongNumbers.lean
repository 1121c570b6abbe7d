import TextProtocol.Proofs.Codec.Beginnings

/-!
# Numbers of too many digits

A parser takes a required number up to its stop, or with all bytes that there are. As long as the
number has no more digits than are read, a stop that is missing is a reason to refuse the data.
With more digits, looking at the number is a fault, and nothing but the length of the data decides
between the two: `parseWith_ones`.
-/

namespace TextProtocol.Codec

def ones (k : Nat) : Bytes :=
  List.replicate k 0x31

theorem ones_eq_ofString (k : Nat) :
    ones k = Utf8.ofString (String.ofList (List.replicate k '1')) := by
  have hchar : Utf8.encodeChar '1' = [0x31] := by decide
  rw [Utf8.ofString, String.toList_ofList, Utf8.encode, List.flatMap_replicate, hchar,
    List.flatten_replicate_singleton, ones]

theorem coerce_ones {k : Nat} (hk : 0 < k) :
    (FieldCheck.number .null .null).coerce (ones k) =
      if Text.maxDigits < k then .error .invalid
      else .ok (.ok (.int (Nat.ofDigitChars 10 (List.replicate k '1') 0))) := by
  obtain ⟨n, hn, ⟨hminus, -⟩ | ⟨-, rfl⟩⟩ := @FieldCheck.readNumber_of_spells
    (List.replicate k '1') (List.replicate k '1')
    ⟨by simp [Nat.ne_of_gt hk], by simp, .inl rfl⟩
  · simp at hminus
  rw [FieldCheck.coerce, ones_eq_ofString, FieldCheck.readText_ofString, Option.elim_some,
    String.toList_ofList, hn, List.length_replicate]
  split <;> rfl

/-- A message that is a number up to a line feed. -/
structure IsCount (m : Compiled.Message) (f : Spec.Field) (field : Compiled.Field) : Prop where
  states_eq : m.machine.states = [.extractField f (.untilTerminator "\n"), .terminal (some "\n")]
  fieldOf?_eq : fieldOf? m f = some field
  checkOf_eq : checkOf field = .number .null .null

/-- Whether a message is a number up to a line feed. -/
def isCount (m : Compiled.Message) : Bool :=
  match m.machine.states with
  | [.extractField f (.untilTerminator "\n"), .terminal (some "\n")] =>
    match (fieldOf? m f).map checkOf with
    | some (.number .null .null) => true
    | _ => false
  | _ => false

theorem exists_of_isCount {m : Compiled.Message} (h : isCount m = true) :
    ∃ f field, IsCount m f field := by
  rw [isCount] at h
  split at h
  · rename_i f hstates
    split at h
    · rename_i hcheck
      obtain ⟨field, hfield, hcheck⟩ := Option.map_eq_some_iff.mp hcheck
      exact ⟨f, field, hstates, hfield, hcheck⟩
    · cases h
  · cases h

theorem not_occursAt_ones {k i : Nat} : ¬Wire.OccursAt (Utf8.ofString "\n") (ones k) i := by
  intro hocc
  have hmem : (0x0a : UInt8) ∈ (ones k).drop i := hocc.2.subset (by decide)
  cases List.eq_of_mem_replicate (List.mem_of_mem_drop hmem)

/-- Without a stop, all digits belong to the number. -/
theorem step_ones {m : Compiled.Message} {f : Spec.Field} {field : Compiled.Field}
    (hm : IsCount m f field) (lenient : Bool) {k : Nat} (hk : 0 < k) :
    step lenient m (ones k) (.extractField f (.untilTerminator "\n")) ⟨0, []⟩ =
      if Text.maxDigits < k then .error .invalid
      else .ok (.ok ⟨k, Value.putEntry [] (memberName f.name)
        (.int (Nat.ofDigitChars 10 (List.replicate k '1') 0))⟩) := by
  have hfind : stopAfter (ones k) 0 (.untilTerminator "\n") = none := by
    refine Wire.findStop_eq_none_iff.mpr fun i s hs ↦ ?_
    rw [List.mem_singleton.mp hs]
    exact not_occursAt_ones
  have hend : requiredEnd (ones k) 0 (.untilTerminator "\n") = .ok (.ok (k : Int)) := by
    rw [requiredEnd_of_stops (by decide), hfind, ones, List.length_replicate]
    rfl
  have hbetween : Wire.between (ones k) 0 k = ones k := by
    have hall := Wire.between_append [] (ones k) []
    simpa [ones] using hall
  have hstep := step_of_requiredEnd lenient (c := ⟨0, []⟩) hm.fieldOf?_eq hend
  dsimp only at hstep
  rw [hstep, hbetween, hm.checkOf_eq, valueIn, coerce_ones hk]
  split <;> rfl

theorem parseWith_ones {m : Compiled.Message} {f : Spec.Field} {field : Compiled.Field}
    (hm : IsCount m f field) (lenient : Bool) (make : Record → Except Fault Record) {k : Nat}
    (hk : 0 < k) :
    (Text.maxDigits < k → parseWith lenient make m (ones k) 0 = .error .invalid) ∧
      (k ≤ Text.maxDigits →
        ∃ failure, parseWith lenient make m (ones k) 0 = .ok (.error failure)) := by
  have hoffset : ¬((ones k).length : Int) < 0 := by omega
  rw [parseWith, if_neg hoffset, hm.states_eq]
  constructor
  · intro hlong
    have hstep := step_ones hm lenient hk
    rw [if_pos hlong] at hstep
    rw [steps, hstep]
    rfl
  · intro hshort
    have hstep := step_ones hm lenient hk
    rw [if_neg (Nat.not_lt.mpr hshort)] at hstep
    rw [steps_of_step hstep]
    obtain ⟨failure, hfailure⟩ : ∃ failure, steps lenient m (ones k) [.terminal (some "\n")]
        ⟨k, Value.putEntry [] (memberName f.name)
          (.int (Nat.ofDigitChars 10 (List.replicate k '1') 0))⟩ = .ok (.error failure) := by
      refine refused_of_expected rfl fun hstands ↦ ?_
      have hend : standsAt (ones k ++ []) (ones k).length "\n" = true := by
        rw [List.append_nil, ones, List.length_replicate]
        exact hstands
      exact absurd (List.prefix_nil.mp (standsAt_append_iff.mp hend)) (by decide)
    exact ⟨failure, by rw [hfailure]; rfl⟩

end TextProtocol.Codec
