import TextProtocol.Layout.Machine
import TextProtocol.Proofs.Wire.Search

/-!
# Stops and the values before them

A serializer checks each stop of a field against the value followed by that same stop. What a parser
meets is the value followed by the stop that was really written, and another stop may begin in the
value and run on into it. `Straddles` is that situation, and it is the only way in which a value
that hides none of its stops can still be cut short: `findStop_after_value_iff`.

A stop cannot be straddled by another one in which its first byte does not occur again, past that
one's own first byte. This is `Apart`, a condition on the two stops alone.
-/

namespace TextProtocol.Wire

variable {stop raw : Bytes} {i : Nat} {stops : List Bytes}

/-! ## Values that hide no stop -/

theorem hidesStop_eq_false_iff :
    hidesStop raw stop = false ↔ ∀ i < raw.length, ¬OccursAt stop (raw ++ stop) i := by
  have hfirst := indexOf?_isEarliest stop (raw ++ stop)
  rw [hidesStop]
  cases hindex : indexOf? stop (raw ++ stop) with
  | none =>
    rw [hindex] at hfirst
    exact ⟨fun _ i _ ↦ hfirst i, fun _ ↦ rfl⟩
  | some k =>
    rw [hindex] at hfirst
    rw [Option.any_some, decide_eq_false_iff_not]
    constructor
    · intro hk i hi
      exact hfirst.2 i (by omega)
    · intro h hk
      exact h k hk hfirst.1

theorem hiddenStop?_eq_none_iff :
    hiddenStop? raw stops = none ↔ ∀ s ∈ stops, hidesStop raw s = false := by
  simp [hiddenStop?]

/-- A stop that lies within a value is hidden by it. -/
theorem not_occursAt_of_hidesStop (h : hidesStop raw stop = false) (hi : i < raw.length) :
    ¬OccursAt stop raw i := by
  intro hocc
  exact hidesStop_eq_false_iff.mp h i hi ((occursAt_append stop hocc.add_length_le).mpr hocc)

/-- `stop` begins in `raw` and runs on into what is written after it, which begins with
`follow`. -/
def Straddles (raw follow stop : Bytes) : Prop :=
  ∃ inside after, inside ≠ [] ∧ after ≠ [] ∧ stop = inside ++ after ∧ inside <:+ raw ∧
    (after <+: follow ∨ follow <+: after)

/-- A stop that stands in a value and what follows it either lies within the value or straddles
its end. -/
theorem occursAt_or_straddles {follow rest : Bytes} (hi : i < raw.length)
    (h : OccursAt stop (raw ++ (follow ++ rest)) i) :
    OccursAt stop raw i ∨ Straddles raw follow stop := by
  have hpre := h.2
  rw [List.drop_append_of_le_length (Nat.le_of_lt hi)] at hpre
  have hinside : raw.drop i ≠ [] := by simp; omega
  rcases Nat.lt_or_ge (raw.drop i).length stop.length with hlong | hshort
  · right
    obtain ⟨after, rfl⟩ :=
      List.prefix_of_prefix_length_le (List.prefix_append _ _) hpre (Nat.le_of_lt hlong)
    have hafter : after ≠ [] := by
      rintro rfl
      simp at hlong
    rw [List.prefix_append_right_inj] at hpre
    exact ⟨raw.drop i, after, hinside, hafter, rfl, List.drop_suffix _ _,
      List.prefix_or_prefix_of_prefix hpre (List.prefix_append _ _)⟩
  · left
    exact ⟨Nat.le_of_lt hi, List.prefix_of_prefix_length_le hpre (List.prefix_append _ _) hshort⟩

theorem Straddles.exists_occursAt {follow : Bytes} (h : Straddles raw follow stop) :
    ∃ rest, ∃ i < raw.length, OccursAt stop (raw ++ (follow ++ rest)) i ∧
      raw.length < i + stop.length := by
  obtain ⟨inside, after, hinside, hafter, rfl, ⟨front, rfl⟩, hcomp⟩ := h
  have hi : front.length < (front ++ inside).length := by
    rw [List.length_append]
    have := List.length_pos_iff.mpr hinside
    omega
  have hlen : (front ++ inside).length < front.length + (inside ++ after).length := by
    rw [List.length_append, List.length_append]
    have := List.length_pos_iff.mpr hafter
    omega
  rcases hcomp with hcomp | ⟨rest, rfl⟩
  · refine ⟨[], front.length, hi, ⟨by simp, ?_⟩, hlen⟩
    simpa [List.append_assoc, List.prefix_append_right_inj] using hcomp
  · refine ⟨rest, front.length, hi, ⟨by simp, ?_⟩, hlen⟩
    simp [List.append_assoc]

/-- A value that hides no stop, with a stop after it that none straddles, is found to end where it
ends. -/
theorem findStop_append_stop (hmem : stop ∈ stops) (hfree : hiddenStop? raw stops = none)
    (hstraddle : ∀ s ∈ stops, ¬Straddles raw stop s) (rest : Bytes) :
    findStop (raw ++ (stop ++ rest)) 0 stops = some raw.length := by
  refine findStop_eq_some_iff.mpr ⟨⟨stop, hmem, occursAt_length_append raw stop rest⟩, ?_⟩
  intro i hi s hs hocc
  rcases occursAt_or_straddles hi hocc with hin | hacross
  · exact not_occursAt_of_hidesStop (hiddenStop?_eq_none_iff.mp hfree s hs) hi hin
  · exact hstraddle s hs hacross

/-! ## Stops that keep apart -/

/-- The first byte of `stop` does not occur in `other`, past the first byte of that. -/
def Apart (stop other : Bytes) : Prop :=
  ∀ b ∈ stop.head?, b ∉ other.tail

instance (stop other : Bytes) : Decidable (Apart stop other) :=
  inferInstanceAs (Decidable (∀ b ∈ stop.head?, b ∉ other.tail))

theorem OccursAt.not_apart {other data : Bytes} {j : Nat} (hstop : OccursAt stop data i)
    (hother : OccursAt other data j) (hne : stop ≠ []) (hji : j < i) (hij : i < j + other.length) :
    ¬Apart stop other := by
  obtain ⟨b, stop, rfl⟩ := List.exists_cons_of_ne_nil hne
  have hb : data[i]? = some b := by
    obtain ⟨rest, hrest⟩ := hstop.2
    have h := congrArg (·[0]?) hrest
    simpa using h.symm
  have hmem : other.tail[i - j - 1]? = some b := by
    obtain ⟨rest, hrest⟩ := hother.2
    have h := congrArg (·[i - j]?) hrest
    rw [List.getElem?_append_left (by omega), List.getElem?_drop,
      show j + (i - j) = i from by omega, hb] at h
    rw [List.getElem?_tail, show i - j - 1 + 1 = i - j from by omega, h]
  intro hapart
  exact hapart b (by simp) (List.mem_of_getElem? hmem)

theorem not_straddles_of_apart {other : Bytes} (hne : stop ≠ []) (h : Apart stop other) :
    ¬Straddles raw stop other := by
  intro hacross
  obtain ⟨rest, i, hi, hocc, hend⟩ := hacross.exists_occursAt
  exact (occursAt_length_append raw stop rest).not_apart hocc hne hi hend h

/-- A value that hides a stop less than its own end does not let that stop straddle itself. -/
theorem not_straddles_self (h : hidesStop raw stop = false) : ¬Straddles raw stop stop := by
  intro hacross
  obtain ⟨rest, i, hi, hocc, -⟩ := hacross.exists_occursAt
  rw [← List.append_assoc] at hocc
  have hfit : i + stop.length ≤ (raw ++ stop).length := by rw [List.length_append]; omega
  exact hidesStop_eq_false_iff.mp h i hi ((occursAt_append rest hfit).mp hocc)

/-! ## Values without the first byte of a stop -/

def Avoids (raw stop : Bytes) : Prop :=
  ∃ b rest, stop = b :: rest ∧ b ∉ raw

theorem Avoids.mono {raw' : Bytes} (h : Avoids raw stop) (hsub : raw' ⊆ raw) :
    Avoids raw' stop := by
  obtain ⟨b, rest, heq, hb⟩ := h
  exact ⟨b, rest, heq, fun hmem ↦ hb (hsub hmem)⟩

theorem Avoids.hidesStop_eq_false (h : Avoids raw stop) : hidesStop raw stop = false := by
  obtain ⟨b, rest, rfl, hb⟩ := h
  refine hidesStop_eq_false_iff.mpr fun i hi hocc ↦ hb ?_
  have hpre := hocc.2
  rw [List.drop_append_of_le_length (Nat.le_of_lt hi), List.drop_eq_getElem_cons hi,
    List.cons_append, List.cons_prefix_cons] at hpre
  rw [hpre.1]
  exact List.getElem_mem hi

theorem hiddenStop?_of_avoids (h : ∀ s ∈ stops, Avoids raw s) : hiddenStop? raw stops = none :=
  hiddenStop?_eq_none_iff.mpr fun s hs ↦ (h s hs).hidesStop_eq_false

theorem Avoids.not_straddles (h : Avoids raw stop) (follow : Bytes) :
    ¬Straddles raw follow stop := by
  rintro ⟨inside, after, hinside, -, heq, hsuffix, -⟩
  obtain ⟨b, rest, rfl, hb⟩ := h
  obtain ⟨b', inside, rfl⟩ := List.exists_cons_of_ne_nil hinside
  rw [List.cons_append, List.cons.injEq] at heq
  rw [heq.1] at hb
  exact hb (hsuffix.subset List.mem_cons_self)

/-- Where a field ends does not depend on what comes after the stop that ends it. -/
theorem findStop_append_congr {used : Bytes} {others : List Bytes} {rest rest' : Bytes}
    (hfound : findStop (used ++ rest) 0 (stop :: others) = some i) (hocc : OccursAt stop used i)
    (hne : stop ≠ []) (hapart : ∀ s ∈ others, Apart stop s) :
    findStop (used ++ rest') 0 (stop :: others) = some i := by
  have hfirst := (findStop_eq_some_iff.mp hfound).2
  have hend := hocc.add_length_le
  have hhere := (occursAt_append rest' hend).mpr hocc
  refine findStop_eq_some_iff.mpr ⟨⟨stop, List.mem_cons_self, hhere⟩, fun j hj s hs hs' ↦ ?_⟩
  -- An earlier stop either ends within `used`, and then stands in both, or it covers place `i`.
  rcases Nat.lt_or_ge used.length (j + s.length) with hlong | hshort
  · rcases List.mem_cons.mp hs with rfl | hs
    · omega
    · have := List.length_pos_iff.mpr hne
      exact hhere.not_apart hs' hne hj (by omega) (hapart s hs)
  · have hused := (occursAt_append rest' hshort).mp hs'
    exact hfirst j hj s hs ((occursAt_append rest hshort).mpr hused)

/-- A value that was cut off at the first place of a stop does not hide it. -/
theorem hidesStop_of_findStop {data : Bytes} (h : findStop data 0 [stop] = some i) :
    hidesStop (data.take i) stop = false := by
  obtain ⟨⟨s, hs, hocc⟩, hfirst⟩ := findStop_eq_some_iff.mp h
  rw [List.mem_singleton] at hs
  subst hs
  obtain ⟨rest, hrest⟩ := hocc.2
  have hdata : data = (data.take i ++ s) ++ rest := by
    rw [List.append_assoc, hrest, List.take_append_drop]
  have hlen : (data.take i).length = i := by rw [List.length_take]; have := hocc.1; omega
  refine hidesStop_eq_false_iff.mpr fun j hj hj' ↦ hfirst j (by omega) s (by simp) ?_
  rw [hdata]
  exact (occursAt_append rest hj'.add_length_le).mpr hj'

/-! ## Soundness of the check -/

/-- For a value that hides none of its stops: it is found to end where it ends, whichever stop
follows it and whatever comes after that, exactly if no stop straddles its end with another one
following. -/
theorem findStop_after_value_iff {raw : Bytes} {stops : List Bytes}
    (hfree : hiddenStop? raw stops = none) :
    (∀ s ∈ stops, ∀ rest, findStop (raw ++ (s ++ rest)) 0 stops = some raw.length) ↔
      ∀ s ∈ stops, ∀ t ∈ stops, s ≠ t → ¬Straddles raw s t := by
  constructor
  · intro h s hs t ht _ hacross
    obtain ⟨rest, i, hi, hocc, -⟩ := hacross.exists_occursAt
    exact (findStop_eq_some_iff.mp (h s hs rest)).2 i hi t ht hocc
  · intro h s hs rest
    refine findStop_append_stop hs hfree (fun t ht hacross ↦ ?_) rest
    by_cases hst : s = t
    · subst hst
      exact not_straddles_self (hiddenStop?_eq_none_iff.mp hfree s hs) hacross
    · exact h s hs t ht hst hacross

/-- A value that ends in a carriage return, in a layout with commas and closed lines. -/
theorem findStop_after_value_comma :
    hiddenStop? (Utf8.ofString "a\r") [Utf8.ofString ",", Utf8.ofString "\r\n"] = none ∧
      ∀ s ∈ [Utf8.ofString ",", Utf8.ofString "\r\n"], ∀ rest,
        findStop (Utf8.ofString "a\r" ++ (s ++ rest)) 0
          [Utf8.ofString ",", Utf8.ofString "\r\n"] = some 2 := by
  have hapart : ∀ s ∈ [Utf8.ofString ",", Utf8.ofString "\r\n"],
      ∀ t ∈ [Utf8.ofString ",", Utf8.ofString "\r\n"], s ≠ [] ∧ (s ≠ t → Apart s t) := by
    decide +kernel
  refine ⟨by decide, (findStop_after_value_iff (by decide)).mpr fun s hs t ht hst ↦ ?_⟩
  obtain ⟨hne, h⟩ := hapart s hs t ht
  exact not_straddles_of_apart hne (h hst)

/-- Two fields in a row, with line feeds between fields and closed lines. -/
def lineFields : Machine :=
  Machine.ofSegments [.field { name := some "a", type := some (.string .null) },
    .field { name := some "b", type := some (.string .null) }] (some "\n") (some "\r\n")

/-- The same value in a layout with line feeds: the check lets it pass, and yet its last byte is
taken for the beginning of the stop that closes the line. -/
theorem findStop_cuts_checked_value :
    lineFields.stopsOf (some "a") = ["\n", "\r\n"] ∧
      hiddenStop? (Utf8.ofString "a\r") [Utf8.ofString "\n", Utf8.ofString "\r\n"] = none ∧
      findStop (Utf8.ofString "a\r" ++ (Utf8.ofString "\n" ++ [])) 0
        [Utf8.ofString "\n", Utf8.ofString "\r\n"] ≠ some (Utf8.ofString "a\r").length := by
  decide

end TextProtocol.Wire
