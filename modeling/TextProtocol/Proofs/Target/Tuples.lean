import TextProtocol.Target.Call.Rust

/-!
# Nested tuples

The strategies of a message and the pattern for what they draw are written as one tuple or as a
tuple of tuples. Both are the text of the same tree, `nest`, with the fields of the message in their
order at its leaves. Only the inner tuples are kept short: the outer one has a part for every ten
fields, so that with more than 120 fields it has more than the twelve parts of which strategies can
be composed.
-/

namespace TextProtocol.Target.Rust

/-! ## Trees -/

/-- Items in tuples within tuples. -/
inductive Nest (α : Type) where
  | item (a : α)
  | tuple (parts : List (Nest α))

namespace Nest

variable {α β : Type}

/-- The items at the leaves, from left to right. -/
def items : Nest α → List α
  | .item a => [a]
  | .tuple parts => parts.flatMap items

/-- The tree of the same shape with other items. -/
def map (f : α → β) : Nest α → Nest β
  | .item a => .item (f a)
  | .tuple parts => .tuple (parts.map (map f))

def text : Nest String → String
  | .item a => a
  | .tuple parts => Rust.tuple (parts.map text)

/-- No tuple, at any level, has more parts than a limit. -/
def IsWithin (limit : Nat) : Nest α → Prop
  | .item _ => True
  | .tuple parts => parts.length ≤ limit ∧ ∀ part ∈ parts, part.IsWithin limit

def row (as : List α) : Nest α :=
  .tuple (as.map .item)

@[simp] theorem items_row (as : List α) : (row as).items = as := by
  induction as with
  | nil => simp [row, items]
  | cons a as ih => simp_all [row, items]

@[simp] theorem map_row (f : α → β) (as : List α) : (row as).map f = row (as.map f) := by
  simp [row, map]

@[simp] theorem text_row (as : List String) : (row as).text = Rust.tuple as := by
  have hitems : (as.map Nest.item).map text = as := by
    simp [Function.comp_def, text]
  rw [row, text, hitems]

@[simp] theorem isWithin_row {limit : Nat} {as : List α} :
    (row as).IsWithin limit ↔ as.length ≤ limit := by
  simp [row, IsWithin]

end Nest

/-! ## Groups -/

variable {α β : Type}

theorem flatten_groups (as : List α) : (groups as).flatten = as := by
  fun_induction groups as with
  | case1 => rfl
  | case2 a as ih =>
    rw [List.flatten_cons, ih]
    exact List.take_append_drop tupleLimit (a :: as)

theorem groups_map (f : α → β) (as : List α) :
    groups (as.map f) = (groups as).map (List.map f) := by
  fun_induction groups as with
  | case1 => simp [groups]
  | case2 a as ih =>
    rw [List.map_cons, groups, ← List.map_drop, ih, ← List.map_cons, ← List.map_take,
      ← List.map_cons]

theorem length_groups (as : List α) : (groups as).length = (as.length + 9) / 10 := by
  fun_induction groups as with
  | case1 => simp
  | case2 a as ih =>
    rw [List.length_cons, ih, List.length_drop, List.length_cons, tupleLimit]
    omega

theorem length_le_of_mem_groups {as group : List α} (h : group ∈ groups as) :
    group.length ≤ tupleLimit := by
  fun_induction groups as with
  | case1 => cases h
  | case2 a as ih =>
    rcases List.mem_cons.mp h with rfl | h
    · exact List.length_take_le tupleLimit (a :: as)
    · exact ih h

/-! ## The tree of a message -/

/-- Items in a row if they are one group, and otherwise in a row for each group. -/
def nest (as : List α) : Nest α :=
  match groups as with
  | [group] => .row group
  | several => .tuple (several.map .row)

/-- Items are one group, or the tree has a row for each of several groups. -/
theorem nest_cases (as : List α) :
    (∃ group, groups as = [group] ∧ nest as = .row group) ∨
      (groups as).length ≠ 1 ∧ nest as = .tuple ((groups as).map .row) := by
  rw [nest]
  split
  · rename_i group hgroup
    exact .inl ⟨group, hgroup, rfl⟩
  · rename_i hgroup
    refine .inr ⟨fun hlength ↦ ?_, rfl⟩
    obtain ⟨group, h⟩ := List.length_eq_one_iff.mp hlength
    exact hgroup group h

theorem items_nest (as : List α) : (nest as).items = as := by
  rcases nest_cases as with ⟨group, hgroup, hnest⟩ | ⟨-, hnest⟩
  · rw [hnest, Nest.items_row, ← flatten_groups as, hgroup, List.flatten_singleton]
  · rw [hnest, Nest.items, List.flatMap_map]
    simp [List.flatMap_id', flatten_groups]

theorem nestedTuple_of_ne {texts : List String} (h : (groups texts).length ≠ 1) :
    nestedTuple texts = tuple ((groups texts).map tuple) := by
  rw [nestedTuple]
  split
  · rename_i hone
    have hlength := congrArg List.length hone
    rw [List.length_map] at hlength
    exact absurd hlength h
  · rfl

theorem nestedTuple_map (f : α → String) (as : List α) :
    nestedTuple (as.map f) = ((nest as).map f).text := by
  rcases nest_cases as with ⟨group, hgroup, hnest⟩ | ⟨hcount, hnest⟩
  · rw [nestedTuple, groups_map, hgroup, hnest, Nest.map_row, Nest.text_row]
    rfl
  · rw [nestedTuple_of_ne (by rwa [groups_map, List.length_map]), groups_map, hnest, Nest.map,
      Nest.text]
    simp [Function.comp_def]

theorem isWithin_nest_iff {as : List α} : (nest as).IsWithin 12 ↔ as.length ≤ 120 := by
  have hcount := length_groups as
  rcases nest_cases as with ⟨group, hgroup, hnest⟩ | ⟨-, hnest⟩
  · have hlength : group.length ≤ 10 :=
      length_le_of_mem_groups (hgroup ▸ List.mem_singleton_self group)
    rw [hgroup, List.length_singleton] at hcount
    rw [hnest, Nest.isWithin_row]
    omega
  · -- A row has ten items at most, so only the number of rows can be too great.
    rw [hnest, Nest.IsWithin, List.length_map, hcount]
    have hrows : ∀ part ∈ (groups as).map Nest.row, part.IsWithin 12 := by
      intro part hpart
      obtain ⟨group, hgroup, rfl⟩ := List.mem_map.mp hpart
      rw [Nest.isWithin_row]
      exact Nat.le_trans (length_le_of_mem_groups hgroup) (by decide)
    rw [and_iff_left hrows]
    omega

/-- The strategies of a message and the pattern for what they draw have the same shape, with each
field once and in its order. No tuple has more than twelve parts exactly if there are no more than
120 fields. -/
theorem strategyTuple_shape (m : Message) :
    strategyTuple m = ((nest m.fields).map strategy).text ∧
    bindingTuple m = ((nest m.fields).map (·.member profile)).text ∧
    (nest m.fields).items = m.fields ∧
    ((nest m.fields).IsWithin 12 ↔ m.fields.length ≤ 120) :=
  ⟨nestedTuple_map strategy m.fields, nestedTuple_map _ m.fields, items_nest m.fields,
    isWithin_nest_iff⟩

def flags (count : Nat) : Message :=
  let flag (i : Nat) : Compiled.Field :=
    { definition := { name := some s!"f{i}", type := some .boolean }
      constraints := {}, stops := [","], domain := {} }
  { name := "flags"
    fields := (List.range count).map fun i ↦ { name := s!"f{i}", info := flag i }
    info :=
      { source := { name := some "flags", direction := some .request, format := none }
        delimiter := some ",", terminator := none, machine := .ofSegments [] none none
        steps := [], fields := (List.range count).map flag } }

/-- With 121 fields there are thirteen groups, which all stand in one tuple. -/
theorem strategyTuple_exceeds_limit :
    (flags 121).fields.length = 121 ∧ (groups (flags 121).fields).length = 13 ∧
      ¬(nest (flags 121).fields).IsWithin 12 := by
  have hcount : (flags 121).fields.length = 121 := by simp [flags]
  rw [isWithin_nest_iff, length_groups, hcount]
  decide

end TextProtocol.Target.Rust
