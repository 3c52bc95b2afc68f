import ReactiveSheet.Proofs.Grid.Schedule
import ReactiveSheet.Proofs.Grid.Values

/-!
A pass as the list of the values that it assigns. Main statements: recomputing is assigning one
value after the other (`recompute_eq`), no cell is given two (`nodup_assignments`), and so what a
cell comes to hold depends on the one that it is given (`value?_assignAll`).
-/

namespace ReactiveSheet.Grid

variable {g : Grid} {p : Pass} {a id : CellId} {v : CellValue} {as : List (CellId × CellValue)}

/-- The values that are computed for cells in turn, each from what the cells before it hold then. -/
def computed (g : Grid) : List CellId → List (CellId × CellValue)
  | [] => []
  | id :: ids => (id, g.compute id) :: computed (g.store id (g.compute id)) ids

/-- The values that a pass over the affected cells assigns, in order. -/
def assignments (g : Grid) (affected : IdSet) : List (CellId × CellValue) :=
  let (order, stuck) := g.schedule affected
  g.computed order ++ stuck.map (·, .error .cyclicDependency)

@[simp] theorem map_fst_computed (g : Grid) (ids : List CellId) :
    (g.computed ids).map Prod.fst = ids := by
  induction ids generalizing g with
  | nil => rfl
  | cons id ids ih => simp [computed, ih]

@[simp] theorem map_fst_marks (ids : List CellId) (v : CellValue) :
    (ids.map (·, v)).map Prod.fst = ids := by
  simp [Function.comp_def]

/-- A value that compares as equal to the held one is no difference. -/
theorem differs_eq (g : Grid) (id : CellId) (v : CellValue) :
    g.differs id v = (g.value? id).any fun old => !old.agrees v := by
  unfold differs value?
  cases g.get? id <;> rfl

namespace Pass

def assignAll (p : Pass) (as : List (CellId × CellValue)) : Pass :=
  as.foldl (fun p c => p.assign c.1 c.2) p

theorem assignAll_cons (p : Pass) (c : CellId × CellValue) (as : List (CellId × CellValue)) :
    p.assignAll (c :: as) = (p.assign c.1 c.2).assignAll as := rfl

theorem assignAll_append (p : Pass) (as bs : List (CellId × CellValue)) :
    p.assignAll (as ++ bs) = (p.assignAll as).assignAll bs :=
  List.foldl_append

theorem foldl_update_eq (p : Pass) (ids : List CellId) :
    ids.foldl update p = p.assignAll (p.grid.computed ids) := by
  induction ids generalizing p with
  | nil => rfl
  | cons id ids ih =>
    rw [List.foldl_cons, ih]
    rfl

theorem foldl_markCyclic_eq (p : Pass) (ids : List CellId) :
    ids.foldl markCyclic p = p.assignAll (ids.map (·, .error .cyclicDependency)) := by
  induction ids generalizing p with
  | nil => rfl
  | cons id ids ih =>
    rw [List.foldl_cons, ih]
    rfl

theorem recompute_eq (p : Pass) (affected : IdSet) :
    p.recompute affected = p.assignAll (p.grid.assignments affected) := by
  simp only [recompute, assignments, assignAll_append, foldl_update_eq, foldl_markCyclic_eq]

theorem sameShape_assignAll (p : Pass) (as : List (CellId × CellValue)) :
    (p.assignAll as).grid.SameShape p.grid := by
  induction as generalizing p with
  | nil => exact .refl p.grid
  | cons c as ih => exact (ih (p.assign c.1 c.2)).trans (sameShape_store p.grid c.1 c.2)

/-- What is noted does not matter to the grid. -/
theorem grid_assignAll_congr {q : Pass} (h : p.grid = q.grid) (as : List (CellId × CellValue)) :
    (p.assignAll as).grid = (q.assignAll as).grid := by
  induction as generalizing p q with
  | nil => exact h
  | cons c as ih =>
    refine ih ?_
    simp only [assign, h]

theorem value?_assign_of_ne (h : a ≠ id) : (p.assign id v).grid.value? a = p.grid.value? a := by
  rw [assign, value?_store, if_neg h]

theorem value?_assignAll_of_not_mem (p : Pass) (ha : a ∉ as.map Prod.fst) :
    (p.assignAll as).grid.value? a = p.grid.value? a := by
  induction as generalizing p with
  | nil => rfl
  | cons c as ih =>
    rw [List.map_cons] at ha
    have hne : a ≠ c.1 := List.ne_of_not_mem_cons ha
    rw [assignAll_cons, ih _ (List.not_mem_of_not_mem_cons ha), value?_assign_of_ne hne]

/-- A cell to which one value is assigned holds that one, unless it held one that agrees. -/
theorem value?_assignAll (p : Pass) (hn : (as.map Prod.fst).Nodup) (ha : (a, v) ∈ as) :
    (p.assignAll as).grid.value? a = (p.grid.value? a).map (·.revised v) := by
  induction as generalizing p with
  | nil => exact absurd ha List.not_mem_nil
  | cons c as ih =>
    obtain ⟨hc, hn⟩ := List.nodup_cons.1 hn
    rw [assignAll_cons]
    rcases List.mem_cons.1 ha with rfl | ha
    · rw [value?_assignAll_of_not_mem _ hc, assign, value?_store, if_pos rfl]
    · have hne : a ≠ c.1 := by
        rintro rfl
        exact hc (List.mem_map.2 ⟨_, ha, rfl⟩)
      rw [ih _ hn ha, value?_assign_of_ne hne]

/-- A cell keeps its value, or comes to hold one that is assigned to it. -/
theorem value?_assignAll_cases (p : Pass) (as : List (CellId × CellValue)) (a : CellId) :
    (p.assignAll as).grid.value? a = p.grid.value? a ∨
      ∃ v, (a, v) ∈ as ∧ (p.assignAll as).grid.value? a = some v := by
  induction as generalizing p with
  | nil => exact .inl rfl
  | cons c as ih =>
    rw [assignAll_cons]
    rcases ih (p.assign c.1 c.2) with h | ⟨v, hv, h⟩
    · rw [h]
      by_cases ha : a = c.1
      · subst ha
        rw [assign, value?_store, if_pos rfl]
        cases hold : p.grid.value? c.1 with
        | none => exact .inl rfl
        | some old =>
          rw [Option.map_some, CellValue.revised]
          split_ifs
          · exact .inl rfl
          · exact .inr ⟨c.2, List.mem_cons_self, rfl⟩
      · exact .inl (value?_assign_of_ne ha)
    · exact .inr ⟨v, List.mem_cons_of_mem c hv, h⟩

end Pass

/-- A pass assigns at most one value to each cell. -/
theorem nodup_assignments (hg : g.Linked) (affected : IdSet) :
    ((g.assignments affected).map Prod.fst).Nodup := by
  obtain ⟨order, rest, hs, ht⟩ := schedule_turns hg affected
  simp only [assignments, hs, List.map_append, map_fst_computed, map_fst_marks]
  exact ht.nodup_append_rest

theorem mem_map_fst_assignments (hg : g.Linked) {affected : IdSet} :
    a ∈ (g.assignments affected).map Prod.fst ↔ a ∈ affected := by
  obtain ⟨order, rest, hs, ht⟩ := schedule_turns hg affected
  simp only [assignments, hs, List.map_append, map_fst_computed, map_fst_marks, List.mem_append,
    IdSet.mem_toList, ht.mem_left_iff]

end ReactiveSheet.Grid
