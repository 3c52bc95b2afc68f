import ReactiveSheet.Proofs.Sheet.Run

/-!
Links in runs. Main statement: whatever operations are performed on a new sheet, in whatever order,
the observers of each cell are the cells that have it as a subject, and all links end at cells
(`linked_run`).
-/

namespace ReactiveSheet.Sheet

variable {s : Sheet}

theorem linked_editPass {g : Grid} {id : CellId} (hg : g.Linked) (hid : g.contains id = true)
    (formula : String) : (editPass g id formula).grid.Linked :=
  (editPass_edited hg hid).shape.linked (linked_reformulate hid hg)

/-- Undo changes no link, not even those of a formula that goes. -/
theorem linked_restored {g : Grid} (hg : g.Linked) (snapshot : Snapshot) :
    (restored g snapshot).Linked :=
  Grid.linked_modify (fun _ => rfl) (fun _ => rfl) hg

theorem subjects_restored (g : Grid) (snapshot : Snapshot) (a : CellId) :
    (restored g snapshot).subjects a = g.subjects a := by
  refine Grid.subjects_modify (fun c => ?_) a
  rfl

theorem contains_restored (g : Grid) (snapshot : Snapshot) (a : CellId) :
    (restored g snapshot).contains a = g.contains a := by
  unfold restored Grid.contains
  rw [Grid.get?_modify]
  split_ifs with ha
  · rw [ha, Option.isSome_map]
  · rfl

theorem undoPass_recomputed {g : Grid} (hg : g.Linked) (cell : Cell) (snapshot : Snapshot) :
    (restored g snapshot).Recomputed ((restored g snapshot).downstream snapshot.id)
      (undoPass g cell snapshot).grid := by
  have hrestored := linked_restored hg snapshot
  unfold undoPass
  exact Grid.recompute_recomputed hrestored rfl _

theorem linked_undoPass {g : Grid} (hg : g.Linked) (cell : Cell) (snapshot : Snapshot) :
    (undoPass g cell snapshot).grid.Linked :=
  (undoPass_recomputed hg cell snapshot).shape.linked (linked_restored hg snapshot)

theorem linked_recalculatePass {g : Grid} (hg : g.Linked) : (recalculatePass g).grid.Linked := by
  have hrelink := (Grid.relink_relinked hg g.ids).linked
  unfold recalculatePass
  exact (Grid.recompute_recomputed hrelink rfl _).shape.linked hrelink

/-- Every operation keeps links inverse to each other, also one that fails. -/
theorem linked_perform (hs : s.grid.Linked) (op : Operation) :
    (s.perform op).sheet.grid.Linked := by
  cases op with
  | create id =>
    rw [perform, Outcome.sheet_map, sheet_create]
    split_ifs with hid
    · exact hs
    · exact Grid.linked_insert_fresh hid hs
  | edit id input =>
    rw [perform, Outcome.sheet_map]
    rcases s.edit_cases id input with h | ⟨cell, hcell, _, h⟩
    · rwa [h]
    · rw [h]
      exact linked_editPass hs (Grid.contains_of_get? hcell) (Formula.normalize input)
  | undo =>
    rw [perform, Outcome.sheet_map]
    rcases s.undo_cases with ⟨_, h⟩ | ⟨snapshot, history, _, ⟨_, h⟩ | ⟨cell, _, h⟩⟩
    · rwa [h]
    · rwa [h]
    · rw [h]
      exact linked_undoPass hs cell snapshot
  | recalculate =>
    rw [perform, Outcome.sheet_map, sheet_recalculate]
    exact linked_recalculatePass hs
  | listen =>
    rw [perform, Outcome.sheet_map]
    exact hs

theorem linked_run (hs : s.Initial) (ops : List Operation) : (s.run ops).grid.Linked :=
  run_induction (P := fun s => s.grid.Linked) (fun _ op hs => linked_perform hs op)
    hs.fresh.linked ops

/-- The sheets of the outcomes are those that the operations leave, so that the last part speaks of
what is checked when a pass ends. -/
theorem links_consistent_of_run (hs : s.Initial) (ops : List Operation) :
    (∀ x y, y ∈ (s.run ops).grid.observers x ↔ x ∈ (s.run ops).grid.subjects y) ∧
      (∀ x y, x ∈ (s.run ops).grid.subjects y ∨ x ∈ (s.run ops).grid.observers y →
        (s.run ops).grid.contains x = true) ∧
      (s.run ops).grid.linksConsistent = true ∧
      ∀ o ∈ s.outcomes ops, o.sheet.grid.linksConsistent = true := by
  have hl := linked_run hs ops
  refine ⟨hl.mem_observers_iff, fun x y hxy => ?_, Grid.linksConsistent_iff.2 hl, fun o ho => ?_⟩
  · rcases hxy with hx | hx
    · exact hl.contains_of_mem x y hx
    · exact Grid.contains_of_mem_subjects ((hl.mem_observers_iff y x).1 hx)
  · refine Grid.linksConsistent_iff.2 ?_
    exact outcomes_induction (P := fun s => s.grid.Linked) (fun _ op hs => linked_perform hs op)
      hs.fresh.linked o ho

/-- A cell that reads itself and a missing cell is edited and undone, and one undo is too much. -/
theorem links_consistent_after_undo :
    threeCells.Initial ∧
      (threeCells.run [.edit (named 'A') "A Z +", .edit (named 'A') "B", .undo,
        .create (named 'Z'), .undo, .undo, .recalculate]).grid.linksConsistent = true :=
  ⟨initial_threeCells, (links_consistent_of_run initial_threeCells _).2.2.1⟩

end ReactiveSheet.Sheet
