import ReactiveSheet.Proofs.Sheet.Settled

/-!
Cycles in runs of edits. Edits mark only cyclic cells as cyclic, but a cyclic cell may hold another
error that a cell passes on to it. After edits such an error comes from a cell that is not cyclic,
and it is all that a recalculation changes (`cyclesMarked_of_settled`).
-/

namespace ReactiveSheet.Sheet
open Relation

variable {s : Sheet} {g h : Grid} {a : CellId}

namespace Refreshed

theorem cyclic_eq (hr : Refreshed g h) (hg : g.Tracked) : h.Cyclic = g.Cyclic :=
  Grid.cyclic_eq (hr.tracked.subjects_eq hg hr.formula?)

/-- Recalculation finds nothing to do in a cell that is settled and not cyclic. -/
theorem value?_eq_of_settled (hr : Refreshed g h) (hg : g.Settled) (ha : ¬ g.Cyclic a) :
    h.value? a = g.value? a := by
  have hcyclic := hr.cyclic_eq hg.tracked
  refine Grid.not_cyclic_induction (P := fun a => h.value? a = g.value? a) ?_ ha
  intro a ha ih
  have hcompute : h.compute a = g.compute a :=
    (hg.tracked.covered a).compute_eq (Grid.contains_eq hr.formula?) (hr.formula? a)
      (hr.tracked.subjects_eq hg.tracked hr.formula? a) ih
  rw [hr.computed a (hcyclic ▸ ha), hcompute]
  cases hv : g.value? a with
  | none => rfl
  | some v => rw [Option.map_some, ((hg.settledAt a).upToDate ha v hv).revised_eq]

end Refreshed

/-- The marks of cyclic cells, and what recalculation changes about them. -/
structure CyclesMarked (s : Sheet) : Prop where
  cyclic_of_marked : ∀ a, s.grid.value? a = some (.error .cyclicDependency) → s.grid.Cyclic a
  spoiled_of_cyclic : ∀ a, s.grid.Cyclic a → s.grid.Spoiled a
  marked_iff_of_no_error : ∀ a, (∀ b e, TransGen s.grid.Reads a b → ¬ s.grid.Cyclic b →
    s.grid.value? b ≠ some (.error e)) →
    (s.grid.value? a = some (.error .cyclicDependency) ↔ s.grid.Cyclic a)
  value_kept : ∀ a, ¬ s.grid.Cyclic a → s.recalculate.sheet.grid.value? a = s.grid.value? a
  marked_after : ∀ a, s.grid.Cyclic a →
    s.recalculate.sheet.grid.value? a = some (.error .cyclicDependency)

theorem cyclesMarked_of_settled (hs : s.grid.Settled) : CyclesMarked s := by
  have hr := recalculatePass_refreshed hs.linked
  have hcyclic : ∀ a, s.grid.value? a = some (.error .cyclicDependency) → s.grid.Cyclic a := by
    intro a hv
    by_contra ha
    exact Grid.value?_ne_cyclic (fun b => (hs.settledAt b).upToDate) ha hv
  refine ⟨hcyclic, fun a => (hs.settledAt a).spoiled, fun a hnone => ⟨hcyclic a, fun ha => ?_⟩,
    fun a ha => ?_, fun a ha => ?_⟩
  · rcases (hs.settledAt a).spoiled ha with hm | ⟨e, b, _, _, hab, hb, hbe⟩
    · exact hm
    · exact absurd hbe (hnone b e hab hb)
  · rw [grid_recalculate, hr.value?_eq_of_settled hs ha]
  · rw [grid_recalculate]
    exact hr.marked a (hr.cyclic_eq hs.tracked ▸ ha)

/-- Edits, each of a cell with an input. -/
def edits (inputs : List (CellId × String)) : List Operation :=
  inputs.map fun (id, input) => .edit id input

theorem admits_edits (s : Sheet) (inputs : List (CellId × String)) :
    s.Admits KeepsTrack (edits inputs) := by
  induction inputs generalizing s with
  | nil => trivial
  | cons e inputs ih => exact ⟨trivial, ih _⟩

theorem cycles_marked_of_edits {settings : Settings} (hs : ofSettings settings = .ok s)
    (inputs : List (CellId × String)) : CyclesMarked (s.run (edits inputs)) :=
  cyclesMarked_of_settled (settled_run (.inr ⟨settings, hs⟩) (admits_edits s inputs))

/-- A cell that divides by zero, one that reads itself, and one that reads both. -/
def divisionBesideCycle : List (CellId × String) :=
  [(named 'A', "1 0 /"), (named 'B', "B"), (named 'C', "A B +")]

theorem reads_divisionBesideCycle :
    (threeCells.run (edits divisionBesideCycle)).grid.Reads (named 'B') (named 'B') ∧
      (threeCells.run (edits divisionBesideCycle)).grid.Reads (named 'C') (named 'B') ∧
      (threeCells.run (edits divisionBesideCycle)).grid.value? (named 'C') =
        some (.error .divisionByZero) := by decide +kernel

theorem cyclic_divisionBesideCycle :
    (threeCells.run (edits divisionBesideCycle)).grid.Cyclic (named 'C') :=
  ⟨named 'B', .single reads_divisionBesideCycle.2.1, .single reads_divisionBesideCycle.1⟩

/-- The last cell reads a cycle, and yet it takes on the error of its first subject, until a
recalculation marks it. -/
theorem cyclic_cell_with_other_error :
    ofSettings ⟨3, none⟩ = .ok threeCells ∧
    ¬ ((threeCells.run (edits divisionBesideCycle)).grid.value? (named 'C') =
        some (.error .cyclicDependency) ↔
      (threeCells.run (edits divisionBesideCycle)).grid.Cyclic (named 'C')) ∧
    (threeCells.run (edits divisionBesideCycle)).grid.value? (named 'C') =
      some (.error .divisionByZero) ∧
    (threeCells.run (edits divisionBesideCycle)).recalculate.sheet.grid.value? (named 'C') =
      some (.error .cyclicDependency) := by
  have hs := settled_run initial_threeCells (admits_edits _ divisionBesideCycle)
  have hvalue := reads_divisionBesideCycle.2.2
  refine ⟨ofSettings_three, fun h => ?_, hvalue, ?_⟩
  · rw [h.2 cyclic_divisionBesideCycle] at hvalue
    cases hvalue
  · exact (cyclesMarked_of_settled hs).marked_after _ cyclic_divisionBesideCycle

theorem cycles_marked_beside_division :
    ofSettings ⟨3, none⟩ = .ok threeCells ∧
      CyclesMarked (threeCells.run (edits divisionBesideCycle)) :=
  ⟨ofSettings_three, cycles_marked_of_edits ofSettings_three divisionBesideCycle⟩

end ReactiveSheet.Sheet
