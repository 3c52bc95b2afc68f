import ReactiveSheet.Proofs.Sheet.Independence
import ReactiveSheet.Proofs.Sheet.RoundTrip

/-!
Recalculation after edits were undone. Main statement: undoing edits and recalculating leaves the
grid that recalculation without the edits leaves, as long as no negative zero comes up
(`undone_edits_leave_no_trace`).
-/

namespace ReactiveSheet
open Relation

namespace Grid

variable {g : Grid} {p : Pass} {as : List (CellId × CellValue)}

theorem NoNegativeZero.assignAll (hp : p.grid.NoNegativeZero)
    (hz : ∀ c ∈ as, c.2 ≠ .number (-0)) : (p.assignAll as).grid.NoNegativeZero := by
  intro a hv
  rcases p.value?_assignAll_cases as a with h | ⟨v, hmem, h⟩
  · exact hp a (h.symm.trans hv)
  · rw [h, Option.some.injEq] at hv
    exact hz _ hmem hv

theorem NoNegativeZero.of_value? {h : Grid} (hg : g.NoNegativeZero)
    (hv : ∀ a, h.value? a = g.value? a) : h.NoNegativeZero := fun a => by
  rw [hv]
  exact hg a

end Grid

namespace Sheet

variable {s d u : Sheet} {g g' h h' : Grid} {a id : CellId} {input : String} {cell : Cell}
  {snapshot : Snapshot} {history : History} {ops : List Operation}

theorem noNegativeZero_edit (hd : d.grid.NoNegativeZero) (hcell : d.grid.get? id = some cell)
    (hne : cell.formula ≠ Formula.normalize input) (hz : d.AvoidsNegativeZero (.edit id input)) :
    (d.perform (.edit id input)).sheet.grid.NoNegativeZero := by
  rw [AvoidsNegativeZero, assignments_edit hcell hne] at hz
  rw [sheet_edit hcell hne]
  show (editPass d.grid id (Formula.normalize input)).grid.NoNegativeZero
  rw [grid_editPass]
  exact .assignAll (hd.of_value? fun a => value?_reformulate d.grid id a _) hz

theorem noNegativeZero_recalculate (hl : d.grid.Linked) (hd : d.grid.NoNegativeZero)
    (hz : d.AvoidsNegativeZero .recalculate) :
    (d.perform .recalculate).sheet.grid.NoNegativeZero := by
  rw [perform, Outcome.sheet_map, sheet_recalculate]
  show (recalculatePass d.grid).grid.NoNegativeZero
  rw [grid_recalculatePass]
  exact .assignAll (hd.of_value? (Grid.relink_relinked hl d.grid.ids).value?) hz

/-- What undo restores is not computed, so that it has to be looked at besides. -/
theorem noNegativeZero_undo (hu : u.grid.NoNegativeZero)
    (hpop : u.history.pop? = some (snapshot, history)) (hcell : u.grid.get? snapshot.id = some cell)
    (hsnapshot : snapshot.value ≠ .number (-0)) (hz : u.AvoidsNegativeZero .undo) :
    (u.perform .undo).sheet.grid.NoNegativeZero := by
  simp only [AvoidsNegativeZero, assignments, hpop, if_pos (Grid.contains_of_get? hcell)] at hz
  rw [perform, Outcome.sheet_map, undo_of_get? hpop hcell, finish]
  show (undoPass u.grid cell snapshot).grid.NoNegativeZero
  rw [grid_undoPass]
  refine .assignAll (fun a hv => ?_) hz
  rw [value?_restored hcell] at hv
  split_ifs at hv
  · exact hsnapshot (Option.some.inj hv)
  · exact hu a hv

theorem RoundTrip.noNegativeZero (trip : RoundTrip AvoidsNegativeZero d ops u)
    (hd : d.Ready (edited ops).length) (hheld : d.grid.NoNegativeZero) :
    u.grid.NoNegativeZero := by
  induction trip with
  | stay => exact hheld
  | recalculate hz _ ih =>
    exact ih (hd.perform _) (noNegativeZero_recalculate hd.linked hheld hz)
  | @edit d u ops id input cell hcell hne hz trip hz' ih =>
    have hd' := hd.of_succ.perform (.edit id input)
    have hu := ih hd' (noNegativeZero_edit hheld hcell hne hz)
    obtain ⟨hpop, now, hnow⟩ := (trip.retraced hd').pop? hcell hne hd
    refine noNegativeZero_undo hu hpop hnow (fun hv => hheld id ?_) hz'
    rw [Grid.value?_of_get? hcell]
    exact congrArg some hv

namespace Refreshed

/-- Two recalculations of the same formulas leave the same grid if none of the zeros that come up is
negative. For the first one it suffices that none is held before. -/
theorem eq_of_noNegativeZero (hr : Refreshed g h) (hr' : Refreshed g' h')
    (hf : ∀ a, g'.formula? a = g.formula? a) (hg : g.NoNegativeZero) (hg' : g'.NoNegativeZero)
    (hz : ∀ a, g'.contains a = true → ¬ h'.Cyclic a → h'.compute a ≠ .number (-0)) : h' = h := by
  have hformula : ∀ a, h'.formula? a = h.formula? a := fun a => by
    rw [hr'.formula?, hf, ← hr.formula?]
  have hshape : h'.SameShape h := hr'.tracked.sameShape hr.tracked hr'.linked hr.linked hformula
  refine hshape.eq_of_value? fun a => ?_
  refine hr.value?_eq_of_compute_eq hr' hf fun b _ hb hcompute => ?_
  have hnot : g.contains b = true → h'.compute b ≠ .number (-0) := fun hk =>
    hz b ((Grid.contains_eq hf b).trans hk) (hshape.cyclic ▸ hb)
  constructor
  · rintro ⟨v, hv, ⟨rfl, hneg⟩ | ⟨rfl, _⟩⟩
    · exact hnot (Grid.contains_of_value? hv) (hcompute.trans hneg)
    · exact hg b hv
  · rintro ⟨v, hv, ⟨rfl, hneg⟩ | ⟨rfl, _⟩⟩
    · exact hnot ((Grid.contains_eq hf b).symm.trans (Grid.contains_of_value? hv)) hneg
    · exact hg' b hv

end Refreshed

theorem undone_edits_leave_no_trace (hs : s.Initial) (before : List Operation)
    (hops : (s.run before).Admits Rewrites ops)
    (hroom : (s.run before).history.HasRoom (edited ops).length)
    (hheld : ∀ a, (s.run before).grid.value? a ≠ some (.number (-0)))
    (hz : (s.run before).Admits AvoidsNegativeZero (ops ++ undos ops ++ [.recalculate])) :
    (((s.run before).run ops).outcomes (undos ops)).map Outcome.answer =
        (edited ops).reverse.map (fun id => .ok (.cell id)) ∧
      (∀ a, ((s.run before).run (ops ++ undos ops)).grid.formula? a =
        (s.run before).grid.formula? a) ∧
      ((s.run before).run (ops ++ undos ops)).recalculate.sheet.grid =
        (s.run before).recalculate.sheet.grid := by
  obtain ⟨hz, hlast, _⟩ := admits_append.1 hz
  have hready := ready_run hs before hroom
  have trip := RoundTrip.of_admits hops hz
  have hback := trip.retraced hready
  have hr := recalculatePass_refreshed hready.linked
  have hr' := recalculatePass_refreshed hback.linked
  refine ⟨trip.answers hready, congrFun hback.formula?, ?_⟩
  rw [grid_recalculate, grid_recalculate]
  refine hr.eq_of_noNegativeZero hr' (congrFun hback.formula?) hheld
    (trip.noNegativeZero hready hheld) fun a ha hc => ?_
  exact hlast _ (compute_mem_recalculateAssignments hback.linked ha hc)

/-- A sum has the link of a formula that was taken back. -/
def staleSum : Sheet where
  grid := sumGrid (named 'C')
  history := ⟨[⟨named 'A', "0.0", .number 0⟩, ⟨named 'B', "0.0", .number 0⟩], none⟩
  listeners := 0

theorem run_undoneLink : threeCells.run undoneLink = staleSum := by decide +kernel

/-- Two edits, the second of which closes a cycle through the stale link. -/
def closingCycle : List Operation := [.edit (named 'C') "B", .edit (named 'B') "A"]

theorem closing_cycle_leaves_no_trace :
    threeCells.Initial ∧ (threeCells.run undoneLink).Admits Rewrites closingCycle ∧
      (threeCells.run undoneLink).history.HasRoom (edited closingCycle).length ∧
      (∀ a, (threeCells.run undoneLink).grid.value? a ≠ some (.number (-0))) ∧
      (threeCells.run undoneLink).Admits AvoidsNegativeZero
        (closingCycle ++ undos closingCycle ++ [.recalculate]) ∧
      (((threeCells.run undoneLink).run closingCycle).outcomes (undos closingCycle)).map
          Outcome.answer = [.ok (.cell (named 'B')), .ok (.cell (named 'C'))] ∧
      ((threeCells.run undoneLink).run
          (closingCycle ++ undos closingCycle)).recalculate.sheet.grid =
        (threeCells.run undoneLink).recalculate.sheet.grid := by
  have hops : (threeCells.run undoneLink).Admits Rewrites closingCycle := by
    rw [run_undoneLink]
    decide +kernel
  have hroom : (threeCells.run undoneLink).history.HasRoom (edited closingCycle).length := by
    rw [run_undoneLink]
    decide
  have hheld : ∀ a, (threeCells.run undoneLink).grid.value? a ≠ some (.number (-0)) := by
    have h : ∀ a ∈ CellId.all, staleSum.grid.value? a ≠ some (.number (-0)) := by decide +kernel
    rw [run_undoneLink]
    exact fun a => h a (CellId.mem_all a)
  have hz : (threeCells.run undoneLink).Admits AvoidsNegativeZero
      (closingCycle ++ undos closingCycle ++ [.recalculate]) := by
    rw [run_undoneLink]
    decide +kernel
  have h := undone_edits_leave_no_trace initial_threeCells undoneLink hops hroom hheld hz
  exact ⟨initial_threeCells, hops, hroom, hheld, hz, h.1, h.2.2⟩

end Sheet
end ReactiveSheet
