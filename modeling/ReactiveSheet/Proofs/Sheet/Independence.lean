import ReactiveSheet.Proofs.Sheet.CycleMarks
import ReactiveSheet.Proofs.Sheet.Effects

/-!
Two sheets with the same formulas. Main statements: recalculation gives them the same values, except
that a zero keeps the sign that it had (`recalculation_forgets`), and edits give them the same links
and numbers in whatever order they are made, as long as no negative zero is computed
(`edits_in_any_order`).
-/

namespace ReactiveSheet
open Relation

namespace Grid

variable {g h : Grid}

/-- Formulas determine the links, and the values of all cells that are not cyclic. -/
theorem Settled.eq_of_formulas (hg : g.Settled) (hh : h.Settled) (eg : g.Exact) (eh : h.Exact)
    (hf : ∀ a, h.formula? a = g.formula? a) (a : CellId) :
    h.subjects a = g.subjects a ∧ h.observers a = g.observers a ∧ h.number? a = g.number? a := by
  have hsub := hh.tracked.subjects_eq hg.tracked hf
  have hobs : h.observers a = g.observers a := hh.linked.observers_eq hg.linked hsub a
  have hcyclic : h.Cyclic = g.Cyclic := cyclic_eq hsub
  refine ⟨hsub a, hobs, ?_⟩
  by_cases ha : g.Cyclic a
  · obtain ⟨e, he⟩ := ((hg.settledAt a).spoiled ha).exists_error
    obtain ⟨e', he'⟩ := ((hh.settledAt a).spoiled (hcyclic ▸ ha)).exists_error
    simp only [number?, he, he', Option.bind_some, CellValue.number?]
  · have hvalue : h.value? a = g.value? a := by
      refine not_cyclic_induction (P := fun a => h.value? a = g.value? a) ?_ ha
      intro a ha ih
      have hcompute : h.compute a = g.compute a :=
        (hg.tracked.covered a).compute_eq (contains_eq hf) (hf a) (hsub a) ih
      by_cases hk : g.contains a = true
      · obtain ⟨v, hv⟩ := exists_value? hk
        obtain ⟨w, hw⟩ := exists_value? ((contains_eq hf a).trans hk)
        have hvc : v = g.compute a := eg.eq_compute a ha v hv
        have hwc : w = h.compute a := eh.eq_compute a (hcyclic ▸ ha) w hw
        rw [hv, hw, hvc, hwc, hcompute]
      · rw [value?_eq_none hk, value?_eq_none (by rwa [contains_eq hf])]
    simp only [number?, hvalue]

end Grid

namespace Sheet

variable {s t : Sheet} {g g' h h' : Grid} {a : CellId} {ops ops' : List Operation}

/-- The cell holds one zero, and the other one is computed for it from what the others are given. -/
def KeepsOtherZero (g h : Grid) (a : CellId) : Prop :=
  ∃ v, g.value? a = some v ∧ v.OppositeZeros (h.compute a)

instance (g h : Grid) (a : CellId) : Decidable (KeepsOtherZero g h a) :=
  decidable_of_iff (∃ v ∈ g.value? a, v.OppositeZeros (h.compute a)) Iff.rfl

namespace Refreshed

theorem value?_eq_compute (hr : Refreshed g h) (ha : ¬ h.Cyclic a) (hz : ¬ KeepsOtherZero g h a) :
    h.value? a = (g.value? a).map fun _ => h.compute a := by
  rw [hr.computed a ha]
  cases hv : g.value? a with
  | none => rfl
  | some v =>
    have hopposite : ¬ v.OppositeZeros (h.compute a) := fun ho => hz ⟨v, hv, ho⟩
    rw [Option.map_some, Option.map_some, CellValue.revised_eq_of_not_oppositeZeros hopposite]

/-- Two recalculations of the same formulas agree on a cell unless one of them leaves the wrong zero
in a cell that it reads. It may be assumed that both compute the same for that cell. -/
theorem value?_eq_of_compute_eq (hr : Refreshed g h) (hr' : Refreshed g' h')
    (hf : ∀ a, g'.formula? a = g.formula? a)
    (hz : ∀ b, ReflTransGen h.Reads a b → ¬ h.Cyclic b → h'.compute b = h.compute b →
      ¬ KeepsOtherZero g h b ∧ ¬ KeepsOtherZero g' h' b) :
    h'.value? a = h.value? a := by
  have hformula : ∀ a, h'.formula? a = h.formula? a := fun a => by
    rw [hr'.formula?, hf, ← hr.formula?]
  have hsub := hr'.tracked.subjects_eq hr.tracked hformula
  have hcyclic : h'.Cyclic = h.Cyclic := Grid.cyclic_eq hsub
  by_cases ha : h.Cyclic a
  · rw [hr.marked a ha, hr'.marked a (hcyclic ▸ ha)]
  · revert hz
    refine Grid.not_cyclic_induction (P := fun a => (∀ b, ReflTransGen h.Reads a b →
      ¬ h.Cyclic b → h'.compute b = h.compute b →
        ¬ KeepsOtherZero g h b ∧ ¬ KeepsOtherZero g' h' b) → h'.value? a = h.value? a) ?_ ha
    intro a ha ih hz
    have hreads : ∀ b, h.Reads a b → h'.value? b = h.value? b := fun b hab =>
      ih b hab fun c hbc => hz c (.head hab hbc)
    have hcompute : h'.compute a = h.compute a :=
      (hr.tracked.covered a).compute_eq (Grid.contains_eq hformula) (hformula a) (hsub a) hreads
    have hsome : (g'.value? a).isSome = (g.value? a).isSome := by
      rw [Grid.isSome_value?, Grid.isSome_value?, Grid.contains_eq hf]
    obtain ⟨hkeep, hkeep'⟩ := hz a .refl ha hcompute
    rw [hr.value?_eq_compute ha hkeep, hr'.value?_eq_compute (hcyclic ▸ ha) hkeep', hcompute]
    -- Both hold what is computed, if there is such a cell at all.
    cases hv : g.value? a <;> cases hv' : g'.value? a <;> simp_all

theorem value?_eq (hr : Refreshed g h) (hr' : Refreshed g' h')
    (hf : ∀ a, g'.formula? a = g.formula? a)
    (hz : ∀ b, ReflTransGen h.Reads a b → ¬ KeepsOtherZero g h b ∧ ¬ KeepsOtherZero g' h' b) :
    h'.value? a = h.value? a :=
  hr.value?_eq_of_compute_eq hr' hf fun b hab _ _ => hz b hab

end Refreshed

/-- What a cell holds after recalculation depends on the formulas only, unless a cell that it reads,
or itself, keeps the zero that it held although the other one is computed for it. -/
theorem recalculation_forgets (hs : s.Initial) (ht : t.Initial)
    (hf : ∀ a, (t.run ops').grid.formula? a = (s.run ops).grid.formula? a)
    (hz : ∀ b, ReflTransGen (s.run ops).recalculate.sheet.grid.Reads a b →
      ¬ KeepsOtherZero (s.run ops).grid (s.run ops).recalculate.sheet.grid b ∧
        ¬ KeepsOtherZero (t.run ops').grid (t.run ops').recalculate.sheet.grid b) :
    (t.run ops').recalculate.sheet.grid.value? a = (s.run ops).recalculate.sheet.grid.value? a := by
  rw [grid_recalculate, grid_recalculate] at hz ⊢
  exact (recalculatePass_refreshed (linked_run hs ops)).value?_eq
    (recalculatePass_refreshed (linked_run ht ops')) hf hz

/-- An edit is undone after which a cell reads another one. -/
@[irreducible]
def undoneLink : List Operation :=
  [.edit (named 'B') "3", .edit (named 'A') "B 2 +", .edit (named 'A') "C", .undo]

/-- The same formulas, the second of which closes a cycle at first. -/
@[irreducible]
def brokenCycle : List Operation :=
  [.edit (named 'A') "B 2 +", .edit (named 'B') "A", .edit (named 'B') "3"]

/-- A sum, linked to the cell that it takes in or to another one. -/
def sumGrid (link : CellId) : Grid :=
  (((∅ : Grid).insert (named 'A') ⟨"B 2 +", .number 5, .ofList [link], ∅⟩).insert (named 'B')
    ⟨"3", .number 3, ∅, .ofList (if link = named 'B' then [named 'A'] else [])⟩).insert (named 'C')
    ⟨"0.0", .number 0, ∅, .ofList (if link = named 'C' then [named 'A'] else [])⟩

theorem grid_undoneLink : (threeCells.run undoneLink).grid = sumGrid (named 'C') := by
  decide +kernel

theorem grid_brokenCycle : (threeCells.run brokenCycle).grid = sumGrid (named 'B') := by
  decide +kernel

theorem recalculatePass_sumGrid : ∀ link ∈ [named 'B', named 'C'],
    (recalculatePass (sumGrid link)).grid = sumGrid (named 'B') := by decide +kernel

/-- The runs leave different links, and the same values once these are derived anew. -/
theorem recalculation_forgets_undone_link :
    threeCells.Initial ∧ (threeCells.run undoneLink).grid = sumGrid (named 'C') ∧
      (threeCells.run brokenCycle).grid = sumGrid (named 'B') ∧
      ∀ a, (threeCells.run undoneLink).recalculate.sheet.grid.value? a =
        (threeCells.run brokenCycle).recalculate.sheet.grid.value? a := by
  have hformula : ∀ a ∈ CellId.all,
      (sumGrid (named 'C')).formula? a = (sumGrid (named 'B')).formula? a := by decide +kernel
  have hzeros : ∀ link ∈ [named 'B', named 'C'], ∀ b ∈ CellId.all,
      ¬ KeepsOtherZero (sumGrid link) (sumGrid (named 'B')) b := by decide +kernel
  refine ⟨initial_threeCells, grid_undoneLink, grid_brokenCycle, fun a => ?_⟩
  refine recalculation_forgets initial_threeCells initial_threeCells (fun a => ?_) fun b _ => ?_
  · rw [grid_undoneLink, grid_brokenCycle]
    exact hformula a (CellId.mem_all a)
  · rw [grid_recalculate, grid_recalculate, grid_undoneLink, grid_brokenCycle,
      recalculatePass_sumGrid _ (by simp), recalculatePass_sumGrid _ (by simp)]
    exact ⟨hzeros _ (by simp) b (CellId.mem_all b), hzeros _ (by simp) b (CellId.mem_all b)⟩

/-- Negative zero is written where the other zero is held, or over another number. -/
@[irreducible]
def overZero : List (CellId × String) := [(named 'A', "-0")]

@[irreducible]
def overOne : List (CellId × String) := [(named 'A', "-0"), (named 'A', "1"), (named 'A', "-0")]

/-- Recalculation leaves both zeros as they are, so that they tell of the past. -/
theorem recalculated_zero_depends_on_past :
    ofSettings ⟨3, none⟩ = .ok threeCells ∧
      (∀ a, (threeCells.run (edits overOne)).grid.formula? a =
        (threeCells.run (edits overZero)).grid.formula? a) ∧
      (threeCells.run (edits overZero)).recalculate.sheet.grid.value? (named 'A') =
        some (.number 0) ∧
      (threeCells.run (edits overOne)).recalculate.sheet.grid.value? (named 'A') =
        some (.number (-0)) ∧
      CellValue.text (.number 0) = "0.0" ∧ CellValue.text (.number (-0)) = "-0.0" := by
  have hformula : ∀ a ∈ CellId.all, (threeCells.run (edits overOne)).grid.formula? a =
      (threeCells.run (edits overZero)).grid.formula? a := by decide +kernel
  have hkept : ∀ inputs, (threeCells.run (edits inputs)).grid.subjects (named 'A') = ∅ →
      (threeCells.run (edits inputs)).recalculate.sheet.grid.value? (named 'A') =
        (threeCells.run (edits inputs)).grid.value? (named 'A') := by
    intro inputs hnone
    have hsettled := settled_run initial_threeCells (admits_edits _ inputs)
    exact (cyclesMarked_of_settled hsettled).value_kept _ (Grid.not_cyclic_of_subjects hnone)
  refine ⟨ofSettings_three, fun a => hformula a (CellId.mem_all a), ?_, ?_, by decide +kernel,
    by decide +kernel⟩
  · rw [hkept overZero (by decide +kernel)]
    decide +kernel
  · rw [hkept overOne (by decide +kernel)]
    decide +kernel

theorem edits_in_any_order (hs : s.Initial) (ht : t.Initial) (hops : s.Admits KeepsTrack ops)
    (hops' : t.Admits KeepsTrack ops') (hz : s.Admits AvoidsNegativeZero ops)
    (hz' : t.Admits AvoidsNegativeZero ops')
    (hf : ∀ a, (t.run ops').grid.formula? a = (s.run ops).grid.formula? a) (a : CellId) :
    (t.run ops').grid.subjects a = (s.run ops).grid.subjects a ∧
      (t.run ops').grid.observers a = (s.run ops).grid.observers a ∧
      (t.run ops').grid.number? a = (s.run ops).grid.number? a :=
  (settled_run hs hops).eq_of_formulas (settled_run ht hops') (exact_run hs hops hz)
    (exact_run ht hops' hz') hf a

/-- A chain that is written from its end. -/
@[irreducible]
def chainFromEnd : List Operation := [.edit (named 'B') "2", .edit (named 'A') "B 1 +"]

/-- The same chain, which is a cycle at first. -/
@[irreducible]
def chainAfterCycle : List Operation :=
  [.edit (named 'B') "A", .edit (named 'A') "B 1 +", .edit (named 'B') "2"]

theorem chain_in_any_order :
    threeCells.Initial ∧ threeCells.Admits KeepsTrack chainFromEnd ∧
      threeCells.Admits KeepsTrack chainAfterCycle ∧
      threeCells.Admits AvoidsNegativeZero chainFromEnd ∧
      threeCells.Admits AvoidsNegativeZero chainAfterCycle ∧
      (threeCells.run chainAfterCycle).grid.number? (named 'A') =
        (threeCells.run chainFromEnd).grid.number? (named 'A') := by
  have hops : threeCells.Admits KeepsTrack chainFromEnd := by decide +kernel
  have hops' : threeCells.Admits KeepsTrack chainAfterCycle := by decide +kernel
  have hz : threeCells.Admits AvoidsNegativeZero chainFromEnd := by decide +kernel
  have hz' : threeCells.Admits AvoidsNegativeZero chainAfterCycle := by decide +kernel
  have hf : ∀ a ∈ CellId.all, (threeCells.run chainAfterCycle).grid.formula? a =
      (threeCells.run chainFromEnd).grid.formula? a := by decide +kernel
  refine ⟨initial_threeCells, hops, hops', hz, hz', ?_⟩
  exact (edits_in_any_order initial_threeCells initial_threeCells hops hops' hz hz'
    (fun a => hf a (CellId.mem_all a)) (named 'A')).2.2

end Sheet
end ReactiveSheet
