import ReactiveSheet.Proofs.Sheet.Settled

/-!
What an operation makes of a single cell. Main statements: a cell is not disturbed, or it is marked,
or it is given what is computed for it in the end (`editPass_effect`, `recalculatePass_effect`), and
as long as no negative zero is computed all cells that are not cyclic hold exactly what is computed
for them (`exact_run`).
-/

namespace ReactiveSheet
open Relation

namespace Grid

variable {g h : Grid} {a id : CellId} {as : List (CellId × CellValue)}

/-- What becomes of a cell in a pass that assigns some values. -/
inductive Effect (g h : Grid) (as : List (CellId × CellValue)) (a : CellId) : Prop
  | kept (undisturbed : g.Undisturbed h a)
  | marked (cyclic : h.Cyclic a) (value? : h.value? a = some (.error .cyclicDependency))
  | given (assigned : (a, h.compute a) ∈ as)
      (value? : h.value? a = (g.value? a).map (·.revised (h.compute a)))

/-- No cell holds negative zero. -/
def NoNegativeZero (g : Grid) : Prop := ∀ a, g.value? a ≠ some (.number (-0))

/-- No cell holds negative zero, and a cell that is not cyclic holds what is computed for it. -/
structure Exact (g : Grid) : Prop where
  not_negative_zero : ∀ a, g.value? a ≠ some (.number (-0))
  eq_compute : ∀ a, ¬ g.Cyclic a → ∀ v, g.value? a = some v → v = g.compute a

theorem Exact.of_undisturbed (hg : g.Exact) (hk : g.Undisturbed h a) {v : CellValue}
    (hv : h.value? a = some v) : v ≠ .number (-0) ∧ (¬ h.Cyclic a → v = h.compute a) := by
  rw [hk.value? a .refl] at hv
  refine ⟨fun hz => hg.not_negative_zero a (hz ▸ hv), fun hc => ?_⟩
  rw [hk.compute]
  exact hg.eq_compute a (mt hk.cyclic.1 hc) v hv

/-- Storing a value does not keep the other zero if none of the two is negative. -/
theorem Effect.exact (he : Effect g h as a) (hg : g.Exact) (hz : ∀ c ∈ as, c.2 ≠ .number (-0))
    {v : CellValue} (hv : h.value? a = some v) :
    v ≠ .number (-0) ∧ (¬ h.Cyclic a → v = h.compute a) := by
  cases he with
  | kept hk => exact hg.of_undisturbed hk hv
  | marked hc hm =>
    obtain rfl := Option.some.inj (hv.symm.trans hm)
    exact ⟨nofun, fun hn => absurd hc hn⟩
  | given hmem hgiven =>
    have hnew : h.compute a ≠ .number (-0) := hz _ hmem
    rw [hgiven] at hv
    obtain ⟨old, hold, rfl⟩ := Option.map_eq_some_iff.1 hv
    have hne : old ≠ .number (-0) := fun hneg => hg.not_negative_zero a (hneg ▸ hold)
    rw [CellValue.revised_eq_of_ne_negative_zero hne hnew]
    exact ⟨hnew, fun _ => rfl⟩

theorem Exact.of_effects (hg : g.Exact) (hz : ∀ c ∈ as, c.2 ≠ .number (-0))
    (he : ∀ a, h.contains a = true → Effect g h as a) : h.Exact where
  not_negative_zero a hv := ((he a (contains_of_value? hv)).exact hg hz hv).1 rfl
  eq_compute a hc _ hv := ((he a (contains_of_value? hv)).exact hg hz hv).2 hc

theorem Fresh.exact (hg : g.Fresh) : g.Exact := by
  have hvalue : ∀ a v, g.value? a = some v → v = .initial ∧ g.compute a = .initial := by
    intro a v hv
    obtain ⟨cell, hc⟩ := exists_get? (contains_of_value? hv)
    obtain rfl := hg a cell hc
    exact ⟨(Option.some.inj ((value?_of_get? hc).symm.trans hv)).symm,
      compute_of_default (formula?_of_get? hc) (hg.subjects a)⟩
  refine ⟨fun a hv => absurd (hvalue a _ hv).1 (by decide), fun a _ v hv => ?_⟩
  obtain ⟨hv, hc⟩ := hvalue a v hv
  rw [hv, hc]

theorem Exact.insert_fresh (hid : ¬ g.contains id = true)
    (href : ∀ a f, g.formula? a = some f → id ∉ Formula.references f) (hl : g.Linked)
    (hg : g.Exact) : (g.insert id .fresh).Exact := by
  have hcell : ∀ a v, (g.insert id .fresh).value? a = some v →
      v ≠ .number (-0) ∧
        (¬ (g.insert id .fresh).Cyclic a → v = (g.insert id .fresh).compute a) := by
    intro a v hv
    by_cases ha : a = id
    · have hcompute : (g.insert id .fresh).compute a = .initial := by
        refine compute_of_default ?_ ?_
        · rw [formula?_insert_fresh, if_pos ha]
        · rw [subjects_insert_fresh hid, ha, subjects_eq_empty hid]
      rw [value?_insert_fresh, if_pos ha] at hv
      obtain rfl := Option.some.inj hv
      exact ⟨by decide, fun _ => hcompute.symm⟩
    · exact hg.of_undisturbed (undisturbed_insert_fresh hid href hl ha) hv
  exact ⟨fun a hv => (hcell a _ hv).1 rfl, fun a hc v hv => (hcell a v hv).2 hc⟩

end Grid

namespace Sheet

variable {s : Sheet} {g : Grid} {a id : CellId} {formula : String} {ops : List Operation}

/-- The values that the pass of an edit assigns, beginning with that of the edited cell. -/
def editAssignments (g : Grid) (id : CellId) (formula : String) : List (CellId × CellValue) :=
  let grid := reformulate g id formula
  let value := editedValue grid id
  let stored := grid.store id value
  (id, value) :: stored.assignments (stored.downstream id)

def recalculateAssignments (g : Grid) : List (CellId × CellValue) :=
  (g.relink g.ids).assignments (.ofList g.ids)

/-- The values that the pass of an undo assigns, without the one that is restored. -/
def undoAssignments (g : Grid) (snapshot : Snapshot) : List (CellId × CellValue) :=
  let grid := restored g snapshot
  grid.assignments (grid.downstream snapshot.id)

theorem grid_editPass (g : Grid) (id : CellId) (formula : String) :
    (editPass g id formula).grid =
      (Grid.Pass.assignAll ⟨reformulate g id formula, []⟩ (editAssignments g id formula)).grid := by
  unfold editPass editAssignments
  generalize reformulate g id formula = k
  have hgrid : (⟨k.store id (editedValue k id), [id]⟩ : Grid.Pass).grid =
      (Grid.Pass.assign ⟨k, []⟩ id (editedValue k id)).grid := rfl
  rw [Grid.Pass.recompute_eq, Grid.Pass.assignAll_cons, Grid.Pass.grid_assignAll_congr hgrid]

theorem grid_recalculatePass (g : Grid) :
    (recalculatePass g).grid =
      (Grid.Pass.assignAll ⟨g.relink g.ids, []⟩ (recalculateAssignments g)).grid := by
  unfold recalculatePass recalculateAssignments
  rw [Grid.Pass.recompute_eq]

theorem grid_undoPass (g : Grid) (cell : Cell) (snapshot : Snapshot) :
    (undoPass g cell snapshot).grid =
      (Grid.Pass.assignAll ⟨restored g snapshot, []⟩ (undoAssignments g snapshot)).grid := by
  unfold undoPass undoAssignments
  generalize restored g snapshot = k
  have hgrid : ∀ changed, (⟨k, changed⟩ : Grid.Pass).grid = (⟨k, []⟩ : Grid.Pass).grid :=
    fun _ => rfl
  rw [Grid.Pass.recompute_eq, Grid.Pass.grid_assignAll_congr (hgrid _)]

/-- The values that an operation assigns to cells: what is computed for each of them in turn, or the
mark of a cell that is not computed because it is cyclic. -/
def assignments (s : Sheet) : Operation → List (CellId × CellValue)
  | .edit id input =>
    if s.grid.contains id ∧ s.grid.formula? id ≠ some (Formula.normalize input) then
      editAssignments s.grid id (Formula.normalize input)
    else []
  | .undo =>
    match s.history.pop? with
    | some (snapshot, _) =>
      if s.grid.contains snapshot.id then undoAssignments s.grid snapshot else []
    | none => []
  | .recalculate => recalculateAssignments s.grid
  | .create _ | .listen => []

theorem assignments_edit {cell : Cell} {input : String} (hcell : s.grid.get? id = some cell)
    (hf : cell.formula ≠ Formula.normalize input) :
    s.assignments (.edit id input) = editAssignments s.grid id (Formula.normalize input) :=
  if_pos ⟨Grid.contains_of_get? hcell, Grid.formula?_ne_of_get? hcell hf⟩

/-- What is assigned behind the edited cell is computed from the values that the edit leaves. -/
theorem compute_mem_editAssignments (hl : g.Linked) (hid : g.contains id = true)
    (ha : a ∈ (reformulate g id formula).downstream id)
    (hc : ¬ LeadsToCycle ((reformulate g id formula).ReadsWithin
      ((reformulate g id formula).downstream id)) a)
    (hcov : (reformulate g id formula).Covered a) :
    (a, (editPass g id formula).grid.compute a) ∈ editAssignments g id formula := by
  have hk : (reformulate g id formula).Linked := linked_reformulate hid hl
  have hshape := Grid.sameShape_store (reformulate g id formula) id
    (editedValue (reformulate g id formula) id)
  unfold editPass editAssignments
  refine List.mem_cons_of_mem _ (Grid.compute_mem_assignments (hshape.linked hk) rfl ?_ ?_ ?_)
  · rwa [hshape.downstream hk]
  · rwa [hshape.readsWithin, hshape.downstream hk]
  · exact hshape.covered hcov

theorem editPass_effect (hl : g.Linked) (hg : g.Tracked) (hid : g.contains id = true) :
    Grid.Effect g (editPass g id formula).grid (editAssignments g id formula) a := by
  have he : Edited (reformulate g id formula) id (editPass g id formula).grid :=
    editPass_edited hl hid
  have hk : (reformulate g id formula).Linked := linked_reformulate hid hl
  have hcov : ∀ a, (reformulate g id formula).Covered a := (tracked_reformulate hg hid).covered
  by_cases ha : ReflTransGen (reformulate g id formula).Reads a id
  · rcases (Grid.reflTransGen_reads_iff hk).1 ha with rfl | ha
    · by_cases hc : (reformulate g a formula).OnCycle a
      · refine .marked ?_ (he.origin_marked hc)
        rw [he.shape.cyclic]
        exact hc.cyclic
      · refine .given ?_ ?_
        · rw [he.compute_origin (hcov a) hc]
          exact List.mem_cons_self
        · rw [he.origin_computed (hcov a) hc, value?_reformulate]
    · by_cases hc : LeadsToCycle ((reformulate g id formula).ReadsWithin
          ((reformulate g id formula).downstream id)) a
      · refine .marked ?_ (he.stuck a hc)
        rw [he.shape.cyclic]
        exact hc.mono fun _ _ hab => hab.2.2
      · refine .given (compute_mem_editAssignments hl hid ha hc (hcov a)) ?_
        rw [he.turned a ha hc (hcov a), value?_reformulate]
  · exact .kept (undisturbed_editPass hl hg hid ha)

theorem compute_mem_recalculateAssignments (hl : g.Linked) (ha : g.contains a = true)
    (hc : ¬ (recalculatePass g).grid.Cyclic a) :
    (a, (recalculatePass g).grid.compute a) ∈ recalculateAssignments g := by
  rw [← leadsToCycle_iff_cyclic_recalculatePass hl] at hc
  unfold recalculatePass recalculateAssignments
  refine Grid.compute_mem_assignments (Grid.relink_relinked hl g.ids).linked rfl ?_ hc
    ((tracked_relink hl).covered a)
  rwa [IdSet.mem_ofList, Grid.mem_ids]

theorem recalculatePass_effect (hl : g.Linked) (ha : g.contains a = true) :
    Grid.Effect g (recalculatePass g).grid (recalculateAssignments g) a := by
  have hr := recalculatePass_refreshed hl
  by_cases hc : (recalculatePass g).grid.Cyclic a
  · exact .marked hc (hr.marked a hc)
  · exact .given (compute_mem_recalculateAssignments hl ha hc) (hr.computed a hc)

/-- An operation in which no formula evaluates to negative zero. -/
def AvoidsNegativeZero (s : Sheet) (op : Operation) : Prop :=
  ∀ c ∈ s.assignments op, c.2 ≠ .number (-0)

instance (s : Sheet) (op : Operation) : Decidable (s.AvoidsNegativeZero op) :=
  inferInstanceAs (Decidable (∀ c ∈ s.assignments op, c.2 ≠ .number (-0)))

theorem exact_perform {op : Operation} (hop : s.KeepsTrack op) (hz : s.AvoidsNegativeZero op)
    (hs : s.grid.Settled) (he : s.grid.Exact) : (s.perform op).sheet.grid.Exact := by
  cases op with
  | create id =>
    rw [perform, Outcome.sheet_map, sheet_create]
    split_ifs with hid
    · exact he
    · exact .insert_fresh hid hop hs.linked he
  | edit id input =>
    rw [perform, Outcome.sheet_map]
    rcases s.edit_cases id input with h | ⟨cell, hcell, hf, h⟩
    · rwa [h]
    · rw [h]
      have hid : s.grid.contains id = true := Grid.contains_of_get? hcell
      rw [AvoidsNegativeZero, assignments_edit hcell hf] at hz
      exact .of_effects he hz fun a _ => editPass_effect hs.linked hs.tracked hid
  | undo => exact hop.elim
  | recalculate =>
    rw [perform, Outcome.sheet_map, sheet_recalculate]
    refine .of_effects he hz fun a ha => recalculatePass_effect hs.linked ?_
    rwa [← Grid.contains_eq (recalculatePass_refreshed hs.linked).formula?]
  | listen =>
    rw [perform, Outcome.sheet_map]
    exact he

/-- In runs without undo in which no formula evaluates to negative zero, held values are exact. -/
theorem exact_run (hs : s.Initial) (hops : s.Admits KeepsTrack ops)
    (hz : s.Admits AvoidsNegativeZero ops) : (s.run ops).grid.Exact := by
  refine ((hops.and hz).run_induction (P := fun s => s.grid.Settled ∧ s.grid.Exact) ?_
    ⟨hs.fresh.settled, hs.fresh.exact⟩).2
  rintro s op ⟨hop, hz⟩ ⟨hs, he⟩
  exact ⟨settled_perform op hop hs, exact_perform hop hz hs he⟩

end Sheet
end ReactiveSheet
