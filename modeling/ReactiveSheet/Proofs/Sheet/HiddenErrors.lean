import ReactiveSheet.Proofs.Sheet.LateCells

/-!
Errors that a formula refers to and a computed number does not show. A cell that an operation
computes and leaves with a number has no subject in error (`readsNoError_perform`). Where a formula
lacks the link to a cell that it refers to, an undo gave it back like that, or the cell was created
after the formula was set (`unlinked_run`). Main statement: both together, for the cells in error
(`errors_hidden_by_missing_links_only`).
-/

namespace ReactiveSheet
open Relation

namespace Grid

variable {g k : Grid} {p : Pass} {a b : CellId} {f : String} {x : Float}

/-- A cell has no subject that is in error. -/
def ReadsNoError (g : Grid) (a : CellId) : Prop :=
  ∀ b e, g.Reads a b → g.value? b ≠ some (.error e)

/-- The error of a subject is passed on and stored over whatever was held. -/
theorem readsNoError_of_revised {old : Option CellValue}
    (hv : old.map (·.revised (k.compute a)) = some (.number x)) : k.ReadsNoError a := by
  rcases k.compute_cases a with ⟨_, e, _, _, he⟩ | ⟨hnone, _⟩
  · obtain ⟨v, _, hv⟩ := Option.map_eq_some_iff.1 hv
    rw [he, CellValue.revised_error] at hv
    cases hv
  · exact hnone

/-- A pass gives a number only to cells whose subjects it leaves without error, also where links
and formulas do not agree. -/
theorem readsNoError_recompute (hg : g.Linked) (hp : p.grid = g) {affected : IdSet}
    (ha : a ∈ affected) (hv : (p.recompute affected).grid.value? a = some (.number x)) :
    (p.recompute affected).grid.ReadsNoError a := by
  have hr := recompute_recomputed hg hp affected
  have hc : ¬ LeadsToCycle (g.ReadsWithin affected) a := by
    intro hc
    have hk : g.contains a = true := (hr.shape.contains a).symm.trans (contains_of_value? hv)
    rw [hr.stuck a hc hk] at hv
    cases hv
  obtain ⟨k, hk, hmem, hreads⟩ := exists_compute_mem_assignments hg hp ha hc
  have hgiven : (p.recompute affected).grid.value? a =
      (p.grid.value? a).map (·.revised (k.compute a)) := by
    subst hp
    rw [Pass.recompute_eq]
    exact Pass.value?_assignAll p (nodup_assignments hg affected) hmem
  have hnone : k.ReadsNoError a := readsNoError_of_revised (hgiven.symm.trans hv)
  intro b e hab
  rw [hr.shape.reads] at hab
  rw [hreads b hab]
  exact hnone b e (hk.reads ▸ hab)

/-- The formula of a cell refers to another cell that is there, but not among its subjects. -/
def Unlinked (g : Grid) (f : String) (a b : CellId) : Prop :=
  g.formula? a = some f ∧ b ∈ Formula.references f ∧ g.contains b = true ∧ ¬ g.Reads a b

theorem Covered.not_unlinked (hg : g.Covered a) : ¬ g.Unlinked f a b := by
  rintro ⟨hf, hmem, hb, hread⟩
  exact hread (hg f hf b hmem hb)

theorem unlinked_congr (hf : k.formula? a = g.formula? a) (hc : k.contains b = g.contains b)
    (hs : k.subjects a = g.subjects a) : k.Unlinked f a b ↔ g.Unlinked f a b := by
  simp only [Unlinked, Reads, hf, hc, hs]

end Grid

namespace Sheet

variable {s : Sheet} {g : Grid} {a b id : CellId} {f formula input : String} {x : Float}
  {e : CellError} {op : Operation} {ops : List Operation}

theorem covered_reformulate_self (hid : g.contains id = true) :
    (reformulate g id formula).Covered id := by
  intro f hf r hr hk
  rw [formula?_reformulate hid, if_pos rfl] at hf
  rw [contains_reformulate hid] at hk
  rw [Grid.Reads, subjects_reformulate hid, if_pos rfl, Grid.mem_resolve, Option.some.inj hf]
  exact ⟨hr, hk⟩

theorem readsNoError_editPass (hl : g.Linked) (hid : g.contains id = true)
    (ha : a ∈ (editAssignments g id formula).map Prod.fst)
    (hv : (editPass g id formula).grid.value? a = some (.number x)) :
    (editPass g id formula).grid.ReadsNoError a := by
  have hk : (reformulate g id formula).Linked := linked_reformulate hid hl
  have hstored := (Grid.sameShape_store (reformulate g id formula) id
    (editedValue (reformulate g id formula) id)).linked hk
  unfold editAssignments at ha
  rw [List.map_cons, List.mem_cons, Grid.mem_map_fst_assignments hstored] at ha
  rcases ha with rfl | ha
  · have he : Edited _ a (editPass g a formula).grid := editPass_edited hl hid
    by_cases hc : (reformulate g a formula).OnCycle a
    · rw [he.origin_marked hc] at hv
      cases hv
    · have horigin := he.origin_computed (covered_reformulate_self hid) hc
      exact Grid.readsNoError_of_revised (horigin.symm.trans hv)
  · unfold editPass at hv ⊢
    exact Grid.readsNoError_recompute hstored rfl ha hv

theorem readsNoError_undoPass (hl : g.Linked) {cell : Cell} {snapshot : Snapshot}
    (ha : a ∈ (undoAssignments g snapshot).map Prod.fst)
    (hv : (undoPass g cell snapshot).grid.value? a = some (.number x)) :
    (undoPass g cell snapshot).grid.ReadsNoError a := by
  have hrestored := linked_restored hl snapshot
  unfold undoAssignments at ha
  rw [Grid.mem_map_fst_assignments hrestored] at ha
  unfold undoPass at hv ⊢
  exact Grid.readsNoError_recompute hrestored rfl ha hv

theorem readsNoError_recalculatePass (hl : g.Linked)
    (hv : (recalculatePass g).grid.value? a = some (.number x)) :
    (recalculatePass g).grid.ReadsNoError a := by
  have hr := recalculatePass_refreshed hl
  by_cases hc : (recalculatePass g).grid.Cyclic a
  · rw [hr.marked a hc] at hv
    cases hv
  · exact Grid.readsNoError_of_revised ((hr.computed a hc).symm.trans hv)

/-- A cell that an operation computes and leaves with a number has no subject in error then. -/
theorem readsNoError_perform (hl : s.grid.Linked) (ha : a ∈ (s.assignments op).map Prod.fst)
    (hv : (s.perform op).sheet.grid.value? a = some (.number x)) :
    (s.perform op).sheet.grid.ReadsNoError a := by
  cases op with
  | create id => exact absurd ha List.not_mem_nil
  | edit id input =>
    by_cases hrewrites : s.Rewrites (.edit id input)
    · obtain ⟨cell, hcell, hne⟩ := hrewrites.exists_cell
      rw [assignments_edit hcell hne] at ha
      rw [sheet_edit hcell hne] at hv ⊢
      exact readsNoError_editPass hl hrewrites.1 ha hv
    · have hnone : s.assignments (.edit id input) = [] := if_neg hrewrites
      rw [hnone] at ha
      exact absurd ha List.not_mem_nil
  | undo =>
    cases hpop : s.history.pop? with
    | none =>
      simp only [assignments, hpop] at ha
      exact absurd ha List.not_mem_nil
    | some entry =>
      obtain ⟨snapshot, history⟩ := entry
      cases hcell : s.grid.get? snapshot.id with
      | none =>
        have hnot : ¬ s.grid.contains snapshot.id = true := by simp [Grid.contains, hcell]
        simp only [assignments, hpop, if_neg hnot] at ha
        exact absurd ha List.not_mem_nil
      | some cell =>
        simp only [assignments, hpop, if_pos (Grid.contains_of_get? hcell)] at ha
        rw [sheet_perform_undo, undo_of_get? hpop hcell] at hv ⊢
        exact readsNoError_undoPass hl ha hv
  | recalculate =>
    rw [perform, Outcome.sheet_map, sheet_recalculate] at hv ⊢
    exact readsNoError_recalculatePass hl hv
  | listen => exact absurd ha List.not_mem_nil

/-- A cell is created while the formula of another one refers to it already. -/
def CreatesUnlinked (s : Sheet) (f : String) (a b : CellId) (op : Operation) : Prop :=
  op = .create b ∧ ¬ s.grid.contains b = true ∧ s.grid.formula? a = some f ∧
    b ∈ Formula.references f

/-- An undo gives a cell back its formula, which refers to another cell, and no link to that one. -/
def RestoresUnlinked (s : Sheet) (f : String) (a b : CellId) (op : Operation) : Prop :=
  op = .undo ∧ s.undo.answer = .ok a ∧ s.undo.sheet.grid.Unlinked f a b

/-- A cell was created when the formula of another one referred to it already, and the links of that
one were not derived since. -/
def CreatedUnlinked (s : Sheet) (ops : List Operation) (f : String) (a b : CellId) : Prop :=
  s.Since ops (fun t op => t.CreatesUnlinked f a b op) fun t op => t.Relinks a op

/-- The formula of a cell came back by an undo without the link to another cell, and the links of
the cell were not derived since. -/
def RestoredUnlinked (s : Sheet) (ops : List Operation) (f : String) (a b : CellId) : Prop :=
  s.Since ops (fun t op => t.RestoresUnlinked f a b op) fun t op => t.Relinks a op

theorem unlinked_create (hid : ¬ g.contains id = true)
    (h : (g.insert id .fresh).Unlinked f a b) :
    (id = b ∧ g.formula? a = some f ∧ b ∈ Formula.references f) ∨ g.Unlinked f a b := by
  obtain ⟨hf, hmem, hb, hread⟩ := h
  rw [Grid.Reads, Grid.subjects_insert_fresh hid] at hread
  rw [Grid.contains_insert_fresh] at hb
  rw [Grid.formula?_insert_fresh] at hf
  split_ifs at hf with ha
  · -- The new cell refers to nothing.
    rw [← Option.some.inj hf, Grid.references_default] at hmem
    exact absurd hmem (IdSet.not_mem_empty b)
  · rcases hb with hb | hb
    · exact .inl ⟨hb.symm, hf, hmem⟩
    · exact .inr ⟨hf, hmem, hb, hread⟩

theorem unlinked_editPass (hl : g.Linked) (hid : g.contains id = true)
    (h : (editPass g id formula).grid.Unlinked f a b) : g.Unlinked f a b ∧ id ≠ a := by
  have hshape : (editPass g id formula).grid.SameShape (reformulate g id formula) :=
    (editPass_edited hl hid).shape
  rw [Grid.unlinked_congr (hshape.formula? a) (hshape.contains b) (hshape.subjects a)] at h
  by_cases ha : id = a
  · subst ha
    exact absurd h (covered_reformulate_self hid).not_unlinked
  · refine ⟨(Grid.unlinked_congr ?_ (contains_reformulate hid b) ?_).1 h, ha⟩
    · rw [formula?_reformulate hid, if_neg (Ne.symm ha)]
    · rw [subjects_reformulate hid, if_neg (Ne.symm ha)]

theorem unlinked_undo (hl : s.grid.Linked) (h : s.undo.sheet.grid.Unlinked f a b) :
    s.undo.answer = .ok a ∨ s.grid.Unlinked f a b := by
  cases hpop : s.history.pop? with
  | none =>
    rw [undo_of_empty hpop] at h
    exact .inr h
  | some entry =>
    obtain ⟨snapshot, history⟩ := entry
    cases hcell : s.grid.get? snapshot.id with
    | none =>
      rw [undo_of_none hpop hcell] at h
      exact .inr h
    | some cell =>
      rw [undo_of_get? hpop hcell] at h ⊢
      by_cases ha : a = snapshot.id
      · exact .inl (by rw [ha]; rfl)
      · refine .inr ?_
        have hshape := (undoPass_recomputed hl cell snapshot).shape
        refine (Grid.unlinked_congr (k := (undoPass s.grid cell snapshot).grid) ?_ ?_ ?_).1 h
        · rw [formula?_undoPass hl hcell, Function.update_of_ne ha]
        · rw [hshape.contains, contains_restored]
        · rw [hshape.subjects, subjects_restored]

/-- An operation that leaves a formula without one of its links creates the missing cell, or gives
the formula back, or found it like that and did not derive its links. -/
theorem unlinked_perform (hl : s.grid.Linked) (h : (s.perform op).sheet.grid.Unlinked f a b) :
    s.CreatesUnlinked f a b op ∨ s.RestoresUnlinked f a b op ∨
      s.grid.Unlinked f a b ∧ ¬ s.Relinks a op := by
  cases op with
  | create id =>
    rw [perform, Outcome.sheet_map, sheet_create] at h
    split_ifs at h with hid
    · exact .inr (.inr ⟨h, fun hr => hr⟩)
    · rcases unlinked_create hid h with ⟨rfl, hrefers⟩ | h
      · exact .inl ⟨rfl, hid, hrefers⟩
      · exact .inr (.inr ⟨h, fun hr => hr⟩)
  | edit id input =>
    by_cases hrewrites : s.Rewrites (.edit id input)
    · obtain ⟨cell, hcell, hne⟩ := hrewrites.exists_cell
      rw [sheet_edit hcell hne] at h
      obtain ⟨h, hid⟩ := unlinked_editPass hl hrewrites.1 h
      exact .inr (.inr ⟨h, fun hr => hid hr.1⟩)
    · rw [sheet_edit_of_not_rewrites hrewrites] at h
      exact .inr (.inr ⟨h, fun hr => hrewrites hr.2⟩)
  | undo =>
    rcases unlinked_undo hl h with hanswer | hbefore
    · exact .inr (.inl ⟨rfl, hanswer, h⟩)
    · exact .inr (.inr ⟨hbefore, fun hr => hr⟩)
  | recalculate =>
    rw [perform, Outcome.sheet_map, sheet_recalculate] at h
    exact absurd h ((recalculatePass_refreshed hl).tracked.covered a).not_unlinked
  | listen => exact .inr (.inr ⟨h, fun hr => hr⟩)

/-- A link is missing where a cell was created late, or where a formula came back without it. -/
theorem unlinked_run (hs : s.Initial) (h : (s.run ops).grid.Unlinked f a b) :
    s.CreatedUnlinked ops f a b ∨ s.RestoredUnlinked ops f a b := by
  induction ops using List.reverseRecOn with
  | nil => exact absurd h (hs.fresh.settled.tracked.covered a).not_unlinked
  | append_singleton ops op ih =>
    rw [run_append, run, run] at h
    rw [CreatedUnlinked, RestoredUnlinked, since_append_singleton, since_append_singleton]
    rcases unlinked_perform (linked_run hs ops) h with hcreates | hrestores | ⟨hbefore, hop⟩
    · exact .inl (.inl hcreates)
    · exact .inr (.inl hrestores)
    · exact (ih hbefore).imp (fun h => .inr ⟨h, hop⟩) fun h => .inr ⟨h, hop⟩

/-- No subject of a cell is in error when the cell is computed to a number. What its formula refers
to may be, but only where the formula lacks the link. -/
theorem errors_hidden_by_missing_links_only (hs : s.Initial) (ops : List Operation)
    (op : Operation) (ha : a ∈ ((s.run ops).assignments op).map Prod.fst)
    (hv : ((s.run ops).perform op).sheet.grid.value? a = some (.number x)) :
    (∀ b ∈ ((s.run ops).perform op).sheet.grid.subjects a, ∀ e,
      ((s.run ops).perform op).sheet.grid.value? b ≠ some (.error e)) ∧
    ∀ f b e, ((s.run ops).perform op).sheet.grid.formula? a = some f →
      b ∈ Formula.references f →
      ((s.run ops).perform op).sheet.grid.value? b = some (.error e) →
        b ∉ ((s.run ops).perform op).sheet.grid.subjects a ∧
          (s.CreatedUnlinked (ops ++ [op]) f a b ∨ s.RestoredUnlinked (ops ++ [op]) f a b) := by
  have hnone : ((s.run ops).perform op).sheet.grid.ReadsNoError a :=
    readsNoError_perform (linked_run hs ops) ha hv
  refine ⟨fun b hab e => hnone b e hab, fun f b e hf hb he => ?_⟩
  have hread : ¬ ((s.run ops).perform op).sheet.grid.Reads a b := fun hab => hnone b e hab he
  refine ⟨hread, unlinked_run hs ?_⟩
  rw [run_append, run, run]
  exact ⟨hf, hb, Grid.contains_of_value? he, hread⟩

/-- A formula that refers to a cell in error comes back with the link of the one in between. -/
@[irreducible]
def relinkedError : List Operation :=
  [.edit (named 'B') "1 0 /", .edit (named 'A') "B", .edit (named 'A') "C", .undo]

/-- The formula is in error as it was, and linked to another cell. -/
def staleError : Sheet where
  grid :=
    (((∅ : Grid).insert (named 'A')
      ⟨"B", .error .divisionByZero, .ofList [named 'C'], ∅⟩).insert (named 'B')
      ⟨"1 0 /", .error .divisionByZero, ∅, ∅⟩).insert (named 'C')
      ⟨"0.0", .number 0, ∅, .ofList [named 'A']⟩
  history := ⟨[⟨named 'A', "0.0", .number 0⟩, ⟨named 'B', "0.0", .number 0⟩], none⟩
  listeners := 0

theorem run_relinkedError : threeCells.run relinkedError = staleError := by decide +kernel

theorem computed_staleError :
    named 'A' ∈ (staleError.assignments (.edit (named 'C') "1")).map Prod.fst ∧
      named 'C' ∈ (staleError.perform (.edit (named 'C') "1")).sheet.grid.subjects (named 'A') ∧
      (staleError.perform (.edit (named 'C') "1")).sheet.grid.value? (named 'A') =
        some (.number 0) ∧
      (staleError.perform (.edit (named 'C') "1")).sheet.grid.formula? (named 'A') = some "B" ∧
      (staleError.perform (.edit (named 'C') "1")).sheet.grid.value? (named 'B') =
        some (.error .divisionByZero) := by decide +kernel

/-- The error is read as zero when the other cell is edited. -/
theorem error_read_as_zero :
    threeCells.Initial ∧
      named 'A' ∈ ((threeCells.run relinkedError).assignments
        (.edit (named 'C') "1")).map Prod.fst ∧
      ((threeCells.run relinkedError).perform (.edit (named 'C') "1")).sheet.grid.value?
        (named 'A') = some (.number 0) ∧
      ((threeCells.run relinkedError).perform (.edit (named 'C') "1")).sheet.grid.formula?
        (named 'A') = some "B" ∧
      named 'B' ∈ Formula.references "B" ∧
      ((threeCells.run relinkedError).perform (.edit (named 'C') "1")).sheet.grid.value?
        (named 'B') = some (.error .divisionByZero) := by
  obtain ⟨ha, _, hv, hf, he⟩ := computed_staleError
  rw [run_relinkedError]
  exact ⟨initial_threeCells, ha, hv, hf, by decide +kernel, he⟩

theorem not_createdUnlinked_relinkedError :
    ¬ threeCells.CreatedUnlinked (relinkedError ++ [.edit (named 'C') "1"]) "B" (named 'A')
      (named 'B') := by
  rintro ⟨before, op, after, heq, ⟨rfl, _⟩, _⟩
  have hmem : .create (named 'B') ∈ relinkedError ++ [.edit (named 'C') "1"] := by
    rw [heq]
    exact List.mem_append_right before List.mem_cons_self
  have hnot : .create (named 'B') ∉ relinkedError ++ [.edit (named 'C') "1"] := by decide +kernel
  exact hnot hmem

/-- The cell in error that is read as zero is one that the undo left without its link. The link that
the formula has instead is to a cell that is not in error. -/
theorem error_hidden_by_restored_formula :
    threeCells.Initial ∧ named 'B' ∈ Formula.references "B" ∧
      named 'C' ∈ ((threeCells.run relinkedError).perform
        (.edit (named 'C') "1")).sheet.grid.subjects (named 'A') ∧
      (∀ e, ((threeCells.run relinkedError).perform
        (.edit (named 'C') "1")).sheet.grid.value? (named 'C') ≠ some (.error e)) ∧
      named 'B' ∉ ((threeCells.run relinkedError).perform
        (.edit (named 'C') "1")).sheet.grid.subjects (named 'A') ∧
      threeCells.RestoredUnlinked (relinkedError ++ [.edit (named 'C') "1"]) "B" (named 'A')
        (named 'B') := by
  obtain ⟨ha, hc, hv, hf, he⟩ := computed_staleError
  have hb : named 'B' ∈ Formula.references "B" := by decide +kernel
  rw [← run_relinkedError] at ha hc hv hf he
  obtain ⟨hnone, hhidden⟩ :=
    errors_hidden_by_missing_links_only initial_threeCells relinkedError _ ha hv
  obtain ⟨hread, hwhy⟩ := hhidden "B" (named 'B') .divisionByZero hf hb he
  exact ⟨initial_threeCells, hb, hc, hnone (named 'C') hc, hread,
    hwhy.resolve_left not_createdUnlinked_relinkedError⟩

end Sheet
end ReactiveSheet
