import ReactiveSheet.Proofs.Grid.Padded
import ReactiveSheet.Proofs.Sheet.History

/-!
Cells that are never edited, against cells that are missing. Main statements: the passes of edits,
undos and recalculations leave the same in the cells that two grids share, if the larger one has
spare cells besides (`padded_editPass`, `padded_undoPass`, `padded_recalculatePass`), and so no run
tells two new sheets apart by the cells of the smaller one (`spare_cells_make_no_difference`).
-/

namespace ReactiveSheet.Sheet

variable {g g' h h' : Grid} {a id : CellId} {formula input : String} {snapshot : Snapshot}
  {s t : Sheet} {op : Operation} {ops : List Operation} {n m : Nat}

theorem padded_reformulate (hp : g.Padded h) (hid : g.contains id = true) (formula : String) :
    (reformulate g id formula).Padded (reformulate h id formula) := by
  have hid' : h.contains id = true := hp.contains hid
  have hne : ∀ {a}, ¬ g.contains a = true → a ≠ id := by
    rintro a ha rfl
    exact ha hid
  refine ⟨⟨fun a ha => ?_, fun a b => ?_, fun a ha hk => ?_, fun a ha => ?_⟩, fun a ha => ?_,
    fun a ha hk => ?_⟩
  · rw [contains_reformulate hid] at ha
    rw [formula?_reformulate hid, formula?_reformulate hid', hp.formula? a ha]
  · rw [Grid.Reads, Grid.Reads, subjects_reformulate hid, subjects_reformulate hid',
      contains_reformulate hid]
    split_ifs
    · rw [Grid.mem_resolve, Grid.mem_resolve, and_assoc]
      exact and_congr_right fun _ => (and_iff_right_of_imp hp.contains).symm
    · exact hp.reads a b
  · rw [contains_reformulate hid] at ha
    rw [contains_reformulate hid'] at hk
    rw [formula?_reformulate hid', if_neg (hne ha), hp.spare_formula? a ha hk]
  · rw [contains_reformulate hid] at ha
    rw [subjects_reformulate hid', if_neg (hne ha), hp.spare_subjects a ha]
  · rw [contains_reformulate hid] at ha
    rw [value?_reformulate, value?_reformulate, hp.value? a ha]
  · rw [contains_reformulate hid] at ha
    rw [contains_reformulate hid'] at hk
    rw [value?_reformulate, hp.spare_value? a ha hk]

theorem editedValue_eq (hp : g.Padded h) (hid : g.contains id = true) :
    editedValue h id = editedValue g id := by
  have hcycle : (h.findCycle? id).isSome = (g.findCycle? id).isSome := by
    rw [Bool.eq_iff_iff, Grid.findCycle?_isSome_iff, Grid.findCycle?_isSome_iff, hp.onCycle_iff]
  unfold editedValue
  cases hg : g.findCycle? id <;> cases hh : h.findCycle? id
  · exact hp.compute_eq hid
  · simp [hg, hh] at hcycle
  · simp [hg, hh] at hcycle
  · rfl

theorem padded_restored (hp : g.Padded h) (hid : g.contains snapshot.id = true) :
    (restored g snapshot).Padded (restored h snapshot) := by
  obtain ⟨cell, hcell⟩ := Grid.exists_get? hid
  obtain ⟨cell', hcell'⟩ := Grid.exists_get? (hp.contains hid)
  have hne : ∀ {a}, ¬ g.contains a = true → a ≠ snapshot.id := by
    rintro a ha rfl
    exact ha hid
  refine ⟨⟨fun a ha => ?_, fun a b => ?_, fun a ha hk => ?_, fun a ha => ?_⟩, fun a ha => ?_,
    fun a ha hk => ?_⟩
  · rw [contains_restored] at ha
    rw [formula?_restored hcell, formula?_restored hcell', Function.update_apply,
      Function.update_apply, hp.formula? a ha]
  · rw [Grid.Reads, Grid.Reads, subjects_restored, subjects_restored, contains_restored]
    exact hp.reads a b
  · rw [contains_restored] at ha hk
    rw [formula?_restored hcell', Function.update_of_ne (hne ha), hp.spare_formula? a ha hk]
  · rw [contains_restored] at ha
    rw [subjects_restored, hp.spare_subjects a ha]
  · rw [contains_restored] at ha
    rw [value?_restored hcell, value?_restored hcell', hp.value? a ha]
  · rw [contains_restored] at ha hk
    rw [value?_restored hcell', if_neg (hne ha), hp.spare_value? a ha hk]

section Linked

variable (hp : g.Padded h) (hg : g.Linked) (hh : h.Linked)

include hp hg hh

theorem padded_editPass (hid : g.contains id = true) (formula : String) :
    (editPass g id formula).Padded (editPass h id formula) := by
  have hnew := padded_reformulate hp hid formula
  have hcontains : (reformulate g id formula).contains id = true := by
    rw [contains_reformulate hid, hid]
  have hstored := hnew.store hcontains (v := editedValue (reformulate g id formula) id)
  have hshape := Grid.sameShape_store (reformulate g id formula) id
    (editedValue (reformulate g id formula) id)
  have hg' := hshape.linked (linked_reformulate hid hg)
  have hh' := (Grid.sameShape_store (reformulate h id formula) id
    (editedValue (reformulate g id formula) id)).linked (linked_reformulate (hp.contains hid) hh)
  unfold editPass
  simp only [editedValue_eq hnew hcontains]
  rw [hstored.downstream_eq hg' hh' ((hshape.contains id).trans hcontains)]
  exact Grid.Pass.Padded.recompute ⟨hstored, rfl⟩ hg' hh' fun _ =>
    Grid.contains_of_mem_downstream hg'

theorem padded_undoPass {cell cell' : Cell} (hcell : g.get? snapshot.id = some cell)
    (hcell' : h.get? snapshot.id = some cell') :
    (undoPass g cell snapshot).Padded (undoPass h cell' snapshot) := by
  have hid : g.contains snapshot.id = true := Grid.contains_of_get? hcell
  have hrestored := padded_restored hp hid
  have hg' := linked_restored hg snapshot
  have hh' := linked_restored hh snapshot
  have hsame := hp.cell_eq hcell hcell'
  unfold undoPass
  dsimp only
  rw [hrestored.downstream_eq hg' hh' ((contains_restored g snapshot snapshot.id).trans hid),
    hsame.1, hsame.2]
  exact Grid.Pass.Padded.recompute ⟨hrestored, rfl⟩ hg' hh' fun _ =>
    Grid.contains_of_mem_downstream hg'

end Linked

/-- Recalculation leaves the same in the cells of the smaller grid, whatever the order in which the
cells of the larger one have their turns: what it leaves is determined by the formulas. -/
theorem Refreshed.padded (hr : Refreshed g g') (hr' : Refreshed h h') (hp : g.Padded h) :
    g'.Padded h' := by
  have hc : ∀ a, g'.contains a = g.contains a := Grid.contains_eq hr.formula?
  have hc' : ∀ a, h'.contains a = h.contains a := Grid.contains_eq hr'.formula?
  have hshape : g'.PaddedShape h' := by
    refine hr.tracked.paddedShape hr'.tracked (fun a ha => ?_) fun a ha hk => ?_
    · rw [hc] at ha
      rw [hr.formula?, hr'.formula?, hp.formula? a ha]
    · rw [hc] at ha
      rw [hc'] at hk
      rw [hr'.formula?, hp.spare_formula? a ha hk]
  have hspare : ∀ a, ¬ g'.contains a = true → h'.contains a = true →
      h'.value? a = some .initial := by
    intro a ha hk
    have hsubjects := hshape.spare_subjects a ha
    rw [hr'.computed a (Grid.not_cyclic_of_subjects hsubjects),
      Grid.compute_of_default (hshape.spare_formula? a ha hk) hsubjects]
    rw [hc] at ha
    rw [hc'] at hk
    rw [hp.spare_value? a ha hk, Option.map_some, (CellValue.Matches.refl _).revised_eq]
  refine ⟨hshape, fun a ha => ?_, hspare⟩
  by_cases hcyclic : g'.Cyclic a
  · rw [hr.marked a hcyclic, hr'.marked a (hshape.cyclic_iff.2 hcyclic)]
  · revert ha
    refine Grid.not_cyclic_induction
      (P := fun a => g'.contains a = true → h'.value? a = g'.value? a) ?_ hcyclic
    intro a ha ih hk
    have hreads : ∀ b, g'.Reads a b → h'.value? b = g'.value? b := fun b hab =>
      ih b hab ((hshape.reads a b).1 hab).2
    have hcompute : h'.compute a = g'.compute a :=
      hshape.compute_eq_of_value? hk hreads
        (fun f hf r hm hkr => hreads r (hr.tracked.covered a f hf r hm hkr)) hspare
    rw [hr.computed a ha, hr'.computed a (mt hshape.cyclic_iff.1 ha), hcompute]
    rw [hc] at hk
    rw [hp.value? a hk]

theorem contains_perform (hl : s.grid.Linked) (hop : ∀ id, op ≠ .create id) (a : CellId) :
    (s.perform op).sheet.grid.contains a = s.grid.contains a := by
  cases op with
  | create id => exact absurd rfl (hop id)
  | edit id input =>
    rw [perform, Outcome.sheet_map]
    rcases s.edit_cases id input with h | ⟨cell, hcell, _, h⟩
    · rw [h]
    · have hid := Grid.contains_of_get? hcell
      rw [h, (editPass_edited hl hid).shape.contains, contains_reformulate hid]
  | undo =>
    rw [sheet_perform_undo]
    rcases s.undo_cases with ⟨_, h⟩ | ⟨snapshot, history, _, ⟨_, h⟩ | ⟨cell, _, h⟩⟩
    · rw [h]
    · rw [h]
    · rw [h, (undoPass_recomputed hl cell snapshot).shape.contains, contains_restored]
  | recalculate =>
    rw [perform, Outcome.sheet_map, grid_recalculate,
      Grid.contains_eq (recalculatePass_refreshed hl).formula?]
  | listen => rfl

/-- The second sheet has spare cells besides those of the first one, and is the same in all else. -/
structure Widened (s t : Sheet) : Prop where
  grid : s.grid.Padded t.grid
  history : t.history = s.history
  listeners : t.listeners = s.listeners

/-- The same answer, and sheets that differ in spare cells. -/
structure WidenedOutcome {α : Type} (o o' : Outcome α) : Prop where
  sheet : Widened o.sheet o'.sheet
  answer : o'.answer = o.answer

namespace Widened

theorem finish {α : Type} {p q : Grid.Pass} (hst : Widened s t) (hp : p.Padded q)
    (history : History) (answer : α) :
    WidenedOutcome (Sheet.finish { s with history } p answer)
      (Sheet.finish { t with history } q answer) :=
  ⟨⟨hp.grid, rfl, hst.listeners⟩, rfl⟩

theorem edit (hst : Widened s t) (hs : s.grid.Linked) (ht : t.grid.Linked)
    (hid : s.grid.contains id = true) (input : String) :
    WidenedOutcome (s.edit id input) (t.edit id input) := by
  obtain ⟨cell, hcell⟩ := Grid.exists_get? hid
  obtain ⟨cell', hcell'⟩ := Grid.exists_get? (hst.grid.contains hid)
  obtain ⟨hformula, hvalue⟩ := hst.grid.cell_eq hcell hcell'
  by_cases hf : cell.formula = Formula.normalize input
  · rw [edit_of_formula_eq hcell hf, edit_of_formula_eq hcell' (hformula.trans hf)]
    exact ⟨hst, rfl⟩
  · have hpass := padded_editPass hst.grid hs ht hid (Formula.normalize input)
    have hsnapshot : cell'.snapshot id = cell.snapshot id := by
      rw [Cell.snapshot, Cell.snapshot, hformula, hvalue]
    rw [edit_of_formula_ne hcell hf, edit_of_formula_ne hcell' (hformula ▸ hf), hpass.changed,
      hsnapshot, hst.history]
    exact hst.finish hpass _ _

theorem undo (hst : Widened s t) (hs : s.Sound) (ht : t.grid.Linked) :
    WidenedOutcome s.undo t.undo := by
  cases hpop : s.history.pop? with
  | none =>
    rw [undo_of_empty hpop, undo_of_empty (hst.history ▸ hpop)]
    exact ⟨hst, rfl⟩
  | some entry =>
    obtain ⟨snapshot, history⟩ := entry
    obtain ⟨⟨f, hf, _⟩, _⟩ := hs.retraceable_pop hpop
    have hid := Grid.contains_of_formula? hf
    obtain ⟨cell, hcell⟩ := Grid.exists_get? hid
    obtain ⟨cell', hcell'⟩ := Grid.exists_get? (hst.grid.contains hid)
    have hpass := padded_undoPass hst.grid hs.linked ht hcell hcell'
    rw [undo_of_get? hpop hcell, undo_of_get? (hst.history ▸ hpop) hcell']
    exact hst.finish hpass _ _

theorem recalculate (hst : Widened s t) (hs : s.grid.Linked) (ht : t.grid.Linked) :
    Widened s.recalculate.sheet t.recalculate.sheet := by
  rw [sheet_recalculate, sheet_recalculate]
  have hr := recalculatePass_refreshed hs
  exact ⟨hr.padded (recalculatePass_refreshed ht) hst.grid, hst.history, hst.listeners⟩

end Widened

/-- An operation that creates no cell, and edits only the first ones, so many of them. -/
def Within (n : Nat) : Operation → Prop
  | .create _ => False
  | .edit id _ => id.index < n
  | .undo | .recalculate | .listen => True

instance (n : Nat) (op : Operation) : Decidable (Within n op) :=
  match op with
  | .create _ => inferInstanceAs (Decidable False)
  | .edit id _ => inferInstanceAs (Decidable (id.index.val < n))
  | .undo | .recalculate | .listen => inferInstanceAs (Decidable True)

/-- Two sheets in the course of a run. The first one has so many cells. -/
structure SideBySide (n : Nat) (s t : Sheet) : Prop where
  widened : Widened s t
  sound : s.Sound
  linked : t.grid.Linked
  contains_iff : ∀ a, s.grid.contains a = true ↔ a.index < n

theorem SideBySide.perform (hst : SideBySide n s t) (hop : Within n op) :
    Widened (s.perform op).sheet (t.perform op).sheet ∧
      (op ≠ .recalculate → (t.perform op).answer = (s.perform op).answer) := by
  cases op with
  | create id => exact hop.elim
  | edit id input =>
    have h := hst.widened.edit hst.sound.linked hst.linked ((hst.contains_iff id).2 hop) input
    exact ⟨h.sheet, fun _ => congrArg (Except.map Answer.cells) h.answer⟩
  | undo =>
    have h := hst.widened.undo hst.sound hst.linked
    exact ⟨h.sheet, fun _ => congrArg (Except.map Answer.cell) h.answer⟩
  | recalculate =>
    exact ⟨hst.widened.recalculate hst.sound.linked hst.linked, fun h => absurd rfl h⟩
  | listen =>
    have hlisteners := hst.widened.listeners
    refine ⟨⟨hst.widened.grid, hst.widened.history, congrArg (· + 1) hlisteners⟩, fun _ => ?_⟩
    exact congrArg (fun n => Except.ok (Answer.listener n)) hlisteners

theorem SideBySide.step (hst : SideBySide n s t) (hop : Within n op) :
    SideBySide n (s.perform op).sheet (t.perform op).sheet := by
  have hcreate : ∀ id, op ≠ .create id := by
    rintro id rfl
    exact hop
  refine ⟨(hst.perform hop).1, sound_perform hst.sound op, linked_perform hst.linked op, ?_⟩
  intro a
  rw [contains_perform hst.sound.linked hcreate, hst.contains_iff]

theorem SideBySide.run (hst : SideBySide n s t) (hops : ∀ op ∈ ops, Within n op) :
    SideBySide n (s.run ops) (t.run ops) := by
  induction ops generalizing s t with
  | nil => exact hst
  | cons op ops ih =>
    obtain ⟨hop, hops⟩ := List.forall_mem_cons.1 hops
    exact ih (hst.step hop) hops

theorem sideBySide_ofSettings {limit : Option Nat} (hnm : n ≤ m)
    (hs : ofSettings ⟨n, limit⟩ = .ok s) (ht : ofSettings ⟨m, limit⟩ = .ok t) :
    SideBySide n s t := by
  have hcreated := createAll_of_ofSettings hs
  have hcreated' := createAll_of_ofSettings ht
  have hfresh : s.grid.Fresh := fresh_ofSettings hs
  have hfresh' : t.grid.Fresh := fresh_ofSettings ht
  have hcontains : ∀ a, s.grid.contains a = true ↔ a.index < n := by
    intro a
    rw [contains_createAll hcreated, List.mem_range]
    simp [Grid.contains]
  have hcontains' : ∀ a, t.grid.contains a = true ↔ a.index < m := by
    intro a
    rw [contains_createAll hcreated', List.mem_range]
    simp [Grid.contains]
  refine ⟨⟨hfresh.padded hfresh' fun a ha => ?_, ?_, ?_⟩, Initial.sound (.inr ⟨_, hs⟩),
    hfresh'.linked, hcontains⟩
  · exact (hcontains' a).2 (((hcontains a).1 ha).trans_le hnm)
  · rw [history_createAll hcreated, history_createAll hcreated']
  · rw [createAll_eq hcreated, createAll_eq hcreated']

theorem spare_cells_make_no_difference {limit : Option Nat} (hnm : n ≤ m)
    (hs : ofSettings ⟨n, limit⟩ = .ok s) (ht : ofSettings ⟨m, limit⟩ = .ok t)
    (hops : ∀ op ∈ ops, Within n op) :
    (∀ a : CellId, a.index < n →
      (t.run ops).grid.formula? a = (s.run ops).grid.formula? a ∧
        (t.run ops).grid.value? a = (s.run ops).grid.value? a) ∧
      ∀ op, Within n op → op ≠ .recalculate →
        ((t.run ops).perform op).answer = ((s.run ops).perform op).answer := by
  have hst := (sideBySide_ofSettings hnm hs ht).run hops
  refine ⟨fun a ha => ?_, fun op hop => (hst.perform hop).2⟩
  rw [← hst.contains_iff] at ha
  exact ⟨hst.widened.grid.formula? a ha, hst.widened.grid.value? a ha⟩

/-- A formula with a link to a spare cell is taken back, and the link stays. -/
def spareLink : List Operation :=
  [.edit (named 'A') "B 2 +", .recalculate, .edit (named 'A') "C", .undo]

/-- The sheet with three cells has that link, and the sheet with one cell has none. -/
theorem spare_link_makes_no_difference :
    (∀ op ∈ spareLink, Within 1 op) ∧
      (threeCells.run spareLink).grid.value? (named 'A') =
        ((oneCell none).run spareLink).grid.value? (named 'A') ∧
      ((threeCells.run spareLink).perform .undo).answer =
        (((oneCell none).run spareLink).perform .undo).answer := by
  have hops : ∀ op ∈ spareLink, Within 1 op := by decide +kernel
  obtain ⟨hcells, hanswers⟩ :=
    spare_cells_make_no_difference (by decide) ofSettings_one ofSettings_three hops
  exact ⟨hops, (hcells (named 'A') (by decide)).2, hanswers .undo trivial nofun⟩

end ReactiveSheet.Sheet
