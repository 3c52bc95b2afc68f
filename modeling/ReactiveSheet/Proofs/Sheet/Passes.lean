import ReactiveSheet.Proofs.Grid.Loop
import ReactiveSheet.Proofs.Sheet.Links

/-!
The passes that operations start. Main statements: an operation leaves the grid of its pass
(`Starts.grid_perform`), whose links are inverse to each other in every run (`Starts.linked`). So in
the loop of the pass no cell is released that waits for nothing, and in every grid the loop ends
without computing a cell twice (`passes_count_down_and_end`).
-/

namespace ReactiveSheet.Sheet
open Grid

variable {s : Sheet} {op : Operation} {p : Pass} {affected : IdSet}

/-- The pass that an operation starts, and the cells that it is to recompute. -/
inductive Starts (s : Sheet) : Operation → Pass → IdSet → Prop
  | edit {id : CellId} {input : String} {cell : Cell} {g k : Grid}
      (hcell : s.grid.get? id = some cell) (hf : cell.formula ≠ Formula.normalize input)
      (hg : g = reformulate s.grid id (Formula.normalize input))
      (hk : k = g.store id (editedValue g id)) :
      Starts s (.edit id input) ⟨k, [id]⟩ (k.downstream id)
  | undo {snapshot : Snapshot} {history : History} {cell : Cell} {k : Grid} {changed : List CellId}
      (hpop : s.history.pop? = some (snapshot, history))
      (hcell : s.grid.get? snapshot.id = some cell) (hk : k = restored s.grid snapshot)
      (hchanged : changed = if cell.formula ≠ snapshot.formula ∨ !cell.value.agrees snapshot.value
        then [snapshot.id] else []) :
      Starts s .undo ⟨k, changed⟩ (k.downstream snapshot.id)
  | recalculate : Starts s .recalculate ⟨s.grid.relink s.grid.ids, []⟩ (.ofList s.grid.ids)

namespace Starts

theorem grid_perform (h : s.Starts op p affected) :
    (s.perform op).sheet.grid = (p.recompute affected).grid := by
  cases h with
  | edit hcell hf hg hk =>
    rw [perform, Outcome.sheet_map, edit_of_formula_ne hcell hf]
    unfold editPass
    simp only [finish, ← hg, ← hk]
  | undo hpop hcell hk hchanged =>
    rw [perform, Outcome.sheet_map, undo_of_get? hpop hcell]
    unfold undoPass
    simp only [finish, ← hk, ← hchanged]
  | recalculate =>
    rw [perform, Outcome.sheet_map, grid_recalculate]
    unfold recalculatePass
    rfl

/-- The links are inverse to each other when the pass starts, if they were so before. -/
theorem linked (h : s.Starts op p affected) (hs : s.grid.Linked) : p.grid.Linked := by
  cases h with
  | edit hcell _ hg hk =>
    subst hg hk
    exact (sameShape_store ..).linked (linked_reformulate (contains_of_get? hcell) hs)
  | undo _ _ hk _ =>
    subst hk
    exact linked_restored hs _
  | recalculate => exact (relink_relinked hs s.grid.ids).linked

end Starts

/-- An operation that starts no pass creates a cell or leaves all cells as they are. -/
theorem exists_starts (s : Sheet) (op : Operation) :
    (s.perform op).sheet.grid = s.grid ∨ (∃ id, op = .create id) ∨
      ∃ p affected, s.Starts op p affected := by
  cases op with
  | create id => exact .inr (.inl ⟨id, rfl⟩)
  | edit id input =>
    rw [perform, Outcome.sheet_map]
    rcases s.edit_cases id input with hsame | ⟨cell, hcell, hf, _⟩
    · exact .inl (by rw [hsame])
    · exact .inr (.inr ⟨_, _, .edit hcell hf rfl rfl⟩)
  | undo =>
    rw [perform, Outcome.sheet_map]
    rcases s.undo_cases with ⟨_, hsame⟩ | ⟨snapshot, history, hpop, ⟨_, hsame⟩ | ⟨cell, hcell, _⟩⟩
    · exact .inl (by rw [hsame])
    · exact .inl (by rw [hsame])
    · exact .inr (.inr ⟨_, _, .undo hpop hcell rfl rfl⟩)
  | recalculate => exact .inr (.inr ⟨_, _, .recalculate⟩)
  | listen => exact .inl rfl

/-- In every run, whatever has happened before, no cell is released in the loop of a pass that waits
for no subject. In every grid, with links in one direction only or without a cell at their end, the
loop of a pass comes to an end, and until then takes out and computes each of the given cells at
most once, and no others. -/
theorem passes_count_down_and_end :
    (∀ s : Sheet, s.Initial → ∀ ops op,
      (((s.run ops).perform op).sheet.grid = (s.run ops).grid ∨ (∃ id, op = .create id) ∨
        ∃ p affected, (s.run ops).Starts op p affected) ∧
      ∀ p affected, (s.run ops).Starts op p affected →
        ((s.run ops).perform op).sheet.grid = (p.recompute affected).grid ∧
        ∀ l o os, (Loop.start p affected).Leads l → l.releasing = o :: os →
          l.queue.waiting.get o ≠ some 0) ∧
    ∀ (p : Pass) (affected : IdSet),
      (∀ l, (Loop.start p affected).Leads l →
        l.computed.Nodup ∧ (∀ a ∈ l.computed, a ∈ affected) ∧
          l.pass = l.computed.foldl Pass.update p) ∧
      ∃ l, (Loop.start p affected).Leads l ∧ l.step? = none ∧
        p.recompute affected = l.queue.remaining.foldl Pass.markCyclic l.pass := by
  refine ⟨fun s hs ops op => ⟨exists_starts _ op, fun p affected hstarts => ?_⟩,
    fun p affected => ⟨fun l hl => ?_, Loop.exists_leads_recompute p affected⟩⟩
  · refine ⟨hstarts.grid_perform, fun l o os hl hreleasing => ?_⟩
    have hlinked : p.grid.Linked := hstarts.linked (linked_run hs ops)
    obtain ⟨left, hcounting⟩ := Loop.Counting.of_leads (hlinked.inverseWithin affected) hl
    exact hcounting.waiting_ne_zero hreleasing
  · have hrunning := Loop.Running.of_leads hl
    exact ⟨hrunning.nodup, hrunning.affected_of_computed, hrunning.pass_eq⟩

/-- `A` reads `B`, and both read `C`. -/
def twoReaders : List Operation := [.edit (named 'A') "B C +", .edit (named 'B') "C"]

/-- The grid after `twoReaders` in which `C` has got the formula `2`, before the pass. -/
def rereadGrid : Grid :=
  let g := reformulate (threeCells.run twoReaders).grid (named 'C') "2"
  g.store (named 'C') (editedValue g (named 'C'))

/-- `A` observes `B` without reading it, and `Z` is no cell. -/
def looseLinks : Grid :=
  ((∅ : Grid).insert (named 'A') .fresh).insert (named 'B')
    ⟨"0.0", .initial, .ofList [named 'Z'], .ofList [named 'A', named 'Z']⟩

/-- After an edit of `C` the turn of `B` comes first, and then `A` is released. -/
theorem release_of_second_reader :
    threeCells.Initial ∧
      (∃ p affected l, (threeCells.run twoReaders).Starts (.edit (named 'C') "2") p affected ∧
        (Loop.start p affected).Leads l ∧ l.releasing = [named 'A'] ∧
        l.queue.waiting.get (named 'A') ≠ some 0) ∧
      ∃ l, (Loop.start ⟨looseLinks, []⟩ (.ofList looseLinks.ids)).Leads l ∧ l.step? = none := by
  obtain ⟨hcount, hend⟩ := passes_count_down_and_end
  obtain ⟨cell, hcell⟩ := Grid.exists_get?
    (by decide +kernel : (threeCells.run twoReaders).grid.contains (named 'C') = true)
  have hformula : cell.formula = "0.0" := by
    have hC : (threeCells.run twoReaders).grid.formula? (named 'C') = some "0.0" := by
      decide +kernel
    simpa [formula?_of_get? hcell] using hC
  have hf : cell.formula ≠ Formula.normalize "2" := by
    rw [hformula]
    decide +kernel
  have hstarts : (threeCells.run twoReaders).Starts (.edit (named 'C') "2")
      ⟨rereadGrid, [named 'C']⟩ (rereadGrid.downstream (named 'C')) :=
    Starts.edit hcell hf rfl rfl
  obtain ⟨l, hstep, hreleasing⟩ := Option.map_eq_some_iff.1
    (by decide +kernel : (Loop.start ⟨rereadGrid, [named 'C']⟩
      (rereadGrid.downstream (named 'C'))).step?.map (·.releasing) = some [named 'A'])
  have hleads := Relation.ReflTransGen.single (r := fun l m : Loop => l.step? = some m) hstep
  refine ⟨initial_threeCells, ⟨_, _, l, hstarts, hleads, hreleasing, ?_⟩, ?_⟩
  · exact ((hcount _ initial_threeCells twoReaders _).2 _ _ hstarts).2 l _ _ hleads hreleasing
  · obtain ⟨l, hleads, hlast, _⟩ := (hend ⟨looseLinks, []⟩ (.ofList looseLinks.ids)).2
    exact ⟨l, hleads, hlast⟩

end ReactiveSheet.Sheet
