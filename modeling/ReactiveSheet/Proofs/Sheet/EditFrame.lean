import ReactiveSheet.Proofs.Sheet.RoundTrip

/-!
What an edit changes in a sheet, whatever its links are, and what it leaves as it is. Main statement:
an edit that gives a cell another formula changes links of that cell only, values of that cell and of
cells behind it only, and puts one entry on the history (`edit_frame`).
-/

namespace ReactiveSheet.Sheet
open Relation

variable {s d : Sheet} {id : CellId} {input : String} {cell : Cell}

/-- A sheet and the one that an edit makes of it by giving a cell another formula. -/
structure Rewritten (d t : Sheet) (id : CellId) (cell : Cell) (formula : String) : Prop where
  formula? : ∀ a, t.grid.formula? a = if a = id then some formula else d.grid.formula? a
  mem_subjects_self : ∀ r,
    r ∈ t.grid.subjects id ↔ r ∈ Formula.references formula ∧ d.grid.contains r = true
  subjects : ∀ a, a ≠ id → t.grid.subjects a = d.grid.subjects a
  observers : ∀ a b, b ≠ id → (b ∈ t.grid.observers a ↔ b ∈ d.grid.observers a)
  gained : ∀ a, id ∈ t.grid.observers a ∧ id ∉ d.grid.observers a ↔
    a ∈ t.grid.subjects id ∧ a ∉ d.grid.subjects id
  lost : ∀ a, id ∈ d.grid.observers a ∧ id ∉ t.grid.observers a ↔
    a ∈ d.grid.subjects id ∧ a ∉ t.grid.subjects id
  value? : ∀ a, t.grid.value? a ≠ d.grid.value? a →
    a = id ∨ d.grid.Behind id a ∧ t.grid.Behind id a
  entries : t.history.entries = ⟨id, cell.formula, cell.value⟩ ::
    if d.history.limit = some d.history.size then d.history.entries.dropLast
    else d.history.entries
  limit : t.history.limit = d.history.limit
  listeners : t.listeners = d.listeners

theorem Rewritten.of_edit (hd : d.Ready 1) (hcell : d.grid.get? id = some cell)
    (hne : cell.formula ≠ Formula.normalize input) :
    Rewritten d (d.edit id input).sheet id cell (Formula.normalize input) := by
  have hid := Grid.contains_of_get? hcell
  rw [edit_of_formula_ne hcell hne, finish]
  generalize Formula.normalize input = formula
  have hlinked := linked_editPass hd.linked hid formula
  have hedited : Edited (reformulate d.grid id formula) id (editPass d.grid id formula).grid :=
    editPass_edited hd.linked hid
  have hsubjects : ∀ a, (editPass d.grid id formula).grid.subjects a =
      if a = id then d.grid.resolve formula else d.grid.subjects a := fun a => by
    rw [hedited.shape.subjects, subjects_reformulate hid]
  have hothers : ∀ a, a ≠ id → (editPass d.grid id formula).grid.subjects a = d.grid.subjects a :=
    fun a ha => by rw [hsubjects, if_neg ha]
  constructor
  case formula? =>
    intro a
    simp [formula?_editPass hd.linked hid, Function.update_apply]
  case mem_subjects_self =>
    intro r
    simp [hsubjects, Grid.mem_resolve]
  case subjects => exact hothers
  case observers =>
    intro a b hb
    simp [hlinked.mem_observers_iff, hd.linked.mem_observers_iff, hothers b hb]
  case gained =>
    intro a
    simp [hlinked.mem_observers_iff, hd.linked.mem_observers_iff]
  case lost =>
    intro a
    simp [hlinked.mem_observers_iff, hd.linked.mem_observers_iff]
  case value? =>
    intro a hvalue
    have hreads : ReflTransGen (editPass d.grid id formula).grid.Reads a id := by
      by_contra hnot
      rw [hedited.shape.reads] at hnot
      exact hvalue ((hedited.frame a hnot).trans (value?_reformulate ..))
    apply (Grid.eq_or_behind_of_reflTransGen hreads).imp_right
    intro hbehind
    exact ⟨(Grid.behind_iff_of_subjects hothers).1 hbehind, hbehind⟩
  case entries => exact History.entries_push hd.bounded hd.hasRoom _
  case limit => rfl
  case listeners => rfl

/-- In every run an edit that gives a cell another formula succeeds, whatever the formula is. The cell
has the formula and reads the cells that it refers to, and all other formulas and subjects stay. A
cell is observed by the edited one as it is read by it, and by the others as before. Values change
in the edited cell and behind it. What the cell was is the newest entry of the history, and the
oldest one gives way if the history is full. -/
theorem edit_frame (hs : s.Initial) (ops : List Operation)
    (hcell : (s.run ops).grid.get? id = some cell)
    (hne : cell.formula ≠ Formula.normalize input) :
    (∃ changed, ((s.run ops).edit id input).answer = .ok changed) ∧
      Rewritten (s.run ops) ((s.run ops).edit id input).sheet id cell
        (Formula.normalize input) := by
  refine ⟨?_, .of_edit (ready_one_run hs ops) hcell hne⟩
  rw [edit_of_formula_ne hcell hne, finish]
  exact ⟨_, rfl⟩

/-- A new sheet with three cells that keeps two entries of its history. -/
def keepingTwo : Sheet := { threeCells with history := .withLimit (some 2) }

/-- A link that an undo leaves behind, and two edits that fill the history. -/
def staleLink : List Operation :=
  [.edit (named 'A') "B", .undo, .edit (named 'C') "A", .edit (named 'C') "A 1 +"]

def staleLinked : Sheet where
  grid :=
    (((∅ : Grid).insert (named 'A')
      ⟨"0.0", .number 0, .ofList [named 'B'], .ofList [named 'C']⟩).insert (named 'B')
      ⟨"0.0", .number 0, ∅, .ofList [named 'A']⟩).insert (named 'C')
      ⟨"A 1 +", .number 1, .ofList [named 'A'], ∅⟩
  history := ⟨[⟨named 'C', "A", .number 0⟩, ⟨named 'C', "0.0", .number 0⟩], some 2⟩
  listeners := 0

theorem run_staleLink : keepingTwo.run staleLink = staleLinked := by decide +kernel

/-- The faulty formula of `B` reaches `C` through `A`, whose formula does not refer to `B`. -/
theorem faulty_edit_behind_stale_link :
    keepingTwo.Initial ∧
      (keepingTwo.run staleLink).grid.formula? (named 'A') = some "0.0" ∧
      ∃ t, ((keepingTwo.run staleLink).edit (named 'B') "1 +").sheet = t ∧
        t.grid.subjects (named 'A') = .ofList [named 'B'] ∧
        t.grid.value? (named 'C') = some (.error .malformedExpression) ∧
        (keepingTwo.run staleLink).grid.Behind (named 'B') (named 'C') ∧
        t.history.entries = [⟨named 'B', "0.0", .number 0⟩, ⟨named 'C', "A", .number 0⟩] := by
  have hs : keepingTwo.Initial := .inr ⟨⟨3, some 2⟩, rfl⟩
  have hcell : (keepingTwo.run staleLink).grid.get? (named 'B') =
      some ⟨"0.0", .number 0, ∅, .ofList [named 'A']⟩ := by
    rw [run_staleLink]
    decide +kernel
  have hne : "0.0" ≠ Formula.normalize "1 +" := by decide +kernel
  obtain ⟨_, h⟩ := edit_frame hs staleLink hcell hne
  rw [run_staleLink] at h ⊢
  have hbefore : staleLinked.grid.value? (named 'C') = some (.number 1) := by decide +kernel
  have hafter : (staleLinked.edit (named 'B') "1 +").sheet.grid.value? (named 'C') =
      some (.error .malformedExpression) := by decide +kernel
  have hchanged := h.value? (named 'C') (by simp [hbefore, hafter])
  refine ⟨hs, by decide +kernel, _, rfl, ?_, hafter, (hchanged.resolve_left (by decide)).1, ?_⟩
  · rw [h.subjects _ (by decide)]
    decide +kernel
  · rw [h.entries]
    decide +kernel

end ReactiveSheet.Sheet
