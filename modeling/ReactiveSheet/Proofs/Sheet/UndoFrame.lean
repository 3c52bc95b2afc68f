import ReactiveSheet.Proofs.Grid.Rescan
import ReactiveSheet.Proofs.Sheet.Host

/-!
What an undo changes in a sheet, whose links may be those of newer formulas, and what it leaves as it
is. Main statement: the undone cell has the formula and the value of the newest entry, links stay,
and values change behind the cell only, where they are up to date unless links are in the way
(`undo_frame`).
-/

namespace ReactiveSheet.Sheet

variable {s d : Sheet} {g : Grid} {cell : Cell} {e : Snapshot} {rest : List Snapshot}

/-- A sheet and the one that an undo of its newest entry makes of it. -/
structure TakenBack (d t : Sheet) (e : Snapshot) : Prop where
  formula? : ∀ a, t.grid.formula? a = if a = e.id then some e.formula else d.grid.formula? a
  value?_self : t.grid.value? e.id = some e.value
  subjects : ∀ a, t.grid.subjects a = d.grid.subjects a
  observers : ∀ a, t.grid.observers a = d.grid.observers a
  value? : ∀ a, t.grid.value? a ≠ d.grid.value? a → a = e.id ∨ d.grid.Behind e.id a
  computed : ∀ a, d.grid.Behind e.id a → ¬ LeadsToCycle (d.grid.ReadsBehind e.id) a →
    t.grid.Covered a → ∃ v, t.grid.value? a = some v ∧ v.Matches (t.grid.compute a)
  entries : d.history.entries = e :: t.history.entries
  limit : t.history.limit = d.history.limit
  listeners : t.listeners = d.listeners

/-- The undone cell is noted first, and it is not noted again. -/
theorem exists_changed_undoPass (hg : g.Linked) (hne : cell.formula ≠ e.formula) :
    ∃ others, (undoPass g cell e).changed = e.id :: others ∧ e.id ∉ others := by
  unfold undoPass
  simp only [if_pos (Or.inl hne)]
  obtain ⟨others, hchanged, hothers⟩ := Grid.Pass.exists_changed_recompute
    (p := ⟨restored g e, [e.id]⟩) (linked_restored hg e) ((restored g e).downstream e.id)
  refine ⟨others, hchanged, fun hmem => ?_⟩
  simpa using hothers e.id hmem

theorem TakenBack.of_undo (hd : d.grid.Linked) (hentries : d.history.entries = e :: rest)
    (hcell : d.grid.get? e.id = some cell) : TakenBack d d.undo.sheet e := by
  have hrecomputed := undoPass_recomputed hd cell e
  have hlinked := linked_restored hd e
  have hsubjects : ∀ a, (restored d.grid e).subjects a = d.grid.subjects a :=
    subjects_restored d.grid e
  have hdownstream : ∀ a, a ∈ (restored d.grid e).downstream e.id ↔ d.grid.Behind e.id a := by
    intro a
    rw [Grid.mem_downstream_iff hlinked, ← Grid.behind_eq hsubjects]
    rfl
  rw [undo_of_entries hentries hcell, finish]
  constructor
  case formula? =>
    intro a
    simp [formula?_undoPass hd hcell, Function.update_apply]
  case value?_self => exact value?_undoPass_self hd hcell
  case subjects =>
    intro a
    rw [hrecomputed.shape.subjects, hsubjects]
  case observers =>
    intro a
    rw [hrecomputed.shape.observers, hlinked.observers_eq hd hsubjects]
  case value? =>
    intro a hvalue
    by_contra hnot
    obtain ⟨hne, hbehind⟩ := not_or.1 hnot
    apply hvalue
    rw [hrecomputed.frame a (mt (hdownstream a).1 hbehind), value?_restored hcell, if_neg hne]
  case computed =>
    intro a hbehind hcycle hcovered
    have hmem := (hdownstream a).2 hbehind
    have hcontains : (undoPass d.grid cell e).grid.contains a = true := by
      rw [hrecomputed.shape.contains]
      exact Grid.contains_of_mem_downstream hlinked hmem
    rw [← Grid.readsBehind_eq hsubjects, ← Grid.readsWithin_downstream hlinked] at hcycle
    have hturned := hrecomputed.turned a hmem hcycle
      (hrecomputed.shape.symm.covered hcovered)
    obtain ⟨v, hv⟩ := Grid.exists_value? hcontains
    exact ⟨v, hv, Grid.upToDate_of_revised hturned v hv⟩
  case entries => exact hentries
  case limit => rfl
  case listeners => rfl

/-- The calls of an undo begin with one to each listener, which shows the cell as it was. -/
theorem exists_calls_undo (hd : d.grid.Linked) (hentries : d.history.entries = e :: rest)
    (hcell : d.grid.get? e.id = some cell) (hne : cell.formula ≠ e.formula) :
    ∃ later, d.undo.calls =
        (List.range d.listeners).map (⟨·, ⟨e.id, e.formula, e.value⟩⟩) ++ later ∧
      ∀ c ∈ later, c.view.id ≠ e.id := by
  obtain ⟨others, hchanged, hothers⟩ := exists_changed_undoPass hd hne
  have hformula : (undoPass d.grid cell e).grid.formula? e.id = some e.formula := by
    rw [formula?_undoPass hd hcell, Function.update_self]
  have hview := Grid.view?_eq_some hformula (value?_undoPass_self hd hcell)
  rw [undo_of_entries hentries hcell, finish, hchanged, calls_cons_of_some hview]
  refine ⟨_, rfl, fun c hc hid => hothers ?_⟩
  rw [← hid]
  exact (mem_calls.1 hc).2.1

/-- In every run, if the history has entries, the formula of the newest one is not that of its cell,
and undo answers this cell and shows it before any other. The cell has the formula and the value of
the entry, also on a cycle, and the entry is taken off. All other formulas and all links stay. Values
change behind the cell only, and a cell there holds what is computed for it unless it leads to a
cycle of such cells or its formula refers to a cell that it does not read. -/
theorem undo_frame (hs : s.Initial) (ops : List Operation)
    (hentries : (s.run ops).history.entries = e :: rest) :
    (∃ f, (s.run ops).grid.formula? e.id = some f ∧ f ≠ e.formula) ∧
      (s.run ops).undo.answer = .ok e.id ∧
      (∃ later, (s.run ops).undo.calls =
          (List.range (s.run ops).listeners).map (⟨·, ⟨e.id, e.formula, e.value⟩⟩) ++ later ∧
        ∀ c ∈ later, c.view.id ≠ e.id) ∧
      TakenBack (s.run ops) (s.run ops).undo.sheet e := by
  have hsound := sound_run hs ops
  generalize s.run ops = d at *
  have hretraceable := hsound.retraceable
  rw [hentries] at hretraceable
  obtain ⟨⟨f, hf, hne⟩, _⟩ := hretraceable
  obtain ⟨cell, hcell⟩ := Grid.exists_get? (Grid.contains_of_formula? hf)
  have hcellne : cell.formula ≠ e.formula := by
    rw [Grid.formula?_of_get? hcell] at hf
    rwa [Option.some.inj hf]
  refine ⟨⟨f, hf, hne⟩, ?_, exists_calls_undo hsound.linked hentries hcell hcellne,
    .of_undo hsound.linked hentries hcell⟩
  rw [undo_of_entries hentries hcell, finish]

/-- Two edits, the second of which closes a cycle. -/
def closedLoop : List Operation := [.listen, .edit (named 'A') "B 1 +", .edit (named 'B') "A"]

def looped : Sheet where
  grid :=
    (((∅ : Grid).insert (named 'A')
      ⟨"B 1 +", .error .cyclicDependency, .ofList [named 'B'], .ofList [named 'B']⟩).insert
        (named 'B')
      ⟨"A", .error .cyclicDependency, .ofList [named 'A'], .ofList [named 'A']⟩).insert (named 'C')
      .fresh
  history := ⟨[⟨named 'B', "0.0", .number 0⟩, ⟨named 'A', "0.0", .number 0⟩], none⟩
  listeners := 1

theorem run_closedLoop : threeCells.run closedLoop = looped := by decide +kernel

/-- The links keep `B` on the cycle, which is not one of the cells behind `B`. -/
theorem undo_on_closed_loop :
    threeCells.Initial ∧
      ∃ t, (threeCells.run closedLoop).undo.sheet = t ∧ t.grid.OnCycle (named 'B') ∧
        t.grid.value? (named 'B') = some (.number 0) ∧
        (∃ v, t.grid.value? (named 'A') = some v ∧ v.Matches (.number 1)) ∧
        t.history.entries = [⟨named 'A', "0.0", .number 0⟩] ∧
        ∃ later, (threeCells.run closedLoop).undo.calls =
          ⟨0, ⟨named 'B', "0.0", .number 0⟩⟩ :: later := by
  have hentries : (threeCells.run closedLoop).history.entries =
      ⟨named 'B', "0.0", .number 0⟩ :: [⟨named 'A', "0.0", .number 0⟩] := by
    rw [run_closedLoop]
    rfl
  obtain ⟨_, _, ⟨later, hcalls, _⟩, h⟩ := undo_frame initial_threeCells closedLoop hentries
  rw [run_closedLoop] at h hcalls ⊢
  have hab : looped.grid.Reads (named 'A') (named 'B') := by decide +kernel
  have hba : looped.grid.Reads (named 'B') (named 'A') := by decide +kernel
  have hreads := Grid.reads_eq h.subjects
  refine ⟨initial_threeCells, _, rfl, ?_, h.value?_self, ?_, ?_, later, hcalls⟩
  · rw [Grid.OnCycle, hreads]
    exact .tail (.single hba) hab
  · have hcycle : ¬ LeadsToCycle (looped.grid.ReadsBehind (named 'B')) (named 'A') := by
      intro hc
      obtain ⟨b, ⟨_, hb, hread⟩, _⟩ := hc.exists_step
      have honly : looped.grid.subjects (named 'A') = .ofList [named 'B'] := by decide +kernel
      rw [Grid.Reads, honly] at hread
      exact hb.1 (by simpa using hread)
    have hcompute : looped.undo.sheet.grid.compute (named 'A') = .number 1 := by decide +kernel
    have hcovered : looped.undo.sheet.grid.Covered (named 'A') := by
      have hformula : looped.grid.formula? (named 'A') = some "B 1 +" := rfl
      have hread : ∀ r ∈ CellId.all, r ∈ Formula.references "B 1 +" →
          looped.grid.Reads (named 'A') r := by decide +kernel
      intro f hf r hr _
      rw [h.formula?, if_neg (by decide), hformula] at hf
      rw [hreads]
      exact hread r (CellId.mem_all r) (Option.some.inj hf ▸ hr)
    obtain ⟨v, hv, hmatches⟩ := h.computed _ ⟨by decide, .single hab⟩ hcycle hcovered
    exact ⟨v, hv, hcompute ▸ hmatches⟩
  · exact (List.cons.inj h.entries).2.symm

end ReactiveSheet.Sheet
