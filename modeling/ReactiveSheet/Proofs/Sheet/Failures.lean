import ReactiveSheet.Proofs.Sheet.History

/-!
Operations that fail. Main statements: in every run each entry of the history is that of a cell
(`Sound.contains_entry`), so that an operation fails for one reason only (`answer_eq_error_iff`),
and then it leaves everything as it is and calls no listener (`failing_operations_change_nothing`).
-/

namespace ReactiveSheet

variable {formulas : CellId → Option String} {entries : List Snapshot} {e : Snapshot}

/-- Undoing an entry takes no cell away, so that the older ones have their cells before it too. -/
theorem Retraceable.exists_formula (h : Retraceable formulas entries) (he : e ∈ entries) :
    ∃ f, formulas e.id = some f := by
  induction entries generalizing formulas with
  | nil => simp at he
  | cons newest entries ih =>
    obtain ⟨⟨f, hf, _⟩, hrest⟩ := h
    rcases List.mem_cons.1 he with rfl | he
    · exact ⟨f, hf⟩
    · obtain ⟨f', hf'⟩ := ih hrest he
      by_cases hid : e.id = newest.id
      · exact ⟨f, by rw [hid, hf]⟩
      · exact ⟨f', by rwa [Function.update_of_ne hid] at hf'⟩

theorem History.pop?_eq_none_iff {h : History} : h.pop? = none ↔ h.entries = [] := by
  cases he : h.entries <;> simp [pop?, he]

namespace Sheet

variable {s : Sheet} {id : CellId} {op : Operation} {error : SheetError}

theorem Sound.contains_entry (hs : s.Sound) (he : e ∈ s.history.entries) :
    s.grid.contains e.id = true := by
  obtain ⟨f, hf⟩ := hs.retraceable.exists_formula he
  exact Grid.contains_of_formula? hf

/-- The error with which an operation is to fail, if it is to fail. -/
def failure? (s : Sheet) : Operation → Option SheetError
  | .create id => if s.grid.contains id then some (.duplicateCell id) else none
  | .edit id _ => if s.grid.contains id then none else some (.unknownCell id)
  | .undo => if s.history.entries = [] then some .emptyHistory else none
  | .recalculate | .listen => none

theorem perform_of_failure? (h : s.failure? op = some error) : s.perform op = s.fail error := by
  cases op with
  | create id =>
    simp only [failure?, Option.ite_none_right_eq_some, Option.some.injEq] at h
    obtain ⟨hid, rfl⟩ := h
    rw [perform, create, if_pos hid]
    rfl
  | edit id input =>
    simp only [failure?, Option.ite_none_left_eq_some, Option.some.injEq] at h
    obtain ⟨hid, rfl⟩ := h
    rw [perform, edit_of_none (Grid.get?_eq_none hid)]
    rfl
  | undo =>
    simp only [failure?, Option.ite_none_right_eq_some, Option.some.injEq] at h
    obtain ⟨hempty, rfl⟩ := h
    rw [perform, undo_of_empty (History.pop?_eq_none_iff.2 hempty)]
    rfl
  | recalculate => cases h
  | listen => cases h

/-- Any input will do as the new formula of a cell. -/
theorem exists_answer_edit (hid : s.grid.contains id = true) (input : String) :
    ∃ changed, (s.edit id input).answer = .ok changed := by
  obtain ⟨cell, hcell⟩ := Grid.exists_get? hid
  by_cases hf : cell.formula = Formula.normalize input
  · exact ⟨[], by rw [edit_of_formula_eq hcell hf]⟩
  · exact ⟨_, by rw [edit_of_formula_ne hcell hf, finish]⟩

/-- The entry that an undo takes off has its cell, else it would be lost. -/
theorem Sound.exists_answer_undo (hs : s.Sound) (hne : s.history.entries ≠ []) :
    ∃ id, s.undo.answer = .ok id := by
  obtain ⟨e, entries, hentries⟩ := List.exists_cons_of_ne_nil hne
  have hcontains : s.grid.contains e.id = true := hs.contains_entry (by simp [hentries])
  obtain ⟨cell, hcell⟩ := Grid.exists_get? hcontains
  exact ⟨e.id, by rw [undo_of_entries hentries hcell, finish]⟩

theorem Sound.exists_answer (hs : s.Sound) (h : s.failure? op = none) :
    ∃ a, (s.perform op).answer = .ok a := by
  cases op with
  | create id =>
    have hid : ¬ s.grid.contains id = true := by simpa [failure?] using h
    exact ⟨.cell id, by simp [perform, Sheet.create, hid, Outcome.map, Except.map]⟩
  | edit id input =>
    have hid : s.grid.contains id = true := by simpa [failure?] using h
    obtain ⟨changed, hchanged⟩ := exists_answer_edit hid input
    exact ⟨.cells changed, by simp [perform, Outcome.map, hchanged, Except.map]⟩
  | undo =>
    have hne : s.history.entries ≠ [] := by simpa [failure?] using h
    obtain ⟨id, hid⟩ := hs.exists_answer_undo hne
    exact ⟨.cell id, by simp [perform, Outcome.map, hid, Except.map]⟩
  | recalculate => exact ⟨_, by rw [perform, recalculate_eq]; rfl⟩
  | listen => exact ⟨.listener s.listeners, rfl⟩

theorem Sound.answer_eq_error_iff (hs : s.Sound) :
    (s.perform op).answer = .error error ↔ s.failure? op = some error := by
  constructor
  · intro h
    cases hf : s.failure? op with
    | none =>
      obtain ⟨a, ha⟩ := hs.exists_answer hf
      rw [ha] at h
      cases h
    | some reason =>
      rw [perform_of_failure? hf] at h
      cases h
      rfl
  · intro h
    rw [perform_of_failure? h, fail]

theorem failing_operations_change_nothing (hs : s.Initial) (ops : List Operation) :
    (∀ op error, ((s.run ops).perform op).answer = .error error ↔
      (s.run ops).failure? op = some error) ∧
    (∀ op error, ((s.run ops).perform op).answer = .error error →
      ((s.run ops).perform op).sheet = s.run ops ∧ ((s.run ops).perform op).calls = []) ∧
    (∀ id input, (s.run ops).grid.contains id = true →
      ∃ changed, ((s.run ops).edit id input).answer = .ok changed) ∧
    ∀ e ∈ (s.run ops).history.entries, (s.run ops).grid.contains e.id = true := by
  have hsound := sound_run hs ops
  refine ⟨fun op error => hsound.answer_eq_error_iff, fun op error h => ?_,
    fun id input hid => exists_answer_edit hid input, fun e he => hsound.contains_entry he⟩
  rw [perform_of_failure? (hsound.answer_eq_error_iff.1 h)]
  exact ⟨rfl, rfl⟩

/-- The limit lets go of the first edit, so that only one of the two can be undone. -/
def usedUpHistory : List Operation := [.edit (named 'A') "1", .edit (named 'A') "1 %", .undo]

theorem used_up_history_changes_nothing :
    (oneCell (some 1)).Initial ∧
      (((oneCell (some 1)).run usedUpHistory).perform .undo).answer = .error .emptyHistory ∧
      (((oneCell (some 1)).run usedUpHistory).perform .undo).sheet =
        (oneCell (some 1)).run usedUpHistory ∧
      (((oneCell (some 1)).run usedUpHistory).perform .undo).calls = [] ∧
      ∃ changed, (((oneCell (some 1)).run usedUpHistory).edit (named 'A') "lg %").answer =
        .ok changed := by
  have hs : (oneCell (some 1)).Initial := .inr ⟨⟨1, some 1⟩, rfl⟩
  obtain ⟨hfails, hsame, hedits, _⟩ := failing_operations_change_nothing hs usedUpHistory
  have hundo := (hfails .undo .emptyHistory).2 (by decide +kernel)
  obtain ⟨hsheet, hcalls⟩ := hsame .undo .emptyHistory hundo
  exact ⟨hs, hundo, hsheet, hcalls, hedits (named 'A') "lg %" (by decide +kernel)⟩

end Sheet
end ReactiveSheet
