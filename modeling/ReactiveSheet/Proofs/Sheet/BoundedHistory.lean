import ReactiveSheet.Proofs.Sheet.RoundTrip

/-!
A bounded history against one without a limit. Main statements: an operation does the same on two
sheets of which one keeps only the newest part of the history of the other, as long as that part is
not used up (`alike_perform`), and so do runs on new sheets (`bounded_history_is_newest_part`).
-/

namespace ReactiveSheet

variable {n : Nat} {e : Snapshot} {h k : History}

theorem History.push_isPrefix (hlimit : k.limit = none) (hentries : h.entries <+: k.entries) :
    (h.push e).entries <+: (k.push e).entries := by
  have hcons : e :: h.entries <+: e :: k.entries := (List.prefix_cons_inj e).2 hentries
  have hkept : (k.push e).entries = e :: k.entries := by rw [push, hlimit, keep]
  rw [hkept]
  cases hh : h.limit with
  | none => rwa [push, hh, keep]
  | some n =>
    rw [push, hh, keep]
    exact (List.take_prefix n _).trans hcons

namespace Sheet

variable {α β : Type} {s t : Sheet} {o o' : Outcome α} {id : CellId} {input : String}
  {op : Operation} {ops : List Operation}

/-- The first sheet keeps the newest entries only, so many of them, and the second one keeps all.
In all else they are the same. -/
structure Shortened (n : Nat) (s t : Sheet) : Prop where
  grid : s.grid = t.grid
  listeners : s.listeners = t.listeners
  limit : s.history.limit = some n
  unlimited : t.history.limit = none
  entries : s.history.entries <+: t.history.entries

/-- Two outcomes that differ at most in what the histories keep. -/
structure Alike (n : Nat) (o o' : Outcome α) : Prop where
  answer : o.answer = o'.answer
  calls : o.calls = o'.calls
  sheet : Shortened n o.sheet o'.sheet

namespace Shortened

theorem fail (hst : Shortened n s t) (e : SheetError) :
    Alike n (s.fail e : Outcome α) (t.fail e) :=
  ⟨rfl, rfl, hst⟩

theorem finish (hst : Shortened n s t) (pass : Grid.Pass) (answer : α) :
    Alike n (s.finish pass answer) (t.finish pass answer) := by
  refine ⟨rfl, ?_, rfl, hst.listeners, hst.limit, hst.unlimited, hst.entries⟩
  simp only [Sheet.finish, Sheet.calls, hst.listeners]

theorem push (hst : Shortened n s t) (e : Snapshot) :
    Shortened n { s with history := s.history.push e } { t with history := t.history.push e } :=
  ⟨hst.grid, hst.listeners, hst.limit, hst.unlimited,
    History.push_isPrefix hst.unlimited hst.entries⟩

/-- What the shorter history takes off is also the newest entry of the other one. -/
theorem pop (hst : Shortened n s t) (hpop : s.history.pop? = some (e, h)) :
    ∃ k, t.history.pop? = some (e, k) ∧
      Shortened n { s with history := h } { t with history := k } := by
  obtain ⟨hgrid, hlisteners, hlimit, hunlimited, entries, hentries⟩ := hst
  unfold History.pop? at hpop ⊢
  split at hpop
  · cases hpop
  · rename_i rest hrest
    cases hpop
    rw [← hentries, hrest]
    exact ⟨_, rfl, hgrid, hlisteners, hlimit, hunlimited, List.prefix_append rest entries⟩

end Shortened

theorem Alike.map (ho : Alike n o o') (f : α → β) : Alike n (o.map f) (o'.map f) :=
  ⟨congrArg (Except.map f) ho.answer, ho.calls, ho.sheet⟩

theorem Shortened.create (hst : Shortened n s t) (id : CellId) :
    Alike n (s.create id) (t.create id) := by
  unfold Sheet.create
  rw [hst.grid]
  split_ifs
  · exact hst.fail _
  · exact ⟨rfl, rfl, rfl, hst.listeners, hst.limit, hst.unlimited, hst.entries⟩

theorem Shortened.edit (hst : Shortened n s t) (id : CellId) (input : String) :
    Alike n (s.edit id input) (t.edit id input) := by
  cases hcell : t.grid.get? id with
  | none =>
    rw [edit_of_none hcell, edit_of_none (hst.grid ▸ hcell)]
    exact hst.fail _
  | some cell =>
    by_cases hf : cell.formula = Formula.normalize input
    · rw [edit_of_formula_eq hcell hf, edit_of_formula_eq (hst.grid ▸ hcell) hf]
      exact ⟨rfl, rfl, hst⟩
    · rw [edit_of_formula_ne hcell hf, edit_of_formula_ne (hst.grid ▸ hcell) hf, hst.grid]
      exact (hst.push _).finish _ _

/-- An undo answers that there is nothing to undo, and does not on another sheet. -/
def RunsOutBefore (s t : Sheet) (op : Operation) : Prop :=
  op = .undo ∧ s.undo.answer = .error .emptyHistory ∧ t.undo.answer ≠ .error .emptyHistory

theorem Shortened.undo (hst : Shortened n s t) (hnot : ¬ s.RunsOutBefore t .undo) :
    Alike n s.undo t.undo := by
  cases hpop : s.history.pop? with
  | none =>
    have hempty : s.undo.answer = .error .emptyHistory := by rw [undo_of_empty hpop, Sheet.fail]
    cases hpop' : t.history.pop? with
    | none =>
      rw [undo_of_empty hpop, undo_of_empty hpop']
      exact hst.fail _
    | some entry =>
      refine absurd ⟨rfl, hempty, ?_⟩ hnot
      obtain ⟨e, k⟩ := entry
      cases hcell : t.grid.get? e.id with
      | none => simp [undo_of_none hpop' hcell, Sheet.fail]
      | some cell => simp [undo_of_get? hpop' hcell, Sheet.finish]
  | some entry =>
    obtain ⟨e, h⟩ := entry
    obtain ⟨k, hpop', hst'⟩ := hst.pop hpop
    cases hcell : t.grid.get? e.id with
    | none =>
      rw [undo_of_none hpop (hst.grid ▸ hcell), undo_of_none hpop' hcell]
      exact hst'.fail _
    | some cell =>
      rw [undo_of_get? hpop (hst.grid ▸ hcell), undo_of_get? hpop' hcell, hst.grid]
      exact hst'.finish _ _

theorem Shortened.recalculate (hst : Shortened n s t) : Alike n s.recalculate t.recalculate := by
  rw [recalculate_eq, recalculate_eq, hst.grid]
  exact hst.finish _ _

theorem Shortened.listen (hst : Shortened n s t) : Alike n s.listen t.listen :=
  ⟨congrArg Except.ok hst.listeners, rfl, hst.grid, congrArg (· + 1) hst.listeners, hst.limit,
    hst.unlimited, hst.entries⟩

/-- An operation does the same on both sheets, unless it is an undo that has an entry to take off
the longer history only. -/
theorem alike_perform (hst : Shortened n s t) (op : Operation) (hnot : ¬ s.RunsOutBefore t op) :
    Alike n (s.perform op) (t.perform op) := by
  cases op with
  | create id => exact (hst.create id).map Answer.cell
  | edit id input => exact (hst.edit id input).map Answer.cells
  | undo => exact (hst.undo hnot).map Answer.cell
  | recalculate => exact hst.recalculate.map Answer.cells
  | listen => exact hst.listen.map Answer.listener

theorem Shortened.createAll (hst : Shortened n s t) {ns : List Nat} {s' t' : Sheet}
    (hs : s.createAll ns = .ok s') (ht : t.createAll ns = .ok t') : Shortened n s' t' := by
  induction ns generalizing s t with
  | nil =>
    cases hs
    cases ht
    exact hst
  | cons i ns ih =>
    simp only [Sheet.createAll] at hs ht
    cases hi : CellId.ofIndex? i with
    | none =>
      simp only [hi] at hs
      cases hs
    | some id =>
      have hcreate := hst.create id
      have hanswer := hcreate.answer
      simp only [hi] at hs ht
      cases hmade : (t.create id).answer with
      | error e =>
        simp only [hmade] at ht
        cases ht
      | ok made =>
        simp only [hanswer, hmade] at hs ht
        exact ih hcreate.sheet hs ht

theorem shortened_ofSettings {cells : Nat} (hs : ofSettings ⟨cells, some n⟩ = .ok s)
    (ht : ofSettings ⟨cells, none⟩ = .ok t) : Shortened n s t := by
  have hempty : Shortened n ⟨∅, .withLimit (some n), 0⟩ ⟨∅, .withLimit none, 0⟩ :=
    ⟨rfl, rfl, rfl, rfl, List.prefix_rfl⟩
  exact hempty.createAll (createAll_of_ofSettings hs) (createAll_of_ofSettings ht)

theorem size_perform_of_rewrites (hlimit : s.history.limit = some n)
    (h : s.Rewrites (.edit id input)) :
    (s.perform (.edit id input)).sheet.history.size = min n (s.history.size + 1) := by
  obtain ⟨cell, hcell, hne⟩ := h.exists_cell
  rw [perform, Outcome.sheet_map, edit_of_formula_ne hcell hne, finish, History.push_size, hlimit]

theorem bounded_history_is_newest_part {cells : Nat} (hs : ofSettings ⟨cells, some n⟩ = .ok s)
    (ht : ofSettings ⟨cells, none⟩ = .ok t)
    (hops : s.AdmitsBeside (fun s t op => ¬ s.RunsOutBefore t op) t ops) :
    List.Forall₂ (Alike n) (s.outcomes ops) (t.outcomes ops) ∧
      ∀ before id input, (s.run before).Rewrites (.edit id input) →
        (s.run (before ++ [.edit id input])).history.size =
          min n ((s.run before).history.size + 1) := by
  have hst := shortened_ofSettings hs ht
  refine ⟨hops.outcomes (fun s t op hnot hst => alike_perform hst op hnot) (fun _ _ h => h.sheet)
    hst, fun before id input hrewrites => ?_⟩
  rw [run_append, run, run]
  exact size_perform_of_rewrites ((limit_run s before).trans hst.limit) hrewrites

/-- The second edit displaces the first one, which cannot be undone then. -/
def displacingEdit : List Operation := [.edit (named 'A') "1", .edit (named 'A') "2", .undo]

instance (s t : Sheet) (op : Operation) : Decidable (s.RunsOutBefore t op) :=
  inferInstanceAs (Decidable (op = .undo ∧ _ ∧ _))

theorem bounded_history_after_displacing_edit :
    (oneCell (some 1)).AdmitsBeside (fun s t op => ¬ s.RunsOutBefore t op) (oneCell none)
        displacingEdit ∧
      List.Forall₂ (Alike 1) ((oneCell (some 1)).outcomes displacingEdit)
        ((oneCell none).outcomes displacingEdit) := by
  have hops : (oneCell (some 1)).AdmitsBeside (fun s t op => ¬ s.RunsOutBefore t op) (oneCell none)
      displacingEdit := by decide +kernel
  exact ⟨hops, (bounded_history_is_newest_part rfl ofSettings_one hops).1⟩

end Sheet
end ReactiveSheet
