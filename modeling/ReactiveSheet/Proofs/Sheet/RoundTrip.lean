import ReactiveSheet.Proofs.Sheet.History

/-!
Edits that are undone again. Main statements: after as many undos as edits the formulas are what
they were, and so is the history but for old entries that gave way (`RoundTrip.retraced`), and the
undos answer the edited cells, the last one first (`RoundTrip.answers`).
-/

namespace ReactiveSheet

namespace History

variable {h : History} {e : Snapshot} {n : Nat}

/-- The entries that a number of edits add do not push each other out. -/
def HasRoom (h : History) (n : Nat) : Prop := ∀ limit, h.limit = some limit → n ≤ limit

instance (h : History) (n : Nat) : Decidable (h.HasRoom n) :=
  decidable_of_iff (∀ limit ∈ h.limit, n ≤ limit) Iff.rfl

/-- There are no more entries than the limit allows. -/
def Bounded (h : History) : Prop := keep h.limit h.entries = h.entries

/-- What is left of a history after a number of new entries came and went. -/
def beneath (h : History) (n : Nat) : History :=
  { h with entries := keep (h.limit.map (· - n)) h.entries }

theorem HasRoom.of_succ (hn : h.HasRoom (n + 1)) : h.HasRoom n := fun limit hlimit =>
  Nat.le_of_succ_le (hn limit hlimit)

theorem bounded_push (h : History) (e : Snapshot) : (h.push e).Bounded := by
  obtain ⟨entries, limit⟩ := h
  cases limit with
  | none => rfl
  | some n => simp only [Bounded, push, keep, List.take_take, min_self]

theorem Bounded.pop {rest : History} (hb : h.Bounded) (hpop : h.pop? = some (e, rest)) :
    rest.Bounded := by
  obtain ⟨hentries, hlimit⟩ := pop?_eq_some_iff.1 hpop
  rw [Bounded, hentries] at hb
  rw [Bounded, hlimit]
  cases hl : h.limit with
  | none => rfl
  | some n =>
    simp only [hl, keep, List.take_eq_self_iff, List.length_cons] at hb ⊢
    omega

/-- The oldest entry gives way to a new one only if there are as many as the limit allows. -/
theorem entries_push (hb : h.Bounded) (hn : h.HasRoom 1) (e : Snapshot) :
    (h.push e).entries =
      e :: if h.limit = some h.size then h.entries.dropLast else h.entries := by
  obtain ⟨entries, limit⟩ := h
  cases limit with
  | none => simp [push, keep]
  | some limit =>
    obtain ⟨m, rfl⟩ := Nat.exists_eq_add_of_le' (hn limit rfl)
    simp only [Bounded, keep, List.take_eq_self_iff] at hb
    simp only [push, keep, List.take_succ_cons, size, Option.some.injEq]
    split_ifs with hfull
    · simp [List.dropLast_eq_take, ← hfull]
    · rw [List.take_of_length_le (by omega)]

theorem beneath_zero (hb : h.Bounded) : h.beneath 0 = h := by
  obtain ⟨entries, limit⟩ := h
  cases limit with
  | none => rfl
  | some n => exact congrArg (History.mk · (some n)) hb

theorem size_beneath (h : History) (n : Nat) :
    (h.beneath n).size = match h.limit with
      | some limit => min h.size (limit - n)
      | none => h.size := by
  unfold beneath size keep
  cases h.limit with
  | none => rfl
  | some limit => simp only [Option.map_some, List.length_take, min_comm]

/-- The newest entry is beneath those that came and went after it, if there was room for all. -/
theorem pop?_beneath_push (hn : h.HasRoom (n + 1)) (e : Snapshot) :
    ((h.push e).beneath n).pop? = some (e, h.beneath (n + 1)) := by
  obtain ⟨entries, limit⟩ := h
  cases limit with
  | none => rfl
  | some limit =>
    obtain ⟨m, rfl⟩ := Nat.exists_eq_add_of_le' (hn limit rfl)
    have hleft : m + (n + 1) - n = m + 1 := by omega
    have hkept : min (m + 1) (m + (n + 1)) = m + 1 := by omega
    simp only [beneath, push, keep, Option.map_some, hleft, List.take_take, hkept,
      List.take_succ_cons, pop?, Nat.add_sub_cancel]

end History

namespace Sheet

variable {s d u : Sheet} {id : CellId} {input : String} {cell : Cell} {ops : List Operation}
  {n : Nat} {allowed : Sheet → Operation → Prop}

/-- What an operation makes of the history: it adds an entry, takes the newest one off, or leaves it
as it is. -/
theorem history_cases (s : Sheet) (op : Operation) :
    (s.perform op).sheet.history = s.history ∨
      (∃ e, (s.perform op).sheet.history = s.history.push e) ∨
      ∃ e, s.history.pop? = some (e, (s.perform op).sheet.history) := by
  cases op with
  | create id =>
    rw [perform, Outcome.sheet_map, sheet_create]
    split_ifs <;> exact .inl rfl
  | edit id input =>
    rw [perform, Outcome.sheet_map]
    rcases s.edit_cases id input with h | ⟨cell, _, _, h⟩
    · rw [h]
      exact .inl rfl
    · rw [h]
      exact .inr (.inl ⟨_, rfl⟩)
  | undo =>
    rw [perform, Outcome.sheet_map]
    rcases s.undo_cases with ⟨_, h⟩ | ⟨snapshot, history, hpop, ⟨_, h⟩ | ⟨cell, _, h⟩⟩
    · rw [h]
      exact .inl rfl
    · rw [h]
      exact .inr (.inr ⟨snapshot, hpop⟩)
    · rw [h]
      exact .inr (.inr ⟨snapshot, hpop⟩)
  | recalculate =>
    rw [perform, Outcome.sheet_map, sheet_recalculate]
    exact .inl rfl
  | listen => exact .inl rfl

theorem bounded_perform (hs : s.history.Bounded) (op : Operation) :
    (s.perform op).sheet.history.Bounded := by
  rcases s.history_cases op with h | ⟨e, h⟩ | ⟨e, hpop⟩
  · rwa [h]
  · rw [h]
    exact History.bounded_push s.history e
  · exact hs.pop hpop

theorem bounded_run (hs : s.Initial) (ops : List Operation) : (s.run ops).history.Bounded := by
  refine run_induction (P := fun s => s.history.Bounded) (fun _ op h => bounded_perform h op) ?_ ops
  rw [History.Bounded, hs.entries_eq_nil]
  cases s.history.limit with
  | none => rfl
  | some n => exact List.take_nil

theorem limit_perform (s : Sheet) (op : Operation) :
    (s.perform op).sheet.history.limit = s.history.limit := by
  rcases s.history_cases op with h | ⟨e, h⟩ | ⟨e, hpop⟩
  · rw [h]
  · rw [h, History.push]
  · exact (History.pop?_eq_some_iff.1 hpop).2

theorem limit_run (s : Sheet) (ops : List Operation) :
    (s.run ops).history.limit = s.history.limit :=
  run_induction (P := fun t => t.history.limit = s.history.limit)
    (fun t op ht => (limit_perform t op).trans ht) rfl ops

/-- A sheet in which a number of edits can be made and undone. -/
structure Ready (d : Sheet) (n : Nat) : Prop where
  linked : d.grid.Linked
  bounded : d.history.Bounded
  hasRoom : d.history.HasRoom n

theorem Ready.of_succ (hd : d.Ready (n + 1)) : d.Ready n :=
  ⟨hd.linked, hd.bounded, hd.hasRoom.of_succ⟩

theorem Ready.perform (hd : d.Ready n) (op : Operation) : (d.perform op).sheet.Ready n where
  linked := linked_perform hd.linked op
  bounded := bounded_perform hd.bounded op
  hasRoom := by
    rw [History.HasRoom, limit_perform]
    exact hd.hasRoom

theorem ready_run (hs : s.Initial) (ops : List Operation) (hn : (s.run ops).history.HasRoom n) :
    (s.run ops).Ready n := ⟨linked_run hs ops, bounded_run hs ops, hn⟩

/-- A limit that is not positive is refused. -/
theorem Initial.hasRoom_one (hs : s.Initial) : s.history.HasRoom 1 := by
  intro limit hlimit
  rcases hs with rfl | ⟨settings, hs⟩
  · cases hlimit
  · unfold ofSettings Settings.validate at hs
    cases hfault : settings.fault? with
    | some e =>
      rw [hfault] at hs
      cases hs
    | none =>
      rw [hfault] at hs
      rw [history_createAll hs] at hlimit
      have hne := (Settings.fault?_eq_none_iff.1 hfault).2
      refine Nat.pos_of_ne_zero ?_
      rintro rfl
      exact hne hlimit

theorem ready_one_run (hs : s.Initial) (ops : List Operation) : (s.run ops).Ready 1 := by
  refine ready_run hs ops ?_
  rw [History.HasRoom, limit_run]
  exact hs.hasRoom_one

/-- The operations that an undo can take back, and recalculations. -/
def Rewrites (s : Sheet) : Operation → Prop
  | .edit id input =>
    s.grid.contains id = true ∧ s.grid.formula? id ≠ some (Formula.normalize input)
  | .recalculate => True
  | .create _ | .undo | .listen => False

instance (s : Sheet) (op : Operation) : Decidable (s.Rewrites op) :=
  match op with
  | .edit id input => inferInstanceAs (Decidable (s.grid.contains id = true ∧
      s.grid.formula? id ≠ some (Formula.normalize input)))
  | .recalculate => inferInstanceAs (Decidable True)
  | .create _ | .undo | .listen => inferInstanceAs (Decidable False)

theorem Rewrites.exists_cell (h : s.Rewrites (.edit id input)) :
    ∃ cell, s.grid.get? id = some cell ∧ cell.formula ≠ Formula.normalize input := by
  obtain ⟨hid, hne⟩ := h
  obtain ⟨cell, hcell⟩ := Grid.exists_get? hid
  rw [Grid.formula?_of_get? hcell] at hne
  exact ⟨cell, hcell, fun hf => hne (congrArg some hf)⟩

/-- No other edit does anything. -/
theorem sheet_edit_of_not_rewrites (h : ¬ s.Rewrites (.edit id input)) :
    (s.perform (.edit id input)).sheet = s := by
  rw [perform, Outcome.sheet_map]
  refine (s.edit_cases id input).resolve_right ?_
  rintro ⟨cell, hcell, hne, _⟩
  exact h ⟨Grid.contains_of_get? hcell, Grid.formula?_ne_of_get? hcell hne⟩

/-- The cells that are edited, in order. -/
def edited : List Operation → List CellId
  | [] => []
  | .edit id _ :: ops => id :: edited ops
  | .create _ :: ops | .undo :: ops | .recalculate :: ops | .listen :: ops => edited ops

/-- As many undos as there are edits. -/
def undos (ops : List Operation) : List Operation := List.replicate (edited ops).length .undo

theorem undos_recalculate (ops : List Operation) : undos (.recalculate :: ops) = undos ops := rfl

theorem undos_edit (id : CellId) (input : String) (ops : List Operation) :
    undos (.edit id input :: ops) = undos ops ++ [.undo] := List.replicate_succ'

/-- A sheet comes back from another one: edits and recalculations are made there, each in the way
that is allowed, and the edits are undone. The undo of an edit comes after all that follows it. -/
inductive RoundTrip (allowed : Sheet → Operation → Prop) : Sheet → List Operation → Sheet → Prop
  | stay {d : Sheet} : RoundTrip allowed d [] d
  | recalculate {d u : Sheet} {ops : List Operation} (hd : allowed d .recalculate)
      (trip : RoundTrip allowed (d.perform .recalculate).sheet ops u) :
      RoundTrip allowed d (.recalculate :: ops) u
  | edit {d u : Sheet} {ops : List Operation} {id : CellId} {input : String} {cell : Cell}
      (hcell : d.grid.get? id = some cell) (hne : cell.formula ≠ Formula.normalize input)
      (hd : allowed d (.edit id input))
      (trip : RoundTrip allowed (d.perform (.edit id input)).sheet ops u)
      (hu : allowed u .undo) : RoundTrip allowed d (.edit id input :: ops) (u.perform .undo).sheet

/-- A sheet is back, as far as formulas and history go, after a number of edits were undone. -/
structure Retraced (d u : Sheet) (n : Nat) : Prop where
  linked : u.grid.Linked
  formula? : u.grid.formula? = d.grid.formula?
  history : u.history = d.history.beneath n

theorem Ready.retraced (hd : d.Ready 0) : Retraced d d 0 :=
  ⟨hd.linked, rfl, (History.beneath_zero hd.bounded).symm⟩

section Edit

variable (hcell : d.grid.get? id = some cell) (hne : cell.formula ≠ Formula.normalize input)

include hcell hne

theorem sheet_edit :
    (d.perform (.edit id input)).sheet =
      { d with
        grid := (editPass d.grid id (Formula.normalize input)).grid
        history := d.history.push (cell.snapshot id) } := by
  rw [perform, edit_of_formula_ne hcell hne]
  rfl

variable (h : Retraced (d.perform (.edit id input)).sheet u n) (hd : d.Ready (n + 1))

include h hd

/-- Once all that followed an edit is undone, what the edited cell was is the newest entry. -/
theorem Retraced.pop? :
    u.history.pop? = some (cell.snapshot id, d.history.beneath (n + 1)) ∧
      ∃ now, u.grid.get? id = some now := by
  obtain ⟨_, hformula, hhistory⟩ := h
  rw [sheet_edit hcell hne] at hformula hhistory
  have hf : u.grid.formula? id = some (Formula.normalize input) := by
    rw [hformula, formula?_editPass hd.linked (Grid.contains_of_get? hcell), Function.update_self]
  exact ⟨by rw [hhistory, History.pop?_beneath_push hd.hasRoom],
    Grid.exists_get? (Grid.contains_of_formula? hf)⟩

theorem Retraced.undo_eq : ∃ now, u.grid.get? id = some now ∧
    u.undo = finish { u with history := d.history.beneath (n + 1) }
      (undoPass u.grid now (cell.snapshot id)) id := by
  obtain ⟨hpop, now, hnow⟩ := h.pop? hcell hne hd
  exact ⟨now, hnow, undo_of_get? hpop hnow⟩

theorem Retraced.undo : Retraced d (u.perform .undo).sheet (n + 1) := by
  obtain ⟨now, hnow, hundo⟩ := h.undo_eq hcell hne hd
  have hformula := h.formula?
  rw [sheet_edit hcell hne, formula?_editPass hd.linked (Grid.contains_of_get? hcell)] at hformula
  rw [perform, Outcome.sheet_map, hundo, finish]
  refine ⟨linked_undoPass h.linked now (cell.snapshot id), ?_, rfl⟩
  have hrestored : (undoPass u.grid now (cell.snapshot id)).grid.formula? =
      Function.update u.grid.formula? id (some cell.formula) := formula?_undoPass h.linked hnow
  -- The old formula replaces the new one, and it is the one that the cell had before.
  rw [hrestored, hformula, Function.update_idem, ← Grid.formula?_of_get? hcell,
    Function.update_eq_self]

end Edit

namespace RoundTrip

theorem of_admits (hops : d.Admits Rewrites ops) (hall : d.Admits allowed (ops ++ undos ops)) :
    RoundTrip allowed d ops (d.run (ops ++ undos ops)) := by
  induction ops generalizing d with
  | nil => exact .stay
  | cons op ops ih =>
    obtain ⟨hop, hops⟩ := hops
    cases op with
    | edit id input =>
      obtain ⟨cell, hcell, hne⟩ := hop.exists_cell
      rw [undos_edit, List.cons_append, ← List.append_assoc] at hall ⊢
      obtain ⟨hd, hall⟩ := hall
      obtain ⟨hall, hu, _⟩ := admits_append.1 hall
      rw [run, run_append]
      exact .edit hcell hne hd (ih hops hall) hu
    | recalculate =>
      rw [undos_recalculate, List.cons_append] at hall ⊢
      rw [run]
      exact .recalculate hall.1 (ih hops hall.2)
    | create id => exact hop.elim
    | undo => exact hop.elim
    | listen => exact hop.elim

/-- What is allowed of the edits says nothing of the undos. -/
theorem of_admits_edits (hops : d.Admits Rewrites ops) (hall : d.Admits allowed ops) :
    RoundTrip (fun s op => op ≠ .undo → allowed s op) d ops (d.run (ops ++ undos ops)) := by
  refine .of_admits hops (admits_append.2 ⟨hall.mono fun _ _ hop _ => hop, ?_⟩)
  exact admits_of_forall_mem fun _ hop _ hne => absurd (List.eq_of_mem_replicate hop) hne

theorem eq_run (trip : RoundTrip allowed d ops u) : u = (d.run ops).run (undos ops) := by
  induction trip with
  | stay => rfl
  | recalculate _ _ ih => rwa [undos_recalculate, run]
  | edit _ _ _ _ _ ih => rw [undos_edit, run, run_append, ← ih, run, run]

/-- Back from the edits, with room for all of them, formulas and history are what they were. -/
theorem retraced (trip : RoundTrip allowed d ops u) (hd : d.Ready (edited ops).length) :
    Retraced d u (edited ops).length := by
  induction trip with
  | stay => exact hd.retraced
  | @recalculate d u ops _ _ ih =>
    obtain ⟨hlinked, hformula, hhistory⟩ := ih (hd.perform .recalculate)
    rw [perform, Outcome.sheet_map, sheet_recalculate] at hformula hhistory
    have hkept := (recalculatePass_refreshed hd.linked).formula?
    exact ⟨hlinked, hformula.trans (funext hkept), hhistory⟩
  | edit hcell hne _ _ _ ih => exact (ih (hd.of_succ.perform _)).undo hcell hne hd

theorem answers (trip : RoundTrip allowed d ops u) (hd : d.Ready (edited ops).length) :
    ((d.run ops).outcomes (undos ops)).map Outcome.answer =
      (edited ops).reverse.map fun id => .ok (.cell id) := by
  induction trip with
  | stay => rfl
  | recalculate _ _ ih =>
    rw [undos_recalculate, run]
    exact ih (hd.perform _)
  | @edit d u ops id input cell hcell hne _ trip _ ih =>
    have hd' := hd.of_succ.perform (.edit id input)
    obtain ⟨now, _, hundo⟩ := (trip.retraced hd').undo_eq hcell hne hd
    have hanswer : (u.perform .undo).answer = .ok (.cell id) := by
      rw [perform, hundo]
      rfl
    rw [undos_edit, outcomes_append, List.map_append, run, ← trip.eq_run, ih hd', edited,
      List.reverse_cons, List.map_append]
    exact congrArg (_ ++ [·]) hanswer

end RoundTrip
end Sheet
end ReactiveSheet
