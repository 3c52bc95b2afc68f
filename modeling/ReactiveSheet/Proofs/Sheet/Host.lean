import ReactiveSheet.Proofs.Sheet.Notifications

/-!
Hosts that keep a copy of what cells show and overwrite it as they are told. Main statements: a call
is made to every listener for each reported cell, in order (`filter_calls`), and so the copy of a
host is current after every operation of a run (`hosts_stay_current`).
-/

namespace ReactiveSheet

/-- A copy after some calls, of which those to the listener count. -/
def receive (n : Nat) (copy : CellId → Option CellView) (calls : List Call) :
    CellId → Option CellView :=
  (calls.filter (·.listener = n)).foldl
    (fun copy c => Function.update copy c.view.id (some c.view)) copy

theorem filter_range_eq {n k : Nat} (hn : n < k) : (List.range k).filter (· = n) = [n] := by
  have hcount : (List.range k).count n = 1 :=
    List.count_eq_one_of_mem List.nodup_range (List.mem_range.2 hn)
  rw [List.filter_eq, hcount, List.replicate_one]

namespace Sheet

variable {s : Sheet} {n : Nat} {ids : List CellId} {copy : CellId → Option CellView}

/-- What a sheet shows of a cell, if there is one. -/
def shown (s : Sheet) (a : CellId) : Option CellView := (s.view a).toOption

theorem shown_eq (s : Sheet) : s.shown = s.grid.view? := by
  funext a
  unfold shown view cell Grid.view?
  cases s.grid.get? a <;> rfl

theorem calls_cons_of_none {id : CellId} (hview : s.grid.view? id = none) (ids : List CellId) :
    s.calls (id :: ids) = s.calls ids := by
  simp only [calls, List.flatMap_cons, hview, List.nil_append]

theorem calls_cons_of_some {id : CellId} {view : CellView} (hview : s.grid.view? id = some view)
    (ids : List CellId) :
    s.calls (id :: ids) = (List.range s.listeners).map (⟨·, view⟩) ++ s.calls ids := by
  simp only [calls, List.flatMap_cons, hview]

theorem filter_calls (hn : n < s.listeners) (ids : List CellId) :
    (s.calls ids).filter (·.listener = n) = (ids.filterMap s.grid.view?).map (⟨n, ·⟩) := by
  induction ids with
  | nil => rfl
  | cons id ids ih =>
    cases hview : s.grid.view? id with
    | none => rw [calls_cons_of_none hview, List.filterMap_cons_none hview, ih]
    | some view =>
      have hone := filter_range_eq hn
      rw [calls_cons_of_some hview, List.filter_append, ih, List.filterMap_cons_some hview,
        List.filter_map]
      simp only [Function.comp_def, hone, List.map_cons, List.map_nil, List.singleton_append]

/-- Each listener is called for the reported cells, in order. -/
theorem map_id_filter_calls (hn : n < s.listeners) (hk : ∀ a ∈ ids, s.grid.contains a = true) :
    ((s.calls ids).filter (·.listener = n)).map (·.view.id) = ids := by
  rw [filter_calls hn, List.map_map]
  induction ids with
  | nil => rfl
  | cons id ids ih =>
    obtain ⟨view, hview, hid⟩ := Grid.exists_view? (hk id List.mem_cons_self)
    have hrest := ih fun a ha => hk a (List.mem_cons_of_mem id ha)
    rw [List.filterMap_cons_some hview, List.map_cons, hrest]
    simp only [Function.comp_def, hid]

theorem receive_calls (hn : n < s.listeners) (hk : ∀ a ∈ ids, s.grid.contains a = true)
    (a : CellId) :
    receive n copy (s.calls ids) a = if a ∈ ids then s.grid.view? a else copy a := by
  rw [receive, filter_calls hn, List.foldl_map]
  -- Entries may be overwritten more than once, but always with what the sheet shows at the end.
  induction ids generalizing copy with
  | nil => rfl
  | cons id ids ih =>
    obtain ⟨view, hview, hid⟩ := Grid.exists_view? (hk id List.mem_cons_self)
    rw [List.filterMap_cons_some hview, List.foldl_cons,
      ih fun a ha => hk a (List.mem_cons_of_mem id ha)]
    by_cases hmem : a ∈ ids
    · rw [if_pos hmem, if_pos (List.mem_cons_of_mem id hmem)]
    · by_cases ha : a = id
      · subst ha
        rw [if_neg hmem, if_pos List.mem_cons_self, hid, Function.update_self, hview]
      · have hcons : a ∉ id :: ids := by simp [ha, hmem]
        rw [if_neg hmem, if_neg hcons, hid, Function.update_of_ne ha]

/-- A copy with an entry for the cell that an operation creates. -/
def extend (copy : CellId → Option CellView) (s : Sheet) : Operation → CellId → Option CellView
  | .create id =>
    match (s.create id).answer with
    | .ok id => Function.update copy id (some (Cell.fresh.view id))
    | .error _ => copy
  | .edit _ _ | .undo | .recalculate | .listen => copy

/-- The copy of a host after a run, which the host takes from the calls that it gets. -/
def follow (n : Nat) (copy : CellId → Option CellView) (s : Sheet) :
    List Operation → CellId → Option CellView
  | [] => copy
  | op :: ops =>
    let o := s.perform op
    follow n (receive n (extend copy s op) o.calls) o.sheet ops

theorem extend_view? (s : Sheet) (op : Operation) :
    extend s.grid.view? s op = (s.created op).view? := by
  cases op with
  | create id =>
    by_cases hid : s.grid.contains id = true
    · simp only [extend, created, create, if_pos hid, fail]
    · simp only [extend, created, create, if_neg hid]
      funext a
      rw [Function.update_apply]
      simp only [Grid.view?, Grid.get?_insert]
      split_ifs with ha
      · rw [ha]
        rfl
      · rfl
  | edit | undo | recalculate | listen => rfl

theorem listeners_le_perform (s : Sheet) (op : Operation) :
    s.listeners ≤ (s.perform op).sheet.listeners := by
  cases op with
  | create id =>
    rw [perform, Outcome.sheet_map, sheet_create]
    split_ifs <;> exact le_rfl
  | edit id input =>
    rw [perform, Outcome.sheet_map]
    rcases s.edit_cases id input with h | ⟨cell, _, _, h⟩ <;> rw [h]
  | undo =>
    rw [perform, Outcome.sheet_map]
    rcases s.undo_cases with ⟨_, h⟩ | ⟨snapshot, history, _, ⟨_, h⟩ | ⟨cell, _, h⟩⟩ <;> rw [h]
  | recalculate => rw [perform, Outcome.sheet_map, sheet_recalculate]
  | listen => exact Nat.le_succ s.listeners

/-- What a host is told makes a copy current that was so before the operation. -/
theorem receive_perform (hs : s.Sound) (hn : n < s.listeners) (op : Operation) :
    receive n (extend s.grid.view? s op) (s.perform op).calls =
      (s.perform op).sheet.grid.view? := by
  obtain ⟨ids, hids⟩ := announces_perform hs op
  have hn' : n < (s.perform op).sheet.listeners := hn.trans_le (listeners_le_perform s op)
  funext a
  rw [hids.calls, receive_calls hn' hids.reports.contains, extend_view?]
  split_ifs with ha
  · rfl
  · exact (hids.reports.unchanged a ha).symm

theorem follow_view? (hs : s.Sound) (hn : n < s.listeners) (ops : List Operation) :
    follow n s.grid.view? s ops = (s.run ops).grid.view? := by
  induction ops generalizing s with
  | nil => rfl
  | cons op ops ih =>
    have hn' : n < (s.perform op).sheet.listeners := hn.trans_le (listeners_le_perform s op)
    rw [follow, receive_perform hs hn op, ih (sound_perform hs op) hn', run]

theorem hosts_stay_current (hs : s.Initial) :
    (∀ before n, (s.run before).listen.answer = .ok n → ∀ after,
      follow n (s.run before).shown (s.run before).listen.sheet after =
        ((s.run before).listen.sheet.run after).shown) ∧
      ∀ ops op, ∃ ids : List CellId, ids.Nodup ∧
        (∀ n, n < (s.run ops).listeners →
          (((s.run ops).perform op).calls.filter (·.listener = n)).map (·.view.id) = ids) ∧
        ∀ ids', ((s.run ops).perform op).answer = .ok (.cells ids') → ids' = ids := by
  constructor
  · intro before n hn after
    have hsound := sound_perform (sound_run hs before) .listen
    obtain rfl : (s.run before).listeners = n := Except.ok.inj hn
    rw [shown_eq, shown_eq]
    exact follow_view? hsound (Nat.lt_succ_self _) after
  · intro ops op
    obtain ⟨ids, hids⟩ := announces_perform (sound_run hs ops) op
    refine ⟨ids, hids.reports.nodup, fun n hn => ?_, hids.answer⟩
    rw [hids.calls]
    exact map_id_filter_calls (hn.trans_le (listeners_le_perform _ op)) hids.reports.contains

/-- A cell that is read is created late, and edited and undone. -/
@[irreducible]
def lateCell : List Operation :=
  [.create (named 'D'), .edit (named 'A') "D 1 +", .edit (named 'D') "-0", .edit (named 'D') "2",
    .undo, .undo, .undo, .recalculate]

theorem host_follows_late_cell :
    threeCells.Initial ∧ threeCells.listen.answer = .ok 0 ∧
      follow 0 threeCells.shown threeCells.listen.sheet lateCell =
        (threeCells.listen.sheet.run lateCell).shown :=
  ⟨initial_threeCells, rfl, (hosts_stay_current initial_threeCells).1 [] 0 rfl lateCell⟩

end Sheet
end ReactiveSheet
