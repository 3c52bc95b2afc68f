import ReactiveSheet.Proofs.Sheet.Recalculate

/-!
Values in runs without undo. Main statements: an edit leaves all cells settled if they were
(`settled_editPass`), and so all cells are settled after every such run (`settled_run`): a cell that
is not cyclic holds what is computed for it, and a cyclic one holds an error.
-/

namespace ReactiveSheet.Sheet
open Relation

variable {s : Sheet} {g h k : Grid} {a o id : CellId} {formula : String} {ops : List Operation}

theorem tracked_reformulate (hg : g.Tracked) (hid : g.contains id = true) :
    (reformulate g id formula).Tracked := by
  intro a f hf
  have hresolve : (reformulate g id formula).resolve f = g.resolve f := by
    ext r
    rw [Grid.mem_resolve, Grid.mem_resolve, contains_reformulate hid]
  rw [formula?_reformulate hid] at hf
  rw [hresolve, subjects_reformulate hid]
  split_ifs at hf ⊢ with ha
  · rw [Option.some.inj hf]
  · exact hg a f hf

/-- An edit does not reach the cells that do not read the edited one with its new formula. -/
theorem undisturbed_editPass (hl : g.Linked) (hg : g.Tracked) (hid : g.contains id = true)
    (ha : ¬ ReflTransGen (reformulate g id formula).Reads a id) :
    g.Undisturbed (editPass g id formula).grid a := by
  have he : Edited _ id (editPass g id formula).grid := editPass_edited hl hid
  have hsub : ∀ b, b ≠ id → g.subjects b = (reformulate g id formula).subjects b := by
    intro b hb
    rw [subjects_reformulate hid, if_neg hb]
  have hpath : ∀ b, ReflTransGen g.Reads a b →
      b ≠ id ∧ ¬ ReflTransGen (reformulate g id formula).Reads b id := by
    intro b hab
    rw [← Grid.reflTransGen_iff_of_not_reads hsub ha] at hab
    refine ⟨?_, fun hb => ha (hab.trans hb)⟩
    rintro rfl
    exact ha hab
  have hvalue : ∀ b, ReflTransGen g.Reads a b →
      (editPass g id formula).grid.value? b = g.value? b := by
    intro b hab
    rw [he.frame b (hpath b hab).2, value?_reformulate]
  have hsubjects : ∀ b, ReflTransGen g.Reads a b →
      (editPass g id formula).grid.subjects b = g.subjects b := by
    intro b hab
    rw [he.shape.subjects, hsub b (hpath b hab).1]
  refine ⟨hsubjects, hvalue, ?_⟩
  refine (hg.covered a).compute_eq (fun b => ?_) ?_ (hsubjects a .refl) fun b hab => ?_
  · rw [he.shape.contains, contains_reformulate hid]
  · rw [he.shape.formula?, formula?_reformulate hid, if_neg (hpath a .refl).1]
  · exact hvalue b (.single hab)

namespace Edited

variable (he : Edited k o h) (hk : k.Tracked)
  (hout : ∀ a, ¬ ReflTransGen k.Reads a o → h.SettledAt a)

include he hk hout

/-- The edited cell is marked if it is on a cycle. If not, nothing that it reads is recomputed. -/
theorem settledAt_origin : h.SettledAt o := by
  by_cases hc : k.OnCycle o
  · refine .of_marked ?_ (he.origin_marked hc)
    rw [he.shape.cyclic]
    exact hc.cyclic
  · have hu := Grid.upToDate_of_revised (he.origin_computed (hk.covered o) hc)
    refine .of_reads hu fun s hs => ?_
    rw [he.shape.reads] at hs
    exact hout s fun hso => hc (TransGen.head' hs hso)

/-- A cell behind the edited one is marked if it leads to a cycle without passing by the edited one.
If not, what it reads is settled before it. -/
theorem settledAt_of_mem_downstream (hl : k.Linked) (ha : a ∈ k.downstream o) : h.SettledAt a := by
  by_cases hc : LeadsToCycle (k.ReadsWithin (k.downstream o)) a
  · refine .of_marked ?_ (he.stuck a hc)
    rw [he.shape.cyclic]
    exact hc.mono fun _ _ hab => hab.2.2
  · refine LeadsToCycle.not_induction (P := fun a => a ∈ k.downstream o → h.SettledAt a) ?_ hc ha
    intro a hc ih ha
    refine .of_reads (Grid.upToDate_of_revised (he.turned a ha hc (hk.covered a))) fun s hs => ?_
    rw [he.shape.reads] at hs
    by_cases hso : ReflTransGen k.Reads s o
    · rcases (Grid.reflTransGen_reads_iff hl).1 hso with rfl | hsd
      · exact he.settledAt_origin hk hout
      · exact ih s ⟨ha, hsd, hs⟩ hsd
    · exact hout s hso

theorem settled (hl : k.Linked) : h.Settled := by
  refine ⟨he.shape.linked hl, fun a f hf => ?_, fun a => ?_⟩
  · rw [he.shape.formula?] at hf
    rw [he.shape.subjects, hk a f hf, Grid.resolve_eq he.shape.formula?]
  · by_cases ha : ReflTransGen k.Reads a o
    · rcases (Grid.reflTransGen_reads_iff hl).1 ha with rfl | ha
      · exact he.settledAt_origin hk hout
      · exact he.settledAt_of_mem_downstream hk hout hl ha
    · exact hout a ha

end Edited

theorem settled_editPass (hg : g.Settled) (hid : g.contains id = true) (formula : String) :
    (editPass g id formula).grid.Settled :=
  (editPass_edited hg.linked hid).settled (tracked_reformulate hg.tracked hid)
    (fun a ha => (hg.settledAt a).congr (undisturbed_editPass hg.linked hg.tracked hid ha))
    (linked_reformulate hid hg.linked)

/-- The operations that keep links and formulas together: not undo, which leaves the links of the
newer formula, and new cells only under names that no formula refers to. -/
def KeepsTrack (s : Sheet) : Operation → Prop
  | .create id => ∀ a f, s.grid.formula? a = some f → id ∉ Formula.references f
  | .undo => False
  | .edit _ _ | .recalculate | .listen => True

instance (s : Sheet) (op : Operation) : Decidable (s.KeepsTrack op) :=
  match op with
  | .create id =>
    decidable_of_iff (∀ a ∈ CellId.all, ∀ f ∈ s.grid.formula? a, id ∉ Formula.references f)
      ⟨fun h a f hf => h a (CellId.mem_all a) f hf, fun h a _ f hf => h a f hf⟩
  | .undo => inferInstanceAs (Decidable False)
  | .edit _ _ | .recalculate | .listen => inferInstanceAs (Decidable True)

theorem settled_perform (op : Operation) (hop : s.KeepsTrack op) (hs : s.grid.Settled) :
    (s.perform op).sheet.grid.Settled := by
  cases op with
  | create id =>
    rw [perform, Outcome.sheet_map, sheet_create]
    split_ifs with hid
    · exact hs
    · exact .insert_fresh hid hop hs
  | edit id input =>
    rw [perform, Outcome.sheet_map]
    rcases s.edit_cases id input with h | ⟨cell, hcell, _, h⟩
    · rwa [h]
    · rw [h]
      exact settled_editPass hs (Grid.contains_of_get? hcell) (Formula.normalize input)
  | undo => exact hop.elim
  | recalculate =>
    rw [perform, Outcome.sheet_map, sheet_recalculate]
    exact (recalculatePass_refreshed hs.linked).settled
  | listen =>
    rw [perform, Outcome.sheet_map]
    exact hs

theorem settled_run (hs : s.Initial) (hops : s.Admits KeepsTrack ops) : (s.run ops).grid.Settled :=
  hops.run_induction (P := fun s => s.grid.Settled) (fun _ op hop hs => settled_perform op hop hs)
    hs.fresh.settled

theorem no_stale_values (hs : s.Initial) (hops : s.Admits KeepsTrack ops) {a : CellId}
    {v : CellValue} (hv : (s.run ops).grid.value? a = some v) :
    (¬ (s.run ops).grid.Cyclic a → v.Matches ((s.run ops).grid.compute a)) ∧
      ((s.run ops).grid.Cyclic a → v.isError = true) := by
  have hsettled := (settled_run hs hops).settledAt a
  refine ⟨fun ha => hsettled.upToDate ha v hv, fun ha => ?_⟩
  obtain ⟨e, he⟩ := (hsettled.spoiled ha).exists_error
  exact CellValue.isError_iff.2 ⟨e, Option.some.inj (hv.symm.trans he)⟩

/-- A cell that is read is edited again, after a cell was created and another one put on a cycle. -/
@[irreducible]
def editUpstream : List Operation :=
  [.edit (named 'A') "2", .edit (named 'B') "A 1 +", .edit (named 'C') "C B *",
    .create (named 'D'), .edit (named 'A') "5"]

theorem not_stale_after_edit_upstream :
    threeCells.Initial ∧ threeCells.Admits KeepsTrack editUpstream ∧
      (threeCells.run editUpstream).grid.value? (named 'B') = some (.number 6) ∧
      (¬ (threeCells.run editUpstream).grid.Cyclic (named 'B') →
        CellValue.Matches (.number 6)
          ((threeCells.run editUpstream).grid.compute (named 'B'))) := by
  have hops : threeCells.Admits KeepsTrack editUpstream := by decide +kernel
  have hv : (threeCells.run editUpstream).grid.value? (named 'B') = some (.number 6) := by
    decide +kernel
  exact ⟨initial_threeCells, hops, hv, (no_stale_values initial_threeCells hops hv).1⟩

end ReactiveSheet.Sheet
