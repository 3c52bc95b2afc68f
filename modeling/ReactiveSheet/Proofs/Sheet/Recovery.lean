import ReactiveSheet.Proofs.Sheet.Effects
import ReactiveSheet.Proofs.Sheet.RoundTrip

/-!
Values after an undo, with no recalculation. Main statements: undoing the last edit gives each cell
what it held before, except that the error of a cyclic cell may be another one
(`undo_reverts_edit`), and if edits leave the references of formulas as they are, undoing all of
them does so too (`undos_walk_back`).
-/

namespace ReactiveSheet
open Relation

namespace Grid

variable {g h k u : Grid} {a id : CellId}

/-- A cell holds what it held in a grid if it was not cyclic there, and an error if it was. -/
structure Recovered (g h : Grid) (a : CellId) : Prop where
  value? : ¬ g.Cyclic a → h.value? a = g.value? a
  error : g.Cyclic a → ∃ e, h.value? a = some (.error e)

namespace Recovered

theorem of_value?_eq (hg : g.SettledAt a) (hv : h.value? a = g.value? a) : Recovered g h a :=
  ⟨fun _ => hv, fun hc => hv ▸ (hg.spoiled hc).exists_error⟩

theorem congr (hk : Recovered g k a) (hv : h.value? a = k.value? a) : Recovered g h a :=
  ⟨fun hc => hv.trans (hk.value? hc), fun hc => hv ▸ hk.error hc⟩

theorem trans (hk : Recovered g k a) (hh : Recovered k h a) (hc : k.Cyclic a ↔ g.Cyclic a) :
    Recovered g h a :=
  ⟨fun hn => (hh.value? (mt hc.1 hn)).trans (hk.value? hn), fun hg => hh.error (hc.2 hg)⟩

theorem number (hk : Recovered g h a) (hg : g.SettledAt a) {x : Float}
    (hv : g.value? a = some (.number x)) : h.value? a = some (.number x) := by
  rw [hk.value? fun hc => ?_, hv]
  obtain ⟨e, he⟩ := (hg.spoiled hc).exists_error
  rw [hv] at he
  cases he

theorem exists_error (hk : Recovered g h a) {e : CellError} (hv : g.value? a = some (.error e)) :
    ∃ e', h.value? a = some (.error e') := by
  by_cases hc : g.Cyclic a
  · exact hk.error hc
  · exact ⟨e, (hk.value? hc).trans hv⟩

theorem not_negative_zero (hk : Recovered g h a) (he : g.Exact) :
    h.value? a ≠ some (.number (-0)) := by
  intro hv
  by_cases hc : g.Cyclic a
  · obtain ⟨e, he⟩ := hk.error hc
    rw [hv] at he
    cases he
  · exact he.not_negative_zero a ((hk.value? hc).symm.trans hv)

/-- A cell is recovered if it is computed from cells that are. -/
theorem of_reads (hg : g.Settled) (he : g.Exact) (hk : ∀ b, h.contains b = g.contains b)
    (hf : h.formula? a = g.formula? a) (hs : h.subjects a = g.subjects a) {old : Option CellValue}
    (hsome : old.isSome = g.contains a) (hold : old ≠ some (.number (-0)))
    (hv : h.value? a = old.map (·.revised (h.compute a)))
    (hreads : ∀ s, g.Reads a s → Recovered g h s) : Recovered g h a := by
  cases old with
  | none =>
    have ha : ¬ g.contains a = true := by simp [← hsome]
    refine ⟨fun _ => by rw [hv, value?_eq_none ha, Option.map_none], fun hc => ?_⟩
    obtain ⟨s, has, _⟩ := hc.exists_reads
    exact absurd (contains_of_reads has) ha
  | some old =>
    rw [Option.map_some] at hv
    refine ⟨fun hc => ?_, fun hc => ?_⟩
    · have hcompute : h.compute a = g.compute a :=
        (hg.tracked.covered a).compute_eq hk hf hs fun s has =>
          (hreads s has).value? fun hcs => hc (.of_reads has hcs)
      obtain ⟨v, hval⟩ := exists_value? hsome.symm
      obtain rfl : v = g.compute a := he.eq_compute a hc v hval
      have hne : g.compute a ≠ .number (-0) := fun hneg =>
        he.not_negative_zero a (hneg ▸ hval)
      rw [hv, hcompute, hval,
        CellValue.revised_eq_of_ne_negative_zero (fun hneg => hold (congrArg some hneg)) hne]
    · obtain ⟨s, has, hcs⟩ := hc.exists_reads
      obtain ⟨e, hse⟩ := (hreads s has).error hcs
      have hread : h.Reads a s := (congrArg (s ∈ ·) hs).mpr has
      rcases h.compute_cases a with ⟨_, e', _, _, hcompute⟩ | ⟨hnone, _⟩
      · exact ⟨e', by rw [hv, hcompute, CellValue.revised_error]⟩
      · exact absurd hse (hnone s e hread)

end Recovered

/-- Apart from one cell and the cells behind it, a grid has the formulas and the links of another
one, and its cells are recovered. -/
structure SameBeside (g u : Grid) (id : CellId) : Prop where
  linked : u.Linked
  formula? : ∀ a, a ≠ id → u.formula? a = g.formula? a
  subjects : ∀ a, a ≠ id → u.subjects a = g.subjects a
  recovered : ∀ a, ¬ ReflTransGen g.Reads a id → Recovered g u a
  noNegativeZero : u.NoNegativeZero

/-- What happens elsewhere than in the one cell may be recovered later on, with the same links. -/
theorem SameBeside.of_recovered (hk : SameBeside g k id) (hk' : k.Exact) (hu : u.Linked)
    (hf : u.formula? = k.formula?) (hsub : ∀ a, k.subjects a = g.subjects a)
    (hsub' : ∀ a, u.subjects a = k.subjects a) (hrec : ∀ a, Recovered k u a) :
    SameBeside g u id where
  linked := hu
  formula? a ha := by rw [hf, hk.formula? a ha]
  subjects a _ := (hsub' a).trans (hsub a)
  recovered a ha := by
    refine (hk.recovered a ha).trans (hrec a) ?_
    rw [cyclic_eq hsub]
  noNegativeZero a := (hrec a).not_negative_zero hk'

/-- The one cell has its formula and its value back, and maybe other links. -/
structure Reverted (g k : Grid) (id : CellId) : Prop extends SameBeside g k id where
  formula?_eq : k.formula? id = g.formula? id
  value?_eq : k.value? id = g.value? id

namespace Reverted

variable (hk : Reverted g k id) (hg : g.Settled)

include hk

theorem formulas (a : CellId) : k.formula? a = g.formula? a := by
  by_cases ha : a = id
  · rw [ha, hk.formula?_eq]
  · exact hk.formula? a ha

/-- The cells behind the one cell are the same ones, since what that cell reads does not matter to
them. -/
theorem mem_downstream_iff_reads (ha : a ≠ id) :
    a ∈ k.downstream id ↔ ReflTransGen g.Reads a id := by
  rw [reflTransGen_origin_iff hk.subjects, reflTransGen_reads_iff hk.linked]
  exact (or_iff_right ha).symm

theorem subjects_of_mem_downstream (ha : a ∈ k.downstream id) : k.subjects a = g.subjects a :=
  hk.subjects a ((mem_downstream_iff hk.linked).1 ha).1

/-- A cycle behind the one cell does not pass by it, so that it is no new one. -/
theorem cyclic_of_leadsToCycle (ha : LeadsToCycle (k.ReadsWithin (k.downstream id)) a) :
    g.Cyclic a := by
  refine ha.mono fun b c hbc => ?_
  have hread := hbc.2.2
  rwa [Reads, hk.subjects_of_mem_downstream hbc.1] at hread

include hg

theorem covered_of_mem_downstream (ha : a ∈ k.downstream id) : k.Covered a := by
  intro f hf r hr hkr
  rw [Reads, hk.subjects_of_mem_downstream ha]
  rw [hk.formulas] at hf
  exact hg.tracked.covered a f hf r hr ((contains_eq hk.formulas r).symm.trans hkr)

theorem recovered_of_not_mem_downstream (ha : a ∉ k.downstream id) : Recovered g k a := by
  by_cases hid : a = id
  · subst hid
    exact .of_value?_eq (hg.settledAt a) hk.value?_eq
  · exact hk.recovered a (mt (hk.mem_downstream_iff_reads hid).2 ha)

theorem recovered_of_recomputed (he : g.Exact) (hr : k.Recomputed (k.downstream id) h)
    (a : CellId) : Recovered g h a := by
  obtain ⟨hshape, hframe, hstuck, hturned⟩ := hr
  have hcontains : ∀ b, h.contains b = g.contains b := fun b =>
    (hshape.contains b).trans (contains_eq hk.formulas b)
  have hout : ∀ b, b ∉ k.downstream id → Recovered g h b := fun b hb =>
    (hk.recovered_of_not_mem_downstream hg hb).congr (hframe b hb)
  by_cases ha : a ∈ k.downstream id
  · by_cases hc : LeadsToCycle (k.ReadsWithin (k.downstream id)) a
    · have hcyclic := hk.cyclic_of_leadsToCycle hc
      obtain ⟨s, has, _⟩ := hcyclic.exists_reads
      have hka := (contains_eq hk.formulas a).trans (contains_of_reads has)
      exact ⟨fun hn => absurd hcyclic hn, fun _ => ⟨_, hstuck a hc hka⟩⟩
    · -- What the cell reads is computed before it, or not at all.
      refine LeadsToCycle.not_induction
        (P := fun a => a ∈ k.downstream id → Recovered g h a) ?_ hc ha
      intro a hc ih ha
      have hsub := hk.subjects_of_mem_downstream ha
      refine .of_reads hg he hcontains ((hshape.formula? a).trans (hk.formulas a))
        ((hshape.subjects a).trans hsub) ?_ (hk.noNegativeZero a)
        (hturned a ha hc (hk.covered_of_mem_downstream hg ha)) ?_
      · rw [isSome_value?, contains_eq hk.formulas]
      · intro s has
        by_cases hs : s ∈ k.downstream id
        · exact ih s ⟨ha, hs, (congrArg (s ∈ ·) hsub).mpr has⟩ hs
        · exact hout s hs
  · exact hout a ha

end Reverted
end Grid

namespace Sheet

variable {s d u : Sheet} {g k : Grid} {a id : CellId} {formula input : String} {cell now : Cell}
  {before ops : List Operation}

section Undo

variable (hk : Grid.SameBeside g k id) (hcell : g.get? id = some cell)
  (hnow : k.get? id = some now)

include hk hcell hnow

theorem reverted_restored (hg : g.NoNegativeZero) :
    Grid.Reverted g (restored k (cell.snapshot id)) id := by
  have hformula : (restored k (cell.snapshot id)).formula? =
      Function.update k.formula? id (some cell.formula) := formula?_restored hnow
  have hvalue : ∀ a, (restored k (cell.snapshot id)).value? a =
      if a = id then some cell.value else k.value? a := value?_restored hnow
  refine ⟨⟨linked_restored hk.linked _, fun a ha => ?_, fun a ha => ?_, fun a ha => ?_,
    fun a => ?_⟩, ?_, ?_⟩
  · rw [hformula, Function.update_of_ne ha, hk.formula? a ha]
  · rw [subjects_restored, hk.subjects a ha]
  · have hne : a ≠ id := by
      rintro rfl
      exact ha .refl
    refine (hk.recovered a ha).congr ?_
    rw [hvalue, if_neg hne]
  · rw [hvalue]
    split_ifs
    · rw [← Grid.value?_of_get? hcell]
      exact hg id
    · exact hk.noNegativeZero a
  · rw [hformula, Function.update_self, Grid.formula?_of_get? hcell]
  · rw [hvalue, if_pos rfl, Grid.value?_of_get? hcell]

theorem recovered_undoPass (hg : g.Settled) (he : g.Exact) (a : CellId) :
    g.Recovered (undoPass k now (cell.snapshot id)).grid a :=
  (reverted_restored hk hcell hnow he.not_negative_zero).recovered_of_recomputed hg he
    (undoPass_recomputed hk.linked now (cell.snapshot id)) a

end Undo

theorem sameBeside_editPass (hg : g.Settled) (hid : g.contains id = true)
    (hz : (editPass g id formula).grid.NoNegativeZero) :
    g.SameBeside (editPass g id formula).grid id := by
  have hsub : ∀ a, a ≠ id → (reformulate g id formula).subjects a = g.subjects a := by
    intro a ha
    rw [subjects_reformulate hid, if_neg ha]
  refine ⟨linked_editPass hg.linked hid formula, fun a ha => ?_, fun a ha => ?_, fun a ha => ?_, hz⟩
  · rw [formula?_editPass hg.linked hid, Function.update_of_ne ha]
  · rw [(editPass_edited hg.linked hid).shape.subjects, hsub a ha]
  · rw [Grid.reflTransGen_origin_iff hsub] at ha
    exact .of_value?_eq (hg.settledAt a)
      ((undisturbed_editPass hg.linked hg.tracked hid ha).value? a .refl)

/-- A grid has the formulas of another one, the numbers in the cells that hold numbers there, and an
error in each cell that holds one there. -/
structure Reinstated (g h : Grid) : Prop where
  formula? : ∀ a, h.formula? a = g.formula? a
  number : ∀ a x, g.value? a = some (.number x) → h.value? a = some (.number x)
  error : ∀ a e, g.value? a = some (.error e) → ∃ e', h.value? a = some (.error e')

theorem reinstated_of_recovered {h : Grid} (hg : g.Settled) (hf : h.formula? = g.formula?)
    (hh : ∀ a, g.Recovered h a) : Reinstated g h where
  formula? := congrFun hf
  number a _ := (hh a).number (hg.settledAt a)
  error a _ := (hh a).exists_error

theorem undo_reverts_edit (hs : s.Initial) (hops : s.Admits KeepsTrack ops)
    (hedit : (s.run ops).Rewrites (.edit id input))
    (hz : s.Admits AvoidsNegativeZero (ops ++ [.edit id input])) :
    (s.run (ops ++ [.edit id input])).undo.answer = .ok id ∧
      Reinstated (s.run ops).grid (s.run (ops ++ [.edit id input])).undo.sheet.grid ∧
      (s.run (ops ++ [.edit id input])).undo.sheet.grid.value? id = (s.run ops).grid.value? id ∧
      (s.run (ops ++ [.edit id input])).undo.sheet.history.size =
        match (s.run ops).history.limit with
        | some limit => min (s.run ops).history.size (limit - 1)
        | none => (s.run ops).history.size := by
  obtain ⟨hz, hzedit, _⟩ := admits_append.1 hz
  have hg := settled_run hs hops
  have he := exact_run hs hops hz
  have hready := ready_one_run hs ops
  obtain ⟨cell, hcell, hne⟩ := hedit.exists_cell
  rw [run_append, run, run]
  generalize s.run ops = d at *
  have hafter : (d.perform (.edit id input)).sheet.grid.Exact := exact_perform trivial hzedit hg he
  -- Nothing follows the edit, so that its entry is the newest one.
  have hback := (hready.of_succ.perform (.edit id input)).retraced
  have hformula := (hback.undo hcell hne hready).formula?
  obtain ⟨now, hnow, hundo⟩ := hback.undo_eq hcell hne hready
  have hbeside : d.grid.SameBeside (d.perform (.edit id input)).sheet.grid id := by
    rw [sheet_edit hcell hne] at hafter ⊢
    exact sameBeside_editPass hg (Grid.contains_of_get? hcell) hafter.not_negative_zero
  rw [sheet_perform_undo, hundo] at hformula
  rw [hundo]
  refine ⟨rfl, reinstated_of_recovered hg hformula ?_, ?_, History.size_beneath d.history 1⟩
  · exact recovered_undoPass hbeside hcell hnow hg he
  · rw [Grid.value?_of_get? hcell]
    exact value?_undoPass_self hbeside.linked hnow

/-- A chain that its last cell can close. -/
def openChain : List Operation := [.edit (named 'A') "B 1 +", .edit (named 'B') "C"]

def chained : Sheet where
  grid :=
    (((∅ : Grid).insert (named 'A') ⟨"B 1 +", .number 1, .ofList [named 'B'], ∅⟩).insert (named 'B')
      ⟨"C", .number 0, .ofList [named 'C'], .ofList [named 'A']⟩).insert (named 'C')
      ⟨"0.0", .number 0, ∅, .ofList [named 'B']⟩
  history := ⟨[⟨named 'B', "0.0", .number 0⟩, ⟨named 'A', "0.0", .number 0⟩], none⟩
  listeners := 0

theorem run_openChain : threeCells.run openChain = chained := by decide +kernel

theorem value?_openChain :
    (threeCells.run openChain).grid.value? (named 'A') = some (.number 1) := by
  rw [run_openChain]
  decide +kernel

theorem keepsTrack_openChain : threeCells.Admits KeepsTrack openChain := ⟨trivial, trivial, trivial⟩

theorem avoidsNegativeZero_openChain : threeCells.Admits AvoidsNegativeZero openChain := by
  decide +kernel

theorem undo_reopens_chain :
    threeCells.Initial ∧ threeCells.Admits KeepsTrack openChain ∧
      (threeCells.run openChain).Rewrites (.edit (named 'C') "A") ∧
      threeCells.Admits AvoidsNegativeZero (openChain ++ [.edit (named 'C') "A"]) ∧
      (threeCells.run (openChain ++ [.edit (named 'C') "A"])).grid.value? (named 'A') =
        some (.error .cyclicDependency) ∧
      (threeCells.run (openChain ++ [.edit (named 'C') "A"])).undo.sheet.grid.value? (named 'A') =
        some (.number 1) := by
  have hedit : (threeCells.run openChain).Rewrites (.edit (named 'C') "A") := by
    rw [run_openChain]
    decide +kernel
  have hz : threeCells.Admits AvoidsNegativeZero (openChain ++ [.edit (named 'C') "A"]) := by
    rw [admits_append, run_openChain]
    exact ⟨avoidsNegativeZero_openChain, by decide +kernel⟩
  have hclosed : (threeCells.run (openChain ++ [.edit (named 'C') "A"])).grid.value? (named 'A') =
      some (.error .cyclicDependency) := by
    rw [run_append, run_openChain]
    decide +kernel
  have h := undo_reverts_edit initial_threeCells keepsTrack_openChain hedit hz
  exact ⟨initial_threeCells, keepsTrack_openChain, hedit, hz, hclosed,
    h.2.1.number _ _ value?_openChain⟩

/-- An edit that an undo can take back and that leaves the cell with the references that it has. -/
def RewritesInPlace (s : Sheet) : Operation → Prop
  | .edit id input =>
    s.Rewrites (.edit id input) ∧
      (s.grid.formula? id).map s.grid.resolve = some (s.grid.resolve (Formula.normalize input))
  | .create _ | .undo | .recalculate | .listen => False

instance (s : Sheet) (op : Operation) : Decidable (s.RewritesInPlace op) :=
  match op with
  | .edit id input => inferInstanceAs (Decidable (s.Rewrites (.edit id input) ∧
      (s.grid.formula? id).map s.grid.resolve = some (s.grid.resolve (Formula.normalize input))))
  | .create _ | .undo | .recalculate | .listen => inferInstanceAs (Decidable False)

theorem RewritesInPlace.rewrites {op : Operation} (h : s.RewritesInPlace op) : s.Rewrites op := by
  cases op with
  | edit id input => exact h.1
  | create id => exact h.elim
  | undo => exact h.elim
  | recalculate => exact h.elim
  | listen => exact h.elim

/-- An edit in place changes no link. -/
theorem subjects_editPass_of_resolve (hg : g.Settled) (hcell : g.get? id = some cell)
    (hresolve : g.resolve cell.formula = g.resolve formula) (a : CellId) :
    (editPass g id formula).grid.subjects a = g.subjects a := by
  have hid := Grid.contains_of_get? hcell
  rw [(editPass_edited hg.linked hid).shape.subjects, subjects_reformulate hid]
  split_ifs with ha
  · rw [ha, hg.tracked id cell.formula (Grid.formula?_of_get? hcell), hresolve]
  · rfl

/-- What comes back from edits in place is like the grid before the first edit apart from the edited
cell, and the undo of that edit sees to the rest. -/
theorem RoundTrip.recovered
    (trip : RoundTrip (fun s op => op ≠ .undo → s.RewritesInPlace op ∧ s.AvoidsNegativeZero op)
      d ops u)
    (hg : d.grid.Settled) (he : d.grid.Exact) (hd : d.Ready (edited ops).length) :
    (∀ a, u.grid.subjects a = d.grid.subjects a) ∧ ∀ a, d.grid.Recovered u.grid a := by
  induction trip with
  | stay => exact ⟨fun _ => rfl, fun a => .of_value?_eq (hg.settledAt a) rfl⟩
  | recalculate hop => exact (hop nofun).1.elim
  | @edit d u ops id input cell hcell hne hop trip _ ih =>
    obtain ⟨⟨_, hresolve⟩, hz⟩ := hop nofun
    rw [Grid.formula?_of_get? hcell] at hresolve
    have hid := Grid.contains_of_get? hcell
    have hg' := settled_perform (.edit id input) trivial hg
    have he' : (d.perform (.edit id input)).sheet.grid.Exact := exact_perform trivial hz hg he
    have hd' := hd.of_succ.perform (.edit id input)
    obtain ⟨hsub, hrec⟩ := ih hg' he' hd'
    have hback := trip.retraced hd'
    obtain ⟨now, hnow, hundo⟩ := hback.undo_eq hcell hne hd
    have hformula := hback.formula?
    rw [sheet_edit hcell hne] at hformula hsub hrec he'
    have hkept := subjects_editPass_of_resolve hg hcell (Option.some.inj hresolve)
    -- All links stay, so that the same cells are cyclic before the edit and after it.
    have hbeside := (sameBeside_editPass hg hid he'.not_negative_zero).of_recovered he'
      hback.linked hformula hkept hsub hrec
    rw [perform, Outcome.sheet_map, hundo, finish]
    refine ⟨fun a => ?_, recovered_undoPass hbeside hcell hnow hg he⟩
    rw [(undoPass_recomputed hback.linked now (cell.snapshot id)).shape.subjects,
      subjects_restored, hsub, hkept]

theorem undos_walk_back (hs : s.Initial) (hbefore : s.Admits KeepsTrack before)
    (hops : (s.run before).Admits RewritesInPlace ops)
    (hroom : (s.run before).history.HasRoom (edited ops).length)
    (hz : s.Admits AvoidsNegativeZero (before ++ ops)) :
    (((s.run before).run ops).outcomes (undos ops)).map Outcome.answer =
        (edited ops).reverse.map (fun id => .ok (.cell id)) ∧
      Reinstated (s.run before).grid ((s.run before).run (ops ++ undos ops)).grid ∧
      (∀ a, ((s.run before).run (ops ++ undos ops)).grid.subjects a =
        (s.run before).grid.subjects a) ∧
      ∀ a, ((s.run before).run (ops ++ undos ops)).grid.observers a =
        (s.run before).grid.observers a := by
  obtain ⟨hz, hzops⟩ := admits_append.1 hz
  have hg := settled_run hs hbefore
  have he := exact_run hs hbefore hz
  have hready := ready_run hs before hroom
  have trip := RoundTrip.of_admits_edits (hops.mono fun _ _ h => h.rewrites) (hops.and hzops)
  have hback := trip.retraced hready
  obtain ⟨hsub, hrec⟩ := trip.recovered hg he hready
  exact ⟨trip.answers hready, reinstated_of_recovered hg hback.formula? hrec, hsub,
    hback.linked.observers_eq hg.linked hsub⟩

/-- Edits along the chain, the last of which leaves an error in all of it. -/
def editsInPlace : List Operation := [.edit (named 'A') "B 3 *", .edit (named 'C') "1 0 /"]

theorem undos_walk_back_along_chain :
    threeCells.Initial ∧ threeCells.Admits KeepsTrack openChain ∧
      (threeCells.run openChain).Admits RewritesInPlace editsInPlace ∧
      (threeCells.run openChain).history.HasRoom (edited editsInPlace).length ∧
      threeCells.Admits AvoidsNegativeZero (openChain ++ editsInPlace) ∧
      ((threeCells.run openChain).run editsInPlace).grid.value? (named 'A') =
        some (.error .divisionByZero) ∧
      ((threeCells.run openChain).run (editsInPlace ++ undos editsInPlace)).grid.value?
        (named 'A') = some (.number 1) := by
  have hops : (threeCells.run openChain).Admits RewritesInPlace editsInPlace := by
    rw [run_openChain]
    decide +kernel
  have hroom : (threeCells.run openChain).history.HasRoom (edited editsInPlace).length := by
    rw [run_openChain]
    decide
  have hz : threeCells.Admits AvoidsNegativeZero (openChain ++ editsInPlace) := by
    rw [admits_append, run_openChain]
    exact ⟨avoidsNegativeZero_openChain, by decide +kernel⟩
  have hfailed : ((threeCells.run openChain).run editsInPlace).grid.value? (named 'A') =
      some (.error .divisionByZero) := by
    rw [run_openChain]
    decide +kernel
  have h := undos_walk_back initial_threeCells keepsTrack_openChain hops hroom hz
  exact ⟨initial_threeCells, keepsTrack_openChain, hops, hroom, hz, hfailed,
    h.2.1.number _ _ value?_openChain⟩

end Sheet
end ReactiveSheet
