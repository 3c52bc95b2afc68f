import ReactiveSheet.Proofs.Grid.Downstream
import ReactiveSheet.Proofs.Grid.Links
import ReactiveSheet.Proofs.Sheet.Run

/-!
The search for the cells downstream of a cell, one round after the other. Main statements: in every
grid the origin and each cell that is found are worked off exactly once, and then the search ends
(`Worklist.exists_leads_downstream`). Where the links are inverse to each other, it finds the other
cells that read the origin, whatever that reads itself (`downstream_is_closure`).
-/

namespace ReactiveSheet.Grid
open Relation
open Sheet (named)

variable {g : Grid} {origin a : CellId} {rest done : List CellId} {found : IdSet}

/-- The search between two rounds: the cells whose observers are still to be found, the next one
first, the cells found so far, and those worked off, in order. -/
structure Worklist where
  pending : List CellId
  found : IdSet
  done : List CellId
deriving DecidableEq

namespace Worklist

variable {w v : Worklist}

def start (origin : CellId) : Worklist := ⟨[origin], ∅, []⟩

/-- One round. The next pending cell is worked off: its observers are found, and get pending if they
are new. The search ends when no cell is pending. -/
def step? (g : Grid) (origin : CellId) : Worklist → Option Worklist
  | ⟨[], _, _⟩ => none
  | ⟨id :: rest, found, done⟩ =>
    let (pending, found) := (g.observers id).toList.foldl (discover origin) (rest, found)
    some ⟨pending, found, done ++ [id]⟩

/-- The search gets from one point to another in some number of rounds. -/
def Leads (g : Grid) (origin : CellId) : Worklist → Worklist → Prop :=
  ReflTransGen fun w v => w.step? g origin = some v

theorem step?_eq_none_iff : w.step? g origin = none ↔ w.pending = [] := by
  obtain ⟨pending, found, done⟩ := w
  cases pending <;> simp [step?]

/-- There is one way to go on only, so that from wherever the search has got it comes to the same
end. -/
theorem Leads.to_end {u : Worklist} (hend : w.step? g origin = none) (hw : u.Leads g origin w)
    (hv : u.Leads g origin v) : v.Leads g origin w := by
  have hunique : Relator.RightUnique fun w v : Worklist => w.step? g origin = some v :=
    fun _ _ _ h h' => Option.some.inj (h.symm.trans h')
  rcases ReflTransGen.total_of_right_unique hunique hv hw with h | h
  · exact h
  · rcases h.cases_head with rfl | ⟨_, hstep, _⟩
    · exact .refl
    · rw [hend] at hstep
      cases hstep

/-- The origin and each cell that is found stand in the worklist once, pending or worked off. -/
structure Once (origin : CellId) (w : Worklist) : Prop where
  nodup : (w.done ++ w.pending).Nodup
  mem_iff : ∀ a, a ∈ w.done ++ w.pending ↔ a = origin ∨ a ∈ w.found

namespace Once

theorem start (origin : CellId) : (Worklist.start origin).Once origin where
  nodup := List.nodup_singleton origin
  mem_iff a := by simp [Worklist.start]

theorem workOff (hw : Once origin ⟨a :: rest, found, done⟩) :
    Once origin ⟨rest, found, done ++ [a]⟩ := by
  have happend : done ++ a :: rest = done ++ [a] ++ rest := List.append_cons ..
  exact ⟨happend ▸ hw.nodup, fun b => happend ▸ hw.mem_iff b⟩

/-- An observer gets pending only when it is found, and the origin is there from the start. -/
theorem discover {acc : List CellId × IdSet} (hw : Once origin ⟨acc.1, acc.2, done⟩) (a : CellId) :
    Once origin ⟨(discover origin acc a).1, (discover origin acc a).2, done⟩ := by
  by_cases ha : a = origin ∨ a ∈ acc.2
  · rwa [discover_old ha]
  · rw [discover_new ha]
    refine ⟨?_, fun b => ?_⟩
    · exact List.nodup_middle.2 (List.nodup_cons.2 ⟨mt (hw.mem_iff a).1 ha, hw.nodup⟩)
    · have hb := hw.mem_iff b
      simp only [List.mem_append, List.mem_cons, IdSet.mem_insert] at hb ⊢
      tauto

theorem foldl_discover (ids : List CellId) {acc : List CellId × IdSet}
    (hw : Once origin ⟨acc.1, acc.2, done⟩) :
    Once origin ⟨(ids.foldl (Grid.discover origin) acc).1,
      (ids.foldl (Grid.discover origin) acc).2, done⟩ := by
  induction ids generalizing acc with
  | nil => exact hw
  | cons a ids ih => exact ih (hw.discover a)

theorem step (hw : w.Once origin) (hstep : w.step? g origin = some v) : v.Once origin := by
  obtain ⟨_ | ⟨a, rest⟩, found, done⟩ := w
  · cases hstep
  · cases hstep
    exact hw.workOff.foldl_discover (g.observers a).toList

theorem of_leads (h : (Worklist.start origin).Leads g origin w) : w.Once origin := by
  induction h with
  | refl => exact .start origin
  | tail _ hstep ih => exact ih.step hstep

theorem length_le (hw : w.Once origin) : w.done.length + w.pending.length ≤ CellId.count := by
  rw [← List.length_append, ← CellId.all_length]
  exact (List.subperm_of_subset hw.nodup fun a _ => CellId.mem_all a).length_le

end Once

/-- Collecting observers with some fuel comes to the same as that many rounds, or as all rounds if
the search ends before. -/
theorem exists_leads_collectObservers (g : Grid) (origin : CellId) (fuel : Nat) (w : Worklist) :
    ∃ v, w.Leads g origin v ∧ v.found = collectObservers g origin fuel w.pending w.found ∧
      (v.pending = [] ∨ v.done.length = w.done.length + fuel) := by
  induction fuel generalizing w with
  | zero => exact ⟨w, .refl, rfl, .inr rfl⟩
  | succ fuel ih =>
    obtain ⟨_ | ⟨a, rest⟩, found, done⟩ := w
    · exact ⟨_, .refl, rfl, .inl rfl⟩
    · obtain ⟨v, hleads, hfound, hend⟩ := ih ⟨_, _, done ++ [a]⟩
      refine ⟨v, .head rfl hleads, hfound, hend.imp_right fun hlength => ?_⟩
      calc v.done.length
        _ = (done ++ [a]).length + fuel := hlength
        _ = done.length + (fuel + 1) := by rw [List.length_append, List.length_singleton]; omega

/-- In every grid, whatever its links are, the search comes to an end. It has worked off the origin
and each cell found exactly once by then. -/
theorem exists_leads_downstream (g : Grid) (origin : CellId) :
    ∃ w, (start origin).Leads g origin w ∧ w.step? g origin = none ∧
      w.found = g.downstream origin ∧ w.done.Nodup ∧
      ∀ a, a ∈ w.done ↔ a = origin ∨ a ∈ g.downstream origin := by
  obtain ⟨w, hleads, hfound, hend⟩ :=
    exists_leads_collectObservers g origin CellId.count (start origin)
  have honce : w.Once origin := .of_leads hleads
  -- The fuel is the number of names, so that nothing can be pending once it is used up.
  have hpending : w.pending = [] := by
    refine hend.elim id fun hlength => List.eq_nil_of_length_eq_zero ?_
    have hle := honce.length_le
    rw [hlength] at hle
    omega
  have hdone : w.done ++ w.pending = w.done := by rw [hpending, List.append_nil]
  refine ⟨w, hleads, step?_eq_none_iff.2 hpending, hfound, hdone ▸ honce.nodup, fun a => ?_⟩
  have hmem := honce.mem_iff a
  rwa [hdone, hfound] at hmem

end Worklist

/-- In a grid whose links are inverse to each other and end at cells, the search for the cells
downstream of a cell comes to an end, whatever cycles there are and whether or not the origin is on
one. What it finds are exactly the cells other than the origin that get to it by one or more steps
from a cell to a subject. They are the same in every other such grid where all cells but the origin
have the same subjects. -/
theorem downstream_is_closure (hg : g.Linked) (origin : CellId) :
    (∃ w, (Worklist.start origin).Leads g origin w ∧ w.step? g origin = none ∧
      w.found = g.downstream origin ∧
      ∀ v, (Worklist.start origin).Leads g origin v → v.Leads g origin w) ∧
    (∀ a, a ∈ g.downstream origin ↔
      g.contains a = true ∧ a ≠ origin ∧ TransGen g.Reads a origin) ∧
    ∀ h : Grid, h.Linked → (∀ a, a ≠ origin → h.subjects a = g.subjects a) →
      h.downstream origin = g.downstream origin := by
  refine ⟨?_, fun a => ⟨fun ha => ?_, fun ha => ?_⟩, fun h hh hs => hh.downstream_eq hg hs⟩
  · obtain ⟨w, hleads, hend, hfound, _⟩ := Worklist.exists_leads_downstream g origin
    exact ⟨w, hleads, hend, hfound, fun v hv => .to_end hend hleads hv⟩
  · exact ⟨contains_of_mem_downstream hg ha, (mem_downstream_iff hg).1 ha⟩
  · exact (mem_downstream_iff hg).2 ha.2

/-- `A` and `B` read each other, `C` reads `B`, `D` reads itself and `C`, and `E` reads nothing. -/
def besideTwoCycles : Grid :=
  (((((∅ : Grid).insert (named 'A')
      ⟨"B", .initial, .ofList [named 'B'], .ofList [named 'B']⟩).insert (named 'B')
      ⟨"A", .initial, .ofList [named 'A'], .ofList [named 'A', named 'C']⟩).insert (named 'C')
      ⟨"B", .initial, .ofList [named 'B'], .ofList [named 'D']⟩).insert (named 'D')
      ⟨"C D +", .initial, .ofList [named 'C', named 'D'], .ofList [named 'D']⟩).insert (named 'E')
      .fresh

/-- With `E` as the only subject of `A`, the same cells are downstream of it. -/
theorem closure_beside_two_cycles :
    besideTwoCycles.Linked ∧ besideTwoCycles.OnCycle (named 'A') ∧
      besideTwoCycles.OnCycle (named 'D') ∧
      (besideTwoCycles.downstream (named 'A')).toList = [named 'B', named 'C', named 'D'] ∧
      TransGen besideTwoCycles.Reads (named 'D') (named 'A') ∧
      (∃ w, (Worklist.start (named 'A')).Leads besideTwoCycles (named 'A') w ∧
        w.step? besideTwoCycles (named 'A') = none ∧
        w.found = besideTwoCycles.downstream (named 'A')) ∧
      (besideTwoCycles.rewire (named 'A') (.ofList [named 'E'])).downstream (named 'A') =
        besideTwoCycles.downstream (named 'A') := by
  have hlinked : besideTwoCycles.Linked := linksConsistent_iff.1 (by decide +kernel)
  have hA : besideTwoCycles.contains (named 'A') = true := by decide +kernel
  have hE : ∀ s ∈ IdSet.ofList [named 'E'], besideTwoCycles.contains s = true := by
    intro s hs
    obtain rfl := List.mem_singleton.1 (IdSet.mem_ofList.1 hs)
    decide +kernel
  obtain ⟨⟨w, hleads, hend, hfound, _⟩, hmem, hsame⟩ := downstream_is_closure hlinked (named 'A')
  have honCycle : besideTwoCycles.OnCycle (named 'A') :=
    .tail (b := named 'B') (.single (by decide +kernel)) (by decide +kernel)
  refine ⟨hlinked, honCycle, .single (by decide +kernel), by decide +kernel, ?_,
    ⟨w, hleads, hend, hfound⟩, ?_⟩
  · exact ((hmem (named 'D')).1 (by decide +kernel)).2.2
  · refine hsame _ (linked_rewire hlinked hA hE) fun a ha => ?_
    rw [subjects_rewire hA, if_neg ha]

end ReactiveSheet.Grid
