import ReactiveSheet.Proofs.Grid.Changes
import ReactiveSheet.Proofs.Sheet.Run

/-!
Recomputation without counters. The plain procedure looks through all the cells that are left
whenever it needs the next one. Main statement: a pass gives the same values in the same order, and
so reports the same cells, and none before a changed one that it reads (`recompute_by_rescanning`).
-/

namespace ReactiveSheet.Grid
open Sheet (named)

variable {g h : Grid} {left rest : IdSet} {order : List CellId} {a b : CellId} {p : Pass}
  {as : List (CellId × CellValue)}

/-- The first of the cells that are left none of whose subjects is left. -/
def firstFree? (g : Grid) (left : IdSet) : Option CellId :=
  left.toList.find? fun a => (g.subjects a).toList.all (· ∉ left)

theorem mem_of_firstFree? (ha : g.firstFree? left = some a) : a ∈ left :=
  IdSet.mem_toList.1 (List.mem_of_find?_eq_some ha)

theorem size_erase_firstFree? (ha : g.firstFree? left = some a) :
    (left.erase a).size < left.size := by
  have := IdSet.size_erase (mem_of_firstFree? ha)
  omega

/-- As long as one of the cells that are left reads none of them, the first such cell is computed
and all the others are looked through again. The values computed, in order, and the cells that are
left in the end. -/
def rescan (g : Grid) (left : IdSet) : List (CellId × CellValue) × IdSet :=
  match _h : g.firstFree? left with
  | none => ([], left)
  | some a =>
    let (turns, rest) := rescan (g.store a (g.compute a)) (left.erase a)
    ((a, g.compute a) :: turns, rest)
termination_by left.size
decreasing_by exact size_erase_firstFree? _h

theorem firstFree?_eq (g : Grid) (left : IdSet) : g.firstFree? left = (g.free left).first? := by
  have hfree : ∀ a, a ∈ g.free left ↔
      decide (a ∈ left) = true ∧ ((g.subjects a).toList.all fun s => s ∉ left) = true := by
    intro a
    rw [mem_free, List.all_eq_true]
    simp [Reads]
  rw [firstFree?, IdSet.toList, List.find?_filter, IdSet.first?]
  simp only [hfree]

theorem SameShape.firstFree? (hg : h.SameShape g) (left : IdSet) :
    h.firstFree? left = g.firstFree? left := by
  simp only [Grid.firstFree?, hg.subjects]

/-- Cells taking turns are computed as the plain procedure does. -/
theorem Turns.rescan_eq (ht : g.Turns left order rest) (hg : h.SameShape g) :
    h.rescan left = (h.computed order, rest) := by
  induction ht generalizing h with
  | stop hnone =>
    rw [rescan]
    split
    · rfl
    · rename_i a ha
      rw [hg.firstFree?, firstFree?_eq, hnone, IdSet.first?_eq_none_iff.2 rfl] at ha
      cases ha
  | @next left rest order a hfirst later ih =>
    have hnext : h.firstFree? left = some a := by rw [hg.firstFree?, firstFree?_eq, hfirst]
    rw [rescan]
    split
    · rename_i hnone
      rw [hnone] at hnext
      cases hnext
    · rename_i b hb
      obtain rfl := Option.some.inj (hb.symm.trans hnext)
      rw [ih ((sameShape_store ..).trans hg), computed]

/-- What a cell reads within the set has its turn before. -/
theorem Turns.mem_of_reads (ht : g.Turns left order rest) {before after : List CellId}
    (horder : order = before ++ b :: after) (hb : g.Reads b a) (ha : a ∈ left) : a ∈ before := by
  induction ht generalizing before with
  | stop => simp at horder
  | @next left rest order c hfirst later ih =>
    cases before with
    | nil =>
      obtain ⟨rfl, _⟩ := List.cons.inj horder
      exact absurd ha ((mem_free.1 (IdSet.first?_mem hfirst)).2 a hb)
    | cons d before =>
      obtain ⟨rfl, hlater⟩ := List.cons.inj horder
      by_cases hac : a = c
      · simp [hac]
      · exact List.mem_cons_of_mem c (ih hlater (IdSet.mem_erase.2 ⟨hac, ha⟩))

namespace Pass

/-- The cells for which a list has a value that compares as different from the one held. -/
def reported (p : Pass) (as : List (CellId × CellValue)) : List CellId :=
  (as.filter fun c => p.grid.differs c.1 c.2).map Prod.fst

theorem reported_append (p : Pass) (as bs : List (CellId × CellValue)) :
    p.reported (as ++ bs) = p.reported as ++ p.reported bs := by
  simp [reported]

theorem reported_subset (p : Pass) (as : List (CellId × CellValue)) :
    p.reported as ⊆ as.map Prod.fst :=
  List.map_subset _ (List.filter_subset_self as)

/-- If no cell is given two values, the value held when a cell is given its own is that of the
beginning. -/
theorem reported_assign {c : CellId × CellValue} (hc : c.1 ∉ as.map Prod.fst) :
    (p.assign c.1 c.2).reported as = p.reported as := by
  have hdiffers : ∀ d ∈ as, (p.assign c.1 c.2).grid.differs d.1 d.2 = p.grid.differs d.1 d.2 := by
    intro d hd
    have hne : d.1 ≠ c.1 := fun heq => hc (heq ▸ List.mem_map_of_mem hd)
    rw [differs_eq, differs_eq, value?_assign_of_ne hne]
  rw [reported, reported, List.filter_congr hdiffers]

theorem changed_assign_eq (p : Pass) (c : CellId × CellValue) :
    (p.assign c.1 c.2).changed = p.changed ++ (p.reported [c]).filter (· ∉ p.changed) := by
  by_cases hd : p.grid.differs c.1 c.2 = true
  · by_cases hc : c.1 ∈ p.changed <;> simp [assign, note, reported, hd, hc]
  · simp [assign, reported, hd]

/-- If no cell is given two values, the cells noted are those whose value compares as different. -/
theorem changed_assignAll (hn : (as.map Prod.fst).Nodup) :
    (p.assignAll as).changed = p.changed ++ (p.reported as).filter (· ∉ p.changed) := by
  induction as generalizing p with
  | nil => simp [assignAll, reported]
  | cons c as ih =>
    obtain ⟨hc, hn⟩ := List.nodup_cons.1 hn
    have hcons : p.reported (c :: as) = p.reported [c] ++ p.reported as := p.reported_append [c] as
    have hlater : (p.reported as).filter (· ∉ (p.assign c.1 c.2).changed) =
        (p.reported as).filter (· ∉ p.changed) := by
      refine List.filter_congr fun a ha => ?_
      have hne : a ≠ c.1 := fun heq => hc (heq ▸ p.reported_subset as ha)
      simp [mem_changed_assign, hne]
    rw [assignAll_cons, ih hn, reported_assign hc, hlater, changed_assign_eq, hcons,
      List.filter_append, List.append_assoc]

theorem mem_changed_assignAll (hn : (as.map Prod.fst).Nodup) :
    a ∈ (p.assignAll as).changed ↔ a ∈ p.changed ∨ a ∈ p.reported as := by
  rw [changed_assignAll hn, List.mem_append, List.mem_filter, decide_eq_true_eq]
  tauto

/-- What a pass had noted stays in front, and nothing of it is noted again. -/
theorem exists_changed_recompute (hg : p.grid.Linked) (affected : IdSet) :
    ∃ others, (p.recompute affected).changed = p.changed ++ others ∧
      ∀ a ∈ others, a ∉ p.changed := by
  rw [recompute_eq, changed_assignAll (nodup_assignments hg affected)]
  refine ⟨_, rfl, fun a ha => ?_⟩
  simpa using (List.mem_filter.1 ha).2

/-- What is noted of the values up to one of them stands before its cell. -/
theorem changed_assignAll_split {c : CellId × CellValue} {bs : List (CellId × CellValue)}
    (hn : ((as ++ c :: bs).map Prod.fst).Nodup) (hc : c.1 ∈ (p.assignAll (as ++ c :: bs)).changed)
    (hnew : c.1 ∉ p.changed) :
    ∃ after, (p.assignAll (as ++ c :: bs)).changed = (p.assignAll as).changed ++ c.1 :: after := by
  have has : (as.map Prod.fst).Nodup := by
    rw [List.map_append] at hn
    exact hn.of_append_left
  have hdiffers : p.grid.differs c.1 c.2 = true := by
    have hmem := ((mem_changed_assignAll hn).1 hc).resolve_left hnew
    obtain ⟨d, hd, hdc⟩ := List.mem_map.1 hmem
    obtain ⟨hd, hdiffers⟩ := List.mem_filter.1 hd
    obtain rfl := List.inj_on_of_nodup_map hn hd (by simp) hdc
    exact hdiffers
  have hcons : p.reported (c :: bs) = c.1 :: p.reported bs := by simp [reported, hdiffers]
  refine ⟨(p.reported bs).filter (· ∉ p.changed), ?_⟩
  rw [changed_assignAll hn, changed_assignAll has, p.reported_append, hcons, List.filter_append,
    List.filter_cons_of_pos (by simpa using hnew), List.append_assoc]

end Pass

/-- If values are given to cells as they take turns, and then to the cells that are left, a cell that
has a turn is noted after the noted cells that it reads. -/
theorem Turns.changed_split (ht : g.Turns left order rest)
    (hkeys : as.map Prod.fst = order ++ rest.toList) (hread : g.Reads b a) (hleft : a ∈ left)
    (ha : a ∈ (p.assignAll as).changed) (hb : b ∈ (p.assignAll as).changed) (hrest : b ∉ rest)
    (hnew : b ∉ p.changed) :
    ∃ before after, (p.assignAll as).changed = before ++ b :: after ∧ a ∈ before ∧ b ∉ before := by
  have hn : (as.map Prod.fst).Nodup := hkeys ▸ ht.nodup_append_rest
  have hturn : b ∈ order := by
    have hreported := ((Pass.mem_changed_assignAll hn).1 hb).resolve_left hnew
    have hmem := p.reported_subset _ hreported
    rw [hkeys, List.mem_append, IdSet.mem_toList] at hmem
    exact hmem.resolve_right hrest
  -- The values are split at that of `b`: the turn of `a` is one of those before.
  obtain ⟨earlier, later, rfl⟩ := List.append_of_mem hturn
  have hearlier : a ∈ earlier := ht.mem_of_reads rfl hread hleft
  rw [List.append_assoc] at hkeys
  obtain ⟨xs, cs, rfl, rfl, hcs⟩ := List.map_eq_append_iff.1 hkeys
  obtain ⟨c, ys, rfl, rfl, _⟩ := List.map_eq_cons_iff.1 hcs
  obtain ⟨after, hafter⟩ := Pass.changed_assignAll_split hn hb hnew
  have hnoted := (Pass.mem_changed_assignAll hn).1 ha
  rw [List.map_append] at hn
  obtain ⟨hxs, _, hdisjoint⟩ := List.nodup_append.1 hn
  refine ⟨_, after, hafter, ?_, ?_⟩
  · rw [p.reported_append, List.mem_append] at hnoted
    rw [Pass.mem_changed_assignAll hxs]
    refine hnoted.imp_right fun hreported => hreported.resolve_right fun hlater => ?_
    exact hdisjoint a hearlier a (p.reported_subset _ hlater) rfl
  · rw [Pass.mem_changed_assignAll hxs, not_or]
    exact ⟨hnew, fun hmem => hdisjoint _ (p.reported_subset xs hmem) _ (by simp) rfl⟩

/-- Links between cells of the grid are there in both directions. -/
def MutuallyInverse (g : Grid) : Prop :=
  ∀ a b, g.contains a = true → g.contains b = true → (b ∈ g.observers a ↔ a ∈ g.subjects b)

theorem MutuallyInverse.inverseWithin (hg : g.MutuallyInverse) {affected : IdSet}
    (haffected : ∀ a ∈ affected, g.contains a = true) : g.InverseWithin affected :=
  fun a ha b hb => hg a b (haffected a ha) (haffected b hb)

/-- The cells whose turn comes are computed and stored one by one, and those left over are marked.
A cell is noted if the value that it is given compares as different from the one that it held, and
then after all such cells that it reads. -/
theorem recompute_by_rescanning (hg : p.grid.MutuallyInverse) {affected : IdSet}
    (haffected : ∀ a ∈ affected, p.grid.contains a = true) :
    ∃ turns rest given, p.grid.rescan affected = (turns, rest) ∧
      given = turns ++ rest.toList.map (·, .error .cyclicDependency) ∧
      p.grid.schedule affected = (turns.map Prod.fst, rest.toList) ∧
      rest.toList.Pairwise (· < ·) ∧
      (given.map Prod.fst).Nodup ∧ (∀ a, a ∈ given.map Prod.fst ↔ a ∈ affected) ∧
      p.recompute affected = p.assignAll given ∧
      (p.recompute affected).changed =
        p.changed ++ (p.reported given).filter (· ∉ p.changed) ∧
      ∀ a ∈ (p.recompute affected).changed, ∀ b ∈ (p.recompute affected).changed,
        a ∈ affected → p.grid.Reads b a → b ∉ rest → b ∉ p.changed →
          ∃ before after, (p.recompute affected).changed = before ++ b :: after ∧
            a ∈ before ∧ b ∉ before := by
  obtain ⟨order, rest, hs, ht⟩ := (hg.inverseWithin haffected).schedule_turns
  have hplain : p.grid.rescan affected = (p.grid.computed order, rest) := ht.rescan_eq (.refl p.grid)
  have hgiven : p.grid.assignments affected =
      p.grid.computed order ++ rest.toList.map (·, .error .cyclicDependency) := by
    simp only [assignments, hs]
  have hkeys : (p.grid.assignments affected).map Prod.fst = order ++ rest.toList := by
    rw [hgiven, List.map_append, map_fst_computed, map_fst_marks]
  have hn : ((p.grid.assignments affected).map Prod.fst).Nodup := hkeys ▸ ht.nodup_append_rest
  rw [p.recompute_eq affected]
  refine ⟨p.grid.computed order, rest, p.grid.assignments affected, hplain, hgiven, ?_,
    rest.toList_sorted, hn, fun a => ?_, rfl, Pass.changed_assignAll hn, ?_⟩
  · rw [hs, map_fst_computed]
  · rw [hkeys, List.mem_append, IdSet.mem_toList, ht.mem_left_iff]
  · exact fun a ha b hb hleft hread => ht.changed_split hkeys hread hleft ha hb

/-- `A` reads `C` and `Z`, which is no cell, and `B` reads itself. What is computed for `D` is what it
holds. -/
def besideLoop : Grid :=
  ((((∅ : Grid).insert (named 'A')
      ⟨"C Z +", .initial, .ofList [named 'C', named 'Z'], ∅⟩).insert (named 'B')
      ⟨"B", .initial, .ofList [named 'B'], .ofList [named 'B']⟩).insert (named 'C')
      ⟨"2", .initial, ∅, .ofList [named 'A']⟩).insert (named 'D') .fresh

theorem rescan_beside_loop :
    besideLoop.MutuallyInverse ∧
      (∀ a ∈ IdSet.ofList besideLoop.ids, besideLoop.contains a = true) ∧
      ∃ turns rest, besideLoop.rescan (.ofList besideLoop.ids) = (turns, rest) ∧
        turns.map Prod.fst = [named 'C', named 'A', named 'D'] ∧ rest.toList = [named 'B'] ∧
        ((⟨besideLoop, []⟩ : Pass).recompute (.ofList besideLoop.ids)).changed =
          [named 'C', named 'A', named 'B'] := by
  have hlinks : besideLoop.MutuallyInverse := by
    have h : ∀ a ∈ CellId.all, ∀ b ∈ CellId.all, besideLoop.contains a = true →
        besideLoop.contains b = true →
          (b ∈ besideLoop.observers a ↔ a ∈ besideLoop.subjects b) := by decide +kernel
    exact fun a b => h a (CellId.mem_all a) b (CellId.mem_all b)
  have hcells : ∀ a ∈ IdSet.ofList besideLoop.ids, besideLoop.contains a = true :=
    fun a ha => mem_ids.1 (IdSet.mem_ofList.1 ha)
  have hschedule : besideLoop.schedule (.ofList besideLoop.ids) =
      ([named 'C', named 'A', named 'D'], [named 'B']) := by decide +kernel
  obtain ⟨turns, rest, given, hplain, _, hs, _⟩ :=
    recompute_by_rescanning (p := ⟨besideLoop, []⟩) hlinks hcells
  rw [hschedule, Prod.mk.injEq] at hs
  exact ⟨hlinks, hcells, turns, rest, hplain, hs.1.symm, hs.2.symm, by decide +kernel⟩

end ReactiveSheet.Grid
