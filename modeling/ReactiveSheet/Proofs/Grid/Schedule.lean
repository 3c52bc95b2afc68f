import ReactiveSheet.Grid.Recompute
import ReactiveSheet.Proofs.Grid.Reads

/-!
The order of recomputation. Main statements: with links that are inverse to each other a queue is at
any time the one that starts from the cells which had no turn yet (`pop?_start`), each cell has its
turn after all it reads within the set (`schedule_turns`), and the cells that never get a turn are
those that lead to a cycle within the set (`mem_rest_iff`).
-/

namespace ReactiveSheet.Grid
open Relation

variable {g : Grid} {left rest : IdSet} {order : List CellId} {a : CellId}

/-- Within a set, the observers of a cell are those that read it. -/
def InverseWithin (g : Grid) (left : IdSet) : Prop :=
  ∀ a ∈ left, ∀ b ∈ left, b ∈ g.observers a ↔ g.Reads b a

theorem InverseWithin.erase (hg : g.InverseWithin left) (a : CellId) :
    g.InverseWithin (left.erase a) :=
  fun b hb c hc => hg b (IdSet.mem_erase.1 hb).2 c (IdSet.mem_erase.1 hc).2

theorem Linked.inverseWithin (hg : g.Linked) (left : IdSet) : g.InverseWithin left :=
  fun _ _ _ _ => hg.reads_iff.symm

/-- How many cells of a set a cell reads. -/
def waitsFor (g : Grid) (left : IdSet) (a : CellId) : Nat := ((g.subjects a).filter (· ∈ left)).size

theorem waitsFor_eq_zero_iff : g.waitsFor left a = 0 ↔ ∀ s, g.Reads a s → s ∉ left := by
  simp [waitsFor, IdSet.size_eq_zero_iff, Reads]

/-- The cells of a set that read no cell of it. -/
def free (g : Grid) (left : IdSet) : IdSet := left.filter fun a => g.waitsFor left a = 0

theorem mem_free_iff_waitsFor : a ∈ g.free left ↔ a ∈ left ∧ g.waitsFor left a = 0 := by
  simp [free]

theorem mem_free : a ∈ g.free left ↔ a ∈ left ∧ ∀ s, g.Reads a s → s ∉ left := by
  rw [mem_free_iff_waitsFor, waitsFor_eq_zero_iff]

theorem free_congr {h : Grid} (hr : ∀ a ∈ left, ∀ b ∈ left, h.Reads a b ↔ g.Reads a b) :
    h.free left = g.free left := by
  ext a
  rw [mem_free, mem_free]
  refine and_congr_right fun ha => forall_congr' fun b => ?_
  exact ⟨fun hab hb hl => hab ((hr a ha b hl).2 hb) hl,
    fun hab hb hl => hab ((hr a ha b hl).1 hb) hl⟩

theorem waitsFor_erase (ha : a ∈ left) {x : CellId} (hx : g.Reads x a) :
    g.waitsFor (left.erase a) x + 1 = g.waitsFor left x := by
  have herase : (g.subjects x).filter (· ∈ left.erase a) =
      ((g.subjects x).filter (· ∈ left)).erase a := by
    ext s
    simp [and_left_comm]
  rw [waitsFor, herase, IdSet.size_erase]
  · rfl
  · exact IdSet.mem_filter.2 ⟨hx, decide_eq_true ha⟩

theorem waitsFor_erase_of_not_reads {x : CellId} (hx : ¬ g.Reads x a) :
    g.waitsFor (left.erase a) x = g.waitsFor left x := by
  have herase : (g.subjects x).filter (· ∈ left.erase a) = (g.subjects x).filter (· ∈ left) := by
    ext s
    have : s ∈ g.subjects x → s ≠ a := by
      rintro hs rfl
      exact hx hs
    simp only [IdSet.mem_filter, IdSet.mem_erase, decide_eq_true_eq]
    exact ⟨fun h => ⟨h.1, h.2.2⟩, fun h => ⟨h.1, this h.1, h.2⟩⟩
  rw [waitsFor, herase, waitsFor]

theorem waitsFor_eq (hg : g.InverseWithin left) (ha : a ∈ left) {x : CellId} (hx : x ∈ left) :
    g.waitsFor left x = g.waitsFor (left.erase a) x + if x ∈ g.observers a then 1 else 0 := by
  by_cases hr : g.Reads x a
  · rw [if_pos ((hg a ha x hx).2 hr), waitsFor_erase ha hr]
  · rw [if_neg (mt (hg a ha x hx).1 hr), waitsFor_erase_of_not_reads hr, Nat.add_zero]

namespace Queue

theorem ext {p q : Queue} (hw : ∀ a, p.waiting.get a = q.waiting.get a)
    (hr : ∀ a, a ∈ p.ready ↔ a ∈ q.ready) : p = q := by
  cases p; cases q
  congr
  · exact Slots.ext hw
  · exact IdSet.ext hr

theorem get_waiting_start (x : CellId) :
    (start g left).waiting.get x = if x ∈ left then some (g.waitsFor left x) else none := by
  simp [start, waitsFor]

theorem ready_start : (start g left).ready = g.free left := rfl

theorem get_waiting_release (q : Queue) (o x : CellId) :
    (q.release o).waiting.get x =
      if x = o then (q.waiting.get x).map (· - 1) else q.waiting.get x := by
  unfold release
  split
  · rename_i h
    split_ifs with hx
    · subst hx
      simp [h]
    · rfl
  · rename_i n h
    simp only [Slots.get_set]
    split_ifs with hx
    · subst hx
      simp [h]
    · rfl

theorem mem_ready_release {q : Queue} {o x : CellId} :
    x ∈ (q.release o).ready ↔ x ∈ q.ready ∨ x = o ∧ (q.waiting.get x).map (· - 1) = some 0 := by
  unfold release
  split
  · grind
  · dsimp only
    split_ifs <;> grind [IdSet.mem_insert]

theorem get_waiting_foldl_release (os : List CellId) (hos : os.Nodup) (q : Queue) (x : CellId) :
    (os.foldl release q).waiting.get x =
      if x ∈ os then (q.waiting.get x).map (· - 1) else q.waiting.get x := by
  induction os generalizing q with
  | nil => simp
  | cons o os ih =>
    obtain ⟨ho, hos⟩ := List.nodup_cons.1 hos
    rw [List.foldl_cons, ih hos, get_waiting_release]
    grind

theorem mem_ready_foldl_release (os : List CellId) (hos : os.Nodup) (q : Queue) (x : CellId) :
    x ∈ (os.foldl release q).ready ↔
      x ∈ q.ready ∨ x ∈ os ∧ (q.waiting.get x).map (· - 1) = some 0 := by
  induction os generalizing q with
  | nil => simp
  | cons o os ih =>
    obtain ⟨ho, hos⟩ := List.nodup_cons.1 hos
    rw [List.foldl_cons, ih hos, mem_ready_release, get_waiting_release]
    grind

/-- Taking a cell out leaves the queue that starts from the other cells. -/
theorem release_observers (hg : g.InverseWithin left) (ha : a ∈ left) :
    (g.observers a).toList.foldl release
      { waiting := (start g left).waiting.set a none, ready := (g.free left).erase a } =
      start g (left.erase a) := by
  have hnodup := (g.observers a).toList_nodup
  -- Observers outside of the set have no entry that could be released.
  have hwaits : ∀ x ∈ left, g.waitsFor left x =
      g.waitsFor (left.erase a) x + if x ∈ g.observers a then 1 else 0 :=
    fun x hx => waitsFor_eq hg ha hx
  refine ext (fun x => ?_) fun x => ?_
  · rw [get_waiting_foldl_release _ hnodup, get_waiting_start]
    simp only [IdSet.mem_toList, Slots.get_set, get_waiting_start, IdSet.mem_erase]
    grind
  · rw [mem_ready_foldl_release _ hnodup, ready_start]
    simp only [IdSet.mem_toList, Slots.get_set, get_waiting_start, IdSet.mem_erase,
      mem_free_iff_waitsFor]
    grind

theorem pop?_start (hg : g.InverseWithin left) :
    (start g left).pop? g = (g.free left).first?.map fun a => (a, start g (left.erase a)) := by
  rw [pop?, ready_start]
  cases h : (g.free left).first? with
  | none => simp only [Option.map_none]
  | some a =>
    have ha : a ∈ left := (mem_free.1 (IdSet.first?_mem h)).1
    simp only [Option.map_some, release_observers hg ha]

theorem remaining_start : (start g left).remaining = left.toList := by
  have hmem : ∀ x ∈ CellId.all, ((start g left).waiting.get x).isSome = decide (x ∈ left) := by
    intro x _
    rw [get_waiting_start]
    split_ifs with hx <;> simp [hx]
  rw [remaining, IdSet.toList, List.filter_congr hmem]

end Queue

/-- Cells taking turns: of what is left, the next one is the first that reads nothing of it, until
there is none. What is left then is `rest`. -/
inductive Turns (g : Grid) : IdSet → List CellId → IdSet → Prop
  | stop {left : IdSet} (hnone : g.free left = ∅) : Turns g left [] left
  | next {left rest : IdSet} {order : List CellId} {a : CellId}
      (hfirst : (g.free left).first? = some a) (later : Turns g (left.erase a) order rest) :
      Turns g left (a :: order) rest

/-- As many rounds suffice as there are cells. -/
theorem Queue.drain_start (hg : g.InverseWithin left) {fuel : Nat} (hfuel : left.size ≤ fuel) :
    ∃ order rest, (start g left).drain g fuel = (order, start g rest) ∧
      g.Turns left order rest := by
  induction fuel generalizing left with
  | zero =>
    have hempty := IdSet.size_eq_zero_iff.1 (Nat.le_zero.1 hfuel)
    refine ⟨[], left, rfl, .stop ?_⟩
    ext a
    simp [mem_free, hempty]
  | succ fuel ih =>
    rw [drain, pop?_start hg]
    cases h : (g.free left).first? with
    | none => exact ⟨[], left, rfl, .stop (IdSet.first?_eq_none_iff.1 h)⟩
    | some a =>
      have hsize := IdSet.size_erase (mem_free.1 (IdSet.first?_mem h)).1
      have hleft : (left.erase a).size ≤ fuel := by omega
      obtain ⟨order, rest, hd, ht⟩ := ih (hg.erase a) hleft
      refine ⟨a :: order, rest, ?_, .next h ht⟩
      simp only [Option.map_some, hd]

theorem InverseWithin.schedule_turns {affected : IdSet} (hg : g.InverseWithin affected) :
    ∃ order rest, g.schedule affected = (order, rest.toList) ∧ g.Turns affected order rest := by
  obtain ⟨order, rest, hd, ht⟩ := Queue.drain_start hg (Nat.le_refl affected.size)
  refine ⟨order, rest, ?_, ht⟩
  simp only [schedule, hd, Queue.remaining_start]

theorem schedule_turns (hg : g.Linked) (affected : IdSet) :
    ∃ order rest, g.schedule affected = (order, rest.toList) ∧ g.Turns affected order rest :=
  (hg.inverseWithin affected).schedule_turns

namespace Turns

theorem mem_left_iff (h : g.Turns left order rest) : a ∈ left ↔ a ∈ order ∨ a ∈ rest := by
  induction h with
  | stop => simp
  | next hfirst _ ih =>
    have hmem := (mem_free.1 (IdSet.first?_mem hfirst)).1
    rw [IdSet.mem_erase] at ih
    grind

theorem nodup (h : g.Turns left order rest) : order.Nodup := by
  induction h with
  | stop => exact List.nodup_nil
  | next hfirst later ih =>
    refine List.nodup_cons.2 ⟨fun hm => ?_, ih⟩
    exact (IdSet.mem_erase.1 (later.mem_left_iff.2 (.inl hm))).1 rfl

theorem not_mem_rest (h : g.Turns left order rest) (ha : a ∈ order) : a ∉ rest := by
  induction h with
  | stop => exact absurd ha List.not_mem_nil
  | next _ later ih =>
    rcases List.mem_cons.1 ha with rfl | ha
    · exact fun hr => (IdSet.mem_erase.1 (later.mem_left_iff.2 (.inr hr))).1 rfl
    · exact ih ha

theorem nodup_append_rest (h : g.Turns left order rest) : (order ++ rest.toList).Nodup := by
  refine List.nodup_append.2 ⟨h.nodup, rest.toList_nodup, fun a ha b hb => ?_⟩
  rintro rfl
  exact h.not_mem_rest ha (IdSet.mem_toList.1 hb)

theorem exists_reads_rest (h : g.Turns left order rest) (ha : a ∈ rest) :
    ∃ s, g.Reads a s ∧ s ∈ rest := by
  induction h with
  | stop hnone =>
    by_contra hs
    push Not at hs
    have := mem_free.2 ⟨ha, hs⟩
    rw [hnone] at this
    exact IdSet.not_mem_empty a this
  | next _ _ ih => exact ih ha

/-- What a cell reads among what is left has its turn earlier, so that a statement may be proved of
a cell from what it says of those. -/
theorem induction {P : CellId → Prop} (h : g.Turns left order rest)
    (step : ∀ a ∈ order, (∀ s, g.Reads a s → s ∈ left → s ∈ order ∧ P s) → P a) :
    ∀ a ∈ order, P a := by
  induction h with
  | stop => simp
  | @next left rest order a hfirst later ih =>
    have hfree := (mem_free.1 (IdSet.first?_mem hfirst)).2
    have ha : P a := step a List.mem_cons_self fun s hs hl => absurd hl (hfree s hs)
    have hlater : ∀ b ∈ order, P b := by
      refine ih fun b hb hs => step b (List.mem_cons_of_mem a hb) fun s hbs hl => ?_
      by_cases hsa : s = a
      · exact ⟨hsa ▸ List.mem_cons_self, hsa ▸ ha⟩
      · exact (hs s hbs (IdSet.mem_erase.2 ⟨hsa, hl⟩)).imp_left (List.mem_cons_of_mem a)
    intro b hb
    rcases List.mem_cons.1 hb with rfl | hb
    · exact ha
    · exact hlater b hb

theorem unique (ht : g.Turns left order rest) {order' : List CellId} {rest' : IdSet}
    (ht' : g.Turns left order' rest') : order' = order ∧ rest' = rest := by
  induction ht generalizing order' rest' with
  | stop hnone =>
    cases ht' with
    | stop => exact ⟨rfl, rfl⟩
    | next hfirst =>
      rw [IdSet.first?_eq_none_iff.2 hnone] at hfirst
      cases hfirst
  | next hfirst _ ih =>
    cases ht' with
    | stop hnone =>
      rw [IdSet.first?_eq_none_iff.2 hnone] at hfirst
      cases hfirst
    | next hfirst' later' =>
      obtain rfl := Option.some.inj (hfirst.symm.trans hfirst')
      obtain ⟨rfl, rfl⟩ := ih later'
      exact ⟨rfl, rfl⟩

/-- What the cells read outside of the set does not matter. -/
theorem congr {h : Grid} (hr : ∀ a ∈ left, ∀ b ∈ left, h.Reads a b ↔ g.Reads a b)
    (ht : g.Turns left order rest) : h.Turns left order rest := by
  induction ht with
  | stop hnone =>
    refine .stop ?_
    rw [free_congr hr, hnone]
  | next hfirst later ih =>
    rw [← free_congr hr] at hfirst
    refine .next hfirst (ih fun a ha b hb => ?_)
    exact hr a (IdSet.mem_erase.1 ha).2 b (IdSet.mem_erase.1 hb).2

end Turns

theorem schedule_congr {h : Grid} (hg : g.Linked) (hh : h.Linked) {affected : IdSet}
    (hr : ∀ a ∈ affected, ∀ b ∈ affected, h.Reads a b ↔ g.Reads a b) :
    h.schedule affected = g.schedule affected := by
  obtain ⟨order, rest, hs, ht⟩ := schedule_turns hg affected
  obtain ⟨order', rest', hs', ht'⟩ := schedule_turns hh affected
  obtain ⟨rfl, rfl⟩ := (ht.congr hr).unique ht'
  rw [hs, hs']

/-- A cell of a set reads another one of the set. -/
def ReadsWithin (g : Grid) (affected : IdSet) (a b : CellId) : Prop :=
  a ∈ affected ∧ b ∈ affected ∧ g.Reads a b

theorem Turns.mem_rest_iff {affected : IdSet} (h : g.Turns affected order rest) :
    a ∈ rest ↔ LeadsToCycle (g.ReadsWithin affected) a := by
  constructor
  · refine LeadsToCycle.of_successors (S := (· ∈ rest)) fun b hb => ?_
    obtain ⟨s, hbs, hs⟩ := h.exists_reads_rest hb
    exact ⟨s, ⟨h.mem_left_iff.2 (.inr hb), h.mem_left_iff.2 (.inr hs), hbs⟩, hs⟩
  · intro hc
    have horder : ∀ b ∈ order, ¬ LeadsToCycle (g.ReadsWithin affected) b := by
      refine h.induction fun b _ ih hb => ?_
      obtain ⟨s, ⟨_, hs, hbs⟩, hcs⟩ := hb.exists_step
      exact (ih s hbs hs).2 hcs
    obtain ⟨_, ⟨ha, _, _⟩, _⟩ := hc.exists_step
    exact (h.mem_left_iff.1 ha).resolve_left fun ho => horder a ho hc

end ReactiveSheet.Grid
