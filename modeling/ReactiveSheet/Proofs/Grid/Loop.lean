import Mathlib.Logic.Relation
import ReactiveSheet.Grid.Recompute
import ReactiveSheet.Proofs.Grid.Schedule
import ReactiveSheet.Proofs.Grid.Values

/-!
The loop of a pass, step by step. Main statements: in every grid no cell is computed twice
(`Running.of_leads`) and the loop comes to an end, which is where the pass marks what is left
(`exists_leads_recompute`), and where the links among the cells are inverse, a cell that is released
waits for at least one subject (`Counting.waiting_ne_zero`).
-/

namespace ReactiveSheet.Grid
open Relation

variable {g : Grid} {p : Pass} {q q' : Queue} {affected left : IdSet} {a o x : CellId}
  {os order done : List CellId} {fuel : Nat}

/-- The queue when a cell has been taken out and none of its observers is released yet. -/
def Queue.without (q : Queue) (a : CellId) : Queue :=
  { waiting := q.waiting.set a none, ready := q.ready.erase a }

theorem Queue.get_waiting_without (q : Queue) (a x : CellId) :
    (q.without a).waiting.get x = if x = a then none else q.waiting.get x := Slots.get_set ..

@[simp] theorem Queue.mem_ready_without : x ∈ (q.without a).ready ↔ x ≠ a ∧ x ∈ q.ready :=
  IdSet.mem_erase

theorem Queue.pop?_eq_some_iff :
    q.pop? g = some (a, q') ↔
      q.ready.first? = some a ∧ q' = (g.observers a).toList.foldl release (q.without a) := by
  rw [pop?, Option.map_eq_some_iff]
  constructor
  · rintro ⟨b, hb, heq⟩
    cases heq
    exact ⟨hb, rfl⟩
  · rintro ⟨ha, rfl⟩
    exact ⟨a, ha, rfl⟩

/-- The loop between two of its steps: the pass and the queue so far, the observers of the cell
computed last that are still to be released, and all cells computed so far, in order. -/
structure Loop where
  pass : Pass
  queue : Queue
  releasing : List CellId
  computed : List CellId
deriving DecidableEq

namespace Loop

variable {l m : Loop}

def start (p : Pass) (affected : IdSet) : Loop := ⟨p, .start p.grid affected, [], []⟩

/-- One step. An observer is released, or if there is none, the next cell that is ready is taken out
of the queue, computed and stored. The loop ends when no cell is ready. -/
def step? : Loop → Option Loop
  | ⟨p, q, o :: os, done⟩ => some ⟨p, q.release o, os, done⟩
  | ⟨p, q, [], done⟩ =>
    q.ready.first?.map fun a =>
      ⟨p.update a, q.without a, ((p.update a).grid.observers a).toList, done ++ [a]⟩

/-- The loop gets from one point to another in some number of steps. -/
def Leads : Loop → Loop → Prop := ReflTransGen fun l m => l.step? = some m

theorem step?_turn (ha : q.ready.first? = some a) :
    step? ⟨p, q, [], done⟩ =
      some ⟨p.update a, q.without a, ((p.update a).grid.observers a).toList, done ++ [a]⟩ := by
  simp only [step?, ha, Option.map_some]

theorem step?_cases (h : l.step? = some m) :
    (∃ o os, l.releasing = o :: os ∧ m = ⟨l.pass, l.queue.release o, os, l.computed⟩) ∨
      ∃ a, l.releasing = [] ∧ l.queue.ready.first? = some a ∧
        m = ⟨l.pass.update a, l.queue.without a, ((l.pass.update a).grid.observers a).toList,
          l.computed ++ [a]⟩ := by
  obtain ⟨p, q, releasing, done⟩ := l
  cases releasing with
  | cons o os => exact .inl ⟨o, os, rfl, (Option.some.inj h).symm⟩
  | nil =>
    obtain ⟨a, ha, rfl⟩ := Option.map_eq_some_iff.1 h
    exact .inr ⟨a, rfl, ha, rfl⟩

/-- A property that every step keeps holds wherever the loop gets. -/
theorem Leads.induction {P : Loop → Prop} (step : ∀ l m, l.step? = some m → P l → P m)
    (hl : P l) (h : l.Leads m) : P m := by
  induction h with
  | refl => exact hl
  | tail _ hstep ih => exact step _ _ hstep ih

/-- What holds of the loop in every grid, whatever its links are. -/
structure Running (p : Pass) (affected : IdSet) (l : Loop) : Prop where
  pass_eq : l.pass = l.computed.foldl Pass.update p
  nodup : l.computed.Nodup
  affected_of_computed : ∀ a ∈ l.computed, a ∈ affected
  waits_iff : ∀ a, (l.queue.waiting.get a).isSome = true ↔ a ∈ affected ∧ a ∉ l.computed
  waits_of_ready : ∀ a ∈ l.queue.ready, (l.queue.waiting.get a).isSome = true

theorem running_start (p : Pass) (affected : IdSet) : Running p affected (start p affected) := by
  have hwaits : ∀ a, ((start p affected).queue.waiting.get a).isSome = true ↔ a ∈ affected := by
    intro a
    rw [start, Queue.get_waiting_start]
    split_ifs with ha <;> simp [ha]
  refine ⟨rfl, List.nodup_nil, List.forall_mem_nil _, fun a => ?_, fun a ha => ?_⟩
  · simpa [start] using hwaits a
  · exact (hwaits a).2 (mem_free.1 ha).1

namespace Running

/-- Releasing a cell changes neither which cells wait nor, among the others, which are ready. -/
theorem release (hl : Running p affected l) (hreleasing : l.releasing = o :: os) :
    Running p affected ⟨l.pass, l.queue.release o, os, l.computed⟩ := by
  have hwaits : ∀ a, ((l.queue.release o).waiting.get a).isSome =
      (l.queue.waiting.get a).isSome := by
    intro a
    rw [Queue.get_waiting_release]
    split_ifs <;> simp
  refine ⟨hl.pass_eq, hl.nodup, hl.affected_of_computed, fun a => ?_, fun a ha => ?_⟩
  · rw [hwaits, hl.waits_iff]
  · rw [hwaits]
    rcases Queue.mem_ready_release.1 ha with ha | ⟨rfl, hcount⟩
    · exact hl.waits_of_ready a ha
    · obtain ⟨n, hn, _⟩ := Option.map_eq_some_iff.1 hcount
      simp [hn]

/-- The cell whose turn it is had none before, and waits no more afterwards. -/
theorem turn (hl : Running p affected l) (ha : l.queue.ready.first? = some a) :
    Running p affected ⟨l.pass.update a, l.queue.without a,
      ((l.pass.update a).grid.observers a).toList, l.computed ++ [a]⟩ := by
  obtain ⟨haffected, hnew⟩ := (hl.waits_iff a).1 (hl.waits_of_ready a (IdSet.first?_mem ha))
  refine ⟨?_, ?_, ?_, fun x => ?_, fun x hx => ?_⟩
  · simp [hl.pass_eq]
  · simpa [List.nodup_append, hl.nodup] using fun b hb => ne_of_mem_of_not_mem hb hnew
  · simpa [or_imp, forall_and, haffected] using hl.affected_of_computed
  · rw [Queue.get_waiting_without]
    split_ifs with hxa
    · simp [hxa]
    · simp [hl.waits_iff, hxa]
  · obtain ⟨hxa, hx⟩ := Queue.mem_ready_without.1 hx
    rw [Queue.get_waiting_without, if_neg hxa]
    exact hl.waits_of_ready x hx

theorem of_leads (h : (start p affected).Leads l) : Running p affected l := by
  refine h.induction (fun l m hstep hl => ?_) (running_start p affected)
  rcases step?_cases hstep with ⟨o, os, hreleasing, rfl⟩ | ⟨a, _, ha, rfl⟩
  · exact hl.release hreleasing
  · exact hl.turn ha

/-- When all affected cells have been computed, none is ready. -/
theorem first?_eq_none (hl : Running p affected l) (hall : l.computed.length = affected.size) :
    l.queue.ready.first? = none := by
  have hsubset : l.computed ⊆ affected.toList :=
    fun a ha => IdSet.mem_toList.2 (hl.affected_of_computed a ha)
  have hperm : l.computed.Perm affected.toList :=
    (List.subperm_of_subset hl.nodup hsubset).perm_of_length_le hall.ge
  rw [IdSet.first?_eq_none_iff]
  ext a
  refine ⟨fun ha => ?_, fun ha => absurd ha (IdSet.not_mem_empty a)⟩
  obtain ⟨haffected, hnew⟩ := (hl.waits_iff a).1 (hl.waits_of_ready a ha)
  exact absurd (hperm.mem_iff.2 (IdSet.mem_toList.2 haffected)) hnew

end Running

theorem leads_release (p : Pass) (q : Queue) (os done : List CellId) :
    Leads ⟨p, q, os, done⟩ ⟨p, os.foldl Queue.release q, [], done⟩ := by
  induction os generalizing q with
  | nil => exact .refl
  | cons o os ih => exact .head rfl (ih (q.release o))

theorem leads_pop (hobservers : ∀ a, p.grid.observers a = g.observers a)
    (hpop : q.pop? g = some (a, q')) :
    Leads ⟨p, q, [], done⟩ ⟨p.update a, q', [], done ++ [a]⟩ := by
  obtain ⟨ha, rfl⟩ := Queue.pop?_eq_some_iff.1 hpop
  have hupdate : (p.update a).grid.observers a = g.observers a :=
    ((sameShape_store ..).observers a).trans (hobservers a)
  rw [← hupdate]
  exact .head (step?_turn ha) (leads_release ..)

/-- Taking cells out of the queue is what the steps of the loop come to. -/
theorem leads_drain (hobservers : ∀ a, p.grid.observers a = g.observers a)
    (h : q.drain g fuel = (order, q')) :
    Leads ⟨p, q, [], done⟩ ⟨order.foldl Pass.update p, q', [], done ++ order⟩ := by
  induction fuel generalizing p q order done with
  | zero =>
    cases h
    rw [List.append_nil]
    exact .refl
  | succ fuel ih =>
    rw [Queue.drain] at h
    cases hpop : q.pop? g with
    | none =>
      rw [hpop] at h
      cases h
      rw [List.append_nil]
      exact .refl
    | some next =>
      obtain ⟨a, next⟩ := next
      simp only [hpop] at h
      cases h
      have hupdate : ∀ b, (p.update a).grid.observers b = g.observers b :=
        fun b => ((sameShape_store ..).observers b).trans (hobservers b)
      have hlater : Leads ⟨p.update a, next, [], done ++ [a]⟩ _ := ih hupdate rfl
      rw [List.append_assoc] at hlater
      exact (leads_pop hobservers hpop).trans hlater

/-- As many cells are taken out as there is fuel, or there are no more. -/
theorem drain_cases (h : q.drain g fuel = (order, q')) :
    order.length = fuel ∨ q'.ready.first? = none := by
  induction fuel generalizing q order with
  | zero =>
    cases h
    exact .inl rfl
  | succ fuel ih =>
    rw [Queue.drain] at h
    cases hpop : q.pop? g with
    | none =>
      rw [hpop] at h
      cases h
      exact .inr (Option.map_eq_none_iff.1 hpop)
    | some next =>
      simp only [hpop] at h
      cases h
      exact (ih rfl).imp_left (congrArg (· + 1))

/-- From the start the loop comes to a point where it ends, and the pass marks the cells that still
wait there. -/
theorem exists_leads_recompute (p : Pass) (affected : IdSet) :
    ∃ l, (start p affected).Leads l ∧ l.step? = none ∧
      p.recompute affected = l.queue.remaining.foldl Pass.markCyclic l.pass := by
  cases hdrain : (Queue.start p.grid affected).drain p.grid affected.size with
  | mk order q =>
    have hleads : (start p affected).Leads ⟨order.foldl Pass.update p, q, [], [] ++ order⟩ :=
      leads_drain (fun _ => rfl) hdrain
    have hnone : q.ready.first? = none :=
      (drain_cases hdrain).elim (fun hall => (Running.of_leads hleads).first?_eq_none hall) id
    refine ⟨_, hleads, ?_, ?_⟩
    · simp only [step?, hnone, Option.map_none]
    · simp only [Pass.recompute, schedule, hdrain]

/-- What the loop has counted where the links among the cells that are left are inverse: each of
these waits for those that it reads, and for the last computed one until it is released. -/
structure Counting (g : Grid) (left : IdSet) (l : Loop) : Prop where
  shape : l.pass.grid.SameShape g
  inverse : g.InverseWithin left
  waiting : ∀ a, l.queue.waiting.get a =
    if a ∈ left then some (g.waitsFor left a + if a ∈ l.releasing then 1 else 0) else none
  left_of_ready : ∀ a ∈ l.queue.ready, a ∈ left
  nodup : l.releasing.Nodup

theorem counting_start (hg : p.grid.InverseWithin affected) :
    Counting p.grid affected (start p affected) := by
  refine ⟨.refl p.grid, hg, fun a => ?_, fun a ha => (mem_free.1 ha).1, List.nodup_nil⟩
  simp [start, Queue.get_waiting_start]

namespace Counting

/-- A cell that is to be released and has not had its turn waits for at least one subject. -/
theorem waiting_ne_zero (hl : Counting g left l) (hreleasing : l.releasing = o :: os) :
    l.queue.waiting.get o ≠ some 0 := by
  rw [hl.waiting, hreleasing]
  by_cases ho : o ∈ left <;> simp [ho]

theorem release (hl : Counting g left l) (hreleasing : l.releasing = o :: os) :
    Counting g left ⟨l.pass, l.queue.release o, os, l.computed⟩ := by
  have hnodup := hl.nodup
  rw [hreleasing] at hnodup
  obtain ⟨ho, hnodup⟩ := List.nodup_cons.1 hnodup
  refine ⟨hl.shape, hl.inverse, fun a => ?_, fun a ha => ?_, hnodup⟩
  · rw [Queue.get_waiting_release, hl.waiting, hreleasing]
    by_cases hao : a = o
    · subst hao
      by_cases hleft : a ∈ left <;> simp [ho, hleft]
    · simp [hao]
  · rcases Queue.mem_ready_release.1 ha with ha | ⟨rfl, hcount⟩
    · exact hl.left_of_ready a ha
    · by_contra hleft
      rw [hl.waiting, if_neg hleft] at hcount
      cases hcount

theorem turn (hl : Counting g left l) (hreleasing : l.releasing = [])
    (ha : l.queue.ready.first? = some a) :
    Counting g (left.erase a) ⟨l.pass.update a, l.queue.without a,
      ((l.pass.update a).grid.observers a).toList, l.computed ++ [a]⟩ := by
  have hleft : a ∈ left := hl.left_of_ready a (IdSet.first?_mem ha)
  have hshape : (l.pass.update a).grid.SameShape g := (sameShape_store ..).trans hl.shape
  refine ⟨hshape, hl.inverse.erase a, fun x => ?_, fun x hx => ?_, IdSet.toList_nodup _⟩
  · rw [Queue.get_waiting_without, hl.waiting, hreleasing, hshape.observers]
    by_cases hx : x ∈ left
    · simp [waitsFor_eq hl.inverse hleft hx, hx]
    · simp [hx]
  · obtain ⟨hxa, hx⟩ := Queue.mem_ready_without.1 hx
    exact IdSet.mem_erase.2 ⟨hxa, hl.left_of_ready x hx⟩

theorem of_leads (hg : p.grid.InverseWithin affected) (h : (start p affected).Leads l) :
    ∃ left, Counting p.grid left l := by
  refine h.induction (P := fun l => ∃ left, Counting p.grid left l) ?_ ⟨_, counting_start hg⟩
  rintro l m hstep ⟨left, hl⟩
  rcases step?_cases hstep with ⟨o, os, hreleasing, rfl⟩ | ⟨a, hreleasing, ha, rfl⟩
  · exact ⟨left, hl.release hreleasing⟩
  · exact ⟨left.erase a, hl.turn hreleasing ha⟩

end Counting
end Loop
end ReactiveSheet.Grid
