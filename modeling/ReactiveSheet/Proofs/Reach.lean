import Mathlib.Data.Fintype.EquivFin
import Mathlib.Logic.Relation

/-!
Elements from which a relation leads to a cycle. On a finite type all others are well-founded, so
that a statement about them can be proved by induction along the relation.
-/

namespace ReactiveSheet
open Relation

variable {α : Type} {r p : α → α → Prop} {a b : α}

theorem reflTransGen_congr (h : ∀ b, ReflTransGen r a b → ∀ c, r b c ↔ p b c) :
    ReflTransGen r a b ↔ ReflTransGen p a b := by
  constructor
  · intro hab
    induction hab with
    | refl => exact .refl
    | tail hab hbc ih => exact ih.tail ((h _ hab _).1 hbc)
  · intro hab
    induction hab with
    | refl => exact .refl
    | tail _ hbc ih => exact ih.tail ((h _ ih _).2 hbc)

/-- Two relations that agree wherever the first one leads to have the same paths from there. -/
theorem transGen_congr (h : ∀ b, ReflTransGen r a b → ∀ c, r b c ↔ p b c) :
    TransGen r a b ↔ TransGen p a b := by
  rw [TransGen.tail'_iff, TransGen.tail'_iff]
  constructor
  · rintro ⟨c, hac, hcb⟩
    exact ⟨c, (reflTransGen_congr h).1 hac, (h c hac b).1 hcb⟩
  · rintro ⟨c, hac, hcb⟩
    have hac := (reflTransGen_congr h).2 hac
    exact ⟨c, hac, (h c hac b).2 hcb⟩

/-- Following the relation from an element leads to one that is on a cycle. -/
def LeadsToCycle (r : α → α → Prop) (a : α) : Prop :=
  ∃ b, ReflTransGen r a b ∧ TransGen r b b

namespace LeadsToCycle

theorem of_cycle (h : TransGen r a a) : LeadsToCycle r a := ⟨a, .refl, h⟩

theorem of_reflTransGen (hab : ReflTransGen r a b) (h : LeadsToCycle r b) : LeadsToCycle r a := by
  obtain ⟨c, hbc, hc⟩ := h
  exact ⟨c, hab.trans hbc, hc⟩

theorem of_step (hab : r a b) (h : LeadsToCycle r b) : LeadsToCycle r a :=
  of_reflTransGen (.single hab) h

theorem mono (hrp : ∀ a b, r a b → p a b) (h : LeadsToCycle r a) : LeadsToCycle p a := by
  obtain ⟨c, hac, hc⟩ := h
  exact ⟨c, ReflTransGen.mono hrp _ _ hac, TransGen.mono hrp _ _ hc⟩

theorem congr (h : ∀ b, ReflTransGen r a b → ∀ c, r b c ↔ p b c) :
    LeadsToCycle r a ↔ LeadsToCycle p a := by
  refine exists_congr fun b => ?_
  rw [← reflTransGen_congr h]
  refine and_congr_right fun hab => ?_
  exact transGen_congr fun c hbc => h c (hab.trans hbc)

/-- One can always go on towards the cycle. -/
theorem exists_step (h : LeadsToCycle r a) : ∃ b, r a b ∧ LeadsToCycle r b := by
  obtain ⟨c, hac, hc⟩ := h
  obtain ⟨b, hab, hbc⟩ := TransGen.head'_iff.1 (TransGen.trans_right hac hc)
  exact ⟨b, hab, c, hbc, hc⟩

/-- Among the elements that can be reached from `a`, being reached later is a strict order. -/
theorem acc [Finite α] (h : ¬ LeadsToCycle r a) : Acc (fun y x => r x y) a := by
  let later (x y : {b // ReflTransGen r a b}) : Prop := TransGen r y.1 x.1
  have : IsTrans _ later := ⟨fun _ _ _ hxy hyz => TransGen.trans hyz hxy⟩
  have : Std.Irrefl later := ⟨fun x hx => h ⟨x.1, x.2, hx⟩⟩
  have hwf : WellFounded later := Finite.wellFounded_of_trans_of_irrefl later
  have hacc : ∀ x : {b // ReflTransGen r a b}, Acc (fun y x => r x y) x.1 := by
    intro x
    induction x using hwf.induction with
    | _ x ih => exact ⟨_, fun y hy => ih ⟨y, x.2.tail hy⟩ (.single hy)⟩
  exact hacc ⟨a, .refl⟩

/-- Induction along the relation, for elements that do not lead to a cycle. -/
theorem not_induction [Finite α] {P : α → Prop}
    (step : ∀ a, ¬ LeadsToCycle r a → (∀ b, r a b → P b) → P a) (h : ¬ LeadsToCycle r a) : P a := by
  induction acc h with
  | intro a _ ih => exact step a h fun b hb => ih b hb fun hc => h (of_step hb hc)

/-- If each element of a set leads on to another one of the set, all of them lead to a cycle. -/
theorem of_successors [Finite α] {S : α → Prop} (hS : ∀ a, S a → ∃ b, r a b ∧ S b) (ha : S a) :
    LeadsToCycle r a := by
  by_contra h
  revert ha
  refine not_induction (P := fun a => ¬ S a) ?_ h
  intro a _ ih ha
  obtain ⟨b, hab, hb⟩ := hS a ha
  exact ih b hab hb

end LeadsToCycle
end ReactiveSheet
