import Mathlib.Tactic.ByContra
import Mathlib.Tactic.SplitIfs
import ReactiveSheet.Binary64.Equality
import ReactiveSheet.Cell

/-!
When a computed value counts as the one that is held already, and what storing it leaves.
-/

namespace ReactiveSheet

theorem Binary64.isNaN_iff {x : Float} : x.isNaN = true ↔ x = nan := by
  constructor
  · intro h
    by_contra hn
    have hself : x.toModel.unpack.beq x.toModel.unpack = true := beq_self_iff.2 hn
    have hnan : x.toModel.unpack.isNaN = true := h
    cases hx : x.toModel.unpack with
    | notANumber =>
      rw [hx] at hself
      cases hself
    | _ =>
      rw [hx] at hnan
      cases hnan
  · rintro rfl
    decide

/-- Doubles that compare as equal are the same, except that there are two zeros. -/
theorem Binary64.eq_or_zeros_of_beq {x y : Float} (h : (x == y) = true) :
    x = y ∨ (x = 0 ∧ y = -0) ∨ (x = -0 ∧ y = 0) := by
  obtain ⟨m, hx, hy, hm⟩ := beq_iff.1 h
  rw [eq_toFloat hx, eq_toFloat hy]
  rcases hm with rfl | hsign
  · have hzero : (0 : Float) = Magnitude.zero.toFloat false := rfl
    have hnegative : (-0 : Float) = Magnitude.zero.toFloat true := rfl
    rw [hnegative, hzero]
    cases isNegative x <;> cases isNegative y <;> simp
  · exact .inl (by rw [hsign])

namespace CellValue

variable {v w : CellValue} {e : CellError}

/-- Two values are the same error, or numbers that compare as equal, or NaN twice. -/
def Matches : CellValue → CellValue → Prop
  | number x, number y => (x == y) = true ∨ (x.isNaN = true ∧ y.isNaN = true)
  | error e, error f => e = f
  | _, _ => False

/-- What a cell holds after a value is stored in it. -/
def revised (old new : CellValue) : CellValue := if old.agrees new then old else new

theorem Matches.refl (v : CellValue) : v.Matches v := by
  cases v with
  | error e => rfl
  | number x =>
    by_cases hx : x = Binary64.nan
    · exact .inr ⟨Binary64.isNaN_iff.2 hx, Binary64.isNaN_iff.2 hx⟩
    · exact .inl (Binary64.beq_self_iff.2 hx)

theorem matches_of_agrees (h : v.agrees w = true) : v.Matches w := by
  cases v <;> cases w <;> simp_all [agrees, Matches]

@[simp] theorem matches_error_iff : v.Matches (error e) ↔ v = error e := by
  cases v <;> simp [Matches]

@[simp] theorem error_matches_iff : (error e).Matches v ↔ v = error e := by
  cases v <;> simp [Matches, eq_comm]

theorem revised_matches (old new : CellValue) : (old.revised new).Matches new := by
  unfold revised
  split_ifs with h
  · exact matches_of_agrees h
  · exact .refl new

@[simp] theorem revised_error (old : CellValue) (e : CellError) : old.revised (error e) = error e :=
  matches_error_iff.1 (revised_matches old (error e))

/-- Storing what matches the held value changes nothing, since there is only one NaN. -/
theorem Matches.revised_eq (h : v.Matches w) : v.revised w = v := by
  unfold revised
  split_ifs with ha
  · rfl
  · cases v with
    | error e => exact error_matches_iff.1 h
    | number x =>
      cases w with
      | error e => cases h
      | number y =>
        obtain ⟨hx, hy⟩ := h.resolve_left ha
        rw [Binary64.isNaN_iff.1 hx, Binary64.isNaN_iff.1 hy]

/-- Only NaN compares as different from itself. -/
theorem agrees_self_eq_false_iff : v.agrees v = false ↔ v = number Binary64.nan := by
  cases v with
  | error e => simp [agrees]
  | number x =>
    rw [agrees, ← Bool.not_eq_true, Binary64.beq_self_iff]
    simp

/-- One zero and the other one: they compare as equal, and their texts differ. -/
def OppositeZeros (v w : CellValue) : Prop :=
  (v = number 0 ∧ w = number (-0)) ∨ (v = number (-0) ∧ w = number 0)

instance (v w : CellValue) : Decidable (v.OppositeZeros w) :=
  inferInstanceAs (Decidable (_ ∨ _))

theorem eq_or_oppositeZeros_of_agrees (h : v.agrees w = true) : v = w ∨ v.OppositeZeros w := by
  cases v with
  | error e =>
    cases w with
    | error f => exact .inl (congrArg error (beq_iff_eq.1 h))
    | number y => cases h
  | number x =>
    cases w with
    | error f => cases h
    | number y =>
      rcases Binary64.eq_or_zeros_of_beq h with rfl | ⟨rfl, rfl⟩ | ⟨rfl, rfl⟩
      · exact .inl rfl
      · exact .inr (.inl ⟨rfl, rfl⟩)
      · exact .inr (.inr ⟨rfl, rfl⟩)

/-- Whatever is stored over NaN counts as a change. -/
theorem nan_agrees (v : CellValue) : (number Binary64.nan).agrees v = false := by
  by_contra h
  rw [Bool.not_eq_false] at h
  rcases eq_or_oppositeZeros_of_agrees h with rfl | ⟨hz, _⟩ | ⟨hz, _⟩
  · rw [agrees_self_eq_false_iff.2 rfl] at h
    cases h
  · exact absurd hz (by decide)
  · exact absurd hz (by decide)

/-- A value that is stored is held from then on, unless the other zero was held before. -/
theorem revised_eq_of_not_oppositeZeros {old new : CellValue} (h : ¬ old.OppositeZeros new) :
    old.revised new = new := by
  unfold revised
  split_ifs with ha
  · exact (eq_or_oppositeZeros_of_agrees ha).resolve_right h
  · rfl

theorem revised_eq_of_ne_negative_zero {old new : CellValue} (hold : old ≠ number (-0))
    (hnew : new ≠ number (-0)) : old.revised new = new := by
  refine revised_eq_of_not_oppositeZeros ?_
  rintro (⟨_, hneg⟩ | ⟨hneg, _⟩)
  · exact hnew hneg
  · exact hold hneg

theorem isError_iff : v.isError = true ↔ ∃ e, v = error e := by
  cases v <;> simp [isError, error?]

theorem error?_eq_some_iff : v.error? = some e ↔ v = error e := by
  cases v <;> simp [error?]

theorem ofResult_ne_cyclic (r : Except Postfix.EvalError Float) :
    ofResult r ≠ error .cyclicDependency := by
  cases r with
  | ok x => simp [ofResult]
  | error e => cases e <;> simp [ofResult, CellError.ofEvalError]

end CellValue
end ReactiveSheet
