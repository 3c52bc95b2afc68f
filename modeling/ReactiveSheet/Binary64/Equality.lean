import ReactiveSheet.Binary64.Magnitude

/-!
Comparison of doubles by sign and size. Main statements: a double is given by its sign and size or
is NaN (`eq_toFloat`, `eq_nan`), and two doubles compare as equal exactly when they have the same
size and, unless that is zero, the same sign (`beq_iff`).
-/

namespace ReactiveSheet.Binary64
open Float.Model Float.Model.UnpackedFloat

def signOf (negative : Bool) : Sign := if negative then .negative else .positive

/-- The significand of a finite size other than zero. -/
def significand (rank : Nat) : Nat :=
  if rank / 0x10000000000000 = 0 then rank % 0x10000000000000
  else 0x10000000000000 + rank % 0x10000000000000

/-- The exponent of a finite size other than zero. -/
def exponent (rank : Nat) : Int :=
  if rank / 0x10000000000000 = 0 then -1074 else (rank / 0x10000000000000 : Nat) - 1075

/-- What the model of a double unpacks to, read off its sign and rank. -/
def unpacked (negative : Bool) (rank : Nat) : UnpackedFloat :=
  if rank / 0x10000000000000 = 2047 then
    if rank % 0x10000000000000 = 0 then .infinity (signOf negative) else .notANumber
  else if h : rank = 0 then .zero (signOf negative)
  else .finite (signOf negative) (significand rank) (exponent rank) (by
    unfold significand
    split <;> omega)

theorem significand_exponent (rank : Nat) :
    (significand rank : Int) + 0x10000000000000 * (exponent rank + 1074) = rank := by
  unfold significand exponent
  split <;> omega

theorem finite_congr {s : Sign} {m n : Nat} {e f : Int} {hm : 0 < m} {hn : 0 < n} (h : m = n)
    (h' : e = f) : UnpackedFloat.finite s m e hm = .finite s n f hn := by
  subst h h'
  rfl

theorem unpackExponent_toNat (b : UInt64) :
    (@unpackExponent Format.binary64 b.toBitVec).toNat =
      b.toNat % 0x8000000000000000 / 0x10000000000000 := by
  have : b.toNat % 0x8000000000000000 / 0x10000000000000 =
      b.toNat / 0x10000000000000 % 2048 := by omega
  rw [this]
  simp [unpackExponent, Nat.shiftRight_eq_div_pow]

theorem unpackMantissa_toNat (b : UInt64) :
    (@unpackMantissa Format.binary64 b.toBitVec).toNat =
      b.toNat % 0x8000000000000000 % 0x10000000000000 := by
  have : b.toNat % 0x8000000000000000 % 0x10000000000000 = b.toNat % 0x10000000000000 := by omega
  rw [this]
  simp [unpackMantissa]

theorem unpackSign_eq (b : UInt64) :
    Sign.ofBitVec (@unpackSign Format.binary64 b.toBitVec) =
      signOf (decide (0x8000000000000000 ≤ b.toNat)) := by
  have hlt := b.toNat_lt
  have hS : (@unpackSign Format.binary64 b.toBitVec).toNat = b.toNat / 0x8000000000000000 % 2 := by
    delta unpackSign
    simp [Nat.shiftRight_eq_div_pow]
  have h1 : @unpackSign Format.binary64 b.toBitVec = 0#1 ↔ ¬ 0x8000000000000000 ≤ b.toNat := by
    rw [← BitVec.toNat_inj, hS]
    simp
    omega
  unfold Sign.ofBitVec signOf
  by_cases h : 0x8000000000000000 ≤ b.toNat <;> simp [h1, h]

theorem unpack_toModel (x : Float) :
    x.toModel.unpack = unpacked (isNegative x) (x.toBits.toNat % 0x8000000000000000) := by
  obtain ⟨⟨b, hb⟩⟩ := x
  have hE := unpackExponent_toNat b
  have hM := unpackMantissa_toNat b
  have hS := unpackSign_eq b
  have e1 : @unpackExponent Format.binary64 b.toBitVec = -1#_ ↔
      b.toNat % 0x8000000000000000 / 0x10000000000000 = 2047 := by
    rw [← BitVec.toNat_inj, hE]; simp
  have e0 : @unpackExponent Format.binary64 b.toBitVec = 0#_ ↔
      b.toNat % 0x8000000000000000 / 0x10000000000000 = 0 := by
    rw [← BitVec.toNat_inj, hE]; simp
  have m0 : @unpackMantissa Format.binary64 b.toBitVec = 0#_ ↔
      b.toNat % 0x8000000000000000 % 0x10000000000000 = 0 := by
    rw [← BitVec.toNat_inj, hM]; simp
  show UnpackedFloat.unpack Format.binary64 b.toBitVec =
    unpacked (decide (0x8000000000000000 ≤ b.toNat)) (b.toNat % 0x8000000000000000)
  delta UnpackedFloat.unpack
  unfold unpacked
  by_cases h1 : b.toNat % 0x8000000000000000 / 0x10000000000000 = 2047
  · rw [if_pos h1]
    refine (if_pos (e1.2 h1)).trans ?_
    by_cases h2 : b.toNat % 0x8000000000000000 % 0x10000000000000 = 0
    · rw [if_pos h2, ← hS]
      exact if_pos (m0.2 h2)
    · rw [if_neg h2]
      exact if_neg (mt m0.1 h2)
  · rw [if_neg h1]
    refine (if_neg (mt e1.1 h1)).trans ?_
    by_cases h0 : b.toNat % 0x8000000000000000 / 0x10000000000000 = 0
    · refine (if_pos (e0.2 h0)).trans ?_
      by_cases h2 : b.toNat % 0x8000000000000000 % 0x10000000000000 = 0
      · have hr : b.toNat % 0x8000000000000000 = 0 := by omega
        rw [dif_pos hr, ← hS]
        exact dif_pos (m0.2 h2)
      · have hr : b.toNat % 0x8000000000000000 ≠ 0 := by omega
        rw [dif_neg hr, ← hS]
        refine (dif_neg (mt m0.1 h2)).trans (finite_congr ?_ ?_)
        · rw [hM, significand, if_pos h0]
        · rw [hE, h0, exponent, if_pos h0]
          rfl
    · have hr : b.toNat % 0x8000000000000000 ≠ 0 := by omega
      rw [dif_neg hr, ← hS]
      refine (if_neg (mt e0.1 h0)).trans (finite_congr ?_ ?_)
      · rw [BitVec.toNat_append, hM, significand, if_neg h0, Nat.shiftLeft_eq]
        have hf : b.toNat % 0x8000000000000000 % 0x10000000000000 < 0x10000000000000 :=
          Nat.mod_lt _ (by decide)
        have hor := Nat.two_pow_add_eq_or_of_lt (i := 52) hf 1
        simp at hor ⊢
        exact hor.symm
      · rw [hE, exponent, if_neg h0]
        simp [Format.exponentBias]

theorem compare_sign (a b : Bool) : compare (signOf a) (signOf b) = .eq ↔ a = b := by
  cases a <;> cases b <;> simp [signOf] <;> rfl

theorem compare_finite (a b : Bool) {m n : Nat} {e f : Int} (hm : 0 < m) (hn : 0 < n) :
    (UnpackedFloat.finite (signOf a) m e hm).compare (.finite (signOf b) n f hn) = some .eq ↔
      a = b ∧ m = n ∧ e = f := by
  cases a <;> cases b
  case false.false =>
    show some ((compare e f).then (compare m n)) = some .eq ↔ _
    simp [Ordering.then_eq_eq, and_comm]
  case true.true =>
    show some ((compare e f).then (compare m n)).swap = some .eq ↔ _
    simp [Ordering.then_eq_eq, and_comm]
  case false.true => exact ⟨fun h => (nomatch h), fun h => (nomatch h.1)⟩
  case true.false => exact ⟨fun h => (nomatch h), fun h => (nomatch h.1)⟩

theorem unpacked_cases (a : Bool) (m : Nat) :
    (m / 0x10000000000000 = 2047 ∧ m % 0x10000000000000 = 0 ∧
      unpacked a m = .infinity (signOf a)) ∨
    (m / 0x10000000000000 = 2047 ∧ m % 0x10000000000000 ≠ 0 ∧ unpacked a m = .notANumber) ∨
    (m = 0 ∧ unpacked a m = .zero (signOf a)) ∨
    (m / 0x10000000000000 ≠ 2047 ∧ m ≠ 0 ∧
      ∃ h, unpacked a m = .finite (signOf a) (significand m) (exponent m) h) := by
  unfold unpacked
  by_cases h1 : m / 0x10000000000000 = 2047
  · rw [if_pos h1]
    by_cases h2 : m % 0x10000000000000 = 0
    · exact .inl ⟨h1, h2, if_pos h2⟩
    · exact .inr (.inl ⟨h1, h2, if_neg h2⟩)
  · rw [if_neg h1]
    by_cases h0 : m = 0
    · exact .inr (.inr (.inl ⟨h0, dif_pos h0⟩))
    · have hpos : 0 < significand m := by
        unfold significand
        split <;> omega
      exact .inr (.inr (.inr ⟨h1, h0, hpos, dif_neg h0⟩))

theorem unpacked_beq_iff {a b : Bool} {m n : Nat} (hm : m < 0x8000000000000000)
    (hn : n < 0x8000000000000000) :
    (unpacked a m).beq (unpacked b n) = true ↔ m ≤ topRank ∧ m = n ∧ (m = 0 ∨ a = b) := by
  unfold UnpackedFloat.beq topRank
  rw [beq_iff_eq]
  obtain ⟨h1, h2, hu⟩ | ⟨h1, h2, hu⟩ | ⟨h1, hu⟩ | ⟨h1, h2, h, hu⟩ := unpacked_cases a m <;>
  obtain ⟨k1, k2, ku⟩ | ⟨k1, k2, ku⟩ | ⟨k1, ku⟩ | ⟨k1, k2, k, ku⟩ := unpacked_cases b n <;>
  rw [hu, ku]
  case inl.inl =>
    have hc : (UnpackedFloat.infinity (signOf a)).compare (.infinity (signOf b)) =
        some (compare (signOf a) (signOf b)) := rfl
    rw [hc, Option.some_inj, compare_sign]
    exact ⟨fun h => ⟨by omega, by omega, .inr h⟩, fun h => h.2.2.resolve_left (by omega)⟩
  case inr.inr.inr.inr.inr.inr =>
    rw [compare_finite]
    have em := significand_exponent m
    have en := significand_exponent n
    constructor
    · rintro ⟨rfl, hs, he⟩
      rw [hs, he, en] at em
      exact ⟨by omega, by omega, .inr rfl⟩
    · rintro ⟨_, rfl, h | h⟩
      · omega
      · exact ⟨h, rfl, rfl⟩
  case inr.inr.inl.inr.inr.inl =>
    exact ⟨fun _ => ⟨by omega, by omega, .inl h1⟩, fun _ => rfl⟩
  all_goals
    refine ⟨fun h => ?_, fun h => by omega⟩
    cases a <;> cases b <;> cases h

theorem magnitude?_eq_some_iff {x : Float} {m : Magnitude} :
    magnitude? x = some m ↔ x.toBits.toNat % 0x8000000000000000 = m.rank := by
  unfold magnitude?
  constructor
  · intro h
    dsimp only at h
    split at h
    · cases h
      rfl
    · cases h
  · intro h
    have hm := m.rank_le
    simp only [h, hm, dite_true]

theorem magnitude?_eq_none_iff {x : Float} :
    magnitude? x = none ↔ topRank < x.toBits.toNat % 0x8000000000000000 := by
  unfold magnitude?
  simp

/-- Doubles compare as equal if they have the same size and, unless it is zero, the same sign. -/
theorem beq_iff {x y : Float} :
    (x == y) = true ↔
      ∃ m, magnitude? x = some m ∧ magnitude? y = some m ∧
        (m = .zero ∨ isNegative x = isNegative y) := by
  show x.toModel.unpack.beq y.toModel.unpack = true ↔ _
  rw [unpack_toModel, unpack_toModel, unpacked_beq_iff (by omega) (by omega)]
  simp only [magnitude?_eq_some_iff]
  constructor
  · rintro ⟨h1, h2, h3⟩
    refine ⟨⟨_, h1⟩, rfl, h2.symm, h3.imp_left fun h => ?_⟩
    exact Magnitude.ext h
  · rintro ⟨m, hx, hy, h⟩
    refine ⟨hx ▸ m.rank_le, hx.trans hy.symm, h.imp_left ?_⟩
    rintro rfl
    exact hx

/-- A double that has a size is given by it and the sign. -/
theorem eq_toFloat {x : Float} {m : Magnitude} (h : magnitude? x = some m) :
    x = m.toFloat (isNegative x) := by
  rw [magnitude?_eq_some_iff] at h
  obtain ⟨⟨b, hb⟩⟩ := x
  have hlt := b.toNat_lt
  have : b = m.word (decide (0x8000000000000000 ≤ b.toNat)) := by
    apply UInt64.toNat_inj.1
    rw [m.word_toNat, ← h]
    show b.toNat = b.toNat % 0x8000000000000000 + _
    by_cases h : 0x8000000000000000 ≤ b.toNat <;> simp [h] <;> omega
  unfold Magnitude.toFloat
  congr 2

/-- There is only one double without a size. -/
theorem eq_nan {x : Float} (h : magnitude? x = none) : x = nan := by
  rw [magnitude?_eq_none_iff] at h
  obtain ⟨⟨b, hb⟩⟩ := x
  have hlt := b.toNat_lt
  unfold topRank at h
  have hr : 0x7FF0000000000000 < b.toNat % 0x8000000000000000 := h
  have hE : @unpackExponent Format.binary64 b.toBitVec = -1#_ := by
    rw [← BitVec.toNat_inj, unpackExponent_toNat]
    simp
    omega
  have hM : @unpackMantissa Format.binary64 b.toBitVec ≠ 0#_ := by
    rw [ne_eq, ← BitVec.toNat_inj, unpackMantissa_toNat]
    simp
    omega
  have hb' := hb.eq_packedNaN hE hM
  have hc : (nan.toModel.toBits).toBitVec = packedNaN Format.binary64 := by decide
  have : b = nan.toModel.toBits := by
    apply UInt64.toBitVec_inj.1
    rw [hb', hc]
  show Float.ofModel ⟨b, hb⟩ = Float.ofModel ⟨nan.toModel.toBits, nan.toModel.valid⟩
  congr 2

theorem magnitude?_nan : magnitude? nan = none := by decide

/-- NaN is the only double that does not compare as equal to itself. -/
theorem beq_self_iff {x : Float} : (x == x) = true ↔ x ≠ nan := by
  rw [beq_iff]
  constructor
  · rintro ⟨m, hm, _, _⟩ rfl
    rw [magnitude?_nan] at hm
    cases hm
  · intro h
    match hm : magnitude? x with
    | some m => exact ⟨m, rfl, rfl, .inr rfl⟩
    | none => exact absurd (eq_nan hm) h

end ReactiveSheet.Binary64
