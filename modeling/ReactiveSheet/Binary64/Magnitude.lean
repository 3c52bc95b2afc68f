/-!
The size of a double. Doubles of one sign are numbered by rank in increasing order, from zero over
the subnormal numbers to infinity, and a rank is the bit pattern without its sign. Sizes are
measured in units of `2 ^ (-1074)`, of which every finite double is a whole number. The main definition is
`Magnitude.nearest`, the double nearest to a fraction.
-/

namespace ReactiveSheet.Binary64

def topRank : Nat := 0x7FF0000000000000

/-- The size of a double that is not NaN. -/
structure Magnitude where
  rank : Nat
  rank_le : rank ≤ topRank
deriving DecidableEq

namespace Magnitude

@[ext] theorem ext {a b : Magnitude} (h : a.rank = b.rank) : a = b := by
  cases a; cases b; simp_all

def zero : Magnitude := ⟨0, by decide⟩

def infinity : Magnitude := ⟨topRank, Nat.le_refl _⟩

instance : Inhabited Magnitude := ⟨zero⟩

def isFinite (m : Magnitude) : Bool := m.rank < topRank

/-- The size in units of `2 ^ (-1074)`. The low 52 bits of a rank are the fraction, and those above
them count how often the unit doubles, starting from the second. -/
def units (m : Magnitude) : Nat :=
  if m.rank < 0x20000000000000 then m.rank
  else (0x10000000000000 + m.rank % 0x10000000000000) <<< (m.rank / 0x10000000000000 - 1)

/-- The whole number nearest to a fraction, the even one of two that are equally near. -/
def roundHalfEven (num den : Nat) : Nat :=
  let q := num / den
  let r := num % den
  if 2 * r < den ∨ 2 * r = den ∧ q % 2 = 0 then q else q + 1

/-- The size nearest to the fraction `num / den`. The fraction in units of `2 ^ (-1074)` is shifted
down to 53 bits and rounded there; what the largest finite size cannot hold is infinite. -/
def nearest (num den : Nat) : Magnitude :=
  let scaled := num <<< 1074
  let shift := (scaled / den).log2 - 52
  ⟨min topRank (shift * 0x10000000000000 + roundHalfEven scaled (den <<< shift)),
    Nat.min_le_left _ _⟩

def word (negative : Bool) (m : Magnitude) : UInt64 :=
  UInt64.ofNat (m.rank + if negative then 0x8000000000000000 else 0)

theorem word_toNat (negative : Bool) (m : Magnitude) :
    (m.word negative).toNat = m.rank + if negative then 0x8000000000000000 else 0 := by
  have h := m.rank_le
  unfold topRank at h
  unfold word
  rw [UInt64.toNat_ofNat']
  apply Nat.mod_eq_of_lt
  split <;> omega

theorem word_valid (negative : Bool) (m : Magnitude) :
    Float.Model.Format.binary64.Valid (m.word negative).toBitVec := by
  refine ⟨fun he hm => absurd ?_ hm⟩
  have hw : (m.word negative).toBitVec.toNat = _ := m.word_toNat negative
  have h := m.rank_le
  unfold topRank at h
  replace he := congrArg BitVec.toNat he
  apply BitVec.eq_of_toNat_eq
  simp only [Float.Model.UnpackedFloat.unpackExponent, Float.Model.UnpackedFloat.unpackMantissa,
    BitVec.toNat_cast, BitVec.extractLsb_toNat, hw, Nat.shiftRight_eq_div_pow] at he ⊢
  simp at he ⊢
  split at he <;> simp_all <;> omega

def toFloat (negative : Bool) (m : Magnitude) : Float :=
  .ofModel ⟨m.word negative, m.word_valid negative⟩

@[simp] theorem toBits_toFloat (negative : Bool) (m : Magnitude) :
    (m.toFloat negative).toBits = m.word negative := rfl

end Magnitude

def nan : Float := .ofBits 0x7FF8000000000000

def isNegative (x : Float) : Bool := 0x8000000000000000 ≤ x.toBits.toNat

/-- The size of a double, unless it is NaN. -/
def magnitude? (x : Float) : Option Magnitude :=
  let rank := x.toBits.toNat % 0x8000000000000000
  if h : rank ≤ topRank then some ⟨rank, h⟩ else none

def isFinite (x : Float) : Bool := (magnitude? x).any Magnitude.isFinite

theorem isNegative_toFloat (negative : Bool) (m : Magnitude) :
    isNegative (m.toFloat negative) = negative := by
  have h := m.rank_le
  unfold topRank at h
  simp only [isNegative, Magnitude.toBits_toFloat, m.word_toNat]
  cases negative <;> simp
  omega

end ReactiveSheet.Binary64
