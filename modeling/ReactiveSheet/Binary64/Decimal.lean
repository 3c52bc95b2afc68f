import ReactiveSheet.Binary64.Magnitude

/-!
Positional decimals, how they are written, and the double that is nearest to one. A number literal
is an optional sign and then digits with an optional point and an optional exponent, or one of the
words for infinity and for what is not a number, in any case. The text that takes the place of a
number in a formula is a decimal: of those that read back as a finite double it is one with the
fewest digits, and of two such the nearer.
-/

namespace ReactiveSheet.Binary64

/-- The size nearest to `coeff * 10 ^ exp`. Exponents that leave no doubt are settled without
computing the power: a whole number is at least one, and `coeff` is below
`10 ^ (log2 coeff / 3 + 1)`. -/
def Magnitude.ofScientific (coeff : Nat) (exp : Int) : Magnitude :=
  if coeff = 0 then zero
  else if 400 < exp then infinity
  else if exp + (coeff.log2 / 3 + 1 : Nat) < -400 then zero
  else if 0 ≤ exp then nearest (coeff * Nat.pow 10 exp.toNat) 1
  else nearest coeff (Nat.pow 10 (-exp).toNat)

/-- The decimal `coeff / 10 ^ places`. -/
structure Decimal where
  coeff : Nat
  places : Nat
deriving DecidableEq, Repr

namespace Decimal

def magnitude (d : Decimal) : Magnitude := .ofScientific d.coeff (-(d.places : Int))

/-- Drops up to so many zeros from the end of a coefficient. -/
def dropZeros (coeff : Nat) : Nat → Decimal
  | 0 => ⟨coeff, 0⟩
  | places + 1 => if coeff % 10 = 0 then dropZeros (coeff / 10) places else ⟨coeff, places + 1⟩

/-- The decimal `coeff * 10 ^ exp` with no more places than it needs. -/
def ofScientific (coeff : Nat) (exp : Int) : Decimal :=
  if 0 ≤ exp then ⟨coeff * Nat.pow 10 exp.toNat, 0⟩ else dropZeros coeff (-exp).toNat

/-- The last digits of a number, as many as asked for. -/
def lastDigits (n : Nat) : Nat → List Char
  | 0 => []
  | k + 1 => lastDigits (n / 10) k ++ [Nat.digitChar (n % 10)]

/-- The digits of a decimal, with a point if it has places. -/
def text (d : Decimal) : List Char :=
  Nat.toDigits 10 (d.coeff / Nat.pow 10 d.places) ++
    if d.places = 0 then [] else '.' :: lastDigits d.coeff d.places

theorem lastDigits_length (n k : Nat) : (lastDigits n k).length = k := by
  induction k generalizing n with
  | zero => rfl
  | succ k ih => simp [lastDigits, ih]

/-- Reading the last digits gives the remainder. -/
theorem ofDigitChars_lastDigits (n k init : Nat) :
    Nat.ofDigitChars 10 (lastDigits n k) init = init * Nat.pow 10 k + n % Nat.pow 10 k := by
  induction k generalizing n with
  | zero => simp [lastDigits, Nat.mod_one]
  | succ k ih =>
    have hd : n % 10 < 10 := Nat.mod_lt _ (by decide)
    have hp : Nat.pow 10 (k + 1) = 10 * Nat.pow 10 k := Nat.mul_comm (Nat.pow 10 k) 10
    rw [lastDigits, Nat.ofDigitChars_append, ih, Nat.ofDigitChars_cons_digitChar_of_lt_ten hd,
      Nat.ofDigitChars_nil, hp, Nat.mod_mul]
    rw [Nat.mul_add, Nat.mul_left_comm]
    omega

/-- The digits of a decimal read as one number are its coefficient. -/
theorem ofDigitChars_digits (d : Decimal) :
    Nat.ofDigitChars 10
        (Nat.toDigits 10 (d.coeff / Nat.pow 10 d.places) ++ lastDigits d.coeff d.places) 0 =
      d.coeff := by
  rw [Nat.ofDigitChars_append, Nat.ofDigitChars_ten_toDigits, ofDigitChars_lastDigits,
    Nat.mul_comm, Nat.div_add_mod]

end Decimal

/-- A sign at the front of a text: whether it is a minus, and what follows. -/
def splitSign : List Char → Bool × List Char
  | '+' :: cs => (false, cs)
  | '-' :: cs => (true, cs)
  | cs => (false, cs)

def splitDigits (cs : List Char) : List Char × List Char :=
  (cs.takeWhile Char.isDigit, cs.dropWhile Char.isDigit)

/-- A point and the digits after it at the front of a text, and what follows. -/
def splitFraction : List Char → List Char × List Char
  | '.' :: cs => splitDigits cs
  | cs => ([], cs)

/-- An exponent that is the whole of a text. No text at all is the exponent zero. -/
def exponent? : List Char → Option Int
  | [] => some 0
  | e :: cs =>
    if e = 'e' ∨ e = 'E' then
      let (negative, ds) := splitSign cs
      if ds ≠ [] ∧ ds.all Char.isDigit then
        let n := Nat.ofDigitChars 10 ds 0
        some (if negative then -n else n)
      else none
    else none

def unsigned? (cs : List Char) : Option Magnitude :=
  let (whole, rest) := splitDigits cs
  let (fraction, rest) := splitFraction rest
  if whole = [] ∧ fraction = [] then none
  else
    (exponent? rest).map fun e =>
      .ofScientific (Nat.ofDigitChars 10 (whole ++ fraction) 0) (e - fraction.length)

/-- The double nearest to what a literal writes. -/
def literal? (cs : List Char) : Option Float :=
  let (negative, rest) := splitSign cs
  let name := rest.map Char.toLower
  if name = "nan".toList then some nan
  else if name = "inf".toList ∨ name = "infinity".toList then
    some (Magnitude.infinity.toFloat negative)
  else (unsigned? rest).map (Magnitude.toFloat negative)

namespace Magnitude

/-- The whole number that a size is, if it is one below `2 ^ 53`. -/
def whole? (m : Magnitude) : Option Nat :=
  let n := m.units >>> 1074
  if n < 0x20000000000000 ∧ n <<< 1074 = m.units then some n else none

/-- The whole part of the size times `10 ^ scale`, and whether the rest is below one half. -/
def scaled (m : Magnitude) (scale : Int) : Nat × Bool :=
  let num := if 0 ≤ scale then m.units * Nat.pow 10 scale.toNat else m.units
  let den := if 0 ≤ scale then 1 <<< 1074 else Nat.pow 10 (-scale).toNat <<< 1074
  (num / den, 2 * (num % den) < den)

def reaches (m : Magnitude) (k : Int) : Bool :=
  if 0 ≤ k then Nat.pow 10 k.toNat <<< 1074 ≤ m.units
  else 1 <<< 1074 ≤ m.units * Nat.pow 10 (-k).toNat

/-- How many digits stand before the point, or minus how many zeros stand after it. The power of two
below the size bounds this to one of two numbers. -/
def digitsBeforePoint (m : Magnitude) : Int :=
  let k := ((m.units.log2 : Int) - 1074) * 30103 / 100000 + 1
  if m.reaches k then k + 1 else k

/-- The decimal next to the size on the grid of multiples of `10 ^ (-scale)` that reads back as
it, the nearer one if both neighbours do, and the larger one of two that are equally near. -/
def onGrid? (m : Magnitude) (scale : Int) : Option Decimal :=
  let (n, near) := m.scaled scale
  let below := Decimal.ofScientific n (-scale)
  let above := Decimal.ofScientific (n + 1) (-scale)
  if near then
    if below.magnitude = m then some below else if above.magnitude = m then some above else none
  else
    if above.magnitude = m then some above else if below.magnitude = m then some below else none

def exact (m : Magnitude) : Decimal := .ofScientific (m.units * Nat.pow 5 1074) (-1074)

/-- The shortest decimal of a finite size. Seventeen digits always suffice. -/
def shortest (m : Magnitude) : Decimal :=
  match m.whole? with
  | some n => ⟨n, 0⟩
  | none =>
    let before := m.digitsBeforePoint
    ((List.range 17).findSome? fun (n : Nat) => m.onGrid? (n + 1 - before)).getD m.exact

end Magnitude

def signed (negative : Bool) (cs : List Char) : List Char :=
  if negative then '-' :: cs else cs

/-- The text of a double: its shortest decimal, without exponent. -/
def text (x : Float) : List Char :=
  match magnitude? x with
  | none => "NaN".toList
  | some m =>
    signed (isNegative x) (if m.isFinite then m.shortest.text else "inf".toList)

end ReactiveSheet.Binary64
