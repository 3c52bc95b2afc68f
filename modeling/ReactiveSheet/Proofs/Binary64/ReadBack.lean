import Mathlib.Algebra.Order.Ring.Nat
import Mathlib.Tactic.SplitIfs
import ReactiveSheet.Binary64.Decimal
import ReactiveSheet.Binary64.Equality
import ReactiveSheet.Text.Blank

/-!
The text of a double reads back as the double. Main statements: a fraction that is a size exactly is
rounded to it (`Magnitude.nearest_of_units`), the shortest decimal of a size reads back as it
(`Magnitude.shortest_magnitude`), and so does the text of every double, infinite ones and NaN
included (`literal?_text`).
-/

namespace ReactiveSheet.Binary64

namespace Magnitude

variable {m : Magnitude} {num den : Nat}

theorem roundHalfEven_mul (q : Nat) {d : Nat} (hd : 0 < d) : roundHalfEven (q * d) d = q := by
  unfold roundHalfEven
  simp only [Nat.mul_mod_left, Nat.mul_div_cancel q hd]
  rw [if_pos (.inl (by omega))]

/-- The power of two by which the units of a size are those of a number of 53 bits. -/
theorem exists_units_eq (m : Magnitude) :
    ∃ q, m.units = q <<< (m.units.log2 - 52) ∧
      (m.units.log2 - 52) * 0x10000000000000 + q = m.rank := by
  unfold units
  split_ifs with hsmall
  · have hlog : m.rank.log2 - 52 = 0 := by
      have : m.rank.log2 < 53 := by
        by_cases h0 : m.rank = 0
        · simp [h0]
        · exact (Nat.log2_lt h0).2 hsmall
      omega
    exact ⟨m.rank, by rw [hlog, Nat.shiftLeft_zero], by rw [hlog]; omega⟩
  · generalize hq : 0x10000000000000 + m.rank % 0x10000000000000 = q
    generalize he : m.rank / 0x10000000000000 - 1 = e
    have hlog : (q <<< e).log2 = 52 + e := by
      have hpos : 0 < 2 ^ e := Nat.two_pow_pos e
      rw [Nat.shiftLeft_eq, Nat.log2_eq_iff (Nat.mul_ne_zero (by omega) hpos.ne'), Nat.pow_add,
        Nat.add_right_comm, Nat.pow_add]
      exact ⟨Nat.mul_le_mul_right _ (by omega), Nat.mul_lt_mul_of_pos_right (by omega) hpos⟩
    rw [hlog, Nat.add_sub_cancel_left]
    exact ⟨q, rfl, by omega⟩

/-- No rounding is needed for a fraction that is a size exactly. -/
theorem nearest_of_units (hden : 0 < den) (h : num <<< 1074 = m.units * den) :
    nearest num den = m := by
  obtain ⟨q, hunits, hrank⟩ := m.exists_units_eq
  have hdiv : m.units * den / den = m.units := Nat.mul_div_cancel _ hden
  have hround : roundHalfEven (m.units * den) (den <<< (m.units.log2 - 52)) = q := by
    have hpos : 0 < den <<< (m.units.log2 - 52) := by
      rw [Nat.shiftLeft_eq]
      exact Nat.mul_pos hden (Nat.two_pow_pos _)
    have hexact : m.units * den = q * den <<< (m.units.log2 - 52) := by
      rw [Nat.shiftLeft_eq, Nat.mul_left_comm, Nat.mul_comm (m.units), ← Nat.shiftLeft_eq, ← hunits]
    rw [hexact, roundHalfEven_mul q hpos]
  apply Magnitude.ext
  simp only [nearest, h, hdiv, hround, hrank]
  exact Nat.min_eq_right m.rank_le

theorem eq_zero_of_units (h : m.units = 0) : m = zero := by
  obtain ⟨q, hunits, hrank⟩ := m.exists_units_eq
  rw [h, Nat.log2_zero, Nat.zero_sub, Nat.shiftLeft_zero] at hunits
  rw [h, Nat.log2_zero, ← hunits] at hrank
  exact Magnitude.ext hrank.symm

end Magnitude

namespace Decimal

variable {m : Magnitude} {d : Decimal} {coeff places : Nat}

theorem units_ne_zero (hcoeff : d.coeff ≠ 0) (h : d.coeff <<< 1074 = m.units * 10 ^ d.places) :
    m.units ≠ 0 := by
  intro hunits
  rw [hunits, Nat.zero_mul, Nat.shiftLeft_eq_zero_iff] at h
  exact hcoeff h

theorem shiftLeft_lt (n k : Nat) : n <<< k < 2 ^ (n.log2 + 1 + k) := by
  rw [Nat.shiftLeft_eq, Nat.pow_add 2 (n.log2 + 1)]
  exact Nat.mul_lt_mul_of_pos_right Nat.lt_log2_self (Nat.two_pow_pos k)

/-- The least size other than zero bounds the places of a decimal by the length of its
coefficient. -/
theorem places_lt (hcoeff : d.coeff ≠ 0) (h : d.coeff <<< 1074 = m.units * 10 ^ d.places) :
    3 * d.places < d.coeff.log2 + 1 + 1074 := by
  have hunits : 1 ≤ m.units := Nat.pos_of_ne_zero (units_ne_zero hcoeff h)
  have hle : 2 ^ (3 * d.places) ≤ d.coeff <<< 1074 := by
    calc 2 ^ (3 * d.places) = 8 ^ d.places := by rw [Nat.pow_mul]
      _ ≤ 10 ^ d.places := Nat.pow_le_pow_left (by decide) _
      _ ≤ m.units * 10 ^ d.places := Nat.le_mul_of_pos_left _ hunits
      _ = d.coeff <<< 1074 := h.symm
  exact (Nat.pow_lt_pow_iff_right (by decide)).1 (hle.trans_lt (shiftLeft_lt d.coeff 1074))

/-- A decimal that is a size exactly reads back as it. -/
theorem magnitude_of_units (h : d.coeff <<< 1074 = m.units * 10 ^ d.places) :
    d.magnitude = m := by
  have hpow : 0 < 10 ^ d.places := Nat.pow_pos (by decide)
  unfold magnitude Magnitude.ofScientific
  by_cases hcoeff : d.coeff = 0
  · rw [if_pos hcoeff]
    rw [hcoeff, Nat.zero_shiftLeft] at h
    exact (Magnitude.eq_zero_of_units ((Nat.mul_eq_zero.1 h.symm).resolve_right hpow.ne')).symm
  · have hplaces := places_lt hcoeff h
    rw [if_neg hcoeff, if_neg (by omega), if_neg (by omega)]
    split_ifs with hzero
    · have h0 : d.places = 0 := by omega
      rw [h0] at h ⊢
      refine Magnitude.nearest_of_units Nat.one_pos ?_
      simpa using h
    · rw [Int.neg_neg, Int.toNat_natCast]
      exact Magnitude.nearest_of_units hpow h

/-- Dropping zeros changes the places and the coefficient by the same power of ten. -/
theorem dropZeros_coeff (coeff places : Nat) :
    (dropZeros coeff places).coeff * 10 ^ places =
      coeff * 10 ^ (dropZeros coeff places).places := by
  induction places generalizing coeff with
  | zero => rfl
  | succ places ih =>
    rw [dropZeros]
    split_ifs with hzero
    · rw [Nat.pow_succ, ← Nat.mul_assoc, ih, Nat.mul_right_comm,
        Nat.div_mul_cancel (Nat.dvd_of_mod_eq_zero hzero)]
    · rfl

/-- Halving so often is dividing by ten so often, with as many factors of five. -/
theorem dropZeros_shiftLeft (n k : Nat) :
    (dropZeros (n * Nat.pow 5 k) k).coeff <<< k =
      n * 10 ^ (dropZeros (n * Nat.pow 5 k) k).places := by
  have hfive : 0 < 5 ^ k := Nat.pow_pos (by decide)
  refine Nat.eq_of_mul_eq_mul_right hfive ?_
  rw [Nat.shiftLeft_eq, Nat.mul_assoc, ← Nat.mul_pow, dropZeros_coeff, Nat.mul_right_comm]
  rfl

theorem ofScientific_shiftLeft (n : Nat) {k : Nat} (hk : 0 < k) {pow : Nat → Nat → Nat}
    (hpow : Nat.pow = pow) :
    (ofScientific (n * pow 5 k) (-(k : Int))).coeff <<< k =
      n * 10 ^ (ofScientific (n * pow 5 k) (-(k : Int))).places := by
  subst hpow
  rw [ofScientific, if_neg (by omega), Int.neg_neg, Int.toNat_natCast]
  exact dropZeros_shiftLeft n k

end Decimal

namespace Magnitude

variable {m : Magnitude}

theorem units_of_whole? {n : Nat} (h : m.whole? = some n) : n <<< 1074 = m.units := by
  unfold whole? at h
  dsimp only at h
  split_ifs at h with hn
  cases h
  exact hn.2

theorem magnitude_of_whole? {n : Nat} (h : m.whole? = some n) :
    (⟨n, 0⟩ : Decimal).magnitude = m := by
  refine Decimal.magnitude_of_units ?_
  rw [units_of_whole? h, Nat.pow_zero, Nat.mul_one]

theorem magnitude_of_onGrid? {scale : Int} {d : Decimal} (h : m.onGrid? scale = some d) :
    d.magnitude = m := by
  unfold onGrid? at h
  dsimp only at h
  split_ifs at h with _ hd hd hd hd <;> cases h <;> exact hd

theorem exact_magnitude (m : Magnitude) : m.exact.magnitude = m := by
  unfold exact
  -- The power of five is not to be computed.
  generalize hpow : Nat.pow = pow
  exact Decimal.magnitude_of_units (Decimal.ofScientific_shiftLeft m.units (by decide) hpow)

theorem shortest_magnitude (m : Magnitude) : m.shortest.magnitude = m := by
  unfold shortest
  cases hwhole : m.whole? with
  | some n => exact magnitude_of_whole? hwhole
  | none =>
    dsimp only
    cases hgrid : (List.range 17).findSome? fun (n : Nat) =>
        m.onGrid? (n + 1 - m.digitsBeforePoint) with
    | some d =>
      obtain ⟨n, _, hd⟩ := List.exists_of_findSome?_eq_some hgrid
      exact magnitude_of_onGrid? hd
    | none =>
      rw [Option.getD_none]
      exact exact_magnitude m

end Magnitude

variable {d : Decimal} {m : Magnitude} {x : Float} {c : Char} {cs ds : List Char}

theorem toLower_of_isDigit (hc : c.isDigit = true) : c.toLower = c := by
  rw [Char.isDigit_iff_toNat] at hc
  unfold Char.toLower
  rw [dif_neg]
  rintro ⟨hupper, _⟩
  have hle : 'A'.toNat ≤ c.toNat := UInt32.le_iff_toNat_le.1 hupper
  exact absurd (hle.trans hc.2) (by decide)

theorem splitSign_signed (hc : c.isDigit = true) (negative : Bool) :
    splitSign (signed negative (c :: cs)) = (negative, c :: cs) := by
  cases negative with
  | true => rfl
  | false =>
    have hplus : c ≠ '+' := by
      rintro rfl
      cases hc
    have hminus : c ≠ '-' := by
      rintro rfl
      cases hc
    unfold splitSign signed
    simp [hplus, hminus]

/-- A text that begins with a digit is none of the names. -/
theorem literal?_of_digit (hc : c.isDigit = true) (negative : Bool) :
    literal? (signed negative (c :: cs)) =
      (unsigned? (c :: cs)).map (Magnitude.toFloat negative) := by
  have hname : ∀ {name : List Char}, name.head?.any Char.isDigit = false →
      (c :: cs).map Char.toLower ≠ name := by
    rintro name hn rfl
    rw [List.map_cons, toLower_of_isDigit hc, List.head?_cons, Option.any_some, hc] at hn
    cases hn
  unfold literal?
  simp only [splitSign_signed hc]
  rw [if_neg (hname (by decide)), if_neg]
  exact not_or.2 ⟨hname (by decide), hname (by decide)⟩

theorem splitDigits_append (hds : ∀ c ∈ ds, c.isDigit = true) (hcs : ∀ c ∈ cs.head?, ¬ c.isDigit) :
    splitDigits (ds ++ cs) = (ds, cs) := by
  unfold splitDigits
  rw [List.takeWhile_append_of_pos hds, List.dropWhile_append_of_pos hds]
  cases cs with
  | nil => simp
  | cons c cs => simp [hcs c rfl]

theorem isDigit_of_mem_lastDigits {n k : Nat} (hc : c ∈ Decimal.lastDigits n k) :
    c.isDigit = true := by
  induction k generalizing n with
  | zero => exact absurd hc List.not_mem_nil
  | succ k ih =>
    rw [Decimal.lastDigits, List.mem_append, List.mem_singleton] at hc
    rcases hc with hc | rfl
    · exact ih hc
    · rw [Nat.isDigit_digitChar]
      exact decide_eq_true (Nat.mod_lt n (by decide))

/-- The digits after the point are those of the places, also where there are none. -/
theorem splitFraction_lastDigits (d : Decimal) :
    splitFraction (if d.places = 0 then [] else '.' :: Decimal.lastDigits d.coeff d.places) =
      (Decimal.lastDigits d.coeff d.places, []) := by
  split_ifs with hplaces
  · rw [hplaces]
    rfl
  · have hdigits : ∀ c ∈ Decimal.lastDigits d.coeff d.places, c.isDigit = true :=
      fun _ => isDigit_of_mem_lastDigits
    have hnone : ∀ c ∈ ([] : List Char).head?, ¬ c.isDigit = true := nofun
    have h := splitDigits_append hdigits hnone
    rwa [List.append_nil] at h

theorem unsigned?_text (d : Decimal) : unsigned? d.text = some d.magnitude := by
  have hwhole : ∀ c ∈ Nat.toDigits 10 (d.coeff / Nat.pow 10 d.places), c.isDigit = true :=
    fun c hc => Nat.isDigit_of_mem_toDigits (by decide) (by decide) hc
  have hpoint : ∀ c ∈ (if d.places = 0 then []
      else '.' :: Decimal.lastDigits d.coeff d.places).head?, ¬ c.isDigit = true := by
    intro c hc
    split_ifs at hc
    · cases hc
    · cases hc
      decide
  unfold unsigned? Decimal.text
  simp only [splitDigits_append hwhole hpoint, splitFraction_lastDigits]
  rw [if_neg (fun h => Nat.toDigits_ne_nil h.1)]
  simp only [exponent?, Option.map_some, Decimal.ofDigitChars_digits, Decimal.lastDigits_length]
  rw [Decimal.magnitude, Int.zero_sub]

theorem exists_digit_text (d : Decimal) : ∃ c cs, d.text = c :: cs ∧ c.isDigit = true := by
  obtain ⟨c, cs, hdigits⟩ :=
    List.exists_cons_of_ne_nil (Nat.toDigits_ne_nil (n := d.coeff / Nat.pow 10 d.places) (b := 10))
  refine ⟨c, _, by rw [Decimal.text, hdigits, List.cons_append], ?_⟩
  exact Nat.isDigit_of_mem_toDigits (b := 10) (by decide) (by decide) (hdigits ▸ List.mem_cons_self)

/-- A decimal with the sign of a double is a literal of it, if it reads back as its size. -/
theorem literal?_signed (hm : magnitude? x = some d.magnitude) :
    literal? (signed (isNegative x) d.text) = some x := by
  obtain ⟨c, cs, htext, hc⟩ := exists_digit_text d
  rw [htext, literal?_of_digit hc, ← htext, unsigned?_text, Option.map_some, ← eq_toFloat hm]

/-- The text of a finite number is its sign and a decimal that reads back as its size. -/
theorem exists_text (hx : isFinite x = true) :
    ∃ d : Decimal, text x = signed (isNegative x) d.text ∧ magnitude? x = some d.magnitude := by
  cases hm : magnitude? x with
  | none => simp [isFinite, hm] at hx
  | some m =>
    have hfinite : m.isFinite = true := by simpa [isFinite, hm] using hx
    refine ⟨m.shortest, ?_, by rw [m.shortest_magnitude]⟩
    simp [text, hm, hfinite]

theorem literal?_text (x : Float) : literal? (text x) = some x := by
  unfold text
  cases hm : magnitude? x with
  | none =>
    rw [eq_nan hm]
    rfl
  | some m =>
    dsimp only
    split_ifs with hfinite
    · exact literal?_signed (by rw [hm, m.shortest_magnitude])
    · have hinf : m = .infinity := Magnitude.ext (by
        have := m.rank_le
        simp only [Magnitude.isFinite, decide_eq_true_eq, not_lt] at hfinite
        exact Nat.le_antisymm this hfinite)
      rw [eq_toFloat hm, hinf, isNegative_toFloat]
      cases isNegative x <;> rfl

theorem text_ne_nil (x : Float) : text x ≠ [] := by
  intro h
  have hnil := literal?_text x
  rw [h] at hnil
  cases hnil

theorem isBlank_of_isDigit (hc : c.isDigit = true) : Text.isBlank c = false := by
  rw [Char.isDigit_iff_toNat] at hc
  have hlow : 48 ≤ c.toNat := hc.1
  have hhigh : c.toNat ≤ 57 := hc.2
  simp [Text.isBlank, Text.blankRanges]
  omega

theorem isDigit_or_point_of_mem_decimal (hc : c ∈ d.text) : c.isDigit = true ∨ c = '.' := by
  rw [Decimal.text, List.mem_append] at hc
  rcases hc with hc | hc
  · exact .inl (Nat.isDigit_of_mem_toDigits (by decide) (by decide) hc)
  · split_ifs at hc
    · exact absurd hc List.not_mem_nil
    · rcases List.mem_cons.1 hc with rfl | hc
      · exact .inr rfl
      · exact .inl (isDigit_of_mem_lastDigits hc)

theorem isBlank_of_mem_decimal (hc : c ∈ d.text) : Text.isBlank c = false := by
  rcases isDigit_or_point_of_mem_decimal hc with hdigit | rfl
  · exact isBlank_of_isDigit hdigit
  · simp [Text.isBlank, Text.blankRanges]

theorem isBlank_of_mem_signed (hcs : ∀ c ∈ cs, Text.isBlank c = false) {negative : Bool} :
    ∀ c ∈ signed negative cs, Text.isBlank c = false := by
  cases negative with
  | false => exact hcs
  | true => simpa [signed, Text.isBlank, Text.blankRanges] using hcs

/-- What is no number has a word for its text. All other texts have digits, a sign and a point, and
the small letters of infinity. -/
theorem text_cases (x : Float) :
    text x = "NaN".toList ∨ ∀ c ∈ text x, c.isDigit = true ∨ c ∈ "-.inf".toList := by
  unfold text
  cases magnitude? x with
  | none => exact .inl rfl
  | some m =>
    have hunsigned : ∀ c ∈ if m.isFinite then m.shortest.text else "inf".toList,
        c.isDigit = true ∨ c ∈ "-.inf".toList := by
      split_ifs
      · intro c hc
        rcases isDigit_or_point_of_mem_decimal hc with hdigit | rfl
        · exact .inl hdigit
        · simp
      · simp
    right
    dsimp only
    generalize (if m.isFinite then m.shortest.text else "inf".toList) = cs at hunsigned ⊢
    cases isNegative x with
    | false => exact hunsigned
    | true => simpa [signed] using hunsigned

theorem isBlank_of_mem_text (x : Float) : ∀ c ∈ text x, Text.isBlank c = false := by
  intro c hc
  rcases text_cases x with htext | htext
  · have h : ∀ c ∈ "NaN".toList, Text.isBlank c = false := by
      simp [Text.isBlank, Text.blankRanges]
    exact h c (htext ▸ hc)
  · have h : ∀ c ∈ "-.inf".toList, Text.isBlank c = false := by
      simp [Text.isBlank, Text.blankRanges]
    exact (htext c hc).elim isBlank_of_isDigit (h c)

/-- The text of a double is one word. -/
theorem words_text (x : Float) : Text.words (text x) = [text x] :=
  Text.words_of_not_blank (text_ne_nil x) (isBlank_of_mem_text x)

end ReactiveSheet.Binary64
