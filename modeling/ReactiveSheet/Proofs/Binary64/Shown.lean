import ReactiveSheet.Proofs.Stack
import ReactiveSheet.View

/-!
Shown numbers as expressions. Main statements: the text by which a finite number is shown is its sign
and a decimal that reads back as its size (`exists_shown`), and so it evaluates to that number, while
the texts of infinity and of what is not a number are malformed (`shown_numbers_read_back`).
-/

namespace ReactiveSheet

variable {x : Float} {w : List Char}

namespace Postfix

/-- A literal that is one word is an expression. -/
theorem evaluate_literal (hblank : ∀ c ∈ w, Text.isBlank c = false)
    (hx : Binary64.literal? w = some x) : evaluate (String.ofList w) = .ok x := by
  have hne : w ≠ [] := by
    rintro rfl
    cases hx
  refine evaluate_eq_ok_iff.2 ⟨[.number x], ?_, rfl⟩
  rw [String.toList_ofList, Text.words_of_not_blank hne hblank, ofWords_eq_ok_iff]
  simp [ofWord?_eq_number_iff.2 hx]

end Postfix

namespace Binary64

variable {m : Magnitude}

/-- A whole number with one decimal place is written as so many tenths. -/
theorem text_tenths (n : Nat) : (⟨n * 10, 1⟩ : Decimal).text = Nat.toDigits 10 n ++ ['.', '0'] := by
  have hwhole : n * 10 / Nat.pow 10 1 = n := Nat.mul_div_cancel n (by decide)
  have hlast : Decimal.lastDigits (n * 10) 1 = ['0'] := by
    simp [Decimal.lastDigits]
  simp [Decimal.text, hwhole, hlast]

theorem magnitude_tenths {n : Nat} (h : m.whole? = some n) :
    (⟨n * 10, 1⟩ : Decimal).magnitude = m := by
  apply Decimal.magnitude_of_units
  rw [← Magnitude.units_of_whole? h, Nat.pow_one]
  simp only [Nat.shiftLeft_eq]
  exact Nat.mul_right_comm n 10 _

/-- Below the limit a whole number is shown as tenths, and all other numbers by their text. -/
theorem exists_shown (hx : isFinite x = true) :
    ∃ d : Decimal, shown x = String.ofList (signed (isNegative x) d.text) ∧
      magnitude? x = some d.magnitude := by
  obtain ⟨d, htext, hd⟩ := exists_text hx
  unfold shown
  cases hm : magnitude? x with
  | none => simp [isFinite, hm] at hx
  | some m =>
    have hfinite : m.isFinite = true := by simpa [isFinite, hm] using hx
    dsimp only
    rw [if_pos hfinite, htext]
    cases hwhole : m.whole? with
    | none => exact ⟨d, rfl, hm ▸ hd⟩
    | some n =>
      dsimp only
      split_ifs with hlimit
      · exact ⟨⟨n * 10, 1⟩, by rw [text_tenths], by rw [magnitude_tenths hwhole]⟩
      · exact ⟨d, rfl, hm ▸ hd⟩

theorem evaluate_shown (hx : isFinite x = true) : Postfix.evaluate (shown x) = .ok x := by
  obtain ⟨d, hshown, hm⟩ := exists_shown hx
  rw [hshown]
  apply Postfix.evaluate_literal
  · exact isBlank_of_mem_signed fun c hc => isBlank_of_mem_decimal hc
  · exact literal?_signed hm

/-- What is no finite number is shown by one of two words that are no literals. -/
theorem evaluate_shown_of_not_isFinite (hx : ¬ isFinite x = true) :
    Postfix.evaluate (shown x) = .error (.malformed (.unknownWord (shown x))) := by
  have hcases : shown x = "#NAN!" ∨ shown x = "#INF!" := by
    unfold shown
    cases hm : magnitude? x with
    | none => exact .inl rfl
    | some m =>
      have hinfinite : ¬ m.isFinite = true := by simpa [isFinite, hm] using hx
      dsimp only
      rw [if_neg hinfinite]
      exact .inr rfl
  rcases hcases with hshown | hshown
  · rw [hshown]
    decide +kernel
  · rw [hshown]
    decide +kernel

/-- A finite number is shown by an expression for it, the sign of a zero included, so that no other
number is shown by the same text. The text of every other double is malformed. -/
theorem shown_numbers_read_back (x : Float) :
    (isFinite x = true →
      Postfix.evaluate (shown x) = .ok x ∧ ∀ y, shown y = shown x → y = x) ∧
    (¬ isFinite x = true →
      Postfix.evaluate (shown x) = .error (.malformed (.unknownWord (shown x)))) := by
  refine ⟨fun hx => ⟨evaluate_shown hx, fun y hy => ?_⟩, evaluate_shown_of_not_isFinite⟩
  have hvalue : Postfix.evaluate (shown y) = .ok x := hy ▸ evaluate_shown hx
  by_cases hfinite : isFinite y = true
  · rw [evaluate_shown hfinite] at hvalue
    exact Except.ok.inj hvalue
  · rw [evaluate_shown_of_not_isFinite hfinite] at hvalue
    cases hvalue

/-- The two zeros, the least number above them, and the limit with a number just below it. -/
theorem hard_numbers_read_back :
    (isFinite (-0) = true ∧ Postfix.evaluate (shown (-0)) = .ok (-0) ∧ shown 0 ≠ shown (-0)) ∧
      (isFinite 5e-324 = true ∧ Postfix.evaluate (shown 5e-324) = .ok 5e-324) ∧
      (isFinite 1e15 = true ∧ Postfix.evaluate (shown 1e15) = .ok 1e15 ∧
        shown 999999999999999.9 ≠ shown 1e15) ∧
      ¬ isFinite nan = true ∧
        Postfix.evaluate "#NAN!" = .error (.malformed (.unknownWord "#NAN!")) := by
  have hzero : isFinite (-0) = true := by decide +kernel
  have hleast : isFinite 5e-324 = true := by decide +kernel
  have hlimit : isFinite 1e15 = true := by decide +kernel
  have hnan : ¬ isFinite nan = true := by decide
  obtain ⟨hzeroValue, hzeroOnly⟩ := (shown_numbers_read_back (-0)).1 hzero
  obtain ⟨hlimitValue, hlimitOnly⟩ := (shown_numbers_read_back 1e15).1 hlimit
  refine ⟨⟨hzero, hzeroValue, fun h => ?_⟩, ⟨hleast, ?_⟩, ⟨hlimit, hlimitValue, fun h => ?_⟩,
    hnan, (shown_numbers_read_back nan).2 hnan⟩
  · exact absurd (hzeroOnly 0 h) (by decide +kernel)
  · exact ((shown_numbers_read_back 5e-324).1 hleast).1
  · exact absurd (hlimitOnly _ h) (by decide +kernel)

end Binary64
end ReactiveSheet
