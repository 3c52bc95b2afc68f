import Mathlib.Data.List.TakeWhile
import Mathlib.Tactic.SplitIfs
import ReactiveSheet.Binary64.Decimal

/-!
How number literals are spelled. Main statements: the characters of a numeral are digits and five
others (`Numeral.inNumerals`), and what is read as a number is a name or a numeral, maybe with a sign
(`spelled_of_literal?`).
-/

namespace ReactiveSheet.Binary64

variable {c : Char} {cs w : List Char} {x : Float}

def IsSign (cs : List Char) : Prop := cs = [] ∨ cs = ['+'] ∨ cs = ['-']

def IsDigits (cs : List Char) : Prop := ∀ c ∈ cs, c.isDigit = true

/-- The exponent of a numeral, which may be absent. -/
inductive Exponent : List Char → Prop
  | absent : Exponent []
  | present {e : Char} {sign ds : List Char} (letter : e = 'e' ∨ e = 'E') (hsign : IsSign sign)
      (hne : ds ≠ []) (hds : IsDigits ds) : Exponent (e :: (sign ++ ds))

/-- Digits, or digits with a point among them or at one end, and an exponent. -/
inductive Numeral : List Char → Prop
  | whole {ds e : List Char} (hne : ds ≠ []) (hds : IsDigits ds) (he : Exponent e) :
      Numeral (ds ++ e)
  | point {ds fs e : List Char} (hne : ds ≠ [] ∨ fs ≠ []) (hds : IsDigits ds) (hfs : IsDigits fs)
      (he : Exponent e) : Numeral (ds ++ '.' :: (fs ++ e))

/-- A name in any case or a numeral, after an optional sign. -/
inductive Spelled : List Char → Prop
  | name {sign cs : List Char} (hsign : IsSign sign)
      (hname : cs.map Char.toLower ∈ ["nan".toList, "inf".toList, "infinity".toList]) :
      Spelled (sign ++ cs)
  | numeral {sign cs : List Char} (hsign : IsSign sign) (hcs : Numeral cs) : Spelled (sign ++ cs)

/-- A character that numerals are made of. -/
def InNumerals (c : Char) : Prop := c.isDigit = true ∨ c ∈ ['.', 'e', 'E', '+', '-']

theorem IsSign.inNumerals (hcs : IsSign cs) (hc : c ∈ cs) : InNumerals c := by
  rcases hcs with rfl | rfl | rfl <;> simp_all [InNumerals]

theorem IsDigits.inNumerals (hcs : IsDigits cs) (hc : c ∈ cs) : InNumerals c := .inl (hcs c hc)

theorem Exponent.inNumerals (hcs : Exponent cs) (hc : c ∈ cs) : InNumerals c := by
  cases hcs with
  | absent => cases hc
  | present letter hsign _ hds =>
    rcases List.mem_cons.1 hc with rfl | hc
    · rcases letter with rfl | rfl <;> simp [InNumerals]
    · exact (List.mem_append.1 hc).elim hsign.inNumerals hds.inNumerals

theorem Numeral.inNumerals (hcs : Numeral cs) (hc : c ∈ cs) : InNumerals c := by
  cases hcs with
  | whole _ hds he => exact (List.mem_append.1 hc).elim hds.inNumerals he.inNumerals
  | point _ hds hfs he =>
    rcases List.mem_append.1 hc with hc | hc
    · exact hds.inNumerals hc
    · rcases List.mem_cons.1 hc with rfl | hc
      · simp [InNumerals]
      · exact (List.mem_append.1 hc).elim hfs.inNumerals he.inNumerals

theorem splitSign_eq (cs : List Char) :
    ∃ negative sign rest, splitSign cs = (negative, rest) ∧ cs = sign ++ rest ∧ IsSign sign := by
  unfold splitSign
  split
  · exact ⟨false, ['+'], _, rfl, rfl, .inr (.inl rfl)⟩
  · exact ⟨true, ['-'], _, rfl, rfl, .inr (.inr rfl)⟩
  · exact ⟨false, [], _, rfl, rfl, .inl rfl⟩

theorem splitDigits_eq (cs : List Char) :
    ∃ ds rest, splitDigits cs = (ds, rest) ∧ cs = ds ++ rest ∧ IsDigits ds :=
  ⟨_, _, rfl, List.takeWhile_append_dropWhile.symm, fun _ hc => List.mem_takeWhile_imp hc⟩

theorem splitFraction_eq (cs : List Char) :
    ∃ fs rest, splitFraction cs = (fs, rest) ∧ IsDigits fs ∧
      (cs = '.' :: (fs ++ rest) ∨ fs = [] ∧ cs = rest) := by
  unfold splitFraction
  split
  · rename_i cs
    obtain ⟨fs, rest, hsplit, rfl, hfs⟩ := splitDigits_eq cs
    exact ⟨fs, rest, hsplit, hfs, .inl rfl⟩
  · exact ⟨[], cs, rfl, List.forall_mem_nil _, .inr ⟨rfl, rfl⟩⟩

theorem exponent_of_exponent? {n : Int} (h : exponent? cs = some n) : Exponent cs := by
  unfold exponent? at h
  split at h
  · exact .absent
  · rename_i e cs
    split_ifs at h with hletter
    obtain ⟨negative, sign, ds, hsplit, rfl, hsign⟩ := splitSign_eq cs
    simp only [hsplit] at h
    have hds : ds ≠ [] ∧ ds.all Char.isDigit = true := by
      by_contra hds
      rw [if_neg hds] at h
      cases h
    exact .present hletter hsign hds.1 (List.all_eq_true.1 hds.2)

theorem numeral_of_unsigned? {m : Magnitude} (h : unsigned? cs = some m) : Numeral cs := by
  obtain ⟨ds, rest, hwhole, rfl, hds⟩ := splitDigits_eq cs
  obtain ⟨fs, e, hfraction, hfs, hrest⟩ := splitFraction_eq rest
  simp only [unsigned?, hwhole, hfraction] at h
  split_ifs at h with hnone
  obtain ⟨n, hexponent, _⟩ := Option.map_eq_some_iff.1 h
  have he := exponent_of_exponent? hexponent
  rcases hrest with rfl | ⟨rfl, rfl⟩
  · exact .point (not_and_or.1 hnone) hds hfs he
  · exact .whole (fun hnil => hnone ⟨hnil, rfl⟩) hds he

theorem spelled_of_literal? (h : literal? w = some x) : Spelled w := by
  obtain ⟨negative, sign, rest, hsplit, rfl, hsign⟩ := splitSign_eq w
  simp only [literal?, hsplit] at h
  split_ifs at h with hnan hinf
  · exact .name hsign (by simp [hnan])
  · refine .name hsign ?_
    rcases hinf with hinf | hinf <;> simp [hinf]
  · obtain ⟨m, hm, _⟩ := Option.map_eq_some_iff.1 h
    exact .numeral hsign (numeral_of_unsigned? hm)

end ReactiveSheet.Binary64
