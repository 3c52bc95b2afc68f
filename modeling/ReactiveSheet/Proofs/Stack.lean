import ReactiveSheet.Postfix
import ReactiveSheet.Proofs.Binary64.ReadBack

/-!
Postfix expressions as programs on a stack. Main statements: what lies below the numbers that an
expression takes does not matter (`run_append_right`), and so words that compute a number may
stand in the place of its text (`stands_text`, `Stands.evaluate`).
-/

namespace ReactiveSheet.Postfix

variable {stack below out : List Float} {t : Token} {ts us : List Token} {x : Float}
  {ws vs : List (List Char)} {e e' : String}

theorem step_unary_eq_ok_iff {op : UnaryOp} :
    step stack (.operator (.unary op)) = .ok out ↔
      ∃ x rest, stack = x :: rest ∧ out = op.eval x :: rest := by
  cases stack with
  | nil => simp [step]
  | cons x rest => simp [step, eq_comm]

theorem step_binary_eq_ok_iff {op : BinaryOp} :
    step stack (.operator (.binary op)) = .ok out ↔
      ∃ x y z rest, stack = y :: x :: rest ∧ op.eval? x y = some z ∧ out = z :: rest := by
  match stack with
  | [] => simp [step]
  | [_] => simp [step]
  | y :: x :: rest => cases hz : op.eval? x y <;> simp [step, hz, eq_comm]

theorem run_cons_eq_ok_iff :
    run stack (t :: ts) = .ok out ↔ ∃ next, step stack t = .ok next ∧ run next ts = .ok out := by
  rw [run]
  cases step stack t <;> simp

theorem compute_eq_ok_iff : compute ts = .ok x ↔ run [] ts = .ok [x] := by
  rw [compute]
  cases run [] ts with
  | error e => simp
  | ok stack =>
    match stack with
    | [] => simp [result]
    | [_] => simp [result]
    | _ :: _ :: _ => simp [result]

theorem evaluate_eq_ok_iff :
    evaluate e = .ok x ↔
      ∃ ts, Token.ofWords (Text.words e.toList) = .ok ts ∧ compute ts = .ok x := by
  rw [evaluate, tokenize]
  cases Token.ofWords (Text.words e.toList) <;> simp

theorem step_append (h : step stack t = .ok out) :
    step (stack ++ below) t = .ok (out ++ below) := by
  cases t with
  | number x =>
    cases h
    rfl
  | operator op =>
    cases op with
    | unary op =>
      obtain ⟨x, rest, rfl, rfl⟩ := step_unary_eq_ok_iff.1 h
      exact step_unary_eq_ok_iff.2 ⟨x, rest ++ below, rfl, rfl⟩
    | binary op =>
      obtain ⟨x, y, z, rest, rfl, hz, rfl⟩ := step_binary_eq_ok_iff.1 h
      exact step_binary_eq_ok_iff.2 ⟨x, y, z, rest ++ below, rfl, hz, rfl⟩

/-- What lies below the numbers that an expression takes is left as it is. -/
theorem run_append_right (h : run stack ts = .ok out) :
    run (stack ++ below) ts = .ok (out ++ below) := by
  induction ts generalizing stack with
  | nil =>
    cases h
    rfl
  | cons t ts ih =>
    obtain ⟨next, hstep, hrun⟩ := run_cons_eq_ok_iff.1 h
    exact run_cons_eq_ok_iff.2 ⟨next ++ below, step_append hstep, ih hrun⟩

theorem run_of_compute (h : compute ts = .ok x) : run stack ts = .ok (x :: stack) :=
  run_append_right (compute_eq_ok_iff.1 h)

theorem ofWords_eq_ok_iff : Token.ofWords ws = .ok ts ↔ ws.map Token.ofWord? = ts.map some := by
  induction ws generalizing ts with
  | nil => cases ts <;> simp [Token.ofWords]
  | cons w ws ih =>
    simp only [Token.ofWords, List.map_cons]
    cases Token.ofWord? w with
    | none => cases ts <;> simp
    | some t =>
      cases ts with
      | nil => cases Token.ofWords ws <;> simp [Except.map]
      | cons u us =>
        have hmap : (Token.ofWords ws).map (t :: ·) = .ok (u :: us) ↔
            t = u ∧ Token.ofWords ws = .ok us := by
          cases Token.ofWords ws <;> simp [Except.map]
        simp [hmap, ih]

theorem ofWords_append_eq_ok_iff :
    Token.ofWords (ws ++ vs) = .ok us ↔
      ∃ ts ts', Token.ofWords ws = .ok ts ∧ Token.ofWords vs = .ok ts' ∧ us = ts ++ ts' := by
  simp only [ofWords_eq_ok_iff, List.map_append]
  constructor
  · intro h
    obtain ⟨ts, ts', rfl, hts, hts'⟩ := List.map_eq_append_iff.1 h.symm
    exact ⟨ts, ts', hts.symm, hts'.symm, rfl⟩
  · rintro ⟨ts, ts', hts, hts', rfl⟩
    rw [hts, hts', List.map_append]

/-- Words that do to every stack what other words do, if those are an expression. -/
def Stands (ws vs : List (List Char)) : Prop :=
  ∀ ts, Token.ofWords ws = .ok ts →
    ∃ us, Token.ofWords vs = .ok us ∧ ∀ stack, run stack us = run stack ts

namespace Stands

theorem refl (ws : List (List Char)) : Stands ws ws := fun ts h => ⟨ts, h, fun _ => rfl⟩

theorem append {ws' vs' : List (List Char)} (h : Stands ws vs) (h' : Stands ws' vs') :
    Stands (ws ++ ws') (vs ++ vs') := by
  intro ts hts
  obtain ⟨ts, ts', hws, hws', rfl⟩ := ofWords_append_eq_ok_iff.1 hts
  obtain ⟨us, hvs, hrun⟩ := h ts hws
  obtain ⟨us', hvs', hrun'⟩ := h' ts' hws'
  refine ⟨us ++ us', ofWords_append_eq_ok_iff.2 ⟨us, us', hvs, hvs', rfl⟩, fun stack => ?_⟩
  rw [run_append, run_append, hrun]
  simp only [hrun']

theorem flatMap {α : Type} {as : List α} {F G : α → List (List Char)}
    (h : ∀ a ∈ as, Stands (F a) (G a)) : Stands (as.flatMap F) (as.flatMap G) := by
  induction as with
  | nil => exact refl []
  | cons a as ih =>
    obtain ⟨ha, has⟩ := List.forall_mem_cons.1 h
    exact ha.append (ih has)

/-- An expression stands for another one, and has its value. -/
theorem evaluate (h : Stands (Text.words e.toList) (Text.words e'.toList))
    (he : Postfix.evaluate e = .ok x) : Postfix.evaluate e' = .ok x := by
  obtain ⟨ts, hts, hcompute⟩ := evaluate_eq_ok_iff.1 he
  obtain ⟨us, hus, hrun⟩ := h ts hts
  refine evaluate_eq_ok_iff.2 ⟨us, hus, ?_⟩
  rwa [compute, hrun, ← compute]

end Stands

theorem literal?_keyword (op : Operator) : Binary64.literal? op.keyword.toList = none := by
  have h : ∀ op ∈ Operator.all, Binary64.literal? op.keyword.toList = none := by decide +kernel
  exact h op op.mem_all

theorem ofWord?_eq_operator_iff {w : List Char} {op : Operator} :
    Token.ofWord? w = some (.operator op) ↔ w = op.keyword.toList := by
  rw [← String.toList_ofList (l := w), String.toList_inj, ← Operator.ofKeyword?_eq_some_iff,
    String.toList_ofList, Token.ofWord?]
  cases Operator.ofKeyword? (String.ofList w) with
  | none => cases Binary64.literal? w <;> simp
  | some op' => simp

/-- No literal is an operator keyword. -/
theorem ofWord?_eq_number_iff {w : List Char} :
    Token.ofWord? w = some (.number x) ↔ Binary64.literal? w = some x := by
  rw [Token.ofWord?]
  cases hop : Operator.ofKeyword? (String.ofList w) with
  | none => simp
  | some op =>
    have hw : w = op.keyword.toList := by
      rw [← Operator.ofKeyword?_eq_some_iff.1 hop, String.toList_ofList]
    simp [hw, literal?_keyword]

/-- The text of a number is read as that number. -/
theorem ofWord?_text (x : Float) : Token.ofWord? (Binary64.text x) = some (.number x) :=
  ofWord?_eq_number_iff.2 (Binary64.literal?_text x)

/-- An expression stands for the text of its value. -/
theorem stands_text (he : evaluate e = .ok x) :
    Stands (Text.words (Binary64.text x)) (Text.words e.toList) := by
  intro ts hts
  rw [Binary64.words_text] at hts
  simp only [Token.ofWords, ofWord?_text] at hts
  cases hts
  obtain ⟨us, hus, hcompute⟩ := evaluate_eq_ok_iff.1 he
  exact ⟨us, hus, fun _ => run_of_compute hcompute⟩

end ReactiveSheet.Postfix
