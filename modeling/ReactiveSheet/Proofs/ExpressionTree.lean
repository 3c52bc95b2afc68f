import ReactiveSheet.Proofs.Stack

/-!
Expressions as trees. How a tree is written and what it means is said operator by operator, without
the table of operators that the evaluation uses; that the two agree is `word_unary`, `word_binary`,
`value?_unary` and `value?_binary`. Main statements: words are the postfix writing of at most one
tree (`Writes.unique`), the tokens of a tree leave its value on the stack (`run_tokens`), and
whatever a run leaves on the stack are the values of trees with these tokens (`Holds.run`), so that
an expression has a value just if it writes a tree that has it (`expression_has_value_of_tree`).
-/

namespace ReactiveSheet.Postfix

variable {ws vs : List (List Char)} {w : List Char} {ts us : List Token} {stack out : List Float}
  {x : Float} {token : Token}

/-- A number, or an operator with its operands. -/
inductive Tree
  | number (x : Float)
  | unary (op : UnaryOp) (operand : Tree)
  | binary (op : BinaryOp) (left right : Tree)

namespace Tree

/-- The tokens of a tree, each operator after its operands. -/
def tokens : Tree → List Token
  | number x => [.number x]
  | unary op t => t.tokens ++ [.operator (.unary op)]
  | binary op l r => l.tokens ++ r.tokens ++ [.operator (.binary op)]

/-- What a tree means: the left operand is evaluated, then the right one, and then the operator is
applied. There is no value from the first division on whose right operand equals zero, which both
zeros do. -/
def value? : Tree → Option Float
  | number x => some x
  | unary .ln t => t.value?.map fun x => Float.log x
  | unary .sin t => t.value?.map fun x => Float.sin x
  | binary .add l r => l.value?.bind fun x => r.value?.bind fun y => some (x + y)
  | binary .sub l r => l.value?.bind fun x => r.value?.bind fun y => some (x - y)
  | binary .mul l r => l.value?.bind fun x => r.value?.bind fun y => some (x * y)
  | binary .div l r =>
    l.value?.bind fun x => r.value?.bind fun y => if y == 0 then none else some (x / y)

theorem value?_unary (op : UnaryOp) (t : Tree) : (unary op t).value? = t.value?.map op.eval := by
  cases op <;> rfl

theorem value?_binary (op : BinaryOp) (l r : Tree) :
    (binary op l r).value? = l.value?.bind fun x => r.value?.bind fun y => op.eval? x y := by
  cases op <;> rfl

/-- The last token says what kind of tree it ends, and no tree can start at two places. -/
theorem tokens_append_inj {t u : Tree} (h : ts ++ t.tokens = us ++ u.tokens) : ts = us ∧ t = u := by
  induction t generalizing ts us u with
  | number x =>
    cases u with
    | number y => simpa [tokens] using h
    | unary op u => simp [tokens, ← List.append_assoc] at h
    | binary op l r => simp [tokens, ← List.append_assoc] at h
  | unary op t ih =>
    cases u with
    | number y => simp [tokens, ← List.append_assoc] at h
    | unary op' u =>
      simp only [tokens, ← List.append_assoc] at h
      obtain ⟨hrest, hop⟩ := List.append_inj' h rfl
      obtain ⟨rfl, rfl⟩ := ih hrest
      simpa using hop
    | binary op' l r => simp [tokens, ← List.append_assoc] at h
  | binary op l r ihl ihr =>
    cases u with
    | number y => simp [tokens, ← List.append_assoc] at h
    | unary op' u => simp [tokens, ← List.append_assoc] at h
    | binary op' l' r' =>
      simp only [tokens, ← List.append_assoc] at h
      obtain ⟨hrest, hop⟩ := List.append_inj' h rfl
      obtain ⟨hleft, rfl⟩ := ihr hrest
      obtain ⟨rfl, rfl⟩ := ihl hleft
      simpa using hop

end Tree

theorem run_tokens (t : Tree) (stack : List Float) (ts : List Token) :
    run stack (t.tokens ++ ts) =
      match t.value? with
      | some x => run (x :: stack) ts
      | none => .error .divisionByZero := by
  induction t generalizing stack ts with
  | number x => rfl
  | unary op t ih =>
    rw [Tree.tokens, List.append_assoc, ih, Tree.value?_unary]
    cases t.value? <;> rfl
  | binary op l r ihl ihr =>
    rw [Tree.tokens, List.append_assoc, List.append_assoc, ihl, Tree.value?_binary]
    cases l.value? with
    | none => rfl
    | some x =>
      simp only [ihr, Option.bind_some]
      cases r.value? with
      | none => rfl
      | some y =>
        simp only [List.singleton_append, run, step, Option.bind_some]
        cases op.eval? x y <;> rfl

theorem compute_tokens (t : Tree) :
    compute t.tokens =
      match t.value? with
      | some x => .ok x
      | none => .error .divisionByZero := by
  have h := run_tokens t [] []
  rw [List.append_nil] at h
  rw [compute, h]
  cases t.value? <;> rfl

/-- The stack holds the values of the trees that have just these tokens, the last one on top. -/
inductive Holds : List Token → List Float → Prop
  | empty : Holds [] []
  | push {ts : List Token} {stack : List Float} {t : Tree} {x : Float} (below : Holds ts stack)
      (value : t.value? = some x) : Holds (ts ++ t.tokens) (x :: stack)

namespace Holds

/-- An operator makes one tree of those whose values it takes. -/
theorem step (h : Holds ts stack) (hstep : step stack token = .ok out) :
    Holds (ts ++ [token]) out := by
  cases token with
  | number x =>
    cases hstep
    exact h.push (t := .number x) rfl
  | operator op =>
    cases op with
    | unary op =>
      obtain ⟨x, rest, rfl, rfl⟩ := step_unary_eq_ok_iff.1 hstep
      cases h with
      | @push ts _ t _ below value =>
        rw [List.append_assoc]
        exact below.push (t := .unary op t) (by rw [Tree.value?_unary, value, Option.map_some])
    | binary op =>
      obtain ⟨x, y, z, rest, rfl, hz, rfl⟩ := step_binary_eq_ok_iff.1 hstep
      cases h with
      | @push _ _ r _ below hr =>
        cases below with
        | @push ts _ l _ below hl =>
          rw [List.append_assoc, List.append_assoc, ← List.append_assoc l.tokens]
          refine below.push (t := .binary op l r) ?_
          rw [Tree.value?_binary, hl, hr, Option.bind_some, Option.bind_some, hz]

theorem run (h : Holds ts stack) (hrun : run stack us = .ok out) : Holds (ts ++ us) out := by
  induction us generalizing ts stack with
  | nil =>
    cases hrun
    rwa [List.append_nil]
  | cons token us ih =>
    obtain ⟨next, hstep, hrun⟩ := run_cons_eq_ok_iff.1 hrun
    rw [← List.singleton_append, ← List.append_assoc]
    exact ih (h.step hstep) hrun

theorem exists_tree (h : Holds ts [x]) : ∃ t : Tree, t.tokens = ts ∧ t.value? = some x := by
  cases h with
  | @push ts stack t x below value =>
    cases below
    exact ⟨t, rfl, value⟩

end Holds

theorem exists_tree_of_compute (h : compute ts = .ok x) :
    ∃ t : Tree, t.tokens = ts ∧ t.value? = some x :=
  (Holds.empty.run (compute_eq_ok_iff.1 h)).exists_tree

/-- The word for an operator with one operand. -/
def unaryWord : UnaryOp → List Char
  | .ln => "lg".toList
  | .sin => "sin".toList

/-- The word for an operator with two operands. -/
def binaryWord : BinaryOp → List Char
  | .add => "+".toList
  | .sub => "-".toList
  | .mul => "*".toList
  | .div => "/".toList

theorem word_unary (op : UnaryOp) : (Operator.unary op).keyword.toList = unaryWord op := by
  cases op <;> rfl

theorem word_binary (op : BinaryOp) : (Operator.binary op).keyword.toList = binaryWord op := by
  cases op <;> rfl

theorem ofWord?_eq_unary_iff {op : UnaryOp} :
    Token.ofWord? w = some (.operator (.unary op)) ↔ w = unaryWord op := by
  rw [ofWord?_eq_operator_iff, word_unary]

theorem ofWord?_eq_binary_iff {op : BinaryOp} :
    Token.ofWord? w = some (.operator (.binary op)) ↔ w = binaryWord op := by
  rw [ofWord?_eq_operator_iff, word_binary]

/-- Words write a tree in postfix: a number by a literal, and an operator by its word after what
writes its operands. -/
inductive Writes : List (List Char) → Tree → Prop
  | number {w : List Char} {x : Float} (literal : Binary64.literal? w = some x) :
      Writes [w] (.number x)
  | unary {op : UnaryOp} {ws : List (List Char)} {t : Tree} (operand : Writes ws t) :
      Writes (ws ++ [unaryWord op]) (.unary op t)
  | binary {op : BinaryOp} {ws vs : List (List Char)} {l r : Tree} (left : Writes ws l)
      (right : Writes vs r) : Writes (ws ++ vs ++ [binaryWord op]) (.binary op l r)

theorem writes_iff {t : Tree} : Writes ws t ↔ ws.map Token.ofWord? = t.tokens.map some := by
  constructor
  · intro h
    induction h with
    | number literal => simp [Tree.tokens, ofWord?_eq_number_iff.2 literal]
    | unary _ ih => simp [Tree.tokens, ih, ofWord?_eq_unary_iff]
    | binary _ _ ihl ihr => simp [Tree.tokens, ihl, ihr, ofWord?_eq_binary_iff]
  · intro h
    induction t generalizing ws with
    | number x =>
      obtain ⟨w, rfl, hw⟩ := List.map_eq_singleton_iff.1 h
      exact .number (ofWord?_eq_number_iff.1 hw)
    | unary op t ih =>
      rw [Tree.tokens, List.map_append] at h
      obtain ⟨ws, last, rfl, hws, hlast⟩ := List.map_eq_append_iff.1 h
      obtain ⟨w, rfl, hw⟩ := List.map_eq_singleton_iff.1 hlast
      rw [ofWord?_eq_unary_iff.1 hw]
      exact .unary (ih hws)
    | binary op l r ihl ihr =>
      rw [Tree.tokens, List.map_append, List.map_append] at h
      obtain ⟨operands, last, rfl, hoperands, hlast⟩ := List.map_eq_append_iff.1 h
      obtain ⟨ws, vs, rfl, hws, hvs⟩ := List.map_eq_append_iff.1 hoperands
      obtain ⟨w, rfl, hw⟩ := List.map_eq_singleton_iff.1 hlast
      rw [ofWord?_eq_binary_iff.1 hw]
      exact .binary (ihl hws) (ihr hvs)

theorem Writes.unique {t u : Tree} (ht : Writes ws t) (hu : Writes ws u) : t = u := by
  have h : t.tokens.map some = u.tokens.map some := (writes_iff.1 ht).symm.trans (writes_iff.1 hu)
  have htokens : [] ++ t.tokens = [] ++ u.tokens :=
    congrArg ([] ++ ·) ((List.map_inj_right fun _ _ => Option.some.inj).1 h)
  exact (Tree.tokens_append_inj htokens).2

/-- An expression that writes a tree has what the tree means, and only such a one has a value. -/
theorem evaluate_of_writes {e : String} {t : Tree} (h : Writes (Text.words e.toList) t) :
    evaluate e =
      match t.value? with
      | some x => .ok x
      | none => .error .divisionByZero := by
  have htokens : tokenize e = .ok t.tokens := ofWords_eq_ok_iff.2 (writes_iff.1 h)
  rw [← compute_tokens, evaluate, htokens]

theorem exists_writes_of_evaluate {e : String} (h : evaluate e = .ok x) :
    ∃ t, Writes (Text.words e.toList) t ∧ t.value? = some x := by
  obtain ⟨ts, hts, hcompute⟩ := evaluate_eq_ok_iff.1 h
  obtain ⟨t, rfl, hvalue⟩ := exists_tree_of_compute hcompute
  exact ⟨t, writes_iff.2 (ofWords_eq_ok_iff.1 hts), hvalue⟩

/-- A word for an operator or a number. -/
def IsToken (w : List Char) : Prop :=
  (∃ op, w = unaryWord op) ∨ (∃ op, w = binaryWord op) ∨ ∃ x, Binary64.literal? w = some x

theorem isToken_iff : IsToken w ↔ (Token.ofWord? w).isSome = true := by
  rw [Option.isSome_iff_exists]
  constructor
  · rintro (⟨op, hop⟩ | ⟨op, hop⟩ | ⟨x, hx⟩)
    · exact ⟨_, ofWord?_eq_unary_iff.2 hop⟩
    · exact ⟨_, ofWord?_eq_binary_iff.2 hop⟩
    · exact ⟨_, ofWord?_eq_number_iff.2 hx⟩
  · rintro ⟨t, ht⟩
    cases t with
    | number x => exact .inr (.inr ⟨x, ofWord?_eq_number_iff.1 ht⟩)
    | operator op =>
      cases op with
      | unary op => exact .inl ⟨op, ofWord?_eq_unary_iff.1 ht⟩
      | binary op => exact .inr (.inl ⟨op, ofWord?_eq_binary_iff.1 ht⟩)

instance (w : List Char) : Decidable (IsToken w) := decidable_of_iff _ isToken_iff.symm

/-- The first word that is no token is named, and nothing of what stands before it is computed. -/
theorem ofWords_of_not_isToken (hws : ∀ u ∈ ws, IsToken u) (hw : ¬ IsToken w) :
    Token.ofWords (ws ++ w :: vs) = .error (.malformed (.unknownWord (String.ofList w))) := by
  induction ws with
  | nil =>
    rw [isToken_iff, Option.not_isSome_iff_eq_none] at hw
    simp [Token.ofWords, hw]
  | cons u ws ih =>
    obtain ⟨hu, hws⟩ := List.forall_mem_cons.1 hws
    obtain ⟨t, ht⟩ := Option.isSome_iff_exists.1 (isToken_iff.1 hu)
    simp [Token.ofWords, ht, ih hws, Except.map]

/-- An operator takes nothing from a stack that lacks some of its operands, and else just them. -/
theorem step_operator (stack : List Float) (op : Operator) :
    stack.length < op.arity ∧
        step stack (.operator op) = .error (.malformed (.missingOperand op stack.length)) ∨
      ∃ operands below, stack = operands ++ below ∧ operands.length = op.arity ∧
        (step stack (.operator op) = .error .divisionByZero ∨
          ∃ z, step stack (.operator op) = .ok (z :: below)) := by
  cases op with
  | unary op =>
    match stack with
    | [] => exact .inl ⟨by simp [Operator.arity], rfl⟩
    | x :: below => exact .inr ⟨[x], below, rfl, rfl, .inr ⟨op.eval x, rfl⟩⟩
  | binary op =>
    match stack with
    | [] => exact .inl ⟨by simp [Operator.arity], rfl⟩
    | [y] => exact .inl ⟨by simp [Operator.arity], rfl⟩
    | y :: x :: below =>
      refine .inr ⟨[y, x], below, rfl, rfl, ?_⟩
      rw [step]
      cases op.eval? x y with
      | none => exact .inl rfl
      | some z => exact .inr ⟨z, rfl⟩

theorem expression_has_value_of_tree (e : String) :
    (∀ before w after, Text.words e.toList = before ++ w :: after →
      (∀ u ∈ before, IsToken u) → ¬ IsToken w →
        evaluate e = .error (.malformed (.unknownWord (String.ofList w)))) ∧
    (∀ x, evaluate e = .ok x ↔ ∃ t, Writes (Text.words e.toList) t ∧ t.value? = some x) ∧
    (∀ t, Writes (Text.words e.toList) t → t.value? = none →
      evaluate e = .error .divisionByZero) ∧
    ((¬ ∃ t, Writes (Text.words e.toList) t) → ∃ error, evaluate e = .error error) ∧
    (∀ t u, Writes (Text.words e.toList) t → Writes (Text.words e.toList) u → t = u) ∧
    ∀ stack op,
      stack.length < op.arity ∧
          step stack (.operator op) = .error (.malformed (.missingOperand op stack.length)) ∨
        ∃ operands below, stack = operands ++ below ∧ operands.length = op.arity ∧
          (step stack (.operator op) = .error .divisionByZero ∨
            ∃ z, step stack (.operator op) = .ok (z :: below)) := by
  refine ⟨fun before w after hwords hbefore hw => ?_, fun x => ⟨exists_writes_of_evaluate, ?_⟩,
    fun t ht hvalue => ?_, fun hnone => ?_, fun t u => Writes.unique, step_operator⟩
  · rw [evaluate, tokenize, hwords, ofWords_of_not_isToken hbefore hw]
  · rintro ⟨t, ht, hvalue⟩
    rw [evaluate_of_writes ht, hvalue]
  · rw [evaluate_of_writes ht, hvalue]
  · cases he : evaluate e with
    | error error => exact ⟨error, rfl⟩
    | ok x =>
      obtain ⟨t, ht, _⟩ := exists_writes_of_evaluate he
      exact absurd ⟨t, ht⟩ hnone

/-- A product of a sum of a logarithm and a sine, a quotient of a difference, one by a difference
that is zero, and one with a word after it that is no token. -/
theorem operators_have_values_of_trees :
    evaluate "2 lg 3 sin + 4 *" = .ok ((Float.log 2 + Float.sin 3) * 4) ∧
      evaluate "8 5 3 - /" = .ok 4 ∧
      evaluate "8 3 3 - /" = .error .divisionByZero ∧
      evaluate "8 0 / %" = .error (.malformed (.unknownWord "%")) := by
  refine ⟨?_, ?_, ?_, ?_⟩
  · refine ((expression_has_value_of_tree _).2.1 _).2
      ⟨.binary .mul (.binary .add (.unary .ln (.number 2)) (.unary .sin (.number 3))) (.number 4),
        writes_iff.2 ?_, rfl⟩
    decide +kernel
  · refine ((expression_has_value_of_tree _).2.1 _).2
      ⟨.binary .div (.number 8) (.binary .sub (.number 5) (.number 3)), writes_iff.2 ?_, ?_⟩
    · decide +kernel
    · decide +kernel
  · refine (expression_has_value_of_tree _).2.2.1
      (.binary .div (.number 8) (.binary .sub (.number 3) (.number 3))) (writes_iff.2 ?_) ?_
    · decide +kernel
    · decide +kernel
  · refine (expression_has_value_of_tree _).1 ["8".toList, "0".toList, "/".toList] "%".toList []
      ?_ ?_ ?_
    · decide +kernel
    · decide +kernel
    · decide +kernel

end ReactiveSheet.Postfix
