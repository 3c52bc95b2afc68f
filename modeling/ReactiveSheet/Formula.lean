import ReactiveSheet.Binary64.Decimal
import ReactiveSheet.IdSet
import ReactiveSheet.Text.Blank
import ReactiveSheet.Text.WordChar

/-!
Formulas. As they are stored in cells they are texts without white space around them, which are
never blank. In a formula, a letter refers to the cell of its name where no word character touches
it on either side. The references that a formula is tracked by and those that are replaced by
numbers are read off the same list of pieces.
-/

namespace ReactiveSheet.Formula

/-- A part of a formula: a reference, or a character that belongs to none. -/
inductive Piece
  | reference (id : CellId)
  | char (c : Char)
deriving DecidableEq, Repr

def startsWord : List Char → Bool
  | [] => false
  | c :: _ => Text.isWord c

/-- The pieces of a text, given whether a word character stands before it. -/
def piecesAfter (afterWord : Bool) : List Char → List Piece
  | [] => []
  | c :: cs =>
    let piece :=
      match CellId.ofLetter? c with
      | some id => if afterWord || startsWord cs then Piece.char c else .reference id
      | none => .char c
    piece :: piecesAfter (Text.isWord c) cs

def pieces (cs : List Char) : List Piece := piecesAfter false cs

namespace Piece

def reference? : Piece → Option CellId
  | reference id => some id
  | char _ => none

/-- The text of a piece, with the given texts for references. -/
def render (word : CellId → List Char) : Piece → List Char
  | reference id => word id
  | char c => [c]

end Piece

/-- The cells that a formula refers to, whether they exist or not. -/
def references (formula : String) : IdSet :=
  .ofList ((pieces formula.toList).filterMap Piece.reference?)

/-- The formula with a text in the place of each reference. -/
def replace (formula : String) (word : CellId → List Char) : String :=
  String.ofList ((pieces formula.toList).flatMap (Piece.render word))

theorem piecesAfter_render (afterWord : Bool) (cs : List Char) :
    (piecesAfter afterWord cs).flatMap (Piece.render fun id => [id.letter]) = cs := by
  induction cs generalizing afterWord with
  | nil => rfl
  | cons c cs ih =>
    simp only [piecesAfter, List.flatMap_cons, ih]
    split
    · rename_i id h
      split <;> simp [Piece.render, CellId.ofLetter?_eq_some h]
    · simp [Piece.render]

/-- The formula of a cell that was never edited, or whose formula was left blank. -/
def default : String := "0.0"

/-- The formula that an input stands for. -/
def normalize (input : String) : String :=
  match Text.trim input.toList with
  | [] => default
  | cs => String.ofList cs

/-- The formula with the text of a number in the place of each reference. A cell without a number
counts as zero. -/
def substitute (formula : String) (lookup : CellId → Option Float) : String :=
  replace formula fun id => Binary64.text ((lookup id).getD 0)

end ReactiveSheet.Formula
