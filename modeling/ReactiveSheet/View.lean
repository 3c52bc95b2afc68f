import ReactiveSheet.Cell

/-!
What is shown of a cell: its formula, or the text of its value. Which of the two is up to the host.
-/

namespace ReactiveSheet

namespace Binary64

/-- The size from which whole numbers are shown without a decimal place. -/
def wholeLimit : Nat := 1000000000000000

/-- The text by which a double is shown. Whole numbers below the limit get one decimal place, and
what is no finite number has a text that is no literal. -/
def shown (x : Float) : String :=
  match magnitude? x with
  | none => "#NAN!"
  | some m =>
    if m.isFinite then
      match m.whole? with
      | some n =>
        if n < wholeLimit then
          String.ofList (signed (isNegative x) (Nat.toDigits 10 n ++ ['.', '0']))
        else String.ofList (text x)
      | none => String.ofList (text x)
    else "#INF!"

end Binary64

namespace CellValue

def errorText : String := "Error"

def text : CellValue → String
  | number x => Binary64.shown x
  | error _ => errorText

end CellValue

structure CellView where
  id : CellId
  formula : String
  value : CellValue
deriving DecidableEq

def Cell.view (cell : Cell) (id : CellId) : CellView := ⟨id, cell.formula, cell.value⟩

/-- What a cell shows. -/
inductive ViewMode
  | formula
  | value
deriving DecidableEq, Repr

namespace ViewMode

/-- The mode in which cells are shown at first. -/
def default : ViewMode := formula

instance : Inhabited ViewMode := ⟨default⟩

def toggled : ViewMode → ViewMode
  | formula => value
  | value => formula

/-- The label of a control that switches to the other mode. -/
def toggleLabel : ViewMode → String
  | formula => "Value View"
  | value => "Formula View"

def name : ViewMode → String
  | formula => "formula"
  | value => "value"

def ofName? (name : String) : Option ViewMode :=
  [formula, value].find? fun mode => mode.name == name

end ViewMode

def CellView.render (view : CellView) : ViewMode → String
  | .formula => view.formula
  | .value => view.value.text

end ReactiveSheet
