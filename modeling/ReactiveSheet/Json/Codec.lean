import ReactiveSheet.Json.Reading
import ReactiveSheet.View

/-!
The JSON forms of cell names, errors, values, views and view modes. Names are strings. A value is an
object that tells its kind and the detail, and a view is an object of its three fields. Both kinds
of object are also read from arrays that list the fields in order.
-/

namespace ReactiveSheet

namespace Json

def text? : Json → Option String
  | string s => s
  | _ => none

/-- The number of a value that is a finite one. -/
def finite? : Json → Option Float
  | number x => if Binary64.isFinite x then some x else none
  | _ => none

def isNothing : Json → Bool
  | null => true
  | _ => false

/-- Whether a value is null or an object without members. -/
def isNothingOrEmpty : Json → Bool
  | null => true
  | object [] => true
  | _ => false

/-- A choice among names. It is written as a string, and is read as well from an object with the
name as its only key and nothing as its value. -/
def choice? (nothing : Json → Bool) : Json → Option String
  | string s => s
  | object [(key, v)] => if nothing v then key else none
  | _ => none

/-- Whether all keys of an object are texts. -/
def keysReadable (members : List (Option String × Json)) : Bool :=
  members.all fun m => m.1.isSome

/-- The value of a key that an object has exactly once. -/
def member? (members : List (Option String × Json)) (key : String) : Option Json :=
  match members.filter fun m => m.1 == some key with
  | [m] => some m.2
  | _ => none

end Json

namespace CellId

def toJson (id : CellId) : Json := .ofString id.text

def ofJson? (j : Json) : Option CellId := j.text?.bind parse?

end CellId

namespace CellError

def name : CellError → String
  | cyclicDependency => "CyclicDependency"
  | malformedExpression => "MalformedExpression"
  | divisionByZero => "DivisionByZero"

def ofName? (name : String) : Option CellError :=
  [cyclicDependency, malformedExpression, divisionByZero].find? fun e => e.name == name

theorem ofName?_name (e : CellError) : ofName? e.name = some e := by
  cases e <;> decide

def toJson (e : CellError) : Json := .ofString e.name

def ofJson? (nothing : Json → Bool) (j : Json) : Option CellError :=
  (j.choice? nothing).bind ofName?

end CellError

namespace CellValue

inductive Kind
  | number
  | error
deriving DecidableEq, Repr

def Kind.name : Kind → String
  | number => "Number"
  | error => "Error"

def Kind.ofName? (name : String) : Option Kind :=
  [number, error].find? fun k => k.name == name

def Kind.ofJson? (j : Json) : Option Kind := (j.choice? Json.isNothing).bind ofName?

def kind : CellValue → Kind
  | number _ => .number
  | error _ => .error

/-- What a value holds, apart from its kind. -/
def detail : CellValue → Json
  | number x => .number x
  | error e => e.toJson

def toJson (v : CellValue) : Json :=
  .ofMembers [("kind", .ofString v.kind.name), ("detail", v.detail)]

/-- The value of a kind with a detail. -/
def ofDetail? (nothing : Json → Bool) (j : Json) : Kind → Option CellValue
  | .number => j.finite?.map number
  | .error => (CellError.ofJson? nothing j).map error

/-- Whether the detail of a value comes before its kind. -/
def detailFirst (members : List (Option String × Json)) : Bool :=
  match members.find? fun m => m.1 == some "kind" || m.1 == some "detail" with
  | some (key, _) => key == some "detail"
  | none => false

/-- The value that an object or an array tells. An array has the kind as a string. An error that is
told before its kind may be an object with an empty object in the place of nothing. -/
def ofJson? : Json → Option CellValue
  | .array [kind, detail] => do ofDetail? Json.isNothing detail (← Kind.ofName? (← kind.text?))
  | .object members =>
    if Json.keysReadable members then do
      let kind ← Json.member? members "kind"
      let detail ← Json.member? members "detail"
      let nothing := if detailFirst members then Json.isNothingOrEmpty else Json.isNothing
      ofDetail? nothing detail (← Kind.ofJson? kind)
    else none
  | _ => none

end CellValue

namespace CellView

def toJson (v : CellView) : Json :=
  .ofMembers [("id", v.id.toJson), ("formula", .ofString v.formula), ("value", v.value.toJson)]

def ofFields? (id formula value : Json) : Option CellView := do
  return ⟨← CellId.ofJson? id, ← formula.text?, ← CellValue.ofJson? value⟩

/-- The view that an object or an array tells. Keys of an object that are no field do not matter. -/
def ofJson? : Json → Option CellView
  | .array [id, formula, value] => ofFields? id formula value
  | .object members =>
    if Json.keysReadable members then do
      ofFields? (← Json.member? members "id") (← Json.member? members "formula")
        (← Json.member? members "value")
    else none
  | _ => none

def encode (v : CellView) : String := String.ofList v.toJson.text

def decode? (text : String) : Option CellView := (Json.read text).bind ofJson?

end CellView

namespace ViewMode

def toJson (mode : ViewMode) : Json := .ofString mode.name

def ofJson? (j : Json) : Option ViewMode := (j.choice? Json.isNothing).bind ofName?

end ViewMode
end ReactiveSheet
