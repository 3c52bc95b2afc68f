/-!
Values of TOML documents, and how tables grow. A table keeps its keys in the order in which they
were first given. What may be added to a table depends on how it came to be.
-/

namespace ReactiveSheet.Toml

inductive TableKind
  /-- Written in braces; nothing can be added. -/
  | inline
  /-- Opened by a header of its own. -/
  | headed
  /-- Passed on the way by the header of another table. -/
  | implied
  /-- Passed on the way by a dotted key. -/
  | dotted
deriving DecidableEq, Repr

inductive Value
  | string (s : String)
  | integer (n : Int)
  | float (x : Float)
  | boolean (b : Bool)
  | dateTime
  | array (items : List Value)
  | table (kind : TableKind) (entries : List (String × Value))
  | tables (rows : List (List (String × Value)))

instance : Inhabited Value := ⟨.dateTime⟩

abbrev Entries := List (String × Value)

namespace Entries

def get? (es : Entries) (key : String) : Option Value :=
  (es.find? fun e => e.1 == key).map Prod.snd

/-- The contents with another value for a key, in the same place. -/
def replace (es : Entries) (key : String) (v : Value) : Entries :=
  es.map fun e => if e.1 == key then (key, v) else e

def erase (es : Entries) (key : String) : Entries := es.filter fun e => !(e.1 == key)

/-- Changes the table at the end of a path of keys. Missing tables on the way are made as `made`
says, and `enters` says which tables the path may lead through. An array of tables stands for its
last one. -/
def changeAt (enters : TableKind → Bool) (made : TableKind)
    (change : TableKind → Entries → Option Entries) :
    List String → TableKind → Entries → Option Entries
  | [], kind, es => change kind es
  | key :: path, _, es =>
    match get? es key with
    | none => do
      let inner ← changeAt enters made change path made []
      return es ++ [(key, .table made inner)]
    | some (.table kind inner) =>
      if enters kind then do
        let inner ← changeAt enters made change path kind inner
        return replace es key (.table kind inner)
      else none
    | some (.tables rows) => do
      let last ← rows.getLast?
      let inner ← changeAt enters made change path .headed last
      return replace es key (.tables (rows.dropLast ++ [inner]))
    | some _ => none

/-- Adds a key that a table must not have yet. -/
def add (es : Entries) (key : String) (v : Value) : Option Entries :=
  match get? es key with
  | none => some (es ++ [(key, v)])
  | some _ => none

/-- Gives a value to a key below a path of dotted keys. The path leads only through tables that have
no header or braces of their own, and has to end at one that dotted keys made. -/
def assign (path : List String) (key : String) (v : Value) (kind : TableKind) (es : Entries) :
    Option Entries :=
  changeAt (fun k => k = .implied ∨ k = .dotted) .dotted
    (fun k inner => if path = [] ∨ k = .dotted then add inner key v else none) path kind es

/-- Opens the table of a header. If longer headers passed through it before, it keeps what they
put there, and takes its place after all other keys. -/
def openTable (key : String) (es : Entries) : Option Entries :=
  match get? es key with
  | none => some (es ++ [(key, .table .headed [])])
  | some (.table .implied inner) => some (erase es key ++ [(key, .table .headed inner)])
  | some _ => none

/-- Opens one more table of an array of tables. -/
def openRow (key : String) (es : Entries) : Option Entries :=
  match get? es key with
  | none => some (es ++ [(key, .tables [[]])])
  | some (.tables rows) => some (replace es key (.tables (rows ++ [[]])))
  | some _ => none

/-- Changes the table at the end of the path of a header. -/
def changeBelow (path : List String) (change : Entries → Option Entries) (es : Entries) :
    Option Entries :=
  changeAt (fun k => k ≠ .inline) .implied (fun _ inner => change inner) path .headed es

end Entries
end ReactiveSheet.Toml
