import ReactiveSheet.Toml.Scalar

/-!
TOML documents. The version read is 1.0. A document is read line by line into the contents of its
top-level table.
-/

namespace ReactiveSheet.Toml
open Text

namespace Grammar

def spaces : Reader Unit := do
  let _ ← Reader.run isSpace

def comment : Reader Unit := do
  Reader.char '#'
  let _ ← Reader.run isPlain

/-- White space, line ends and comments between the items of an array. -/
def gap : Reader Unit := do
  let _ ← Reader.many (Reader.run1 isSpace <|> newline <|> (do comment; newline))

/-- What may stand after a value, a header or a comment: nothing up to the end of the line. -/
def lineEnd : Reader Unit := do
  spaces
  let _ ← Reader.attempt comment
  (do let _ ← newline) <|> Reader.atEnd

/-- The next item of an array with the comma after it, or the end of the array. A comma may follow
the last item. -/
def nextItem (item : Reader Value) : Reader (Option Value) := do
  gap
  match ← Reader.look with
  | some ']' => return none
  | _ =>
    let v ← item
    gap
    match ← Reader.look with
    | some ']' => return some v
    | _ => Reader.char ','; return some v

/-- An array, given how its items are read. -/
def array (item : Reader Value) : Reader Value := do
  Reader.char '['
  let items ← Reader.untilNone (nextItem item)
  Reader.char ']'
  return .array items

def inlineEntry (item : Reader Value) : Reader (List String × Value) := do
  let k ← key
  Reader.char '='
  spaces
  let v ← item
  spaces
  return (k, v)

def inlineEntries : List (List String × Value) → Entries → Option Entries
  | [], es => some es
  | (path, v) :: more, es => do
    let es ← Entries.assign path.dropLast (path.getLastD "") v .inline es
    inlineEntries more es

/-- A table in braces. No comma may follow the last entry. -/
def inlineTable (item : Reader Value) : Reader Value := do
  Reader.char '{'
  spaces
  let first ← Reader.attempt (inlineEntry item)
  let more ←
    match first with
    | none => pure []
    | some e => (e :: ·) <$> Reader.many (do Reader.char ','; inlineEntry item)
  Reader.char '}'
  match inlineEntries more [] with
  | some es => return .table .inline es
  | none => failure

/-- A value, given how many more arrays and tables may be nested in it. -/
def value : Nat → Reader Value
  | 0 => scalar
  | depth + 1 => array (value depth) <|> inlineTable (value depth) <|> scalar

inductive Line
  | blank
  | header (path : List String)
  | rowHeader (path : List String)
  | entry (path : List String) (v : Value)

def line : Reader Line := do
  match ← Reader.look with
  | some '#' => lineEnd; return .blank
  | some '\n' => let _ ← newline; return .blank
  | some '\r' => let _ ← newline; return .blank
  | some '[' =>
    (do
      Reader.exactly "[["
      let path ← key
      Reader.exactly "]]"
      lineEnd
      return .rowHeader path) <|>
    (do
      Reader.char '['
      let path ← key
      Reader.char ']'
      lineEnd
      return .header path)
  | _ =>
    let path ← key
    Reader.char '='
    spaces
    let v ← value maxDepth
    lineEnd
    return .entry path v

end Grammar

/-- A document as far as it is read: the contents of the top-level table, and the path of the table
to which the next lines belong. -/
structure Document where
  entries : Entries
  current : List String

namespace Document

def empty : Document := ⟨[], []⟩

def add (d : Document) : Grammar.Line → Option Document
  | .blank => some d
  | .header path => do
    let es ← d.entries.changeBelow path.dropLast (Entries.openTable (path.getLastD ""))
    return ⟨es, path⟩
  | .rowHeader path => do
    let es ← d.entries.changeBelow path.dropLast (Entries.openRow (path.getLastD ""))
    return ⟨es, path⟩
  | .entry path v => do
    let es ← d.entries.changeBelow d.current
      (Entries.assign path.dropLast (path.getLastD "") v .headed)
    return { d with entries := es }

/-- Reads the rest of a text, which has at most as many lines as another has characters. -/
def readLines : List Char → Document → List Char → Option Document
  | [], d, cs => if (cs.dropWhile isSpace).isEmpty then some d else none
  | _ :: more, d, cs =>
    match cs.dropWhile isSpace with
    | [] => some d
    | cs =>
      match Grammar.line cs with
      | none => none
      | some (line, rest) =>
        match d.add line with
        | none => none
        | some d => readLines more d rest

/-- The text without a byte order mark at its front. -/
def dropMark : List Char → List Char
  | '\ufeff' :: cs => cs
  | cs => cs

end Document

/-- The contents of the top-level table of a document, in the order of their keys. -/
def read (text : String) : Option Entries :=
  let cs := Document.dropMark text.toList
  (Document.readLines cs .empty cs).map Document.entries

end ReactiveSheet.Toml
