/-!
Readers. A reader takes what it reads off the front of a text, or fails and takes nothing.
-/

namespace ReactiveSheet.Text

abbrev Reader (α : Type) := StateT (List Char) Option α

namespace Reader

variable {α : Type}

def one (p : Char → Bool) : Reader Char
  | [] => none
  | c :: cs => if p c then some (c, cs) else none

def char (c : Char) : Reader Unit := (fun _ => ()) <$> one (· == c)

def run (p : Char → Bool) : Reader (List Char) := fun cs => some (cs.takeWhile p, cs.dropWhile p)

/-- Reads the longest run of characters that pass a test, which must not be empty. -/
def run1 (p : Char → Bool) : Reader (List Char) := do
  let cs ← run p
  if cs.isEmpty then failure else pure cs

def exactly (word : String) : Reader Unit := fun cs =>
  let w := word.toList
  if w.isPrefixOf cs then some ((), cs.drop w.length) else none

/-- Reads nothing, and tells the next character. -/
def look : Reader (Option Char) := fun cs => some (cs.head?, cs)

/-- Reads nothing, at the end of the text only. -/
def atEnd : Reader Unit := fun cs => if cs.isEmpty then some ((), cs) else none

/-- What a reader reads, or nothing if it fails. -/
def attempt (r : Reader α) : Reader (Option α) := some <$> r <|> pure none

/-- Repeats a reader until it reads `none`, which has to come after at most as many times as there
are characters in a text. -/
def repeated (r : Reader (Option α)) : List Char → Reader (List α)
  | [] => do
    match ← r with
    | none => pure []
    | some _ => failure
  | _ :: more => do
    match ← r with
    | none => pure []
    | some a => return a :: (← repeated r more)

/-- Repeats a reader until it reads `none`. Each time before that it has to take at least one
character. -/
def untilNone (r : Reader (Option α)) : Reader (List α) := do
  repeated r (← get)

def many (r : Reader α) : Reader (List α) := untilNone (attempt r)

/-- Reads as many characters as asked for, all of which pass a test. -/
def count (p : Char → Bool) : Nat → Reader (List Char)
  | 0 => pure []
  | n + 1 => do
    let c ← one p
    return c :: (← count p n)

end Reader
end ReactiveSheet.Text
