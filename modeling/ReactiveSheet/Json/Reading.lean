import ReactiveSheet.Binary64.Decimal
import ReactiveSheet.Json.Value

/-!
Reading JSON texts. Every function takes what it reads off the front of the text and gives the rest.
-/

namespace ReactiveSheet.Json

def isBlank (c : Char) : Bool := c == ' ' || c == '\t' || c == '\n' || c == '\r'

def skipBlank (cs : List Char) : List Char := cs.dropWhile isBlank

def hexValue? (c : Char) : Option Nat :=
  if '0' ≤ c ∧ c ≤ '9' then some (c.toNat - '0'.toNat)
  else if 'a' ≤ c ∧ c ≤ 'f' then some (c.toNat - 'a'.toNat + 10)
  else if 'A' ≤ c ∧ c ≤ 'F' then some (c.toNat - 'A'.toNat + 10)
  else none

def codeUnit? (a b c d : Char) : Option Nat := do
  return 0x1000 * (← hexValue? a) + 0x100 * (← hexValue? b) + 0x10 * (← hexValue? c) +
    (← hexValue? d)

/-- The character that a letter stands for after a backslash. -/
def escape? : Char → Option Char
  | '"' => some '"'
  | '\\' => some '\\'
  | '/' => some '/'
  | 'b' => some '\x08'
  | 'f' => some '\x0c'
  | 'n' => some '\n'
  | 'r' => some '\r'
  | 't' => some '\t'
  | _ => none

/-- A part of a string: a character, or a UTF-16 code unit that was given by its number. -/
inductive StringPart
  | char (c : Char)
  | unit (n : Nat)
deriving DecidableEq, Repr

/-- The parts of a string up to its closing quote. -/
def readParts : List Char → Option (List StringPart × List Char)
  | [] => none
  | '"' :: cs => some ([], cs)
  | '\\' :: 'u' :: a :: b :: c :: d :: cs => do
    let n ← codeUnit? a b c d
    let (parts, rest) ← readParts cs
    return (.unit n :: parts, rest)
  | '\\' :: e :: cs => do
    let c ← escape? e
    let (parts, rest) ← readParts cs
    return (.char c :: parts, rest)
  | c :: cs =>
    if c = '\\' ∨ c.toNat < 0x20 then none
    else do
      let (parts, rest) ← readParts cs
      return (.char c :: parts, rest)

def isHighSurrogate (n : Nat) : Bool := 0xD800 ≤ n && n < 0xDC00

def isLowSurrogate (n : Nat) : Bool := 0xDC00 ≤ n && n < 0xE000

/-- The text that parts denote. A surrogate has to be one of a pair. -/
def joinParts : List StringPart → Option (List Char)
  | [] => some []
  | .char c :: ps => (joinParts ps).map (c :: ·)
  | .unit n :: .unit m :: ps =>
    if isHighSurrogate n then
      if isLowSurrogate m then
        (joinParts ps).map (Char.ofNat (0x10000 + 0x400 * (n - 0xD800) + (m - 0xDC00)) :: ·)
      else none
    else if isLowSurrogate n then none
    else (joinParts (.unit m :: ps)).map (Char.ofNat n :: ·)
  | .unit n :: ps =>
    if isHighSurrogate n || isLowSurrogate n then none
    else (joinParts ps).map (Char.ofNat n :: ·)

/-- A string after its opening quote. -/
def readString (cs : List Char) : Option (Option String × List Char) := do
  let (parts, rest) ← readParts cs
  return ((joinParts parts).map String.ofList, rest)

/-- The digits before the point, of which the first is a zero only if it is the only one. -/
def readWhole : List Char → Option (List Char × List Char)
  | '0' :: cs => some (['0'], cs)
  | cs =>
    match Binary64.splitDigits cs with
    | ([], _) => none
    | (ds, rest) => some (ds, rest)

def readFraction : List Char → Option (List Char × List Char)
  | '.' :: cs =>
    match Binary64.splitDigits cs with
    | ([], _) => none
    | (ds, rest) => some (ds, rest)
  | cs => some ([], cs)

def readExponent : List Char → Option (Int × List Char)
  | [] => some (0, [])
  | e :: cs =>
    if e = 'e' ∨ e = 'E' then
      let (negative, rest) := Binary64.splitSign cs
      match Binary64.splitDigits rest with
      | ([], _) => none
      | (ds, rest) =>
        let n := Nat.ofDigitChars 10 ds 0
        some (if negative then -n else n, rest)
    else some (0, e :: cs)

def readMinus : List Char → Bool × List Char
  | '-' :: cs => (true, cs)
  | cs => (false, cs)

def readNumber (cs : List Char) : Option (Float × List Char) := do
  let (negative, rest) := readMinus cs
  let (whole, rest) ← readWhole rest
  let (fraction, rest) ← readFraction rest
  let (exp, rest) ← readExponent rest
  let size := Binary64.Magnitude.ofScientific (Nat.ofDigitChars 10 (whole ++ fraction) 0)
    (exp - fraction.length)
  return (size.toFloat negative, rest)

/-- At most so many items with commas between them, and the character that closes them. -/
def readItems {α : Type} (item : List Char → Option (α × List Char)) (close : Char) :
    Nat → List Char → Option (List α × List Char)
  | 0, _ => none
  | n + 1, cs => do
    let (a, rest) ← item cs
    match skipBlank rest with
    | [] => none
    | c :: rest =>
      if c = ',' then do
        let (as, rest) ← readItems item close n rest
        return (a :: as, rest)
      else if c = close then some ([a], rest)
      else none

/-- Items that may be none at all, and the character that closes them. -/
def readList {α : Type} (item : List Char → Option (α × List Char)) (close : Char) (n : Nat)
    (cs : List Char) : Option (List α × List Char) :=
  match skipBlank cs with
  | [] => none
  | c :: rest => if c = close then some ([], rest) else readItems item close n (c :: rest)

/-- A member of an object, given how its value is read. -/
def readMember (value : List Char → Option (Json × List Char)) (cs : List Char) :
    Option ((Option String × Json) × List Char) :=
  match skipBlank cs with
  | '"' :: rest => do
    let (key, rest) ← readString rest
    match skipBlank rest with
    | ':' :: rest => do
      let (v, rest) ← value rest
      return ((key, v), rest)
    | _ => none
  | _ => none

/-- A value that nests at most so deep and has at most so many items in each place. -/
def readValue : Nat → List Char → Option (Json × List Char)
  | 0, _ => none
  | n + 1, cs =>
    match skipBlank cs with
    | 'n' :: 'u' :: 'l' :: 'l' :: rest => some (.null, rest)
    | 't' :: 'r' :: 'u' :: 'e' :: rest => some (.bool true, rest)
    | 'f' :: 'a' :: 'l' :: 's' :: 'e' :: rest => some (.bool false, rest)
    | '"' :: rest => (readString rest).map fun r => (.string r.1, r.2)
    | '[' :: rest => (readList (readValue n) ']' n rest).map fun r => (.array r.1, r.2)
    | '\x7b' :: rest =>
      (readList (readMember (readValue n)) '\x7d' n rest).map fun r => (.object r.1, r.2)
    | rest => (readNumber rest).map fun r => (.number r.1, r.2)

/-- The value that a text writes, with nothing but white space around it. -/
def read (text : String) : Option Json :=
  let cs := text.toList
  match readValue (cs.length + 1) cs with
  | some (v, rest) => if (skipBlank rest).isEmpty then some v else none
  | none => none

end ReactiveSheet.Json
