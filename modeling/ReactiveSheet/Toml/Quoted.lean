import ReactiveSheet.Text.Reader

/-!
Strings and keys of TOML documents.
-/

namespace ReactiveSheet.Toml
open Text

/-- A space or a tab, the only white space within a line. -/
def isSpace (c : Char) : Bool := c == ' ' || c == '\t'

/-- A character that is no control, or a tab. -/
def isPlain (c : Char) : Bool := c == '\t' || (0x20 ≤ c.toNat && c.toNat ≠ 0x7F)

def isHexDigit (c : Char) : Bool :=
  c.isDigit || ('a' ≤ c && c ≤ 'f') || ('A' ≤ c && c ≤ 'F')

def hexValue (c : Char) : Nat :=
  if c.isDigit then c.toNat - '0'.toNat
  else if 'a' ≤ c then c.toNat - 'a'.toNat + 10
  else c.toNat - 'A'.toNat + 10

def ofHex (cs : List Char) : Nat := cs.foldl (fun n c => 16 * n + hexValue c) 0

namespace Grammar

/-- The end of a line, which reads as a line feed. -/
def newline : Reader (List Char) := do
  Reader.exactly "\n" <|> Reader.exactly "\r\n"
  return ['\n']

/-- A character given by a number of hexadecimal digits. -/
def codePoint (digits : Nat) : Reader (List Char) := do
  let n := ofHex (← Reader.count isHexDigit digits)
  if n.isValidChar then return [Char.ofNat n] else failure

def escape : Reader (List Char) := do
  match ← Reader.one fun _ => true with
  | 'b' => return ['\x08']
  | 't' => return ['\t']
  | 'n' => return ['\n']
  | 'f' => return ['\x0c']
  | 'r' => return ['\r']
  | '"' => return ['"']
  | '\\' => return ['\\']
  | 'u' => codePoint 4
  | 'U' => codePoint 8
  | _ => failure

/-- White space over one or more lines after a backslash, which reads as nothing. -/
def continuation : Reader (List Char) := do
  let _ ← Reader.run isSpace
  let _ ← newline
  let _ ← Reader.many (Reader.run1 isSpace <|> newline)
  return []

/-- The end of a string in triple quotes: up to two quotes before the last three belong to it. -/
def tripleEnd (q : Char) : Reader (List Char) := do
  let qs ← Reader.run (· == q)
  if 3 ≤ qs.length ∧ qs.length ≤ 5 then return List.replicate (qs.length - 3) q else failure

/-- One or two quotes within a string in triple quotes. -/
def innerQuotes (q : Char) : Reader (List Char) := do
  let qs ← Reader.run1 (· == q)
  if qs.length ≤ 2 then return qs else failure

def basicPart : Reader (List Char) :=
  Reader.run1 (fun c => isPlain c && c != '"' && c != '\\') <|>
  (do Reader.char '\\'; escape)

def basic : Reader String := do
  Reader.char '"'
  let parts ← Reader.many basicPart
  Reader.char '"'
  return String.ofList parts.flatten

def multilineBasic : Reader String := do
  Reader.exactly "\"\"\""
  let _ ← Reader.attempt newline
  let parts ← Reader.many (basicPart <|> (do Reader.char '\\'; continuation) <|> newline <|>
    innerQuotes '"')
  let last ← tripleEnd '"'
  return String.ofList (parts.flatten ++ last)

def literalPart : Reader (List Char) := Reader.run1 fun c => isPlain c && c != '\''

def literal : Reader String := do
  Reader.char '\''
  let cs ← Reader.run fun c => isPlain c && c != '\''
  Reader.char '\''
  return String.ofList cs

def multilineLiteral : Reader String := do
  Reader.exactly "'''"
  let _ ← Reader.attempt newline
  let parts ← Reader.many (literalPart <|> newline <|> innerQuotes '\'')
  let last ← tripleEnd '\''
  return String.ofList (parts.flatten ++ last)

def string : Reader String := multilineBasic <|> basic <|> multilineLiteral <|> literal

def simpleKey : Reader String :=
  basic <|> literal <|>
  (String.ofList <$> Reader.run1 fun c => c.isAlphanum || c == '_' || c == '-')

/-- How many nested arrays, tables or parts of a key a document may have at most. -/
def maxDepth : Nat := 79

/-- A key: parts with points between them. -/
def key : Reader (List String) := do
  let part : Reader String := do
    let _ ← Reader.run isSpace
    let k ← simpleKey
    let _ ← Reader.run isSpace
    return k
  let first ← part
  let more ← Reader.many (do Reader.char '.'; part)
  if more.length < maxDepth then return first :: more else failure

end Grammar
end ReactiveSheet.Toml
