import ReactiveSheet.Binary64.Decimal

/-!
JSON values and how they are written.
-/

namespace ReactiveSheet

/-- A JSON value. A string or key whose escapes denote no text, as half of a surrogate pair, is
`none`, and a number too large for a double is infinite: neither hurts where nobody looks at it. The
members of an object keep their order and may repeat. -/
inductive Json
  | null
  | bool (b : Bool)
  | number (x : Float)
  | string (s : Option String)
  | array (items : List Json)
  | object (members : List (Option String × Json))

namespace Json

instance : Inhabited Json := ⟨null⟩

def ofString (s : String) : Json := string (some s)

def ofMembers (members : List (String × Json)) : Json :=
  object (members.map fun m => (some m.1, m.2))

def hexDigit (n : Nat) : Char := Nat.digitChar (n % 16)

def escaped (c : Char) : List Char :=
  if c = '"' then ['\\', '"']
  else if c = '\\' then ['\\', '\\']
  else if c = '\x08' then ['\\', 'b']
  else if c = '\x0c' then ['\\', 'f']
  else if c = '\n' then ['\\', 'n']
  else if c = '\r' then ['\\', 'r']
  else if c = '\t' then ['\\', 't']
  else if c.toNat < 0x20 then ['\\', 'u', '0', '0', hexDigit (c.toNat / 16), hexDigit c.toNat]
  else [c]

def quoted (s : String) : List Char := '"' :: (s.toList.flatMap escaped ++ ['"'])

/-- A key or string; one that denotes no text is written as empty. -/
def quotedText (s : Option String) : List Char := quoted (s.getD "")

/-- A number: the shortest decimal that reads back as the same double, without an exponent. Other
writers spell some numbers differently, `5.0` for `5` or `1e16` for a one with sixteen zeros. What
is relied on is not the spelling but that the text of a number is read back as that number. What is
no finite number is written as null. -/
def numberText (x : Float) : List Char :=
  if Binary64.isFinite x then Binary64.text x else "null".toList

mutual

/-- The text of a value, without white space. -/
def text : Json → List Char
  | null => "null".toList
  | bool true => "true".toList
  | bool false => "false".toList
  | number x => numberText x
  | string s => quotedText s
  | array items => '[' :: itemsText items
  | object members => '\x7b' :: membersText members

def itemsText : List Json → List Char
  | [] => [']']
  | [v] => text v ++ [']']
  | v :: vs => text v ++ ',' :: itemsText vs

def membersText : List (Option String × Json) → List Char
  | [] => ['\x7d']
  | [(k, v)] => quotedText k ++ ':' :: (text v ++ ['\x7d'])
  | (k, v) :: ms => quotedText k ++ ':' :: (text v ++ ',' :: membersText ms)

end

end Json
end ReactiveSheet
