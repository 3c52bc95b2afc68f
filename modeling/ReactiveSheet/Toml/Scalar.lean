import ReactiveSheet.Binary64.Decimal
import ReactiveSheet.Text.Reader
import ReactiveSheet.Toml.Quoted
import ReactiveSheet.Toml.Value

/-!
Numbers, dates and times of TOML documents.
-/

namespace ReactiveSheet.Toml
open Text

/-- Digits with single underscores between them; the underscores are left out. -/
def Grammar.digits (p : Char → Bool) : Reader (List Char) := do
  let first ← Reader.run1 p
  let more ← Reader.many (do Reader.char '_'; Reader.run1 p)
  return first ++ more.flatten

namespace Grammar

/-- An optional sign: whether it is a minus. -/
def sign : Reader Bool := do
  match ← Reader.look with
  | some '+' => Reader.char '+'; return false
  | some '-' => Reader.char '-'; return true
  | _ => return false

/-- Decimal digits that do not start with a zero, unless it is the only one. -/
def wholeDigits : Reader (List Char) := do
  match ← Reader.look with
  | some '0' => Reader.char '0'; return ['0']
  | _ => digits Char.isDigit

/-- The integers are those of 64 bits. -/
def inRange (n : Int) : Reader Value :=
  if -0x8000000000000000 ≤ n ∧ n < 0x8000000000000000 then return .integer n else failure

/-- An integer in hexadecimal, octal or binary digits, which takes no sign. -/
def radixInteger : Reader Value := do
  Reader.char '0'
  match ← Reader.one fun _ => true with
  | 'x' => inRange (ofHex (← digits isHexDigit))
  | 'o' => inRange (Nat.ofDigitChars 8 (← digits fun c => '0' ≤ c && c ≤ '7') 0)
  | 'b' => inRange (Nat.ofDigitChars 2 (← digits fun c => c == '0' || c == '1') 0)
  | _ => failure

def decimalInteger : Reader Value := do
  let negative ← sign
  let n := Nat.ofDigitChars 10 (← wholeDigits) 0
  inRange (if negative then -n else n)

def fraction : Reader (List Char) := do
  Reader.char '.'
  return '.' :: (← digits Char.isDigit)

def exponent : Reader (List Char) := do
  let _ ← Reader.one fun c => c == 'e' || c == 'E'
  let negative ← sign
  let ds ← digits Char.isDigit
  return 'e' :: (if negative then '-' :: ds else ds)

/-- A number with decimals, an exponent or both. One too large for a double is refused, unless it is
negative. -/
def decimalFloat : Reader Value := do
  let negative ← sign
  let whole ← wholeDigits
  let frac ← Reader.attempt fraction
  let exp ← Reader.attempt exponent
  if frac.isNone ∧ exp.isNone then failure
  else
    match Binary64.unsigned? (whole ++ frac.getD [] ++ exp.getD []) with
    | none => failure
    | some m => if m.isFinite ∨ negative then return .float (m.toFloat negative) else failure

def specialFloat : Reader Value := do
  let negative ← sign
  (do Reader.exactly "inf"; return .float (Binary64.Magnitude.infinity.toFloat negative)) <|>
  (do Reader.exactly "nan"; return .float Binary64.nan)

def twoDigits (low high : Nat) : Reader Nat := do
  let n := Nat.ofDigitChars 10 (← Reader.count Char.isDigit 2) 0
  if low ≤ n ∧ n ≤ high then return n else failure

def daysIn (year month : Nat) : Nat :=
  if month = 2 then
    if year % 4 = 0 ∧ (year % 100 ≠ 0 ∨ year % 400 = 0) then 29 else 28
  else if month = 4 ∨ month = 6 ∨ month = 9 ∨ month = 11 then 30
  else 31

def date : Reader Unit := do
  let year := Nat.ofDigitChars 10 (← Reader.count Char.isDigit 4) 0
  Reader.char '-'
  let month ← twoDigits 1 12
  Reader.char '-'
  let day ← twoDigits 1 31
  if day ≤ daysIn year month then return () else failure

/-- A time of day. The last minute may have a leap second. -/
def time : Reader Unit := do
  let _ ← twoDigits 0 23
  Reader.char ':'
  let _ ← twoDigits 0 59
  Reader.char ':'
  let _ ← twoDigits 0 60
  let _ ← Reader.attempt (do Reader.char '.'; Reader.run1 Char.isDigit)

/-- The distance of a local time from universal time. -/
def offset : Reader Unit :=
  (fun _ => ()) <$> (Reader.one fun c => c == 'Z' || c == 'z') <|>
  (do
    let _ ← Reader.one fun c => c == '+' || c == '-'
    let _ ← twoDigits 0 23
    Reader.char ':'
    let _ ← twoDigits 0 59)

/-- A date, a time of day, or both with or without an offset. -/
def dateTime : Reader Value :=
  (do
    date
    let _ ← Reader.attempt do
      let _ ← Reader.one fun c => c == 'T' || c == 't' || c == ' '
      time
      let _ ← Reader.attempt offset
    return .dateTime) <|>
  (do time; return .dateTime)

def boolean : Reader Value :=
  (do Reader.exactly "true"; return .boolean true) <|>
  (do Reader.exactly "false"; return .boolean false)

def scalar : Reader Value :=
  Value.string <$> string <|> boolean <|> dateTime <|> decimalFloat <|> specialFloat <|>
  radixInteger <|> decimalInteger

end Grammar
end ReactiveSheet.Toml
