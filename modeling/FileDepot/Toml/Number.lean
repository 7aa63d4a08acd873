import FileDepot.Bytes
import FileDepot.Toml.Reader
import FileDepot.Toml.Value

/-!
# Numbers and moments

Integers in four bases, which fit 64 bits, floating-point numbers, and dates
and times, which must exist.
-/

namespace FileDepot.Toml

open Reader

def digit (base : Nat) : Reader Nat := do
  let char ← one fun _ => true
  let value ← Bytes.hexDigit? char
  guard (value < base)
  return value

/-- Digits of a base; an underscore can stand between two of them. -/
def digits (base : Nat) : Reader (List Nat) := do
  let first ← digit base
  let rest ← many (optional (exactly "_") *> digit base)
  return first :: rest

/-- The number that digits of a base stand for, highest first. -/
def ofDigits (base : Nat) (digits : List Nat) : Nat :=
  digits.foldl (fun number digit => base * number + digit) 0

/-- A sign, if there is one: whether it is a minus. -/
def sign : Reader Bool :=
  (exactly "-" *> pure true) <|> (optional (exactly "+") *> pure false)

def signed (negative : Bool) (number : Nat) : Int :=
  if negative then -number else number

/-- An integer, if it fits 64 bits. -/
def integer? (number : Int) : Option Value :=
  if Int64.minValue.toInt ≤ number ∧ number ≤ Int64.maxValue.toInt then
    some (.integer number)
  else
    none

/-- An integer in a base that its first two characters name. -/
def integerInBase (mark : String) (base : Nat) : Reader Value := do
  exactly mark
  integer? (ofDigits base (← digits base))

/-- The digits before a decimal point: no zero leads. -/
def wholeDigits : Reader (List Nat) := do
  let whole ← digits 10
  guard (whole.length = 1 ∨ whole.head? ≠ some 0)
  return whole

/-- The exponent of a number. -/
def exponent : Reader Int := do
  exactly "e" <|> exactly "E"
  let negative ← sign
  return signed negative (ofDigits 10 (← digits 10))

/-- A number in base ten.  One too great is refused, and one too small for the
negative numbers is infinite. -/
def decimal : Reader Value := do
  let negative ← sign
  let whole ← wholeDigits
  let fraction ← optional (exactly "." *> digits 10)
  let power ← optional exponent
  if fraction.isNone ∧ power.isNone then
    integer? (signed negative (ofDigits 10 whole))
  else
    let places := fraction.getD []
    let number := Binary64.nearest negative (ofDigits 10 (whole ++ places))
      (power.getD 0 - places.length)
    guard (number ≠ .infinite false)
    return .real number

/-- A number that is infinite or none at all. -/
def special : Reader Value := do
  let negative ← sign
  (exactly "inf" *> pure (.real (.infinite negative)))
    <|> (exactly "nan" *> pure (.real .notANumber))

def number : Reader Value :=
  integerInBase "0x" 16 <|> integerInBase "0o" 8 <|> integerInBase "0b" 2
    <|> special <|> decimal

/-- A number of so many digits that lies between two bounds. -/
def bounded (width least greatest : Nat) : Reader Nat := do
  let places ← (List.replicate width ()).mapM fun _ => digit 10
  let value := ofDigits 10 places
  guard (least ≤ value ∧ value ≤ greatest)
  return value

def daysOf (year month : Nat) : Nat :=
  if month = 2 then
    if year % 4 = 0 ∧ (year % 100 ≠ 0 ∨ year % 400 = 0) then 29 else 28
  else if month ∈ [4, 6, 9, 11] then 30
  else 31

def date : Reader Unit := do
  let year ← bounded 4 0 9999
  exactly "-"
  let month ← bounded 2 1 12
  exactly "-"
  discard (bounded 2 1 (daysOf year month))

def hoursAndMinutes : Reader Unit := do
  discard (bounded 2 0 23)
  exactly ":"
  discard (bounded 2 0 59)

def time : Reader Unit := do
  hoursAndMinutes
  exactly ":"
  discard (bounded 2 0 60)
  discard (optional (exactly "." *> digit 10 *> many (digit 10)))

/-- The difference of a time to the time of its date line. -/
def offset : Reader Unit :=
  exactly "Z" <|> exactly "z"
    <|> ((exactly "+" <|> exactly "-") *> hoursAndMinutes)

/-- A date, a time, or both. -/
def moment : Reader Value := do
  let dated := do
    date
    discard (optional do
      discard (one fun char => char = 'T' || char = 't' || char = ' ')
      time
      discard (optional offset))
  dated <|> time
  return .moment

end FileDepot.Toml
