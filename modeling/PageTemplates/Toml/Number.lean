import PageTemplates.Decimal.Nearest
import PageTemplates.Toml
import PageTemplates.Toml.Quoted

/-!
# Numbers and dates

A whole number is written in decimal digits with an optional sign, or without a
sign in base 16, 8 or 2.  A floating point number has a fraction, an exponent
or both.  An underscore may stand between two digits.

A date is checked against the calendar.  What is kept of a date is its text in
normal form: a `T` between date and time, `Z` for the zero offset, and no zeros
at the end of a fraction of a second.
-/

namespace PageTemplates

namespace Toml

open Reader

/-- Reads digits of a class with single underscores between them. -/
def digitsOf (isDigit : Char → Bool) : Reader Text := do
  let first ← span1 isDigit
  let more ← many do
    if ← tryWord ['_'] then pure (some (← span1 isDigit)) else pure none
  pure (first ++ more.flatten)

/-- Reads a sign if there is one, and says whether it is a minus. -/
def sign : Reader Bool := do
  if ← tryWord ['-'] then pure true
  else
    let _ ← tryWord ['+']
    pure false

/-- Reads decimal digits that have no needless zero in front. -/
def decimalDigits : Reader Text := do
  if ← tryWord ['0'] then pure ['0']
  else digitsOf Char.isDigit

/-- A whole number, if it fits into 64 bits. -/
def integerOf (negative : Bool) (magnitude : Nat) : Option Toml :=
  if negative then
    if magnitude ≤ 9223372036854775808 then some (.integer (-(magnitude : Int))) else none
  else if magnitude < 9223372036854775808 then some (.integer magnitude)
  else none

/-- Reads a whole number in another base than ten. -/
def basedInteger (base : Nat) (isDigit : Char → Bool) : Reader Toml := do
  let digits ← digitsOf isDigit
  match integerOf false (ofDigits base digits) with
  | some number => pure number
  | none => failure

/-- Reads the digits behind a point, if there is one. -/
def fraction : Reader (Option Text) := do
  if ← tryWord ['.'] then pure (some (← digitsOf Char.isDigit)) else pure none

/-- Reads an exponent of ten, if there is one. -/
def exponent : Reader (Option Int) := do
  let marked ← if ← tryWord ['e'] then pure true else tryWord ['E']
  if marked then
    let negative ← sign
    let magnitude := ofDigits 10 (← digitsOf Char.isDigit)
    pure (some (if negative then -(magnitude : Int) else magnitude))
  else pure none

/-- A floating point number.  One that is too large is refused unless negative. -/
def floatOf (negative : Bool) (whole fraction : Text) (exponent : Int) : Option Toml :=
  let coefficient := ofDigits 10 (whole ++ fraction)
  match Decimal.nearest? negative coefficient (exponent - fraction.length) with
  | some number => some (.float number.toText)
  | none => if negative then some (.float "-inf".toList) else none

/-- Reads a number in decimal digits, whole or not. -/
def decimalNumber (negative : Bool) : Reader Toml := do
  let whole ← decimalDigits
  let behind ← fraction
  let power ← exponent
  let number :=
    if behind.isNone && power.isNone then integerOf negative (ofDigits 10 whole)
    else floatOf negative whole (behind.getD []) (power.getD 0)
  match number with
  | some number => pure number
  | none => failure

/-- Reads a number with its sign. -/
def number : Reader Toml := do
  if ← tryWord ['0', 'x'] then basedInteger 16 isHexDigit
  else if ← tryWord ['0', 'o'] then basedInteger 8 fun c => '0' ≤ c && c ≤ '7'
  else if ← tryWord ['0', 'b'] then basedInteger 2 fun c => c = '0' || c = '1'
  else do
    let negative ← sign
    if ← tryWord "inf".toList then
      pure (.float (if negative then "-inf".toList else "inf".toList))
    else if ← tryWord "nan".toList then pure (.float "NaN".toList)
    else decimalNumber negative

/-! ## Dates and times -/

/-- Reads two digits that stand for a number between two bounds. -/
def twoDigits (low high : Nat) : Reader Text := do
  let digits ← exactly 2 Char.isDigit
  let number := ofDigits 10 digits
  if low ≤ number ∧ number ≤ high then pure digits else failure

/-- The number of days in a month. -/
def daysIn (year month : Nat) : Nat :=
  if month = 2 then
    if year % 4 = 0 ∧ (year % 100 ≠ 0 ∨ year % 400 = 0) then 29 else 28
  else if month = 4 ∨ month = 6 ∨ month = 9 ∨ month = 11 then 30
  else 31

/-- Reads a date. -/
def date : Reader Text := do
  let year ← exactly 4 Char.isDigit
  word ['-']
  let month ← twoDigits 1 12
  word ['-']
  let day ← twoDigits 1 (daysIn (ofDigits 10 year) (ofDigits 10 month))
  pure (year ++ '-' :: month ++ '-' :: day)

/-- A fraction of a second to nine digits, without zeros at its end. -/
def secondsText (digits : Text) : Text :=
  let kept := ((digits.take 9).reverse.dropWhile (· = '0')).reverse
  if kept.isEmpty then [] else '.' :: kept

/-- Reads a time of day. -/
def time : Reader Text := do
  let hour ← twoDigits 0 23
  word [':']
  let minute ← twoDigits 0 59
  word [':']
  let second ← twoDigits 0 60
  let behind ← if ← tryWord ['.'] then span1 Char.isDigit else pure []
  pure (hour ++ ':' :: minute ++ ':' :: second ++ secondsText behind)

/-- Reads an offset from universal time. -/
def offset : Reader Text := do
  match ← take with
  | 'Z' => pure ['Z']
  | 'z' => pure ['Z']
  | '+' => zone '+'
  | '-' => zone '-'
  | _ => failure
where
  /-- Reads the hours and minutes of an offset. -/
  zone (mark : Char) : Reader Text := do
    let hour ← twoDigits 0 23
    word [':']
    let minute ← twoDigits 0 59
    let isZero := ofDigits 10 (hour ++ minute) = 0
    pure ((if isZero then '+' else mark) :: hour ++ ':' :: minute)

/-- Reads a time of day behind a date. -/
def timeBehindDate : Reader Text := do
  let mark ← take
  if mark = 'T' || mark = 't' || mark = ' ' then
    let time ← time
    let offset ← attempt offset
    pure ('T' :: time ++ offset.getD [])
  else failure

/-- Reads a date, a time or both. -/
def dateOrTime : Reader Toml := do
  match ← attempt date with
  | some date => do
    let behind ← attempt timeBehindDate
    pure (.datetime (date ++ behind.getD []))
  | none => do pure (.datetime (← time))

end Toml

end PageTemplates
