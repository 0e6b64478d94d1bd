import PageTemplates.Decimal

/-!
# Numbers of binary precision

A number with a decimal point is kept to the precision of 64-bit binary
numbers and written with as few digits as tell it from its neighbours.

`Binary.nearest?` rounds a fraction to `mantissa * 2 ^ exponent` with a mantissa
of at most 53 bits, to the even mantissa when two are equally near.  A number
too large for that has no nearest one.  `Binary.shortest` goes through the
decimal grids of one digit, two digits and so on.  On each grid it looks at the
two neighbours of the number and takes the nearer one that still rounds to it,
the larger one when both are equally near.  Seventeen digits always suffice.
-/

namespace PageTemplates

/-- The number `mantissa * 2 ^ exponent`. -/
structure Binary where
  /-- At most 53 bits. -/
  mantissa : Nat
  /-- At least -1074. -/
  exponent : Int
  deriving Repr

namespace Binary

/-- The fraction `number * 2 ^ shift`, as numerator and denominator. -/
def scaled (number : Nat) (shift : Int) : Nat × Nat :=
  if 0 ≤ shift then (number * Nat.pow 2 shift.toNat, 1) else (number, Nat.pow 2 (-shift).toNat)

/-- The quotient of two numbers, rounded to the nearest and to even on a tie. -/
def roundDiv (numerator denominator : Nat) : Nat :=
  let quotient := numerator / denominator
  let twice := 2 * (numerator % denominator)
  if twice < denominator then quotient
  else if denominator < twice then quotient + 1
  else quotient + quotient % 2

/-- The quotient of two numbers, rounded to the nearest and up on a tie. -/
def roundDivUp (numerator denominator : Nat) : Nat :=
  (2 * numerator + denominator) / (2 * denominator)

/-- The exponent at which the whole part of a fraction has 53 bits, or the least one. -/
def exponentFor (numerator denominator : Nat) : Int :=
  let guess : Int := (Nat.log2 numerator : Int) - Nat.log2 denominator - 53
  let whole := (numerator * Nat.pow 2 (-guess).toNat) / (denominator * Nat.pow 2 guess.toNat)
  max (-1074) (guess + ((Nat.log2 whole : Int) - 52))

/-- The binary number nearest to a fraction. -/
def nearest? (numerator denominator : Nat) : Option Binary :=
  if numerator = 0 then some ⟨0, -1074⟩
  else
    let exponent := exponentFor numerator denominator
    let mantissa :=
      roundDiv (numerator * Nat.pow 2 (-exponent).toNat) (denominator * Nat.pow 2 exponent.toNat)
    let number : Binary :=
      if mantissa = Nat.pow 2 53 then ⟨Nat.pow 2 52, exponent + 1⟩ else ⟨mantissa, exponent⟩
    if 971 < number.exponent then none else some number

/-- Whether a fraction rounds to the number. -/
def roundsTo (number : Binary) (numerator denominator : Nat) : Bool :=
  match nearest? numerator denominator with
  | some other => other.mantissa == number.mantissa && other.exponent == number.exponent
  | none => false

/-- The coefficient of the nearest number with `places` decimal places that rounds to `number`.
A negative number of places stands for zeros in front of the point. -/
def onGrid (number : Binary) (places : Int) : Option Nat :=
  let (numerator, denominator) := scaled number.mantissa number.exponent
  let up := Nat.pow 10 places.toNat
  let down := Nat.pow 10 (-places).toNat
  let low := (numerator * up) / (denominator * down)
  let hits (coefficient : Nat) : Bool := number.roundsTo (coefficient * down) up
  let near := roundDivUp (numerator * up) (denominator * down)
  if hits near then some near
  else if hits low then some low
  else if hits (low + 1) then some (low + 1)
  else none

/-- Tries the grids from a number of places on. -/
def shortestFrom (number : Binary) : (tries : Nat) → (places : Int) → Nat × Int
  | 0, places => ((number.onGrid places).getD 0, places)
  | tries + 1, places =>
    match number.onGrid places with
    | some coefficient => (coefficient, places)
    | none => shortestFrom number tries (places + 1)

/-- The coefficient and places of the shortest decimal number that rounds to `number`. -/
def shortest (number : Binary) : Nat × Int :=
  let (numerator, denominator) := scaled number.mantissa number.exponent
  let whole := numerator / denominator
  let digits : Int :=
    if whole = 0 then
      1 - ((Nat.toDigits 10 (denominator / (numerator + 1))).length : Int)
    else (Nat.toDigits 10 whole).length
  shortestFrom number 20 (-digits)

end Binary

/-- The shortest decimal number for `± coefficient * 10 ^ exponent`, if it is not too large.
All binary numbers lie between `10 ^ -330` and `10 ^ 310`. -/
def Decimal.nearest? (negative : Bool) (coefficient : Nat) (exponent : Int) : Option Decimal :=
  let magnitude : Int := (Nat.toDigits 10 coefficient).length + exponent
  if coefficient = 0 ∨ magnitude < -330 then some (Decimal.make negative 0 0)
  else if 310 < magnitude then none
  else
    (Binary.nearest? (coefficient * Nat.pow 10 exponent.toNat) (Nat.pow 10 (-exponent).toNat)).map
      fun number =>
        if number.mantissa = 0 then Decimal.make negative 0 0
        else
          let (digits, places) := number.shortest
          Decimal.make negative (digits * Nat.pow 10 (-places).toNat) places.toNat

end PageTemplates
