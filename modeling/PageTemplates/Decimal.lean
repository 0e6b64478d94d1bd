import PageTemplates.Text

/-!
# Numbers with a decimal point

A number with a decimal point is a sign, a coefficient and the number of its
digits that stand behind the point.  Numbers are kept in least form: the
coefficient does not end in a zero behind the point.  So two numbers are the
same exactly if their parts are, apart from the two zeros.
-/

namespace PageTemplates

/-- The number `± coefficient / 10 ^ places`. -/
structure Decimal where
  /-- Whether a minus is written. -/
  negative : Bool
  /-- All digits as one natural number. -/
  coefficient : Nat
  /-- How many of the digits stand behind the point. -/
  places : Nat
  deriving Repr, Inhabited

namespace Decimal

/-- Drops zeros behind the point. -/
def trim (coefficient : Nat) : (places : Nat) → Nat × Nat
  | 0 => (coefficient, 0)
  | places + 1 =>
    if coefficient % 10 = 0 then trim (coefficient / 10) places else (coefficient, places + 1)

/-- The number in least form. -/
def make (negative : Bool) (coefficient places : Nat) : Decimal :=
  let least := trim coefficient places
  ⟨negative, least.1, least.2⟩

/-- Both zeros are the same number. -/
instance : BEq Decimal where
  beq a b :=
    a.coefficient == b.coefficient && a.places == b.places &&
      (a.negative == b.negative || a.coefficient == 0)

/-- The digits with a point, at least one of them on each side. -/
def toText (number : Decimal) : Text :=
  let digits := Text.ofNat number.coefficient
  let padded := List.replicate (number.places + 1 - digits.length) '0' ++ digits
  let whole := padded.take (padded.length - number.places)
  let behind := padded.drop (padded.length - number.places)
  (if number.negative then ['-'] else []) ++ whole ++ '.' ::
    (if behind.isEmpty then ['0'] else behind)

end Decimal

end PageTemplates
