import PageTemplates.Decimal
import PageTemplates.Text.Quoted

/-!
# Failures of typed reading

Parameter values and settings files hold untyped data that is read as data of
a given shape.  A reading fails for one of the causes of `ReadError`, which
name what was found by its `Found` and what was wanted by a phrase.
`ReadError.message` is the wording.
-/

namespace PageTemplates

/-- What stands in place of the wanted data. -/
inductive Found where
  | null
  | bool (flag : Bool)
  | integer (number : Int)
  /-- A number with a decimal point, as it is written out. -/
  | float (written : Text)
  | string (text : Text)
  | sequence
  | map
  deriving Repr

/-- The phrase for what was found. -/
def Found.phrase : Found → Text
  | .null => "null".toList
  | .bool flag => "boolean `".toList ++ (if flag then "true`".toList else "false`".toList)
  | .integer number => "integer `".toList ++ Text.ofInt number ++ ['`']
  | .float written => "floating point `".toList ++ written ++ ['`']
  | .string text => "string ".toList ++ Text.quoted text
  | .sequence => "sequence".toList
  | .map => "map".toList

/-- Why data could not be read as data of the wanted shape. -/
inductive ReadError where
  /-- The data is of another kind. -/
  | wrongType (found : Found) (expected : Text)
  /-- A whole number lies outside the wanted range. -/
  | outOfRange (number : Int) (expected : Text)
  | missingField (field : Text)
  | unknownField (field : Text) (known : List Text)
  /-- A list is too short for the record it stands for. -/
  | tooShort (length : Nat) (expected : Text)
  /-- A list has more items than the record it stands for has fields. -/
  | tooLong (length : Nat)
  /-- A number is not the code of any authentication outcome. -/
  | unknownCode (code : Int)
  /-- The key of a record to store is not a text. -/
  | keyNotText
  deriving Repr

namespace ReadError

/-- A field name between the marks that set it off from the sentence. -/
def fieldMark (field : Text) : Text := '`' :: field ++ ['`']

/-- The phrase that offers the known fields. -/
def knownPhrase : List Text → Text
  | [] => "there are no fields".toList
  | [only] => "expected ".toList ++ fieldMark only
  | [one, other] => "expected ".toList ++ fieldMark one ++ " or ".toList ++ fieldMark other
  | known => "expected one of ".toList ++ Text.join ", ".toList (known.map fieldMark)

/-- The wording of a failed reading. -/
def message : ReadError → Text
  | .wrongType found expected =>
    "invalid type: ".toList ++ found.phrase ++ ", expected ".toList ++ expected
  | .outOfRange number expected =>
    "invalid value: ".toList ++ (Found.integer number).phrase ++ ", expected ".toList ++ expected
  | .missingField field => "missing field ".toList ++ fieldMark field
  | .unknownField field known =>
    "unknown field ".toList ++ fieldMark field ++ ", ".toList ++ knownPhrase known
  | .tooShort length expected =>
    "invalid length ".toList ++ Text.ofNat length ++ ", expected ".toList ++ expected
  | .tooLong length =>
    "invalid length ".toList ++ Text.ofNat length ++ ", expected fewer elements in array".toList
  | .unknownCode code => "unknown authentication code ".toList ++ Text.ofInt code
  | .keyNotText => "key must be a string".toList

end ReadError

end PageTemplates
