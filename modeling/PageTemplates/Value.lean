import PageTemplates.Table
import PageTemplates.Decimal

/-!
# Values

Event parameters are values of a small data language: null, truth values,
whole numbers, numbers with a decimal point, texts, lists and records.  A whole
number never equals a number with a decimal point.  A record keeps its fields
by ascending key.
-/

namespace PageTemplates

/-- A parameter value. -/
inductive Value where
  | null
  | bool (flag : Bool)
  | int (number : Int)
  /-- A number written with a decimal point. -/
  | decimal (number : Decimal)
  | text (chars : Text)
  | list (items : List Value)
  /-- Named fields, by ascending key. -/
  | record (fields : List (Text × Value))
  deriving Inhabited

namespace Value

/-! ## Comparison -/

mutual

/-- Whether two values are the same. -/
def same : Value → Value → Bool
  | .null, .null => true
  | .bool a, .bool b => a == b
  | .int a, .int b => a == b
  | .decimal a, .decimal b => a == b
  | .text a, .text b => a == b
  | .list a, .list b => sameItems a b
  | .record a, .record b => sameFields a b
  | _, _ => false

/-- Whether two lists hold the same values in the same order. -/
def sameItems : List Value → List Value → Bool
  | [], [] => true
  | a :: as, b :: bs => same a b && sameItems as bs
  | _, _ => false

/-- Whether two records hold the same fields. -/
def sameFields : List (Text × Value) → List (Text × Value) → Bool
  | [], [] => true
  | (k, a) :: as, (l, b) :: bs => k == l && same a b && sameFields as bs
  | _, _ => false

end

instance : BEq Value := ⟨same⟩

/-! ## Views -/

/-- The text of a text value. -/
def text? : Value → Option Text
  | .text chars => some chars
  | _ => none

/-- The kinds of value, as messages name them. -/
inductive Kind where
  | null
  | bool
  | number
  | string
  | array
  | object
  deriving DecidableEq, Repr

/-- The name of a kind in messages. -/
def Kind.name : Kind → Text
  | .null => "null".toList
  | .bool => "bool".toList
  | .number => "number".toList
  | .string => "string".toList
  | .array => "array".toList
  | .object => "object".toList

/-- The kind of a value. -/
def kind : Value → Kind
  | .null => .null
  | .bool _ => .bool
  | .int _ => .number
  | .decimal _ => .number
  | .text _ => .string
  | .list _ => .array
  | .record _ => .object

end Value

end PageTemplates
