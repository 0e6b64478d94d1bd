import PageTemplates.Value
import PageTemplates.Reading

/-!
# Typed reading of values

A reader takes a value to data of one shape, or says why the value does not
have that shape.  Lists are read from the front and records by ascending key,
so the first failure in that order is the one reported.
-/

namespace PageTemplates

namespace Value

/-- A reader of values. -/
abbrev Reader (α : Type _) := Value → Except ReadError α

/-- What a message says was found in place of the wanted data. -/
def found : Value → Found
  | .null => .null
  | .bool flag => .bool flag
  | .int number => .integer number
  | .decimal number => .float number.toText
  | .text chars => .string chars
  | .list _ => .sequence
  | .record _ => .map

/-- Reads a whole number between two bounds.  `expected` names the range. -/
def readInt (low high : Int) (expected : Text) : Reader Int
  | .int number =>
    if low ≤ number ∧ number ≤ high then .ok number else .error (.outOfRange number expected)
  | value => .error (.wrongType value.found expected)

/-- Reads a signed number of 32 bits. -/
def readInt32 : Reader Int := readInt (-2147483648) 2147483647 "i32".toList

/-- Reads a signed number of 64 bits. -/
def readInt64 : Reader Int := readInt (-9223372036854775808) 9223372036854775807 "i64".toList

/-- Reads an unsigned number of 8 bits. -/
def readByte : Reader Int := readInt 0 255 "u8".toList

/-- Reads a truth value. -/
def readBool : Reader Bool
  | .bool flag => .ok flag
  | value => .error (.wrongType value.found "a boolean".toList)

/-- Reads a text. -/
def readText : Reader Text
  | .text chars => .ok chars
  | value => .error (.wrongType value.found "a string".toList)

/-- Reads a list, item by item. -/
def readList {α : Type _} (item : Reader α) : Reader (List α)
  | .list items => items.mapM item
  | value => .error (.wrongType value.found "a sequence".toList)

/-- Reads a record all of whose fields have one shape. -/
def readMap {α : Type _} (item : Reader α) : Reader (Table α)
  | .record fields => fields.mapM fun field => (item field.2).map fun read => (field.1, read)
  | value => .error (.wrongType value.found "a map".toList)

end Value

end PageTemplates
