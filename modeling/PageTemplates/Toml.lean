import PageTemplates.Reading
import PageTemplates.Table

/-!
# TOML data

Settings and manifests are written in TOML.  A document is a table, and tables
keep their entries in the order in which they first appear, since the first
offence in that order is the one reported.

Tables remember how they came about, for that decides what may still be added
to them while the document is read.
-/

namespace PageTemplates

/-- How a table came about. -/
inductive TableOrigin where
  /-- Between braces.  Nothing can be added. -/
  | braces
  /-- By a header of its own. -/
  | header
  /-- By the header of a table inside it. -/
  | implied
  /-- By a dotted key. -/
  | dotted
  deriving DecidableEq, Repr

/-- TOML data. -/
inductive Toml where
  | string (chars : Text)
  /-- A whole number of 64 bits. -/
  | integer (number : Int)
  /-- A floating point number, as it is written out. -/
  | float (written : Text)
  | boolean (flag : Bool)
  /-- A date, a time or both, as it is written out. -/
  | datetime (written : Text)
  /-- A list.  The list of tables of the same header is open to more of them. -/
  | array (isOpen : Bool) (items : List Toml)
  /-- A table with its entries in order of appearance. -/
  | table (origin : TableOrigin) (entries : List (Text × Toml))
  deriving Inhabited

namespace Toml

/-- The entries of a table in order of appearance. -/
abbrev Entries := List (Text × Toml)

/-- What a message says was found in place of the wanted data.  A date is read
like a table with one entry. -/
def found : Toml → Found
  | .string chars => .string chars
  | .integer number => .integer number
  | .float written => .float written
  | .boolean flag => .bool flag
  | .datetime _ => .map
  | .array _ _ => .sequence
  | .table _ _ => .map

/-- The key of the one entry a date has when it is read like a table. -/
def datetimeKey : Text := "$__toml_private_datetime".toList

/-! ## Typed reading -/

/-- A reader of TOML data. -/
abbrev Shape (α : Type _) := Toml → Except ReadError α

/-- Reads a text, which `expected` describes. -/
def readTextAs (expected : Text) : Shape Text
  | .string chars => .ok chars
  | other => .error (.wrongType other.found expected)

/-- Reads a text. -/
def readText : Shape Text := readTextAs "a string".toList

/-- Reads a path. -/
def readPath : Shape Text := readTextAs "path string".toList

/-- Reads a count. -/
def readCount : Shape Nat
  | .integer number =>
    if 0 ≤ number then .ok number.toNat else .error (.outOfRange number "usize".toList)
  | other => .error (.wrongType other.found "usize".toList)

/-- Reads a list item by item. -/
def readList {α : Type _} (item : Shape α) : Shape (List α)
  | .array _ items => items.mapM item
  | other => .error (.wrongType other.found "a sequence".toList)

/-- The entries of data that can be read like a table. -/
def entries? : Toml → Option Entries
  | .table _ entries => some entries
  | .datetime written => some [(datetimeKey, .string written)]
  | _ => none

/-- Reads a table of texts, by ascending key. -/
def readTexts : Shape (Table Text) := fun data =>
  match data.entries? with
  | some entries => do
    let pairs ← entries.mapM fun entry => (readText entry.2).map fun read => (entry.1, read)
    .ok (Table.ofPairs pairs)
  | none => .error (.wrongType data.found "a map".toList)

/-- Reads the entries of a table one after the other into a record.  An entry
that `field` does not know is refused. -/
def readFields {α : Type _} (known : List Text)
    (field : Text → Option (Toml → α → Except ReadError α)) :
    Entries → α → Except ReadError α
  | [], sofar => .ok sofar
  | (key, data) :: rest, sofar =>
    match field key with
    | none => .error (.unknownField key known)
    | some read => do
      let sofar ← read data sofar
      readFields known field rest sofar

end Toml

end PageTemplates
