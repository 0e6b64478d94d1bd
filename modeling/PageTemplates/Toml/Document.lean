import PageTemplates.Toml.Number

/-!
# TOML documents

A document is a list of lines.  A line opens a table, opens the next table of a
list of tables, or adds an entry to the table opened last.

`document` reads the lines, and `Building.line` applies them one after the
other.  What it refuses is what would define something twice: a key that is
present, a table with a second header, a dotted key that reaches into a table
with a header, and any addition to a table between braces.
-/

namespace PageTemplates

namespace Toml

open Reader

/-! ## Adding to tables -/

/-- The data under a key. -/
def lookup (key : Text) (entries : Entries) : Option Toml :=
  (entries.find? fun entry => entry.1 = key).map Prod.snd

/-- Puts other data under a key that is present. -/
def replace (key : Text) (data : Toml) (entries : Entries) : Entries :=
  entries.map fun entry => if entry.1 = key then (key, data) else entry

/-- Changes the table that a path leads to, and makes the tables on the way
that are missing.  From a list of tables the way leads on into the last one. -/
def descend (isDotted : Bool) (change : TableOrigin → Entries → Option Entries) :
    (path : List Text) → TableOrigin → Entries → Option Entries
  | [], origin, entries => change origin entries
  | key :: path, _, entries =>
    match lookup key entries with
    | none => do
      let origin := if isDotted then TableOrigin.dotted else .implied
      let inner ← descend isDotted change path origin []
      some (entries ++ [(key, .table origin inner)])
    | some (.table origin inner) =>
      if origin = .braces ∨ (isDotted = true ∧ origin = .header) then none
      else do
        let inner ← descend isDotted change path origin inner
        some (replace key (.table origin inner) entries)
    | some (.array true items) =>
      match items.getLast? with
      | some (.table origin inner) => do
        let inner ← descend isDotted change path origin inner
        some (replace key (.array true (items.dropLast ++ [.table origin inner])) entries)
      | _ => none
    | some _ => none

/-- Adds an entry to the table that a path of dotted keys leads to.  Only a table made by dotted
keys can be reached by one. -/
def addEntry (path : List Text) (key : Text) (data : Toml) (entries : Entries) : Option Entries :=
  descend true
    (fun origin entries =>
      if (origin = .dotted ↔ path = []) ∨ (lookup key entries).isSome then none
      else some (entries ++ [(key, data)]))
    path .header entries

/-- Adds entries one after the other. -/
def addEntries : List ((List Text × Text) × Toml) → Entries → Option Entries
  | [], entries => some entries
  | ((path, key), data) :: rest, entries => do
    let entries ← addEntry path key data entries
    addEntries rest entries

/-! ## Reading data -/

/-- Reads the items of a list up to its closing bracket.  Each takes a character, so the text
supplies enough of them. -/
def itemsWithin (item : Reader Toml) : (supply : Text) → Reader (List Toml)
  | [] => failure
  | _ :: supply => do
    skipLines
    if ← tryWord [']'] then pure []
    else do
      let first ← item
      skipLines
      if ← tryWord [','] then
        let more ← itemsWithin item supply
        pure (first :: more)
      else do
        word [']']
        pure [first]

/-- Reads an entry of a table between braces. -/
def bracedEntry (item : Reader Toml) : Reader ((List Text × Text) × Toml) := do
  let key ← keyPath
  word ['=']
  blanks
  let data ← item
  blanks
  pure (key, data)

/-- Reads a table behind its opening brace. -/
def bracedTable (item : Reader Toml) : Reader Toml := do
  blanks
  let pairs ←
    if (← peek) = some '\x7d' then pure []
    else do
      let first ← bracedEntry item
      let more ← many do
        if ← tryWord [','] then pure (some (← bracedEntry item)) else pure none
      pure (first :: more)
  word ['\x7d']
  match addEntries pairs [] with
  | some entries => pure (.table .braces entries)
  | none => failure

/-- Reads data of any kind.  Lists and tables hold what `nested` reads; without
it they are nested too deep. -/
def dataWith (nested : Option (Reader Toml)) : Reader Toml := do
  match ← peek with
  | some '"' => do pure (.string (← anyText))
  | some '\'' => do pure (.string (← anyText))
  | some 't' => do
    word "true".toList
    pure (.boolean true)
  | some 'f' => do
    word "false".toList
    pure (.boolean false)
  | some '[' =>
    match nested with
    | none => failure
    | some item => do
      word ['[']
      let items ← fun text => itemsWithin item text text
      pure (.array false items)
  | some '\x7b' =>
    match nested with
    | none => failure
    | some item => do
      word ['\x7b']
      bracedTable item
  | some c =>
    if c.isDigit || c = '+' || c = '-' || c = 'i' || c = 'n' then do
      match ← attempt dateOrTime with
      | some read => pure read
      | none => number
    else failure
  | none => failure

/-- Reads data of any kind, with lists and tables nested up to `depth` deep. -/
def data : (depth : Nat) → Reader Toml
  | 0 => dataWith none
  | depth + 1 => dataWith (some (data depth))

/-! ## Reading lines -/

/-- A line of a document. -/
inductive Line where
  | header (path : List Text) (key : Text)
  /-- The header of one more table of a list. -/
  | element (path : List Text) (key : Text)
  | entry (path : List Text) (key : Text) (data : Toml)

/-- Reads the next line that says something. -/
def nextLine : Reader (Option Line) := do
  skipLines
  match ← peek with
  | none => pure none
  | some '[' => do
    word ['[']
    if ← tryWord ['['] then
      let (path, key) ← keyPath
      word [']', ']']
      lineEnd
      pure (some (.element path key))
    else do
      let (path, key) ← keyPath
      word [']']
      lineEnd
      pure (some (.header path key))
  | some _ => do
    let (path, key) ← keyPath
    word ['=']
    blanks
    let read ← data (nestingLimit - 1)
    lineEnd
    pure (some (.entry path key read))

/-- Reads all lines of a document.  A byte order mark may stand in front. -/
def lines : Reader (List Line) := do
  let _ ← tryWord ['\ufeff']
  let lines ← many nextLine
  if ← atEnd then pure lines else failure

/-! ## Building the document -/

/-- A document on its way. -/
structure Building where
  /-- The tables that are closed. -/
  root : Entries := []
  /-- The header of the open table, unless it is the document itself. -/
  current : Option (List Text × Text) := none
  /-- Whether the open table belongs to a list of tables. -/
  isElement : Bool := false
  entries : Entries := []

namespace Building

/-- Puts the open table into its place. -/
def close (building : Building) : Option Entries :=
  match building.current with
  | none => some building.entries
  | some (path, key) =>
    descend false
      (fun _ entries =>
        let made := Toml.table .header building.entries
        if building.isElement then
          match lookup key entries with
          | some (.array true items) => some (replace key (.array true (items ++ [made])) entries)
          | _ => none
        else some (entries ++ [(key, made)]))
      path .header building.root

/-- The data that a path leads to. -/
def find? : (path : List Text) → Text → Entries → Option Toml
  | [], key, entries => lookup key entries
  | step :: path, key, entries =>
    match lookup step entries with
    | some (.table _ inner) => find? path key inner
    | some (.array true items) =>
      match items.getLast? with
      | some (.table _ inner) => find? path key inner
      | _ => none
    | _ => none

/-- Opens a table.  One that was only implied so far keeps its entries and moves to the end. -/
def openTable (path : List Text) (key : Text) (root : Entries) : Option Building := do
  let entries ←
    match find? path key root with
    | none => some []
    | some (.table .implied inner) => some inner
    | some _ => none
  let root ← descend false (fun _ entries => some (entries.filter fun entry => entry.1 ≠ key))
    path .header root
  some { root := root, current := some (path, key), entries := entries }

/-- Opens one more table of a list. -/
def openElement (path : List Text) (key : Text) (root : Entries) : Option Building := do
  let root ← descend false
    (fun _ entries =>
      match lookup key entries with
      | none => some (entries ++ [(key, .array true [])])
      | some (.array true _) => some entries
      | some _ => none)
    path .header root
  some { root := root, current := some (path, key), isElement := true }

/-- Applies a line. -/
def line (building : Building) : Line → Option Building
  | .header path key => do openTable path key (← building.close)
  | .element path key => do openElement path key (← building.close)
  | .entry path key data => do
    let entries ← addEntry path key data building.entries
    some { building with entries := entries }

end Building

/-- Reads a document.  There is none if the text is not TOML. -/
def document? (text : Text) : Option Entries := do
  let (lines, _) ← lines text
  let building ← lines.foldlM Building.line {}
  building.close

end Toml

end PageTemplates
