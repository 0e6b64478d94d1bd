import PageTemplates.TemplateError
import PageTemplates.Toml.Document

/-!
# Settings

Settings say where templates are found and how far includes and placeholders
are followed.  They are read from a TOML file.  Only the root is required, and
a relative root counts from the directory of the file.
-/

namespace PageTemplates

/-- The settings of a page. -/
structure Settings where
  /-- The directory that template paths count from. -/
  root : Text
  /-- What the paths of template files end in. -/
  extensions : List Text := [".tpl".toList, ".phtml".toList]
  /-- How many files deep a file may be included. -/
  maxIncludeDepth : Nat := 16
  /-- How many placeholders one substitution may replace. -/
  maxSubstitutions : Nat := 100000
  deriving DecidableEq, Repr

namespace Settings

/-- Whether a declaration names a template file. -/
def isTemplateFile (settings : Settings) (value : Text) : Bool :=
  settings.extensions.any fun extension => Text.endsIn extension value

/-! ## Reading settings -/

/-- What a settings file says. -/
structure Draft where
  root : Option Text := none
  extensions : Option (List Text) := none
  maxIncludeDepth : Option Nat := none
  maxSubstitutions : Option Nat := none

/-- The key of the root. -/
def rootKey : Text := "root_dir".toList

/-- The key of the extensions. -/
def extensionsKey : Text := "file_extensions".toList

/-- The key of the include depth. -/
def depthKey : Text := "max_include_depth".toList

/-- The key of the number of substitutions. -/
def substitutionsKey : Text := "max_substitutions".toList

/-- The known keys. -/
def keys : List Text := [rootKey, extensionsKey, depthKey, substitutionsKey]

/-- How the data under a known key is read. -/
def field (key : Text) : Option (Toml → Draft → Except ReadError Draft) :=
  if key = rootKey then
    some fun data draft => data.readPath.map fun root => { draft with root := some root }
  else if key = extensionsKey then
    some fun data draft =>
      (Toml.readList Toml.readText data).map fun extensions =>
        { draft with extensions := some extensions }
  else if key = depthKey then
    some fun data draft => data.readCount.map fun depth =>
      { draft with maxIncludeDepth := some depth }
  else if key = substitutionsKey then
    some fun data draft => data.readCount.map fun count =>
      { draft with maxSubstitutions := some count }
  else none

/-- The settings that a file gives, if it gives a root.  The rest has defaults. -/
def Draft.complete (draft : Draft) : Except ReadError Settings :=
  match draft.root with
  | none => .error (.missingField rootKey)
  | some root =>
    let defaults : Settings := { root := root }
    .ok
      { root := root
        extensions := draft.extensions.getD defaults.extensions
        maxIncludeDepth := draft.maxIncludeDepth.getD defaults.maxIncludeDepth
        maxSubstitutions := draft.maxSubstitutions.getD defaults.maxSubstitutions }

/-- Reads settings from the entries of a document. -/
def ofEntries (entries : Toml.Entries) : Except ReadError Settings := do
  let draft ← Toml.readFields keys field entries {}
  draft.complete

/-- Reads settings from a TOML text. -/
def ofText (text : Text) : Except TomlError Settings :=
  match Toml.document? text with
  | none => .error .notToml
  | some entries =>
    match ofEntries entries with
    | .ok settings => .ok settings
    | .error cause => .error (.shape cause)

/-! ## Settings files -/

/-- Checks that the root is a directory. -/
def validate (settings : Settings) (files : FileTree) : Except TemplateError Unit :=
  if files.isDirectory settings.root then .ok () else .error (.invalidRoot settings.root)

/-- Lets a relative root count from the directory of the settings file. -/
def relativeTo (path : Text) (settings : Settings) : Settings :=
  if Path.isAbsolute settings.root then settings
  else
    match Path.parent? path with
    | some parent => { settings with root := Path.join parent settings.root }
    | none => settings

/-- Reads a settings file and checks its root. -/
def load (path : Text) (files : FileTree) : Except TemplateError Settings := do
  let text ←
    match files.read path with
    | .ok text => .ok text
    | .error cause => .error (TemplateError.unreadable path cause)
  let settings ←
    match ofText text with
    | .ok settings => .ok (settings.relativeTo path)
    | .error cause => .error (TemplateError.settings cause)
  settings.validate files
  .ok settings

end Settings

end PageTemplates
