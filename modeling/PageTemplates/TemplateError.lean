import PageTemplates.Event
import PageTemplates.FileTree

/-!
# Failures of templates

Everything that can keep a page from being rendered, with its wording.  A path
in a failure is the path that was tried: the template root joined with the
normal form of the template path.
-/

namespace PageTemplates

/-- Why a TOML text could not be used. -/
inductive TomlError where
  | notToml
  /-- The document does not have the wanted shape. -/
  | shape (cause : ReadError)

/-- Why a template could not be loaded or rendered. -/
inductive TemplateError where
  /-- The template root is not a directory. -/
  | invalidRoot (path : Text)
  | settings (cause : TomlError)
  /-- No template or namespace has this name. -/
  | undefinedTemplate (name : Text)
  /-- The template that a block is declared to belong to has no such block. -/
  | undefinedBlock (block origin : Text)
  /-- There is no file at this path. -/
  | fileNotFound (path : Text)
  /-- This path leads above the template root. -/
  | pathEscapesRoot (path : Text)
  /-- The file at this path could not be read. -/
  | unreadable (path : Text) (cause : FileError)
  /-- The file at this path includes itself, through other files or at once. -/
  | includeCycle (path : Text)
  /-- The file at this path is included through too many others. -/
  | includeDepth (path : Text) (limit : Nat)
  /-- More placeholders were replaced than the limit allows. -/
  | substitutionLimit (limit : Nat)
  | event (cause : EventError)

/-- The wording of a failure. -/
def TemplateError.message : TemplateError → Text
  | .invalidRoot path => "template root is not a directory: ".toList ++ path
  | .settings _ => "configuration error".toList
  | .undefinedTemplate name => "undefined template: ".toList ++ name
  | .undefinedBlock block origin =>
    "dynamic block '".toList ++ block ++ "' not found in template '".toList ++ origin ++ ['\'']
  | .fileNotFound path => "couldn't find the ".toList ++ path ++ " template file".toList
  | .pathEscapesRoot path => "template path escapes the template root: ".toList ++ path
  | .unreadable path cause => "failed to read ".toList ++ path ++ ": ".toList ++ cause.message
  | .includeCycle path => "template include cycle at ".toList ++ path
  | .includeDepth path limit =>
    "template includes nested deeper than ".toList ++ Text.ofNat limit ++ " at ".toList ++ path
  | .substitutionLimit limit =>
    "substitution limit of ".toList ++ Text.ofNat limit ++
      " exceeded (self-referencing value?)".toList
  | .event cause => cause.message

end PageTemplates
