import PageTemplates.TemplateError

/-!
# Failures of commands

A command of the program fails when it cannot read its files or when a template
fails.  The wording goes from the outer cause to the inner one.  What is wrong
in a TOML file is left to the reader of the file to say.
-/

namespace PageTemplates

/-- Why a command failed. -/
inductive CommandError where
  | template (cause : TemplateError)
  /-- The settings in a file could not be used. -/
  | settings (path : Text) (cause : TemplateError)
  | manifestUnreadable (path : Text) (cause : FileError)
  | manifestInvalid (path : Text) (cause : TomlError)
  /-- The namespace to put out does not exist. -/
  | unassigned (name : Text)
  /-- The output file could not be created. -/
  | outputFailed (path : Text) (cause : FileError)

namespace TemplateError

/-- The causes of a failure from the outer to the inner one, each with its wording. -/
def causes : TemplateError → List Text
  | .settings _ => []
  | .unreadable path cause => [(TemplateError.unreadable path cause).message, cause.message]
  | error => [error.message]

/-- The path at which a failed template found nothing. -/
def absentPath? : TemplateError → Option Text
  | .invalidRoot path => some path
  | .fileNotFound path => some path
  | .unreadable path .notFound => some path
  | _ => none

end TemplateError

namespace CommandError

/-- The causes of a failure from the outer to the inner one, each with its wording. -/
def causes : CommandError → List Text
  | .template cause => cause.causes
  | .settings path cause => ("invalid configuration ".toList ++ path) :: cause.causes
  | .manifestUnreadable path cause =>
    ["failed to read manifest ".toList ++ path, cause.message]
  | .manifestInvalid path _ => ["invalid manifest ".toList ++ path]
  | .unassigned name =>
    ["namespace '".toList ++ name ++ "' was never assigned or parsed".toList]
  | .outputFailed path cause => ["failed to create ".toList ++ path, cause.message]

/-- The wording of a failure. -/
def message (error : CommandError) : Text := Text.join ": ".toList error.causes

/-- The path at which a failed command found nothing. -/
def absentPath? : CommandError → Option Text
  | .template cause => cause.absentPath?
  | .settings _ cause => cause.absentPath?
  | .manifestUnreadable path .notFound => some path
  | _ => none

end CommandError

end PageTemplates
