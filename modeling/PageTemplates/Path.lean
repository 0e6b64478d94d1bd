import PageTemplates.Text

/-!
# Paths

A path is the text by which a file is named.  Its pieces are what stands between
the slashes.  Empty pieces and single dots say nothing, two dots lead up, and a
slash in front starts from the top.

A `TemplatePath` is a path below the template root in normal form: a list of
ordinary names.  `TemplatePath.resolve` follows a path from a directory and
refuses to climb above the root, so two spellings of one file get the same
normal form.
-/

namespace PageTemplates

namespace Path

/-- Whether a path starts from the top. -/
def isAbsolute (path : Text) : Bool := path.head? == some '/'

/-- The path of `path` as seen from a directory. -/
def join (directory path : Text) : Text :=
  if isAbsolute path then path
  else if directory.isEmpty || directory.getLast? == some '/' then directory ++ path
  else directory ++ '/' :: path

/-- Whether a piece says nothing. -/
def isIdle (piece : Text) : Bool := piece.isEmpty || piece == ['.']

/-- Drops idle pieces at the end. -/
def trimIdle (pieces : List Text) : List Text := (pieces.reverse.dropWhile isIdle).reverse

/-- The path without its last piece that says something.  A leading dot counts as such a piece. -/
def parent? (path : Text) : Option Text :=
  let pieces := Text.pieces '/' path
  let head := pieces.head?.getD []
  let rest := trimIdle pieces.tail
  let shorter := trimIdle rest.dropLast
  if isAbsolute path then
    if rest.isEmpty then none
    else if shorter.isEmpty then some ['/']
    else some (Text.join ['/'] (head :: shorter))
  else if rest.isEmpty then if head.isEmpty then none else some []
  else some (Text.join ['/'] (head :: shorter))

end Path

/-- A path below the template root: ordinary names from the root down. -/
abbrev TemplatePath := List Text

namespace TemplatePath

/-- The path as it is written. -/
def text (path : TemplatePath) : Text := Text.join ['/'] path

/-- The directory of a file. -/
def directory (path : TemplatePath) : TemplatePath := path.dropLast

/-- Follows pieces from a directory.  There is no way up from the root. -/
def follow : (directory : TemplatePath) → (pieces : List Text) → Option TemplatePath
  | here, [] => some here
  | here, piece :: rest =>
    if Path.isIdle piece then follow here rest
    else if piece = ['.', '.'] then
      if here.isEmpty then none else follow here.dropLast rest
    else follow (here ++ [piece]) rest

/-- Follows a path from a directory, or from the root if it starts from the top. -/
def resolve (directory : TemplatePath) (path : Text) : Option TemplatePath :=
  follow (if Path.isAbsolute path then [] else directory) (Text.pieces '/' path)

end TemplatePath

end PageTemplates
