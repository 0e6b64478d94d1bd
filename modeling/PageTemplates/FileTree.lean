import PageTemplates.Path

/-!
# File trees

A file tree is a set of directories and files with a working directory.
Symbolic links are left out.  Looking up a path walks from the top or from the
working directory, one piece at a time, and every piece but the last has to be
a directory.

The failures are those of the operating system, with its wording and numbers.
-/

namespace PageTemplates

/-- Why a file could not be read or written. -/
inductive FileError where
  | notFound
  /-- A file stands where a directory is wanted. -/
  | notDirectory
  /-- A directory stands where a file is wanted. -/
  | isDirectory
  /-- A name has more than 255 bytes, or a path more than 4095. -/
  | nameTooLong
  /-- The path holds the null character. -/
  | nullInPath
  /-- The content is not a text. -/
  | notText
  deriving DecidableEq, Repr

/-- The wording of a failure. -/
def FileError.message : FileError → Text
  | .notFound => "No such file or directory (os error 2)".toList
  | .notDirectory => "Not a directory (os error 20)".toList
  | .isDirectory => "Is a directory (os error 21)".toList
  | .nameTooLong => "File name too long (os error 36)".toList
  | .nullInPath => "file name contained an unexpected NUL byte".toList
  | .notText => "stream did not contain valid UTF-8".toList

/-- What a file holds. -/
inductive Contents where
  | text (chars : Text)
  /-- Bytes that are no text in UTF-8. -/
  | binary
  deriving DecidableEq, Repr

/-- The contents that bytes stand for. -/
def Contents.ofBytes (bytes : List UInt8) : Contents :=
  match String.fromUTF8? ⟨bytes.toArray⟩ with
  | some string => .text string.toList
  | none => .binary

/-- What stands at a place of a file tree. -/
inductive FileNode where
  | directory
  | file (contents : Contents)
  deriving DecidableEq, Repr

/-- Directories and files by the names that lead to them from the top. -/
structure FileTree where
  working : List Text := []
  /-- All places but the top. -/
  nodes : List (List Text × FileNode) := []
  deriving Repr

namespace FileTree

/-- What stands at a place. -/
def node? (place : List Text) (tree : FileTree) : Option FileNode :=
  if place.isEmpty then some .directory
  else (tree.nodes.find? fun entry => entry.1 = place).map Prod.snd

/-- Whether a directory stands at a place. -/
def isDirectoryAt (place : List Text) (tree : FileTree) : Bool :=
  tree.node? place = some .directory

/-! ## Looking up paths -/

/-- Walks over pieces of a path that have to exist. -/
def walk (tree : FileTree) : (place : List Text) → (pieces : List Text) →
    Except FileError (List Text)
  | place, [] => .ok place
  | place, piece :: rest =>
    if !tree.isDirectoryAt place then .error .notDirectory
    else if Path.isIdle piece then walk tree place rest
    else if piece = ['.', '.'] then walk tree place.dropLast rest
    else if 255 < Text.utf8Length piece then .error .nameTooLong
    else if (tree.node? (place ++ [piece])).isNone then .error .notFound
    else walk tree (place ++ [piece]) rest

/-- Where a path starts. -/
def origin (tree : FileTree) (path : Text) : List Text :=
  if Path.isAbsolute path then [] else tree.working

/-- Whether a path holds the null character. -/
def hasNull (path : Text) : Bool := path.any fun c => c.toNat = 0

/-- The fault of a path that shows before anything is looked up. -/
def pathFault? (path : Text) : Option FileError :=
  if hasNull path then some .nullInPath
  else if path.isEmpty then some .notFound
  else if 4095 < Text.utf8Length path then some .nameTooLong
  else none

/-- The place that a path leads to. -/
def locate (tree : FileTree) (path : Text) : Except FileError (List Text) :=
  match pathFault? path with
  | some fault => .error fault
  | none => tree.walk (tree.origin path) (Text.pieces '/' path)

/-- What a path leads to. -/
def find (tree : FileTree) (path : Text) : Except FileError FileNode :=
  match tree.locate path with
  | .error error => .error error
  | .ok place =>
    match tree.node? place with
    | some node => .ok node
    | none => .error .notFound

/-- Whether a path leads to a directory. -/
def isDirectory (path : Text) (tree : FileTree) : Bool :=
  match tree.find path with
  | .ok .directory => true
  | _ => false

/-- Whether a path leads to a file. -/
def isFile (path : Text) (tree : FileTree) : Bool :=
  match tree.find path with
  | .ok (.file _) => true
  | _ => false

/-- The text of the file that a path leads to. -/
def read (path : Text) (tree : FileTree) : Except FileError Text :=
  match tree.find path with
  | .error error => .error error
  | .ok .directory => .error .isDirectory
  | .ok (.file .binary) => .error .notText
  | .ok (.file (.text chars)) => .ok chars

/-! ## Changing the tree -/

/-- Puts a node at a place, in place of an earlier one. -/
def put (place : List Text) (node : FileNode) (tree : FileTree) : FileTree :=
  { tree with nodes := (place, node) :: tree.nodes.filter fun entry => entry.1 ≠ place }

/-- Walks over pieces of a path and makes the directories that are missing.  The way ends at a
piece that cannot be a directory. -/
def makeWay : (place pieces : List Text) → FileTree → FileTree
  | _, [], tree => tree
  | place, piece :: rest, tree =>
    if Path.isIdle piece then makeWay place rest tree
    else if piece = ['.', '.'] then makeWay place.dropLast rest tree
    else if 255 < Text.utf8Length piece then tree
    else
      match tree.node? (place ++ [piece]) with
      | some .directory => makeWay (place ++ [piece]) rest tree
      | some (.file _) => tree
      | none => makeWay (place ++ [piece]) rest (tree.put (place ++ [piece]) .directory)

/-- Makes a directory and those on the way to it, also those that the path leaves again by two
dots. -/
def makeDirectories (path : Text) (tree : FileTree) : FileTree :=
  if (pathFault? path).isSome then tree
  else makeWay (tree.origin path) (Text.pieces '/' path) tree

/-- Writes a file.  The directory it stands in has to exist, and a slash at the
end of the path asks for a directory. -/
def write (path : Text) (contents : Contents) (tree : FileTree) : Except FileError FileTree :=
  match pathFault? path with
  | some fault => .error fault
  | none =>
    let pieces := Text.pieces '/' path
    let named := (pieces.reverse.dropWhile List.isEmpty).reverse
    let last := named.getLast?.getD []
    match tree.walk (tree.origin path) named.dropLast with
    | .error error => .error error
    | .ok directory =>
      if !tree.isDirectoryAt directory then .error .notDirectory
      else if named.length < pieces.length ∨ Path.isIdle last ∨ last = ['.', '.'] then
        .error .isDirectory
      else if 255 < Text.utf8Length last then .error .nameTooLong
      else if tree.isDirectoryAt (directory ++ [last]) then .error .isDirectory
      else .ok (tree.put (directory ++ [last]) (.file contents))

/-- Puts a node where a path leads and makes the directories on the way.  A file is left out where
it cannot stand. -/
def place (path : Text) (node : FileNode) (tree : FileTree) : FileTree :=
  match node with
  | .directory => tree.makeDirectories path
  | .file contents =>
    let readied := tree.makeDirectories ((Path.parent? path).getD [])
    (readied.write path contents).toOption.getD readied

/-- Deletes the file that a path leads to, if it leads to one. -/
def delete (path : Text) (tree : FileTree) : FileTree :=
  match tree.locate path with
  | .error _ => tree
  | .ok place =>
    match tree.node? place with
    | some (.file _) => { tree with nodes := tree.nodes.filter fun entry => entry.1 ≠ place }
    | _ => tree

/-- The tree that holds no more than a working directory. -/
def workingIn (path : Text) : FileTree :=
  let empty : FileTree := {}
  { empty.makeDirectories path with
    working := (Text.pieces '/' path).filter fun piece => !Path.isIdle piece }

end FileTree

end PageTemplates
