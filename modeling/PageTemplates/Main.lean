import PageTemplates.CommandLine

/-!
# The program

The program works on a file tree that starts empty.  When a command fails for
want of a file or directory, that path is looked up on disk, added to the tree
if something is there, and the command starts over.  So only what a command
asks for is read.  The page itself is written at the end.
-/

namespace PageTemplates

namespace CommandLine

/-- What is shown when the words of the command line cannot be understood. -/
def usage : String :=
  String.intercalate "\n"
    ["Usage: panel [--root <ROOT>] [--config <CONFIG>] <render|blocks> ...",
      "",
      "  render <MANIFEST> [-o, --output <OUTPUT>] [-n, --namespace <NAMESPACE>]",
      "  blocks <TEMPLATE> [--format <text|json>]"]

/-- The failures of the disk that file trees know too. -/
def fileError? : IO.Error → Option FileError
  | .noFileOrDirectory _ _ _ => some .notFound
  | .inappropriateType _ 20 _ => some .notDirectory
  | .inappropriateType _ 21 _ => some .isDirectory
  | _ => none

/-- What stands on disk at a path, if anything. -/
def probe (path : Text) : IO (Option FileNode) := do
  try
    let bytes ← IO.FS.readBinFile (String.ofList path)
    return some (.file (Contents.ofBytes bytes.toList))
  catch error =>
    return if fileError? error = some .isDirectory then some .directory else none

/-- Runs a command, adding the files it misses, up to a number of them. -/
def attempt (invocation : Invocation) (environment : Environment) :
    Nat → FileTree → IO ProgramResult
  | 0, files => return invocation.run environment files
  | tries + 1, files => do
    let result := invocation.run environment files
    match result.error.bind CommandError.absentPath? with
    | none => return result
    | some path =>
      match ← probe path with
      | none => return result
      | some node =>
        let grown := files.place path node
        if grown.nodes.length = files.nodes.length then return result
        else attempt invocation environment tries grown

/-- The environment of the program. -/
def environment : IO Environment := do
  let read (name : String) : IO (Option Text) := return (← IO.getEnv name).map String.toList
  return {
    settingsFile := ← read "PANEL_CONFIG"
    configHome := ← read "XDG_CONFIG_HOME"
    home := ← read "HOME" }

/-- The file tree to start from: the working directory and the default settings file. -/
def startFiles (environment : Environment) : IO FileTree := do
  let working := ((← IO.getEnv "PWD").getD "/").toList
  let files := FileTree.workingIn working
  match environment.defaultFile with
  | none => return files
  | some path =>
    match ← probe path with
    | some node => return files.place path node
    | none => return files

/-- The command without its output file, and that file. -/
def splitOutput (invocation : Invocation) : Invocation × Option Text :=
  match invocation.command with
  | .render request =>
    ({ invocation with command := .render { request with output := none } }, request.output)
  | .blocks _ _ => (invocation, none)

/-- Tells why a command failed. -/
def report (wording : Text) : IO UInt32 := do
  IO.eprintln s!"error: {String.ofList wording}"
  return 1

/-- Writes the page to standard output or to a file. -/
def putOut (page : Text) : Option Text → IO UInt32
  | none => do
    IO.print (String.ofList page)
    return 0
  | some path => do
    try
      IO.FS.writeFile (String.ofList path) (String.ofList page)
      return 0
    catch error =>
      match fileError? error with
      | some cause => report (CommandError.outputFailed path cause).message
      | none =>
        report ("failed to create ".toList ++ path ++ ": ".toList ++ (toString error).toList)

/-- Runs a command on the disk. -/
def runCommand (invocation : Invocation) : IO UInt32 := do
  let environment ← environment
  let (invocation, output) := splitOutput invocation
  let result ← attempt invocation environment 100000 (← startFiles environment)
  match result.error with
  | none => putOut result.printed output
  | some error => report error.message

end CommandLine

end PageTemplates

/-- The program. -/
def main (words : List String) : IO UInt32 := do
  match PageTemplates.Demand.ofArguments (words.map String.toList) with
  | .wrong =>
    IO.eprintln PageTemplates.CommandLine.usage
    return 2
  | .help =>
    IO.println PageTemplates.CommandLine.usage
    return 0
  | .version =>
    IO.print (String.ofList PageTemplates.versionText)
    return 0
  | .run invocation => PageTemplates.CommandLine.runCommand invocation
