import PageTemplates.CommandError
import PageTemplates.Settings

/-!
# Finding the settings

The settings file is the one named on the command line, or else the one named
in the environment, or else the one in the user's configuration directory.  The
last one only counts if it is there.  Without a file the working directory is
the template root.  A root given on the command line replaces that of the file.
-/

namespace PageTemplates

/-- What a command takes from its environment. -/
structure Environment where
  settingsFile : Option Text := none
  /-- The directory of configurations, if one is named. -/
  configHome : Option Text := none
  home : Option Text := none

namespace Environment

/-- The directory of configurations.  A relative one is ignored. -/
def configDirectory (environment : Environment) : Option Text :=
  match environment.configHome with
  | some directory =>
    if Path.isAbsolute directory then some directory else inHome
  | none => inHome
where
  /-- The directory of configurations in the user's directory. -/
  inHome : Option Text := environment.home.map fun home => Path.join home ".config".toList

/-- The settings file in the directory of configurations. -/
def defaultFile (environment : Environment) : Option Text :=
  environment.configDirectory.map fun directory =>
    Path.join (Path.join directory "panel".toList) "panel.toml".toList

/-- The settings file to use.  An empty name in the environment counts as none. -/
def settingsPath (environment : Environment) (flag : Option Text) (files : FileTree) :
    Option Text :=
  (flag.or (environment.settingsFile.filter fun path => !path.isEmpty)).or
    (environment.defaultFile.filter fun path => files.isFile path)

end Environment

namespace Settings

/-- The settings of a file, or those that hold without one. -/
def ofSource (source : Option Text) (files : FileTree) : Except CommandError Settings :=
  match source with
  | none => .ok { root := ['.'] }
  | some path =>
    match Settings.load path files with
    | .ok settings => .ok settings
    | .error cause => .error (.settings path cause)

/-- Finds the settings and checks their root. -/
def resolve (environment : Environment) (flag root : Option Text) (files : FileTree) :
    Except CommandError Settings := do
  let found ← ofSource (environment.settingsPath flag files) files
  let settings := { found with root := root.getD found.root }
  match settings.validate files with
  | .ok _ => .ok settings
  | .error cause => .error (.template cause)

end Settings

end PageTemplates
