import PageTemplates.Discovery
import PageTemplates.Proofs.Actions

/-!
# Which settings a command uses

`Environment.Source` says where the settings come from: the file on the command
line, the file named in the environment, or the default file if it is there.
The program looks there and nowhere else (`settingsPath_eq_iff`).
`Settings.Says` says what is read there.

A root on the command line replaces the root of the source
(`Settings.rootInForce`), and what comes out differs from what the source says in
nothing but the root.  But the root that is replaced has to be a directory all
the same: a settings file is checked when it is read, before its root is
replaced (`resolve_eq_ok_iff`).
-/

namespace PageTemplates

/-! ## Where settings come from -/

namespace Environment

/-- Whether the environment names no settings file.  An empty name names none. -/
def Nameless (environment : Environment) : Prop :=
  ∀ path, environment.settingsFile = some path → path = []

/-- The file that settings come from, if there is one. -/
inductive Source (environment : Environment) (files : FileTree) :
    (flag source : Option Text) → Prop where
  | flagged (path : Text) : Source environment files (some path) (some path)
  | named {path : Text} (named : environment.settingsFile = some path) (filled : path ≠ []) :
      Source environment files none (some path)
  | found {path : Text} (nameless : environment.Nameless)
      (default : environment.defaultFile = some path)
      (there : files.isFile path = true) : Source environment files none (some path)
  | absent (nameless : environment.Nameless)
      (missing : ∀ path, environment.defaultFile = some path → files.isFile path = false) :
      Source environment files none none

variable {environment : Environment} {flag source : Option Text} {files : FileTree}

theorem Nameless.filter_eq (nameless : environment.Nameless) :
    (environment.settingsFile.filter fun path => !path.isEmpty) = none := by
  cases named : environment.settingsFile with
  | none => rfl
  | some path =>
    cases nameless path named
    rfl

theorem settingsPath_of_source (comes : environment.Source files flag source) :
    environment.settingsPath flag files = source := by
  cases comes with
  | flagged path => rfl
  | @named path named filled =>
    have kept : (!path.isEmpty) = true := by simpa using filled
    rw [settingsPath, named, Option.filter_some, if_pos kept]
    rfl
  | found nameless default there =>
    rw [settingsPath, nameless.filter_eq, default, Option.filter_some, if_pos there]
    rfl
  | absent nameless missing =>
    rw [settingsPath, nameless.filter_eq]
    cases default : environment.defaultFile with
    | none => rfl
    | some path =>
      rw [Option.filter_some, missing path default]
      rfl

/-- There is always exactly one answer to where settings come from. -/
theorem source_settingsPath (environment : Environment) (flag : Option Text) (files : FileTree) :
    environment.Source files flag (environment.settingsPath flag files) := by
  have determined {source} (is : environment.Source files flag source) :
      environment.Source files flag (environment.settingsPath flag files) :=
    (settingsPath_of_source is).symm ▸ is
  cases flag with
  | some path => exact determined (.flagged path)
  | none =>
    by_cases nameless : environment.Nameless
    · cases default : environment.defaultFile with
      | none =>
        exact determined (.absent nameless fun path other => by rw [default] at other; cases other)
      | some path =>
        cases there : files.isFile path with
        | true => exact determined (.found nameless default there)
        | false =>
          refine determined (.absent nameless fun path' other => ?_)
          rw [default] at other
          cases other
          exact there
    · obtain ⟨path, named⟩ := Classical.not_forall.mp nameless
      obtain ⟨named, filled⟩ := Classical.not_imp.mp named
      exact determined (.named named filled)

theorem settingsPath_eq_iff :
    environment.settingsPath flag files = source ↔ environment.Source files flag source :=
  ⟨fun same => same ▸ source_settingsPath environment flag files, settingsPath_of_source⟩

end Environment

/-! ## What a source says -/

namespace Settings

/-- The settings that a source has, as it has them. -/
inductive Says (files : FileTree) : (source : Option Text) → Settings → Prop where
  | nothing : Says files none { root := ['.'] }
  | written {path text : Text} {settings : Settings} (read : files.read path = .ok text)
      (reads : Settings.ofText text = .ok settings) : Says files (some path) settings

/-- The root that a source gives.  A relative one counts from the directory of the file. -/
def givenRoot (settings : Settings) : (source : Option Text) → Text
  | none => settings.root
  | some path => Path.join ((Path.parent? path).getD []) settings.root

/-- The root to use: that of the command line, or else that of the source. -/
def rootInForce (settings : Settings) (source root : Option Text) : Text :=
  root.getD (settings.givenRoot source)

variable {files : FileTree} {source : Option Text} {settings : Settings}

theorem relativeTo_eq (path : Text) (settings : Settings) :
    settings.relativeTo path = { settings with root := settings.givenRoot (some path) } := by
  by_cases absolute : Path.isAbsolute settings.root = true
  · rw [relativeTo, if_pos absolute, givenRoot, Path.join, if_pos absolute]
  · rw [relativeTo, if_neg absolute, givenRoot]
    cases Path.parent? path with
    | some directory => rfl
    | none => rw [Option.getD_none, Path.join, if_neg absolute]; rfl

/-- A settings file is refused if the root that it gives is no directory. -/
theorem load_eq {path text : Text} (read : files.read path = .ok text)
    (reads : Settings.ofText text = .ok settings) :
    Settings.load path files =
      if files.isDirectory (settings.givenRoot (some path)) then
        .ok { settings with root := settings.givenRoot (some path) }
      else .error (.invalidRoot (settings.givenRoot (some path))) := by
  unfold Settings.load
  rw [read]
  dsimp only [bind, Except.bind]
  rw [reads]
  dsimp only
  rw [relativeTo_eq, validate]
  dsimp only
  cases files.isDirectory (settings.givenRoot (some path)) <;> rfl

theorem ofSource_eq_ok_iff (tells : Says files source settings) (result : Settings) :
    ofSource source files = .ok result ↔
      (source.isSome → files.isDirectory (settings.givenRoot source) = true) ∧
        result = { settings with root := settings.givenRoot source } := by
  cases tells with
  | nothing =>
    rw [ofSource, Except.ok.injEq, eq_comm]
    exact (and_iff_right fun given => nomatch given).symm
  | @written path text settings read reads =>
    rw [ofSource, load_eq read reads]
    by_cases directory : files.isDirectory (settings.givenRoot (some path)) = true
    · rw [if_pos directory]
      dsimp only
      rw [Except.ok.injEq, eq_comm]
      exact (and_iff_right fun _ => directory).symm
    · rw [if_neg directory]
      exact iff_of_false (fun same => nomatch same) fun holds => directory (holds.1 rfl)

/-- Settings that are taken over get the root of the command line, and their root is checked
again. -/
theorem resolve_of_ofSource {environment : Environment} {flag root : Option Text} {given : Settings}
    (taken : ofSource (environment.settingsPath flag files) files = .ok given) :
    resolve environment flag root files =
      if files.isDirectory (root.getD given.root) then
        .ok { given with root := root.getD given.root }
      else .error (.template (.invalidRoot (root.getD given.root))) := by
  unfold resolve
  rw [taken]
  dsimp only [bind, Except.bind]
  rw [validate]
  dsimp only
  cases files.isDirectory (root.getD given.root) <;> rfl

/-- A settings file whose root is no directory is refused, whatever root the command line gives. -/
theorem resolve_of_missing {environment : Environment} {flag root : Option Text} {path text : Text}
    (comes : environment.Source files flag (some path)) (read : files.read path = .ok text)
    (reads : Settings.ofText text = .ok settings)
    (missing : files.isDirectory (settings.givenRoot (some path)) = false) :
    resolve environment flag root files =
      .error (.settings path (.invalidRoot (settings.givenRoot (some path)))) := by
  rw [resolve, Environment.settingsPath_of_source comes, ofSource, load_eq read reads, missing]
  rfl

end Settings

/-- Settings are found if and only if the root in force is a directory and the root of a settings
file, replaced or not, is one as well.  They are those of the source with the root in force. -/
theorem resolve_eq_ok_iff {environment : Environment} {flag source : Option Text} {files : FileTree}
    {settings : Settings} (comes : environment.Source files flag source)
    (tells : Settings.Says files source settings) (root : Option Text) (result : Settings) :
    Settings.resolve environment flag root files = .ok result ↔
      (source.isSome → files.isDirectory (settings.givenRoot source) = true) ∧
        files.isDirectory (settings.rootInForce source root) = true ∧
        result = { settings with root := settings.rootInForce source root } := by
  obtain rfl := Environment.settingsPath_of_source comes
  cases taken : Settings.ofSource (environment.settingsPath flag files) files with
  | error error =>
    refine iff_of_false (fun same => ?_) fun holds => ?_
    · rw [Settings.resolve, taken] at same
      cases same
    · rw [(Settings.ofSource_eq_ok_iff tells _).mpr ⟨holds.1, rfl⟩] at taken
      cases taken
  | ok given =>
    obtain ⟨directory, rfl⟩ := (Settings.ofSource_eq_ok_iff tells given).mp taken
    rw [Settings.resolve_of_ofSource taken, and_iff_right directory]
    generalize inForce : Settings.rootInForce settings _ root = used
    rw [Settings.rootInForce] at inForce
    dsimp only
    rw [inForce]
    by_cases directory : files.isDirectory used = true
    · rw [if_pos directory, and_iff_right directory, Except.ok.injEq, eq_comm]
    · rw [if_neg directory]
      exact iff_of_false (fun same => nomatch same) fun holds => directory holds.1

/-- A site with two directories and a settings file that gives a root. -/
def themedSite (root : Text) : FileTree where
  nodes :=
    [(["panel".toList], .file (.text ("root_dir = '".toList ++ root ++ ['\'']))),
      (["themes".toList], .directory), (["dark".toList], .directory)]

theorem resolve_eq_ok_iff_replaced :
    let files := themedSite "themes".toList
    let settings : Settings := { root := "themes".toList }
    Environment.Source {} files (some "panel".toList) (some "panel".toList) ∧
      Settings.Says files (some "panel".toList) settings ∧
      Settings.resolve {} (some "panel".toList) (some "dark".toList) files =
        .ok { root := "dark".toList } := by
  dsimp only
  have comes : Environment.Source {} (themedSite "themes".toList) (some "panel".toList)
      (some "panel".toList) := .flagged _
  have read : (themedSite "themes".toList).read "panel".toList = .ok "root_dir = 'themes'".toList :=
    eq_ok_of_toOption (by decide +kernel)
  have reads : Settings.ofText "root_dir = 'themes'".toList = .ok { root := "themes".toList } :=
    eq_ok_of_toOption (by decide +kernel)
  have tells := Settings.Says.written read reads
  refine ⟨comes, tells, (resolve_eq_ok_iff comes tells _ _).mpr ⟨fun _ => ?_, ?_, rfl⟩⟩
  · decide +kernel
  · decide +kernel

/-- The root of the file is no directory.  The root of the command line is one, and yet no settings
are found. -/
theorem resolve_missingRoot :
    let files := themedSite "gone".toList
    let settings : Settings := { root := "gone".toList }
    Environment.Source {} files (some "panel".toList) (some "panel".toList) ∧
      Settings.Says files (some "panel".toList) settings ∧
      files.isDirectory (settings.rootInForce (some "panel".toList) (some "themes".toList)) = true ∧
      Settings.resolve {} (some "panel".toList) (some "themes".toList) files =
        .error (.settings "panel".toList (.invalidRoot "gone".toList)) := by
  dsimp only
  have comes : Environment.Source {} (themedSite "gone".toList) (some "panel".toList)
      (some "panel".toList) := .flagged _
  have read : (themedSite "gone".toList).read "panel".toList = .ok "root_dir = 'gone'".toList :=
    eq_ok_of_toOption (by decide +kernel)
  have reads : Settings.ofText "root_dir = 'gone'".toList = .ok { root := "gone".toList } :=
    eq_ok_of_toOption (by decide +kernel)
  refine ⟨comes, .written read reads, ?_, Settings.resolve_of_missing comes read reads ?_⟩
  · decide +kernel
  · decide +kernel

end PageTemplates
