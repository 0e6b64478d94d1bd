import PageTemplates.Proofs.Expansion

/-!
# Loading stays below the root

The path of a file and the path of a directive are followed piece by piece from
a directory.  `TemplatePath.Leads` says where the steps of a path lead: down to
a name, or up from a name.  No step leads up from the root, so a path leads
nowhere exactly if one of its steps up meets the root
(`TemplatePath.resolve_eq_none_iff`).

`Loader.lookups` lists the files that a load looks at.  What they are does not
depend on the listeners alone but on everything that happened before, so the
list follows the load.  Two things are said of it.  All its files are ordinary
names below the root (`Loader.ordinary_of_mem_lookups`), since every one of them
is where a path leads from an ordinary directory.  And nothing else is looked
at: with any other tree that answers the same about these files the load is the
same (`Loader.load_congr`).

The names below the root tell files apart.  Two lists of ordinary names that
lead to one place are the same list (`Loader.eq_of_locate`), and lists are what
the check for cycles compares.
-/

namespace PageTemplates

/-! ## Where paths lead -/

/-- A piece of a path that says something. -/
inductive PathStep where
  | down (name : Text)
  | up
  deriving DecidableEq, Repr

namespace Path

/-- What may name a file or a directory. -/
def IsName (name : Text) : Prop :=
  name ≠ [] ∧ name ≠ ['.'] ∧ name ≠ ['.', '.'] ∧ '/' ∉ name

/-- The step that a piece says, if it says one. -/
def step? (piece : Text) : Option PathStep :=
  if piece = [] ∨ piece = ['.'] then none
  else if piece = ['.', '.'] then some .up
  else some (.down piece)

/-- The steps of a path. -/
def steps (path : Text) : List PathStep := (Text.pieces '/' path).filterMap step?

theorem step?_of_isIdle {piece : Text} (idle : isIdle piece = true) : step? piece = none := by
  rw [step?, if_pos]
  simpa [isIdle] using idle

theorem step?_of_not_isIdle {piece : Text} (telling : ¬ isIdle piece = true) :
    step? piece = if piece = ['.', '.'] then some .up else some (.down piece) := by
  rw [step?, if_neg]
  simpa [isIdle] using telling

end Path

namespace TemplatePath

/-- A path of ordinary names only. -/
def Ordinary (path : TemplatePath) : Prop := ∀ name ∈ path, Path.IsName name

/-- Steps lead from a directory to a path.  There is no step up from the root. -/
inductive Leads : (directory : TemplatePath) → List PathStep → (path : TemplatePath) → Prop where
  | here (path : TemplatePath) : Leads path [] path
  | down {directory path : TemplatePath} {name : Text} {way : List PathStep}
      (further : Leads (directory ++ [name]) way path) : Leads directory (.down name :: way) path
  | up {directory path : TemplatePath} {name : Text} {way : List PathStep}
      (further : Leads directory way path) : Leads (directory ++ [name]) (.up :: way) path

/-- One of the steps leads up when the root is reached. -/
def LeavesRoot (directory : TemplatePath) (way : List PathStep) : Prop :=
  ∃ front behind, way = front ++ .up :: behind ∧ Leads directory front []

variable {directory path : TemplatePath} {name : Text} {way : List PathStep}

theorem leads_nil : Leads directory [] path ↔ path = directory := by
  constructor
  · rintro ⟨⟩
    rfl
  · rintro rfl
    exact .here path

theorem leads_down :
    Leads directory (.down name :: way) path ↔ Leads (directory ++ [name]) way path := by
  constructor
  · rintro ⟨⟩
    assumption
  · exact .down

theorem leads_up : Leads (directory ++ [name]) (.up :: way) path ↔ Leads directory way path := by
  constructor
  · intro leads
    generalize shape : directory ++ [name] = longer at leads
    cases leads with
    | up further => exact (List.append_inj_left' shape rfl) ▸ further
  · exact .up

theorem not_leads_up_root : ¬ Leads [] (.up :: way) path := by
  intro leads
  generalize shape : ([] : TemplatePath) = longer at leads
  cases leads with
  | up => simp at shape

theorem not_leavesRoot_nil : ¬ LeavesRoot directory [] := by
  rintro ⟨front, behind, shape, -⟩
  simp at shape

theorem leavesRoot_down :
    LeavesRoot directory (.down name :: way) ↔ LeavesRoot (directory ++ [name]) way := by
  constructor
  · rintro ⟨front, behind, shape, leads⟩
    cases front with
    | nil => cases shape
    | cons step front =>
      obtain ⟨rfl, rfl⟩ := List.cons.inj shape
      exact ⟨front, behind, rfl, leads_down.1 leads⟩
  · rintro ⟨front, behind, rfl, leads⟩
    exact ⟨.down name :: front, behind, rfl, leads.down⟩

theorem leavesRoot_up :
    LeavesRoot (directory ++ [name]) (.up :: way) ↔ LeavesRoot directory way := by
  constructor
  · rintro ⟨front, behind, shape, leads⟩
    cases front with
    | nil => simpa using leads_nil.1 leads
    | cons step front =>
      obtain ⟨rfl, rfl⟩ := List.cons.inj shape
      exact ⟨front, behind, rfl, leads_up.1 leads⟩
  · rintro ⟨front, behind, rfl, leads⟩
    exact ⟨.up :: front, behind, rfl, leads.up⟩

theorem leavesRoot_up_root : LeavesRoot [] (.up :: way) := ⟨[], way, rfl, .here []⟩

/-- Names lead down. -/
theorem leads_names (directory names : TemplatePath) :
    Leads directory (names.map .down ++ way) path ↔ Leads (directory ++ names) way path := by
  induction names generalizing directory with
  | nil => simp
  | cons name names ih => simp [leads_down, ih]

theorem leavesRoot_names (directory names : TemplatePath) :
    LeavesRoot directory (names.map .down ++ way) ↔ LeavesRoot (directory ++ names) way := by
  induction names generalizing directory with
  | nil => simp
  | cons name names ih => simp [leavesRoot_down, ih]

/-- Pieces are followed as their steps lead. -/
theorem follow_eq_some_iff {pieces : List Text} :
    follow directory pieces = some path ↔ Leads directory (pieces.filterMap Path.step?) path := by
  induction pieces generalizing directory with
  | nil => simp [follow, leads_nil, eq_comm]
  | cons piece pieces ih =>
    rw [follow]
    split
    · next idle => rw [List.filterMap_cons_none (Path.step?_of_isIdle idle), ih]
    · next telling =>
      rw [List.filterMap_cons, Path.step?_of_not_isIdle telling]
      split
      · next up =>
        rcases List.eq_nil_or_concat directory with rfl | ⟨front, last, rfl⟩
        · simp [not_leads_up_root]
        · simp [leads_up, ih]
      · simp [leads_down, ih]

theorem follow_eq_none_iff {pieces : List Text} :
    follow directory pieces = none ↔ LeavesRoot directory (pieces.filterMap Path.step?) := by
  induction pieces generalizing directory with
  | nil => simp [follow, not_leavesRoot_nil]
  | cons piece pieces ih =>
    rw [follow]
    split
    · next idle => rw [List.filterMap_cons_none (Path.step?_of_isIdle idle), ih]
    · next telling =>
      rw [List.filterMap_cons, Path.step?_of_not_isIdle telling]
      split
      · next up =>
        rcases List.eq_nil_or_concat directory with rfl | ⟨front, last, rfl⟩
        · simp [leavesRoot_up_root]
        · simp [leavesRoot_up, ih]
      · simp [leavesRoot_down, ih]

/-- The steps from the root to where a path leads from a directory: those to the directory, unless
the path starts from the top, and then those of the path. -/
def wayTo (directory : TemplatePath) (target : Text) : List PathStep :=
  (if Path.isAbsolute target then [] else directory.map .down) ++ Path.steps target

theorem resolve_eq_some_iff {target : Text} :
    resolve directory target = some path ↔ Leads [] (wayTo directory target) path := by
  rw [resolve, follow_eq_some_iff, wayTo]
  split
  · rfl
  · exact (leads_names [] directory).symm

theorem resolve_eq_none_iff {target : Text} :
    resolve directory target = none ↔ LeavesRoot [] (wayTo directory target) := by
  rw [resolve, follow_eq_none_iff, wayTo]
  split
  · rfl
  · exact (leavesRoot_names [] directory).symm

end TemplatePath

/-! ## Ordinary names -/

/-- The pieces of a text hold no separator. -/
theorem Text.not_mem_of_mem_pieces {separator : Char} {text piece : Text}
    (member : piece ∈ pieces separator text) : separator ∉ piece := by
  induction text generalizing piece with
  | nil =>
    rw [pieces, List.mem_singleton] at member
    simp [member]
  | cons c text ih =>
    rw [pieces] at member
    split at member
    · rcases List.mem_cons.1 member with rfl | later
      · exact List.not_mem_nil
      · exact ih later
    · next other =>
      split at member
      · rw [List.mem_singleton] at member
        simp [member, Ne.symm other]
      · next first rest shape =>
        rcases List.mem_cons.1 member with rfl | later
        · simp [Ne.symm other, ih (shape ▸ List.mem_cons_self)]
        · exact ih (shape ▸ List.mem_cons_of_mem _ later)

namespace TemplatePath

variable {here path : TemplatePath}

theorem ordinary_nil : Ordinary [] := fun _ none => absurd none List.not_mem_nil

theorem Ordinary.directory (ordinary : path.Ordinary) : path.directory.Ordinary :=
  fun name member => ordinary name (List.dropLast_subset path member)

/-- From an ordinary directory pieces without slashes lead to ordinary names. -/
theorem Ordinary.follow {pieces : List Text} (ordinary : here.Ordinary)
    (flat : ∀ piece ∈ pieces, '/' ∉ piece) (leads : follow here pieces = some path) :
    path.Ordinary := by
  induction pieces generalizing here with
  | nil =>
    obtain rfl := Option.some.inj leads
    exact ordinary
  | cons piece pieces ih =>
    have later : ∀ other ∈ pieces, '/' ∉ other :=
      fun other member => flat other (List.mem_cons_of_mem _ member)
    rw [TemplatePath.follow] at leads
    split at leads
    · exact ih ordinary later leads
    · next telling =>
      split at leads
      · split at leads
        · cases leads
        · exact ih ordinary.directory later leads
      · next onward =>
        refine ih (fun name member => ?_) later leads
        rcases List.mem_append.1 member with before | last
        · exact ordinary name before
        · obtain rfl := List.mem_singleton.1 last
          simp only [Path.isIdle, Bool.or_eq_true, List.isEmpty_iff, beq_iff_eq, not_or] at telling
          exact ⟨telling.1, telling.2, onward, flat _ List.mem_cons_self⟩

theorem ordinary_of_resolve {target : Text} (ordinary : here.Ordinary)
    (leads : resolve here target = some path) : path.Ordinary := by
  have start : Ordinary (if Path.isAbsolute target then [] else here) := by
    split
    · exact ordinary_nil
    · exact ordinary
  exact start.follow (fun piece member => Text.not_mem_of_mem_pieces member) leads

end TemplatePath

/-! ## The files that a load looks at -/

/-- Two file trees answer the same about what stands at a path. -/
def FileTree.SameAt (path : Text) (files other : FileTree) : Prop :=
  files.isFile path = other.isFile path ∧ files.read path = other.read path

namespace Loader

/-- The files that are looked at when directives are replaced, if a file's load looks at `looks`. -/
def lookupsIn (load : TemplatePath → Loading Text)
    (looks : TemplatePath → Hub → List TemplatePath) (directory : TemplatePath) :
    List Segment → Hub → List TemplatePath
  | [], _ => []
  | .plain _ :: rest, hub => lookupsIn load looks directory rest hub
  | .directive target :: rest, hub =>
    match TemplatePath.resolve directory target with
    | none => []
    | some path =>
      looks path hub ++
        match load path hub with
        | (.ok _, hub) => lookupsIn load looks directory rest hub
        | (.error _, _) => []

/-- The files that loading a file behind a chain looks at. -/
def fileLookups (loader : Loader) : (levels : Nat) → (chain : List TemplatePath) → TemplatePath →
    Hub → List TemplatePath
  | 0, _, _, _ => []
  | levels + 1, chain, path, hub =>
    if chain.contains path then []
    else
      path ::
        match loader.readTemplate path hub with
        | (.ok content, hub) =>
          lookupsIn (loader.loadFile levels (chain ++ [path]))
            (loader.fileLookups levels (chain ++ [path])) path.directory (Segment.ofText content)
            hub
        | (.error _, _) => []

/-- The files that a load tests, and reads if they are there, in order. -/
def lookups (loader : Loader) (path : Text) (hub : Hub) : List TemplatePath :=
  match TemplatePath.resolve [] path with
  | none => []
  | some relative =>
    match dispatch (pathEvent EventName.beforeAssemble (loader.fullPath relative)) hub with
    | (.ok _, hub) => loader.fileLookups (loader.maxIncludeDepth + 1) [] relative hub
    | (.error _, _) => []

variable {loader : Loader}

theorem ordinary_of_mem_lookupsIn {load : TemplatePath → Loading Text}
    {looks : TemplatePath → Hub → List TemplatePath} {directory : TemplatePath}
    (ordinary : directory.Ordinary)
    (inside : ∀ path : TemplatePath, path.Ordinary → ∀ hub, ∀ file ∈ looks path hub, file.Ordinary)
    (segments : List Segment) (hub : Hub) :
    ∀ file ∈ lookupsIn load looks directory segments hub, file.Ordinary := by
  induction segments generalizing hub with
  | nil => exact fun file none => absurd none List.not_mem_nil
  | cons segment rest ih =>
    intro file member
    cases segment with
    | plain chars => exact ih hub file member
    | directive target =>
      rw [lookupsIn] at member
      split at member
      · exact absurd member List.not_mem_nil
      · next path leads =>
        rcases List.mem_append.1 member with here | later
        · exact inside path (TemplatePath.ordinary_of_resolve ordinary leads) hub file here
        · split at later
          · exact ih _ file later
          · exact absurd later List.not_mem_nil

theorem ordinary_of_mem_fileLookups {levels : Nat} {chain : List TemplatePath}
    {path : TemplatePath} (ordinary : path.Ordinary) (hub : Hub) :
    ∀ file ∈ loader.fileLookups levels chain path hub, file.Ordinary := by
  induction levels generalizing chain path hub with
  | zero => exact fun file none => absurd none List.not_mem_nil
  | succ levels ih =>
    intro file member
    rw [fileLookups] at member
    split at member
    · exact absurd member List.not_mem_nil
    · rcases List.mem_cons.1 member with rfl | later
      · exact ordinary
      · split at later
        · exact ordinary_of_mem_lookupsIn ordinary.directory
            (fun inner below state => ih below state) _ _ file later
        · exact absurd later List.not_mem_nil

/-- Every file that a load looks at has ordinary names from the root down. -/
theorem ordinary_of_mem_lookups {path : Text} {hub : Hub} :
    ∀ file ∈ loader.lookups path hub, file.Ordinary := by
  intro file member
  rw [lookups] at member
  split at member
  · exact absurd member List.not_mem_nil
  · next relative leads =>
    split at member
    · exact ordinary_of_mem_fileLookups
        (TemplatePath.ordinary_of_resolve TemplatePath.ordinary_nil leads) _ file member
    · exact absurd member List.not_mem_nil

/-! ### Nothing else is looked at -/

theorem expand_congr {load other : TemplatePath → Loading Text}
    {looks : TemplatePath → Hub → List TemplatePath} {known : TemplatePath → Prop}
    (same : ∀ path hub, (∀ file ∈ looks path hub, known file) → other path hub = load path hub)
    (directory : TemplatePath) (segments : List Segment) {hub : Hub}
    (all : ∀ file ∈ lookupsIn load looks directory segments hub, known file) :
    expand other directory segments hub = expand load directory segments hub := by
  induction segments generalizing hub with
  | nil => rfl
  | cons segment rest ih =>
    cases segment with
    | plain chars => exact bind_of_eq (ih all)
    | directive target =>
      rw [lookupsIn] at all
      rw [expand, expand]
      cases leads : TemplatePath.resolve directory target with
      | none => rfl
      | some path =>
        rw [leads] at all
        dsimp only at all ⊢
        have first := same path hub fun file member => all file (List.mem_append_left _ member)
        refine (bind_of_eq first).trans ?_
        cases done : load path hub with
        | mk outcome after =>
          cases outcome with
          | error error => rw [bind_of_error done, bind_of_error done]
          | ok chars =>
            rw [done] at all
            rw [bind_of_ok done, bind_of_ok done]
            exact bind_of_eq (ih fun file member => all file (List.mem_append_right _ member))

variable {files : FileTree}

theorem readTemplate_congr {path : TemplatePath}
    (same : files.SameAt (loader.fullPath path) loader.files) :
    ({ loader with files := files } : Loader).readTemplate path = loader.readTemplate path := by
  have full : ({ loader with files := files } : Loader).fullPath path = loader.fullPath path := rfl
  simp only [readTemplate, full, same.1, same.2]

theorem loadFile_congr {levels : Nat} {chain : List TemplatePath} {path : TemplatePath} {hub : Hub}
    (all : ∀ file ∈ loader.fileLookups levels chain path hub,
      files.SameAt (loader.fullPath file) loader.files) :
    ({ loader with files := files } : Loader).loadFile levels chain path hub =
      loader.loadFile levels chain path hub := by
  induction levels generalizing chain path hub with
  | zero => rfl
  | succ levels ih =>
    rw [loadFile, loadFile]
    by_cases around : path ∈ chain
    · rw [if_pos around, if_pos around]
      rfl
    rw [if_neg around, if_neg around]
    rw [fileLookups, if_neg (by simpa using around)] at all
    rw [readTemplate_congr (all path List.mem_cons_self)]
    cases done : loader.readTemplate path hub with
    | mk outcome after =>
      cases outcome with
      | error error => rw [bind_of_error done, bind_of_error done]
      | ok content =>
        rw [done] at all
        rw [bind_of_ok done, bind_of_ok done]
        refine bind_of_eq (expand_congr (fun _ _ known => ih known) _ _ fun file member => ?_)
        exact all file (List.mem_cons_of_mem _ member)

/-- With other files a load is the same if they are the same where it looks. -/
theorem load_congr {path : Text} {hub : Hub}
    (all : ∀ file ∈ loader.lookups path hub, files.SameAt (loader.fullPath file) loader.files) :
    ({ loader with files := files } : Loader).load path hub = loader.load path hub := by
  rw [load, load]
  rw [lookups] at all
  cases leads : TemplatePath.resolve [] path with
  | none => rfl
  | some relative =>
    rw [leads] at all
    dsimp only at all ⊢
    have full : ({ loader with files := files } : Loader).fullPath relative =
        loader.fullPath relative := rfl
    rw [full]
    cases done : dispatch (pathEvent EventName.beforeAssemble (loader.fullPath relative)) hub with
    | mk outcome after =>
      cases outcome with
      | error error => rw [bind_of_error done, bind_of_error done]
      | ok event =>
        rw [done] at all
        rw [bind_of_ok done, bind_of_ok done]
        exact loadFile_congr all

end Loader

/-! ## One place, one path -/

namespace FileTree

variable {files : FileTree} {start place : List Text}

theorem walk_append {first second : List Text} :
    files.walk start (first ++ second) = .ok place ↔
      ∃ middle, files.walk start first = .ok middle ∧ files.walk middle second = .ok place := by
  induction first generalizing start with
  | nil => simp [walk]
  | cons piece first ih =>
    simp only [List.cons_append, walk]
    split
    · simp
    split
    · exact ih
    split
    · exact ih
    split
    · simp
    split
    · simp
    · exact ih

/-- A walk over ordinary names goes down along them. -/
theorem walk_ordinary {path : TemplatePath} (ordinary : path.Ordinary)
    (walked : files.walk start path = .ok place) : place = start ++ path := by
  induction path generalizing start with
  | nil =>
    rw [walk] at walked
    cases walked
    simp
  | cons name path ih =>
    obtain ⟨some, noDot, noDots, -⟩ := ordinary name List.mem_cons_self
    have telling : ¬ Path.isIdle name = true := by simp [Path.isIdle, some, noDot]
    rw [walk, if_neg telling, if_neg noDots] at walked
    split at walked
    · cases walked
    split at walked
    · cases walked
    split at walked
    · cases walked
    · have inner := ih (fun other member => ordinary other (List.mem_cons_of_mem _ member)) walked
      simpa using inner

/-- So does a walk over the pieces of the path as it is written. -/
theorem walk_text {path : TemplatePath} (ordinary : path.Ordinary)
    (walked : files.walk start (Text.pieces '/' path.text) = .ok place) :
    place = start ++ path := by
  cases path with
  | nil =>
    have empty : Text.pieces '/' (TemplatePath.text []) = [[]] := rfl
    rw [empty, walk] at walked
    split at walked
    · cases walked
    · cases walked
      simp
  | cons name path =>
    have flat : ∀ piece ∈ name :: path, '/' ∉ piece :=
      fun piece member => (ordinary piece member).2.2.2
    rw [TemplatePath.text, Text.pieces_join (List.cons_ne_nil _ _) flat] at walked
    exact walk_ordinary ordinary walked

end FileTree

namespace TemplatePath

theorem Ordinary.not_isAbsolute {path : TemplatePath} (ordinary : path.Ordinary) :
    Path.isAbsolute path.text = false := by
  cases path with
  | nil => rfl
  | cons name path =>
    obtain ⟨some, -, -, flat⟩ := ordinary name List.mem_cons_self
    obtain ⟨c, name, rfl⟩ := List.exists_cons_of_ne_nil some
    have first : c ≠ '/' := fun same => flat (same ▸ List.mem_cons_self)
    cases path with
    | nil => simpa [Path.isAbsolute, text, Text.join] using first
    | cons next path => simpa [Path.isAbsolute, text, Text.join] using first

end TemplatePath

namespace Loader

variable {loader : Loader} {path other : TemplatePath}

/-- The pieces of the path by which a file is opened are those of the root and then those of its
own path. -/
theorem exists_pieces_fullPath (loader : Loader) :
    ∃ front, ∀ path : TemplatePath, path.Ordinary →
      Text.pieces '/' (loader.fullPath path) = front ++ Text.pieces '/' path.text ∧
        Path.isAbsolute (loader.fullPath path) = Path.isAbsolute loader.root := by
  have joins : ∀ path : TemplatePath, path.Ordinary → loader.fullPath path =
      if loader.root.isEmpty || loader.root.getLast? == some '/' then loader.root ++ path.text
      else loader.root ++ '/' :: path.text := by
    intro path ordinary
    rw [fullPath, Path.join, ordinary.not_isAbsolute]
    rfl
  rcases List.eq_nil_or_concat loader.root with empty | ⟨front, last, shape⟩
  · refine ⟨[], fun path ordinary => ?_⟩
    rw [joins path ordinary, empty]
    exact ⟨rfl, ordinary.not_isAbsolute⟩
  · have absolute : ∀ behind, Path.isAbsolute (loader.root ++ behind) =
        Path.isAbsolute loader.root := by
      intro behind
      rw [shape]
      cases front <;> rfl
    by_cases slash : last = '/'
    · refine ⟨Text.pieces '/' front, fun path ordinary => ?_⟩
      have joined : loader.fullPath path = loader.root ++ path.text := by
        simp [joins path ordinary, shape, slash]
      rw [joined]
      refine ⟨?_, absolute path.text⟩
      simpa [shape, slash] using Text.pieces_append front path.text
    · refine ⟨Text.pieces '/' loader.root, fun path ordinary => ?_⟩
      have joined : loader.fullPath path = loader.root ++ '/' :: path.text := by
        simp [joins path ordinary, shape, slash]
      rw [joined]
      exact ⟨Text.pieces_append _ _, absolute _⟩

/-- Ordinary paths that lead to the same place are the same. -/
theorem eq_of_locate {place : List Text} (ordinary : path.Ordinary)
    (ordinaryOther : other.Ordinary)
    (located : loader.files.locate (loader.fullPath path) = .ok place)
    (locatedOther : loader.files.locate (loader.fullPath other) = .ok place) : path = other := by
  obtain ⟨front, pieces⟩ := loader.exists_pieces_fullPath
  have walks : ∀ file : TemplatePath, file.Ordinary →
      loader.files.locate (loader.fullPath file) = .ok place →
      ∃ middle, loader.files.walk (loader.files.origin loader.root) front = .ok middle ∧
        place = middle ++ file := by
    intro file below found
    rw [FileTree.locate] at found
    split at found
    · cases found
    · rw [FileTree.origin, (pieces file below).1, (pieces file below).2] at found
      obtain ⟨middle, toRoot, onward⟩ := FileTree.walk_append.1 found
      exact ⟨middle, toRoot, FileTree.walk_text below onward⟩
  obtain ⟨middle, toRoot, rfl⟩ := walks path ordinary located
  obtain ⟨middle', toRoot', same⟩ := walks other ordinaryOther locatedOther
  obtain rfl := Except.ok.inj (toRoot.symm.trans toRoot')
  exact List.append_cancel_left same

end Loader

/-- A load stays below the root.  The files that it tests and reads have ordinary names from the
root down, and it depends on no others.  A path leads from a directory where its steps lead, and if
one of them leads up from the root the load fails.  Files below the root that lead to one place have
one path. -/
theorem load_confined (loader : Loader) (path : Text) (hub : Hub) :
    (∀ file ∈ loader.lookups path hub, file.Ordinary) ∧
      (∀ files : FileTree,
        (∀ file ∈ loader.lookups path hub, files.SameAt (loader.fullPath file) loader.files) →
          ({ loader with files := files } : Loader).load path hub = loader.load path hub) ∧
      (∀ directory target,
        (∀ file, TemplatePath.resolve directory target = some file ↔
          TemplatePath.Leads [] (TemplatePath.wayTo directory target) file) ∧
        (TemplatePath.resolve directory target = none ↔
          TemplatePath.LeavesRoot [] (TemplatePath.wayTo directory target))) ∧
      (TemplatePath.resolve [] path = none →
        loader.load path hub = (.error (.pathEscapesRoot path), hub)) ∧
      (∀ load directory target rest state, TemplatePath.resolve directory target = none →
        Loader.expand load directory (.directive target :: rest) state =
          (.error (.pathEscapesRoot target), state)) ∧
      ∀ (file other : TemplatePath) (place : List Text), file.Ordinary → other.Ordinary →
        loader.files.locate (loader.fullPath file) = .ok place →
        loader.files.locate (loader.fullPath other) = .ok place → file = other := by
  refine ⟨Loader.ordinary_of_mem_lookups, fun files => Loader.load_congr, fun directory target =>
    ⟨fun file => TemplatePath.resolve_eq_some_iff, TemplatePath.resolve_eq_none_iff⟩, ?_, ?_,
    fun file other place => Loader.eq_of_locate⟩
  · intro escapes
    rw [Loader.load, escapes]
    rfl
  · intro load directory target rest state escapes
    rw [Loader.expand, escapes]
    rfl

/-- A template in a directory of the root, and a file next to the root. -/
def climbingLoader : Loader where
  root := ['t']
  maxIncludeDepth := 2
  files :=
    { nodes :=
      [([['t']], .directory), ([['t'], ['d']], .directory),
        ([['t'], ['d'], ['b']], .file (.text ['1'])),
        ([['t'], ['c']], .file (.text "<!-- INCLUDE \"../e\" -->".toList)),
        ([['e']], .file (.text ['2']))] }

/-- A listener that adds a directive to the template. -/
def climbingHub : Hub where
  registry := ({} : Registry Listener).register EventName.afterLoad
    (Listener.ofChange (Event.rewritten fun path text =>
      if path = "t/d/b".toList then text ++ "<!-- INCLUDE \"./..//d/../c\" -->".toList else text))
    1 false

/-- A directive may lead up to the root.  The one that leads up from it is an error, and the file
next to the root is not looked at. -/
theorem load_confined_climbing :
    climbingLoader.lookups "d//b".toList climbingHub = [[['d'], ['b']], [['c']]] ∧
      (∀ file ∈ [[['d'], ['b']], [['c']]], TemplatePath.Ordinary file) ∧
      TemplatePath.LeavesRoot [] (TemplatePath.wayTo [] "../e".toList) ∧
      (climbingLoader.load "d//b".toList climbingHub).1.mapError TemplateError.message =
        .error "template path escapes the template root: ../e".toList := by
  have looks : climbingLoader.lookups "d//b".toList climbingHub = [[['d'], ['b']], [['c']]] := by
    decide +kernel
  obtain ⟨ordinary, -, resolves, -⟩ := load_confined climbingLoader "d//b".toList climbingHub
  rw [looks] at ordinary
  exact ⟨looks, ordinary, (resolves [] "../e".toList).2.1 rfl, by decide +kernel⟩

end PageTemplates
