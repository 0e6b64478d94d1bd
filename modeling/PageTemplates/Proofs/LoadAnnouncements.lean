import PageTemplates.Proofs.Expansion

/-!
# What an expansion announces

Loading announces a file before it reads it, behind that what it has read, and in
the end what it has put together.  `Loader.Tells` says what is announced of a file
that is expanded to its end: the files that it includes are announced in between,
in the order of their directives.  How deep files may be included has no part in
this, and of a file that includes itself nothing is told to the end
(`Loader.untold_of_includes_self`).

`Loader.BreaksOff` follows an expansion that fails to the point where it fails, and
gathers the files that are open there.  What is announced up to this point is a
beginning of what the files tell (`Loader.BreaksOff.begins`), where there is only
one way to go on (`Loader.Begins.comparable`).

A file that is left open is not put together after it is opened for the last time
(`Loader.BreaksOff.leftOpen`).  It may have been put together before, under fewer
files, but only if the failure is that of the depth (`Loader.BreaksOff.untold`).
-/

namespace PageTemplates

theorem FoundInclude.Leftmost.unique {text : Text} {found other : FoundInclude}
    (leftmost : found.Leftmost text) (leftmostOther : other.Leftmost text) : found = other :=
  Option.some.inj ((find?_eq_some_iff.2 leftmost).symm.trans (find?_eq_some_iff.2 leftmostOther))

theorem FileTree.isFile_of_read {files : FileTree} {path text : Text}
    (read : files.read path = .ok text) : files.isFile path = true := by
  rw [FileTree.read] at read
  rw [isFile]
  cases found : files.find path with
  | error error =>
    rw [found] at read
    cases read
  | ok node =>
    rw [found] at read
    cases node with
    | directory => cases read
    | file contents => rfl

/-- What loading announces. -/
inductive Announcement where
  /-- A file and its includes are about to be put together. -/
  | beforeAssemble (path : TemplatePath)
  /-- A file is about to be read. -/
  | beforeLoad (path : TemplatePath)
  /-- A file was read. -/
  | afterLoad (path : TemplatePath) (content : Text)
  /-- A file and its includes were put together. -/
  | afterAssemble (path : TemplatePath) (text : Text)
  deriving DecidableEq

namespace Loader

variable (loader : Loader)

/-! ## Files that are expanded to their end -/

/-- What is announced while a file or a text is expanded to its end. -/
inductive Tells : Expandable → (expanded : Text) → List Announcement → Prop where
  | file {path content text told} (read : loader.files.read (loader.fullPath path) = .ok content)
      (inside : Tells (.text path.directory content) text told) :
      Tells (.file path) text
        (.beforeLoad path :: .afterLoad path content :: (told ++ [.afterAssemble path text]))
  /-- A text without directives stays as it is. -/
  | plain {directory chars} (none : ∀ found : FoundInclude, ¬ found.StandsIn chars) :
      Tells (.text directory chars) chars []
  /-- The file that the leftmost directive names comes before what stands behind it. -/
  | replaced {directory path chars included more front back} {found : FoundInclude}
      (leftmost : found.Leftmost chars)
      (leads : TemplatePath.resolve directory found.target = some path)
      (file : Tells (.file path) included front)
      (behind : Tells (.text directory found.rest) more back) :
      Tells (.text directory chars) (found.before ++ (included ++ more)) (front ++ back)

variable {loader} {chain opened : List TemplatePath} {expandable : Expandable}
  {error : TemplateError} {path : TemplatePath} {text other : Text} {told told' : List Announcement}

theorem Tells.of_read {content : Text} (tells : loader.Tells (.file path) text told)
    (read : loader.files.read (loader.fullPath path) = .ok content) :
    ∃ inner, loader.Tells (.text path.directory content) text inner ∧
      told = .beforeLoad path :: .afterLoad path content ::
        (inner ++ [.afterAssemble path text]) := by
  cases tells with
  | file read' inside =>
    obtain rfl := Except.ok.inj (read'.symm.trans read)
    exact ⟨_, inside, rfl⟩

/-- A directive in front is the only one, and it leads to one file. -/
theorem leads_unique {directory path' : TemplatePath} {chars : Text} {found found' : FoundInclude}
    (leftmost : found.Leftmost chars)
    (leads : TemplatePath.resolve directory found.target = some path)
    (leftmost' : found'.Leftmost chars)
    (leads' : TemplatePath.resolve directory found'.target = some path') :
    found' = found ∧ path' = path := by
  obtain rfl := leftmost'.unique leftmost
  exact ⟨rfl, Option.some.inj (leads'.symm.trans leads)⟩

theorem Tells.of_leftmost {directory : TemplatePath} {chars : Text} {found : FoundInclude}
    (tells : loader.Tells (.text directory chars) text told) (leftmost : found.Leftmost chars)
    (leads : TemplatePath.resolve directory found.target = some path) :
    ∃ included more front back, loader.Tells (.file path) included front ∧
      loader.Tells (.text directory found.rest) more back ∧
      text = found.before ++ (included ++ more) ∧ told = front ++ back := by
  cases tells with
  | plain none => exact absurd leftmost.stands (none _)
  | replaced leftmost' leads' file behind =>
    obtain ⟨rfl, rfl⟩ := leads_unique leftmost leads leftmost' leads'
    exact ⟨_, _, _, _, file, behind, rfl, rfl⟩

theorem Tells.unique (tells : loader.Tells expandable text told)
    (tells' : loader.Tells expandable other told') : text = other ∧ told = told' := by
  induction tells generalizing other told' with
  | file read _ ih =>
    obtain ⟨inner, inside, rfl⟩ := tells'.of_read read
    obtain ⟨rfl, rfl⟩ := ih inside
    exact ⟨rfl, rfl⟩
  | plain none =>
    cases tells' with
    | plain => exact ⟨rfl, rfl⟩
    | replaced leftmost => exact absurd leftmost.stands (none _)
  | replaced leftmost leads _ _ ihFile ihBehind =>
    obtain ⟨included, more, front, back, file, behind, rfl, rfl⟩ :=
      tells'.of_leftmost leftmost leads
    obtain ⟨rfl, rfl⟩ := ihFile file
    obtain ⟨rfl, rfl⟩ := ihBehind behind
    exact ⟨rfl, rfl⟩

/-! ## Files that are included -/

variable (loader) in
/-- A file or a text includes a file, at once or through others. -/
inductive Includes : Expandable → TemplatePath → Prop where
  | inside {path content other} (read : loader.files.read (loader.fullPath path) = .ok content)
      (inside : Includes (.text path.directory content) other) : Includes (.file path) other
  | here {directory path chars} {found : FoundInclude} (leftmost : found.Leftmost chars)
      (leads : TemplatePath.resolve directory found.target = some path) :
      Includes (.text directory chars) path
  | within {directory path other chars} {found : FoundInclude} (leftmost : found.Leftmost chars)
      (leads : TemplatePath.resolve directory found.target = some path)
      (within : Includes (.file path) other) : Includes (.text directory chars) other
  | behind {directory path other chars} {found : FoundInclude} (leftmost : found.Leftmost chars)
      (leads : TemplatePath.resolve directory found.target = some path)
      (behind : Includes (.text directory found.rest) other) :
      Includes (.text directory chars) other

variable (loader) in
/-- A file is what is expanded, or it is included there. -/
def Contains (expandable : Expandable) (path : TemplatePath) : Prop :=
  expandable = .file path ∨ loader.Includes expandable path

theorem Contains.of_text {directory : TemplatePath} {chars : Text}
    (contains : loader.Contains (.text directory chars) path) :
    loader.Includes (.text directory chars) path :=
  contains.resolve_left fun same => nomatch same

theorem Contains.within {directory path' : TemplatePath} {chars : Text} {found : FoundInclude}
    (contains : loader.Contains (.file path) path') (leftmost : found.Leftmost chars)
    (leads : TemplatePath.resolve directory found.target = some path) :
    loader.Includes (.text directory chars) path' := by
  obtain same | includes := contains
  · obtain rfl := Expandable.file.inj same
    exact .here leftmost leads
  · exact .within leftmost leads includes

/-- What is told of to the end includes only files that are told of in the course of it. -/
theorem Tells.of_includes (tells : loader.Tells expandable text told)
    (includes : loader.Includes expandable path) :
    ∃ included inner, loader.Tells (.file path) included inner ∧ inner.length ≤ told.length := by
  induction includes generalizing text told with
  | inside read _ ih =>
    obtain ⟨inner, inside, rfl⟩ := tells.of_read read
    obtain ⟨included, deeper, file, shorter⟩ := ih inside
    refine ⟨included, deeper, file, ?_⟩
    simp only [List.length_cons, List.length_append]
    omega
  | here leftmost leads =>
    obtain ⟨included, _, front, back, file, -, -, rfl⟩ := tells.of_leftmost leftmost leads
    exact ⟨included, front, file, (List.prefix_append front back).length_le⟩
  | within leftmost leads _ ih =>
    obtain ⟨_, _, front, back, file, -, -, rfl⟩ := tells.of_leftmost leftmost leads
    obtain ⟨included, inner, tells, shorter⟩ := ih file
    exact ⟨included, inner, tells, shorter.trans (List.prefix_append front back).length_le⟩
  | behind leftmost leads _ ih =>
    obtain ⟨_, _, front, back, -, behind, -, rfl⟩ := tells.of_leftmost leftmost leads
    obtain ⟨included, inner, tells, shorter⟩ := ih behind
    exact ⟨included, inner, tells, shorter.trans (List.suffix_append front back).length_le⟩

/-- A file or a text cannot be told of to its end. -/
def Untold (loader : Loader) (expandable : Expandable) : Prop :=
  ∀ text told, ¬ loader.Tells expandable text told

theorem Untold.inside {content : Text} (untold : loader.Untold (.text path.directory content))
    (read : loader.files.read (loader.fullPath path) = .ok content) :
    loader.Untold (.file path) := by
  intro text told tells
  obtain ⟨inner, inside, -⟩ := tells.of_read read
  exact untold text inner inside

theorem Untold.behind {directory : TemplatePath} {chars : Text} {found : FoundInclude}
    (untold : loader.Untold (.text directory found.rest)) (leftmost : found.Leftmost chars)
    (leads : TemplatePath.resolve directory found.target = some path) :
    loader.Untold (.text directory chars) := by
  intro text told tells
  obtain ⟨_, more, _, back, -, behind, -, -⟩ := tells.of_leftmost leftmost leads
  exact untold more back behind

theorem Untold.of_includes (untold : loader.Untold (.file path))
    (includes : loader.Includes expandable path) : loader.Untold expandable := by
  intro text told tells
  obtain ⟨included, inner, file, -⟩ := tells.of_includes includes
  exact untold included inner file

theorem untold_of_missing (missing : loader.files.isFile (loader.fullPath path) = false) :
    loader.Untold (.file path) := by
  intro text told tells
  cases tells with
  | file read =>
    rw [FileTree.isFile_of_read read] at missing
    cases missing

/-- A file that includes itself has no end. -/
theorem untold_of_includes_self (includes : loader.Includes (.file path) path) :
    loader.Untold (.file path) := by
  intro text told tells
  cases includes with
  | inside read includes =>
    obtain ⟨inner, inside, same⟩ := tells.of_read read
    obtain ⟨included, again, tells', shorter⟩ := inside.of_includes includes
    obtain ⟨-, rfl⟩ := tells.unique tells'
    rw [same] at shorter
    simp only [List.length_cons, List.length_append] at shorter
    omega

/-- What is put together on the way is the file itself or a file that it includes. -/
theorem Tells.of_mem (tells : loader.Tells expandable text told)
    (member : .afterAssemble path other ∈ told) :
    loader.Contains expandable path ∧
      ∃ included inner, loader.Tells (.file path) included inner := by
  induction tells with
  | @file here content text told read inside ih =>
    simp only [List.mem_cons, List.mem_append, reduceCtorEq, false_or, List.not_mem_nil,
      or_false] at member
    obtain within | same := member
    · obtain ⟨contains, tells⟩ := ih within
      exact ⟨.inr (.inside read contains.of_text), tells⟩
    · obtain ⟨rfl, rfl⟩ := Announcement.afterAssemble.inj same
      exact ⟨.inl rfl, _, _, .file read inside⟩
  | plain => cases member
  | replaced leftmost leads _ _ ihFile ihBehind =>
    obtain front | back := List.mem_append.1 member
    · obtain ⟨contains, tells⟩ := ihFile front
      exact ⟨.inr (contains.within leftmost leads), tells⟩
    · obtain ⟨contains, tells⟩ := ihBehind back
      exact ⟨.inr (.behind leftmost leads contains.of_text), tells⟩

/-! ## Beginnings -/

variable (loader) in
/-- The beginnings of what is announced, however far the files can be followed.  Files around a file
do not matter here. -/
inductive Begins : Expandable → List Announcement → Prop where
  | nothing {expandable : Expandable} : Begins expandable []
  | opened {path : TemplatePath} (there : loader.files.isFile (loader.fullPath path) = true) :
      Begins (.file path) [.beforeLoad path]
  | inside {path content told} (read : loader.files.read (loader.fullPath path) = .ok content)
      (inside : Begins (.text path.directory content) told) :
      Begins (.file path) (.beforeLoad path :: .afterLoad path content :: told)
  | closed {path : TemplatePath} {text : Text} {told : List Announcement}
      (tells : Tells loader (.file path) text told) : Begins (.file path) told
  | within {directory path chars told} {found : FoundInclude} (leftmost : found.Leftmost chars)
      (leads : TemplatePath.resolve directory found.target = some path)
      (within : Begins (.file path) told) : Begins (.text directory chars) told
  | behind {directory path chars included front back} {found : FoundInclude}
      (leftmost : found.Leftmost chars)
      (leads : TemplatePath.resolve directory found.target = some path)
      (tells : Tells loader (.file path) included front)
      (behind : Begins (.text directory found.rest) back) :
      Begins (.text directory chars) (front ++ back)

theorem Begins.prefix_of_tells (begins : loader.Begins expandable told')
    (tells : loader.Tells expandable text told) : told' <+: told := by
  induction begins generalizing text told with
  | nothing => exact List.nil_prefix
  | opened =>
    cases tells with
    | file => exact ⟨_, rfl⟩
  | inside read _ ih =>
    obtain ⟨inner, inside, rfl⟩ := tells.of_read read
    simp only [List.cons_prefix_cons, true_and]
    exact (ih inside).trans (List.prefix_append inner _)
  | closed tells' =>
    obtain ⟨-, rfl⟩ := tells'.unique tells
    exact List.prefix_refl _
  | within leftmost leads _ ih =>
    obtain ⟨_, _, front, back, file, -, -, rfl⟩ := tells.of_leftmost leftmost leads
    exact (ih file).trans (List.prefix_append front back)
  | behind leftmost leads tells' _ ih =>
    obtain ⟨_, _, front, back, file, behind, -, rfl⟩ := tells.of_leftmost leftmost leads
    obtain ⟨-, rfl⟩ := tells'.unique file
    exact (List.prefix_append_right_inj _).2 (ih behind)

/-- There is one way to go on: of two beginnings, one is a beginning of the other. -/
theorem Begins.comparable (begins : loader.Begins expandable told)
    (begins' : loader.Begins expandable told') : told <+: told' ∨ told' <+: told := by
  induction begins generalizing told' with
  | nothing => exact .inl List.nil_prefix
  | opened there =>
    cases begins' with
    | nothing => exact .inr List.nil_prefix
    | opened => exact .inl (List.prefix_refl _)
    | inside => exact .inl ⟨_, rfl⟩
    | closed tells => exact .inl ((Begins.opened there).prefix_of_tells tells)
  | inside read inside ih =>
    cases begins' with
    | nothing => exact .inr List.nil_prefix
    | opened => exact .inr ⟨_, rfl⟩
    | inside read' inside' =>
      obtain rfl := Except.ok.inj (read.symm.trans read')
      simp only [List.cons_prefix_cons, true_and]
      exact ih inside'
    | closed tells => exact .inl ((Begins.inside read inside).prefix_of_tells tells)
  | closed tells => exact .inr (begins'.prefix_of_tells tells)
  | within leftmost leads begins ih =>
    cases begins' with
    | nothing => exact .inr List.nil_prefix
    | within leftmost' leads' within' =>
      obtain ⟨rfl, rfl⟩ := leads_unique leftmost leads leftmost' leads'
      exact ih within'
    | behind leftmost' leads' tells' =>
      obtain ⟨rfl, rfl⟩ := leads_unique leftmost leads leftmost' leads'
      exact .inl ((begins.prefix_of_tells tells').trans (List.prefix_append _ _))
  | behind leftmost leads tells _ ih =>
    cases begins' with
    | nothing => exact .inr List.nil_prefix
    | within leftmost' leads' within' =>
      obtain ⟨rfl, rfl⟩ := leads_unique leftmost leads leftmost' leads'
      exact .inr ((within'.prefix_of_tells tells).trans (List.prefix_append _ _))
    | behind leftmost' leads' tells' behind' =>
      obtain ⟨rfl, rfl⟩ := leads_unique leftmost leads leftmost' leads'
      obtain ⟨-, rfl⟩ := tells.unique tells'
      simp only [List.prefix_append_right_inj]
      exact ih behind'

/-! ## Files that are left open -/

/-- No change of a text. -/
def unchanged (_path text : Text) : Text := text

variable (loader) in
/-- What is announced while a file or a text is expanded inside the files of a chain until that
fails, why it fails, and the files that are open then, outermost first. -/
inductive BreaksOff :
    (chain : List TemplatePath) → Expandable → TemplateError → (opened : List TemplatePath) →
      List Announcement → Prop where
  | cycle {chain : List TemplatePath} {path : TemplatePath} (around : path ∈ chain) :
      BreaksOff chain (.file path) (.includeCycle (loader.fullPath path)) chain []
  | deep {chain : List TemplatePath} {path : TemplatePath} (new : path ∉ chain)
      (deep : loader.maxIncludeDepth < chain.length) :
      BreaksOff chain (.file path)
        (.includeDepth (loader.fullPath path) loader.maxIncludeDepth) chain []
  | missing {chain : List TemplatePath} {path : TemplatePath} (new : path ∉ chain)
      (fits : chain.length ≤ loader.maxIncludeDepth)
      (missing : loader.files.isFile (loader.fullPath path) = false) :
      BreaksOff chain (.file path) (.fileNotFound (loader.fullPath path)) chain []
  | unreadable {chain path cause} (new : path ∉ chain)
      (fits : chain.length ≤ loader.maxIncludeDepth)
      (there : loader.files.isFile (loader.fullPath path) = true)
      (fault : loader.files.read (loader.fullPath path) = .error cause) :
      BreaksOff chain (.file path) (.unreadable (loader.fullPath path) cause) (chain ++ [path])
        [.beforeLoad path]
  | inside {chain path content error opened told} (new : path ∉ chain)
      (fits : chain.length ≤ loader.maxIncludeDepth)
      (read : loader.files.read (loader.fullPath path) = .ok content)
      (inside : BreaksOff (chain ++ [path]) (.text path.directory content) error opened told) :
      BreaksOff chain (.file path) error opened
        (.beforeLoad path :: .afterLoad path content :: told)
  | escapes {chain directory chars} {found : FoundInclude} (leftmost : found.Leftmost chars)
      (escapes : TemplatePath.resolve directory found.target = none) :
      BreaksOff chain (.text directory chars) (.pathEscapesRoot found.target) chain []
  | within {chain directory path chars error opened told} {found : FoundInclude}
      (leftmost : found.Leftmost chars)
      (leads : TemplatePath.resolve directory found.target = some path)
      (within : BreaksOff chain (.file path) error opened told) :
      BreaksOff chain (.text directory chars) error opened told
  /-- The first directive is replaced, and the failure comes behind it. -/
  | behind {chain directory path chars included error opened front back} {found : FoundInclude}
      (leftmost : found.Leftmost chars)
      (leads : TemplatePath.resolve directory found.target = some path)
      (expands : Expands loader unchanged unchanged chain (.file path) (.ok included))
      (tells : Tells loader (.file path) included front)
      (behind : BreaksOff chain (.text directory found.rest) error opened back) :
      BreaksOff chain (.text directory chars) error opened (front ++ back)

/-- A file is opened, and from then on it is not put together. -/
def LeftOpen (path : TemplatePath) (told : List Announcement) : Prop :=
  ∃ earlier later, told = earlier ++ .beforeLoad path :: later ∧
    ∀ text, .afterAssemble path text ∉ later

namespace BreaksOff

/-- What is announced before a failure is a beginning of what the files tell. -/
theorem begins (breaks : loader.BreaksOff chain expandable error opened told) :
    loader.Begins expandable told := by
  induction breaks with
  | cycle | deep | missing | escapes => exact .nothing
  | unreadable _ _ there => exact .opened there
  | inside _ _ read _ ih => exact .inside read ih
  | within leftmost leads _ ih => exact .within leftmost leads ih
  | behind leftmost leads _ tells _ ih => exact .behind leftmost leads tells ih

/-- What is put together before a failure is included, and it tells its story to the end. -/
theorem of_mem (breaks : loader.BreaksOff chain expandable error opened told)
    (member : .afterAssemble path other ∈ told) :
    loader.Includes expandable path ∧
      ∃ included inner, loader.Tells (.file path) included inner := by
  induction breaks with
  | cycle | deep | missing | escapes => cases member
  | unreadable => simp at member
  | inside _ _ read _ ih =>
    obtain ⟨includes, tells⟩ := ih (by simpa using member)
    exact ⟨.inside read includes, tells⟩
  | within leftmost leads _ ih =>
    obtain ⟨includes, tells⟩ := ih member
    exact ⟨.within leftmost leads includes, tells⟩
  | behind leftmost leads _ tells _ ih =>
    obtain front | back := List.mem_append.1 member
    · obtain ⟨contains, tells⟩ := tells.of_mem front
      exact ⟨contains.within leftmost leads, tells⟩
    · obtain ⟨includes, tells⟩ := ih back
      exact ⟨.behind leftmost leads includes, tells⟩

/-- A file that is opened on the way to a failure is not put together from then on. -/
theorem leftOpen (breaks : loader.BreaksOff chain expandable error opened told)
    (among : path ∈ opened) (new : path ∉ chain) : LeftOpen path told := by
  induction breaks with
  | cycle | deep | missing | escapes => exact absurd among new
  | @unreadable chain here =>
    obtain rfl : path = here := by simpa [new] using among
    exact ⟨[], [], rfl, fun _ => List.not_mem_nil⟩
  | @inside chain here content error opened told _ _ read inside ih =>
    by_cases same : path = here
    · subst same
      refine ⟨[], .afterLoad path content :: told, rfl, fun text member => ?_⟩
      obtain ⟨includes, _, _, tells⟩ := inside.of_mem (by simpa using member)
      exact untold_of_includes_self (.inside read includes) _ _ tells
    · obtain ⟨earlier, later, rfl, open'⟩ := ih among (by simp [new, same])
      exact ⟨.beforeLoad here :: .afterLoad here content :: earlier, later, rfl, open'⟩
  | within _ _ _ ih => exact ih among new
  | @behind _ _ _ _ _ _ _ front _ _ _ _ _ _ _ ih =>
    obtain ⟨earlier, later, rfl, open'⟩ := ih among new
    exact ⟨front ++ earlier, later, (List.append_assoc ..).symm, open'⟩

/-- If it is not the depth, a failure comes from a file that cannot be read or a directive that
leads nowhere, or else the files around are met again.  In the first case nothing that is open can
be told of to its end, and in the second all that is open includes a file that stands around it. -/
theorem untold_or_includes (breaks : loader.BreaksOff chain expandable error opened told) :
    (∃ path limit, error = .includeDepth path limit) ∨
      (loader.Untold expandable ∧ ∀ path ∈ opened, path ∉ chain → loader.Untold (.file path)) ∨
      ∃ around ∈ chain, loader.Contains expandable around ∧
        ∀ path ∈ opened, path ∉ chain → loader.Includes (.file path) around := by
  induction breaks with
  | cycle around => exact .inr (.inr ⟨_, around, .inl rfl, fun _ among new => absurd among new⟩)
  | deep => exact .inl ⟨_, _, rfl⟩
  | missing _ _ missing =>
    exact .inr (.inl ⟨untold_of_missing missing, fun _ among new => absurd among new⟩)
  | @unreadable chain here _ _ _ _ fault =>
    have untold : loader.Untold (.file here) := by
      intro text told tells
      cases tells with
      | file read =>
        rw [fault] at read
        cases read
    refine .inr (.inl ⟨untold, fun path among new => ?_⟩)
    obtain rfl : path = here := by simpa [new] using among
    exact untold
  | @inside chain here content error opened told _ _ read inside ih =>
    obtain depth | ⟨untold, others⟩ | ⟨around, among, contains, others⟩ := ih
    · exact .inl depth
    · have whole := untold.inside read
      refine .inr (.inl ⟨whole, fun path among new => ?_⟩)
      by_cases same : path = here
      · exact same ▸ whole
      · exact others path among (by simp [new, same])
    · have includes : loader.Includes (.file here) around := .inside read contains.of_text
      by_cases same : around = here
      · -- The file at hand is the one that is met again.
        subst same
        have untold := untold_of_includes_self includes
        refine .inr (.inl ⟨untold, fun path among new => ?_⟩)
        by_cases same : path = around
        · exact same ▸ untold
        · exact untold.of_includes (others path among (by simp [new, same]))
      · refine .inr (.inr ⟨around, by simpa [same] using among, .inr includes,
          fun path among new => ?_⟩)
        by_cases same : path = here
        · exact same ▸ includes
        · exact others path among (by simp [new, same])
  | @escapes chain _ _ _ leftmost escapes =>
    refine .inr (.inl ⟨fun text told tells => ?_, fun _ among new => absurd among new⟩)
    cases tells with
    | plain none => exact none _ leftmost.stands
    | replaced leftmost' leads =>
      obtain rfl := leftmost.unique leftmost'
      rw [escapes] at leads
      cases leads
  | within leftmost leads _ ih =>
    obtain depth | ⟨untold, others⟩ | ⟨around, among, contains, others⟩ := ih
    · exact .inl depth
    · exact .inr (.inl ⟨untold.of_includes (.here leftmost leads), others⟩)
    · exact .inr (.inr ⟨around, among, .inr (contains.within leftmost leads), others⟩)
  | behind leftmost leads _ _ _ ih =>
    obtain depth | ⟨untold, others⟩ | ⟨around, among, contains, others⟩ := ih
    · exact .inl depth
    · exact .inr (.inl ⟨untold.behind leftmost leads, others⟩)
    · exact .inr (.inr ⟨around, among, .inr (.behind leftmost leads contains.of_text), others⟩)

/-- What a failure leaves open cannot be told of to its end, unless the failure is that of the
depth. -/
theorem untold (breaks : loader.BreaksOff [] expandable error opened told)
    (shallow : ∀ path limit, error ≠ .includeDepth path limit) (among : path ∈ opened) :
    loader.Untold (.file path) := by
  obtain ⟨path, limit, depth⟩ | ⟨-, others⟩ | ⟨around, among, -⟩ := breaks.untold_or_includes
  · exact absurd depth (shallow path limit)
  · exact others path among List.not_mem_nil
  · cases among

/-- A file that was not found is not there. -/
theorem missing_of_fileNotFound {full : Text}
    (breaks : loader.BreaksOff chain expandable (.fileNotFound full) opened told) :
    loader.files.isFile full = false := by
  generalize same : TemplateError.fileNotFound full = error at breaks
  induction breaks with
  | missing _ _ missing =>
    obtain rfl := TemplateError.fileNotFound.inj same
    exact missing
  | cycle | deep | unreadable | escapes => cases same
  | inside _ _ _ _ ih | within _ _ _ ih | behind _ _ _ _ _ ih => exact ih same

end BreaksOff

/-! ## Every expansion is recounted -/

/-- What is announced on the way to a result. -/
def Recounts (loader : Loader) (chain : List TemplatePath) (expandable : Expandable)
    (told : List Announcement) : Except TemplateError Text → Prop
  | .ok text => loader.Tells expandable text told
  | .error error => ∃ opened, loader.BreaksOff chain expandable error opened told

theorem Expands.recounts {result : Except TemplateError Text}
    (expands : Expands loader unchanged unchanged chain expandable result) :
    ∃ told, loader.Recounts chain expandable told result := by
  induction expands with
  | cycle around => exact ⟨_, _, .cycle around⟩
  | deep new deep => exact ⟨_, _, .deep new deep⟩
  | missing new fits missing => exact ⟨_, _, .missing new fits missing⟩
  | unreadable new fits there fault => exact ⟨_, _, .unreadable new fits there fault⟩
  | @file _ _ _ result new fits _ read _ ih =>
    obtain ⟨told, recounts⟩ := ih
    cases result with
    | ok text => exact ⟨_, .file read recounts⟩
    | error error =>
      obtain ⟨opened, breaks⟩ := recounts
      exact ⟨_, opened, .inside new fits read breaks⟩
  | plain none => exact ⟨_, .plain none⟩
  | escapes leftmost escapes => exact ⟨_, _, .escapes leftmost escapes⟩
  | fails leftmost leads _ ih =>
    obtain ⟨told, opened, breaks⟩ := ih
    exact ⟨told, opened, .within leftmost leads breaks⟩
  | @replaced _ _ _ _ _ result _ leftmost leads expands _ ihFile ihBehind =>
    obtain ⟨front, tells⟩ := ihFile
    obtain ⟨back, recounts⟩ := ihBehind
    cases result with
    | ok more => exact ⟨front ++ back, .replaced leftmost leads tells recounts⟩
    | error error =>
      obtain ⟨opened, breaks⟩ := recounts
      exact ⟨front ++ back, opened, .behind leftmost leads expands tells breaks⟩

end Loader

end PageTemplates
