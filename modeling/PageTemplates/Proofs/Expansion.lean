import Mathlib.Data.List.TakeWhile
import PageTemplates.Proofs.PureListeners

/-!
# Includes are expanded depth first

What loading a file comes to can be said without its events.  `Expands` is the
expansion of a file or a text inside the files that are being expanded around
it.  A file is read, rewritten, expanded as a text and rewritten again.  In a
text the leftmost directive is replaced by the expansion of the file it names,
and then the text behind it is expanded.  The first thing that goes wrong on
this way is what the whole expansion comes to.

A directive is leftmost if no other one begins in front of it
(`FoundInclude.Leftmost`).  The search for directives finds exactly these
(`FoundInclude.find?_eq_some_iff`).

Every expansion comes to an end (`Loader.exists_expands`), since the files
around a text are bounded in number, and loading comes to the same
(`Loader.Expands.yields`).
-/

namespace PageTemplates

/-! ## Directives in a text -/

namespace FoundInclude

/-- A directive with a path stands in a text, and this is what stands around it. -/
structure StandsIn (text : Text) (found : FoundInclude) : Prop where
  spelled : text = found.before ++ (opening ++ (found.target ++ (closing ++ found.rest)))
  named : found.target ≠ []
  unquoted : '"' ∉ found.target

/-- A directive stands in a text, and none begins in front of it. -/
structure Leftmost (text : Text) (found : FoundInclude) : Prop where
  stands : found.StandsIn text
  first : ∀ other : FoundInclude, other.StandsIn text → found.before.length ≤ other.before.length

/-- What is read at the head of a text is the directive that stands there. -/
theorem read?_eq_some_iff {text target rest : Text} :
    read? text = some (target, rest) ↔ (⟨[], target, rest⟩ : FoundInclude).StandsIn text := by
  constructor
  · intro read
    have spelled := read?_eq_some read
    obtain ⟨behind, -, read⟩ := Option.bind_eq_some_iff.1 read
    rw [readTarget?] at read
    split at read
    · cases read
    · next named =>
      obtain ⟨tail, -, same⟩ := Option.map_eq_some_iff.1 read
      obtain ⟨rfl, -⟩ := Prod.mk.inj same
      refine ⟨spelled, fun empty => named (List.isEmpty_iff.2 empty), fun quoted => ?_⟩
      simpa using List.mem_takeWhile_imp quoted
  · rintro ⟨rfl, named, unquoted⟩
    have plain : ∀ c ∈ target, decide (c ≠ '"') = true :=
      fun c member => decide_eq_true fun quote => unquoted (quote ▸ member)
    have ends : closing ++ rest = '"' :: (" -->".toList ++ rest) := rfl
    have taken : (target ++ (closing ++ rest)).takeWhile (fun c => c ≠ '"') = target := by
      rw [List.takeWhile_append_of_pos plain, ends]
      simp
    have left : (target ++ (closing ++ rest)).dropWhile (fun c => c ≠ '"') = closing ++ rest := by
      rw [List.dropWhile_append_of_pos plain, ends]
      simp
    rw [List.nil_append, read?, Text.after?_append, Option.bind_some, readTarget?, taken, left,
      Text.after?_append]
    simp [named]

/-- A directive stands at the head of a text or behind its first character. -/
theorem standsIn_cons {c : Char} {text : Text} {found : FoundInclude} :
    found.StandsIn (c :: text) ↔
      (found.before = [] ∧ read? (c :: text) = some (found.target, found.rest)) ∨
        ∃ before, found.before = c :: before ∧
          (⟨before, found.target, found.rest⟩ : FoundInclude).StandsIn text := by
  obtain ⟨before, target, rest⟩ := found
  rw [read?_eq_some_iff]
  constructor
  · rintro ⟨spelled, named, unquoted⟩
    cases before with
    | nil => exact .inl ⟨rfl, spelled, named, unquoted⟩
    | cons first before =>
      obtain ⟨rfl, spelled⟩ := List.cons.inj spelled
      exact .inr ⟨before, rfl, spelled, named, unquoted⟩
  · rintro (⟨same, stands⟩ | ⟨before, same, spelled, named, unquoted⟩)
    · dsimp only at same
      subst same
      exact stands
    · dsimp only at same
      subst same
      exact ⟨congrArg (c :: ·) spelled, named, unquoted⟩

theorem leftmost_of_find? {text : Text} {found : FoundInclude} (search : find? text = some found) :
    found.Leftmost text := by
  induction text generalizing found with
  | nil => cases search
  | cons c text ih =>
    rw [find?] at search
    split at search
    · next target rest read =>
      obtain rfl := Option.some.inj search
      exact ⟨read?_eq_some_iff.1 read, fun other _ => Nat.zero_le _⟩
    · next unread =>
      obtain ⟨deeper, further, rfl⟩ := Option.map_eq_some_iff.1 search
      obtain ⟨stands, first⟩ := ih further
      refine ⟨standsIn_cons.2 (.inr ⟨_, rfl, stands⟩), fun other standsOther => ?_⟩
      rcases standsIn_cons.1 standsOther with ⟨-, read⟩ | ⟨before, same, later⟩
      · rw [unread] at read
        cases read
      · rw [same]
        exact Nat.succ_le_succ (first _ later)

theorem find?_eq_none_iff {text : Text} :
    find? text = none ↔ ∀ found : FoundInclude, ¬ found.StandsIn text := by
  constructor
  · intro search found stands
    induction text generalizing found with
    | nil =>
      obtain ⟨spelled, -, -⟩ := stands
      exact absurd spelled.symm (List.append_ne_nil_of_right_ne_nil _ (List.cons_ne_nil _ _))
    | cons c text ih =>
      rw [find?] at search
      split at search
      · cases search
      · next unread =>
        rcases standsIn_cons.1 stands with ⟨-, read⟩ | ⟨before, -, later⟩
        · rw [unread] at read
          cases read
        · exact ih (Option.map_eq_none_iff.1 search) _ later
  · intro none
    cases search : find? text with
    | none => rfl
    | some found => exact absurd (leftmost_of_find? search).stands (none found)

/-- No two directives begin at the same place. -/
theorem StandsIn.eq_of_length {text : Text} {found other : FoundInclude}
    (stands : found.StandsIn text) (standsOther : other.StandsIn text)
    (same : found.before.length = other.before.length) :
    found = other := by
  have reads : ∀ {here : FoundInclude}, here.StandsIn text →
      text.take here.before.length = here.before ∧
        read? (text.drop here.before.length) = some (here.target, here.rest) := by
    rintro here ⟨spelled, named, unquoted⟩
    rw [spelled, List.take_left, List.drop_left, read?_eq_some_iff]
    exact ⟨rfl, rfl, named, unquoted⟩
  obtain ⟨front, read⟩ := reads stands
  obtain ⟨frontOther, readOther⟩ := reads standsOther
  rw [← same] at frontOther readOther
  obtain ⟨before, target, rest⟩ := found
  obtain ⟨rfl, rfl⟩ := Prod.mk.inj (Option.some.inj (read.symm.trans readOther))
  obtain rfl := front.symm.trans frontOther
  rfl

/-- The search finds the leftmost directive. -/
theorem find?_eq_some_iff {text : Text} {found : FoundInclude} :
    find? text = some found ↔ found.Leftmost text := by
  refine ⟨leftmost_of_find?, fun leftmost => ?_⟩
  cases search : find? text with
  | none => exact absurd leftmost.stands (find?_eq_none_iff.1 search found)
  | some other =>
    have same := leftmost_of_find? search
    rw [leftmost.stands.eq_of_length same.stands
      (Nat.le_antisymm (leftmost.first other same.stands) (same.first found leftmost.stands))]

end FoundInclude

namespace Segment

theorem ofText_of_none {text : Text} (none : ∀ found : FoundInclude, ¬ found.StandsIn text) :
    ofText text = [.plain text] := by
  rw [ofText]
  split
  · rfl
  · next found search => exact absurd (FoundInclude.leftmost_of_find? search).stands (none found)

theorem ofText_of_leftmost {text : Text} {found : FoundInclude} (leftmost : found.Leftmost text) :
    ofText text = .plain found.before :: .directive found.target :: ofText found.rest := by
  have search := FoundInclude.find?_eq_some_iff.2 leftmost
  rw [ofText]
  split
  · next none =>
    rw [search] at none
    cases none
  · next other found =>
    rw [search] at found
    cases found
    rfl

end Segment

/-! ## Expansions -/

/-- What is expanded: the file at a path, or a text in a directory. -/
inductive Expandable where
  | file (path : TemplatePath)
  | text (directory : TemplatePath) (chars : Text)

namespace Loader

variable (loader : Loader) (loaded assembled : Text → Text → Text)

/-- The expansion of a file or a text inside the files of a chain, outermost first.  A file is
rewritten by `loaded` when it is read and by `assembled` when its text is expanded.  Both are told
the path by which the file is opened. -/
inductive Expands :
    (chain : List TemplatePath) → Expandable → Except TemplateError Text → Prop where
  /-- A file is not expanded inside itself. -/
  | cycle {chain path} (around : path ∈ chain) :
      Expands chain (.file path) (.error (.includeCycle (loader.fullPath path)))
  /-- No more than `maxIncludeDepth` files stand around a file. -/
  | deep {chain path} (new : path ∉ chain) (deep : loader.maxIncludeDepth < chain.length) :
      Expands chain (.file path)
        (.error (.includeDepth (loader.fullPath path) loader.maxIncludeDepth))
  | missing {chain path} (new : path ∉ chain) (fits : chain.length ≤ loader.maxIncludeDepth)
      (missing : loader.files.isFile (loader.fullPath path) = false) :
      Expands chain (.file path) (.error (.fileNotFound (loader.fullPath path)))
  | unreadable {chain path cause} (new : path ∉ chain)
      (fits : chain.length ≤ loader.maxIncludeDepth)
      (there : loader.files.isFile (loader.fullPath path) = true)
      (fault : loader.files.read (loader.fullPath path) = .error cause) :
      Expands chain (.file path) (.error (.unreadable (loader.fullPath path) cause))
  | file {chain path content result} (new : path ∉ chain)
      (fits : chain.length ≤ loader.maxIncludeDepth)
      (there : loader.files.isFile (loader.fullPath path) = true)
      (read : loader.files.read (loader.fullPath path) = .ok content)
      (inside : Expands (chain ++ [path])
        (.text path.directory (loaded (loader.fullPath path) content)) result) :
      Expands chain (.file path) (result.map (assembled (loader.fullPath path)))
  /-- A text without directives stays as it is. -/
  | plain {chain directory chars} (none : ∀ found : FoundInclude, ¬ found.StandsIn chars) :
      Expands chain (.text directory chars) (.ok chars)
  /-- The path of the leftmost directive leads above the root. -/
  | escapes {chain directory chars} {found : FoundInclude} (leftmost : found.Leftmost chars)
      (escapes : TemplatePath.resolve directory found.target = none) :
      Expands chain (.text directory chars) (.error (.pathEscapesRoot found.target))
  /-- What is behind a directive that fails is not looked at. -/
  | fails {chain directory path chars error} {found : FoundInclude}
      (leftmost : found.Leftmost chars)
      (leads : TemplatePath.resolve directory found.target = some path)
      (fails : Expands chain (.file path) (.error error)) :
      Expands chain (.text directory chars) (.error error)
  /-- The text that replaces a directive is not searched. -/
  | replaced {chain directory path chars included result} {found : FoundInclude}
      (leftmost : found.Leftmost chars)
      (leads : TemplatePath.resolve directory found.target = some path)
      (expands : Expands chain (.file path) (.ok included))
      (behind : Expands chain (.text directory found.rest) result) :
      Expands chain (.text directory chars)
        (result.map fun more => found.before ++ (included ++ more))

/-- The expansion of the file at a path that counts from the template root. -/
inductive ExpandsRoot (path : Text) : Except TemplateError Text → Prop where
  | escapes (escapes : TemplatePath.resolve [] path = none) :
      ExpandsRoot path (.error (.pathEscapesRoot path))
  | file {relative : TemplatePath} {result : Except TemplateError Text}
      (leads : TemplatePath.resolve [] path = some relative)
      (expands : Expands loader loaded assembled [] (.file relative) result) :
      ExpandsRoot path result

/-! ### Every expansion comes to an end -/

variable {loader loaded assembled}

theorem exists_expands_text {chain : List TemplatePath}
    (files : ∀ path, ∃ result, Expands loader loaded assembled chain (.file path) result)
    (directory : TemplatePath) (chars : Text) :
    ∃ result, Expands loader loaded assembled chain (.text directory chars) result := by
  induction size : chars.length using Nat.strong_induction_on generalizing chars with
  | h size ih =>
    subst size
    cases search : FoundInclude.find? chars with
    | none => exact ⟨_, .plain (FoundInclude.find?_eq_none_iff.1 search)⟩
    | some found =>
      have leftmost := FoundInclude.leftmost_of_find? search
      cases leads : TemplatePath.resolve directory found.target with
      | none => exact ⟨_, .escapes leftmost leads⟩
      | some path =>
        obtain ⟨result, expands⟩ := files path
        cases result with
        | error error => exact ⟨_, .fails leftmost leads expands⟩
        | ok included =>
          obtain ⟨more, behind⟩ := ih _ (FoundInclude.rest_length_of_find? search) found.rest rfl
          exact ⟨_, .replaced leftmost leads expands behind⟩

/-- Whatever the files include, an expansion comes to a text or to a failure. -/
theorem exists_expands (chain : List TemplatePath) (path : TemplatePath) :
    ∃ result, Expands loader loaded assembled chain (.file path) result := by
  induction left : loader.maxIncludeDepth + 1 - chain.length generalizing chain path with
  | zero =>
    by_cases around : path ∈ chain
    · exact ⟨_, .cycle around⟩
    · exact ⟨_, .deep around (by omega)⟩
  | succ levels ih =>
    by_cases around : path ∈ chain
    · exact ⟨_, .cycle around⟩
    have fits : chain.length ≤ loader.maxIncludeDepth := by omega
    cases there : loader.files.isFile (loader.fullPath path) with
    | false => exact ⟨_, .missing around fits there⟩
    | true =>
      cases read : loader.files.read (loader.fullPath path) with
      | error cause => exact ⟨_, .unreadable around fits there read⟩
      | ok content =>
        have longer : loader.maxIncludeDepth + 1 - (chain ++ [path]).length = levels := by
          rw [List.length_append, List.length_singleton]
          omega
        obtain ⟨result, inside⟩ := exists_expands_text (fun _ => ih (chain ++ [path]) _ longer)
          path.directory (loaded (loader.fullPath path) content)
        exact ⟨_, .file around fits there read inside⟩

/-! ### Loading expands -/

theorem loadFile_of_mem {chain : List TemplatePath} {path : TemplatePath} (around : path ∈ chain)
    (levels : Nat) :
    loader.loadFile levels chain path = throw (.includeCycle (loader.fullPath path)) := by
  cases levels with
  | zero => rw [loadFile, if_pos around]
  | succ levels => rw [loadFile, if_pos around]

variable (loader) in
/-- The action that expands a file or a text inside the files of a chain. -/
def expansion (chain : List TemplatePath) : Expandable → Loading Text
  | .file path => loader.loadFile (loader.maxIncludeDepth + 1 - chain.length) chain path
  | .text directory chars =>
    expand (loader.loadFile (loader.maxIncludeDepth + 1 - chain.length) chain) directory
      (Segment.ofText chars)

section

variable {chain : List TemplatePath} {path directory : TemplatePath} {chars : Text}

theorem expansion_of_mem (around : path ∈ chain) :
    loader.expansion chain (.file path) = throw (.includeCycle (loader.fullPath path)) := by
  rw [expansion, loadFile_of_mem around]

theorem expansion_of_deep (new : path ∉ chain) (deep : loader.maxIncludeDepth < chain.length) :
    loader.expansion chain (.file path) =
      throw (.includeDepth (loader.fullPath path) loader.maxIncludeDepth) := by
  rw [expansion, Nat.sub_eq_zero_of_le deep, loadFile, if_neg new]

/-- One file more stands around what is inside a file. -/
theorem expansion_of_new (new : path ∉ chain) (fits : chain.length ≤ loader.maxIncludeDepth) :
    loader.expansion chain (.file path) =
      (loader.readTemplate path >>= fun content =>
        loader.expansion (chain ++ [path]) (.text path.directory content) >>=
          announce EventName.afterAssemble (loader.fullPath path)) := by
  have left : loader.maxIncludeDepth + 1 - (chain ++ [path]).length =
      loader.maxIncludeDepth - chain.length := by
    rw [List.length_append, List.length_singleton, Nat.add_sub_add_right]
  simp only [expansion, left]
  rw [Nat.succ_sub fits, loadFile, if_neg new]

/-- The file that the leftmost directive names comes before what stands behind it. -/
theorem expansion_of_leftmost {found : FoundInclude} (leftmost : found.Leftmost chars)
    (leads : TemplatePath.resolve directory found.target = some path) :
    loader.expansion chain (.text directory chars) =
      ((loader.expansion chain (.file path) >>= fun included =>
        loader.expansion chain (.text directory found.rest) >>= fun behind =>
          pure (included ++ behind)) >>= fun more => pure (found.before ++ more)) := by
  simp only [expansion]
  rw [Segment.ofText_of_leftmost leftmost, expand, expand, leads]

theorem expansion_of_none (none : ∀ found : FoundInclude, ¬ found.StandsIn chars) :
    loader.expansion chain (.text directory chars) = pure chars := by
  rw [expansion, Segment.ofText_of_none none]
  show (pure (chars ++ []) : Loading Text) = _
  rw [List.append_nil]

theorem expansion_of_escapes {found : FoundInclude} (leftmost : found.Leftmost chars)
    (escapes : TemplatePath.resolve directory found.target = none) :
    loader.expansion chain (.text directory chars) = throw (.pathEscapesRoot found.target) := by
  rw [expansion, Segment.ofText_of_leftmost leftmost, expand, expand, escapes]
  rfl

end

variable {registry : Registry Listener}

/-- A file is read and rewritten. -/
theorem yields_readTemplate (rewrites : registry.Rewrites loaded assembled) {path : TemplatePath}
    (there : loader.files.isFile (loader.fullPath path) = true) :
    Yields registry (loader.readTemplate path)
      (((loader.files.read (loader.fullPath path)).mapError
        (.unreadable (loader.fullPath path))).map (loaded (loader.fullPath path))) := by
  obtain ⟨changes, pure⟩ := rewrites.beforeLoad
  rw [readTemplate, if_pos there]
  refine (yields_dispatch pure).bind ?_
  cases loader.files.read (loader.fullPath path) with
  | ok content => exact yields_announce rewrites.afterLoad _ _
  | error cause => exact .throw _

/-- With listeners that rewrite, loading comes to what the expansion comes to. -/
theorem Expands.yields (rewrites : registry.Rewrites loaded assembled) {chain : List TemplatePath}
    {expandable : Expandable} {result : Except TemplateError Text}
    (expands : Expands loader loaded assembled chain expandable result) :
    Yields registry (loader.expansion chain expandable) result := by
  induction expands with
  | cycle around =>
    rw [expansion_of_mem around]
    exact .throw _
  | deep new deep =>
    rw [expansion_of_deep new deep]
    exact .throw _
  | missing new fits missing =>
    rw [expansion_of_new new fits, readTemplate, missing]
    exact (Yields.throw _).fail
  | unreadable new fits there fault =>
    have reads := yields_readTemplate rewrites there
    rw [fault] at reads
    rw [expansion_of_new new fits]
    exact reads.fail
  | file new fits there read _ ih =>
    have reads := yields_readTemplate rewrites there
    rw [read] at reads
    rw [expansion_of_new new fits]
    exact reads.bind (ih.map fun text => yields_announce rewrites.afterAssemble _ text)
  | plain none =>
    rw [expansion_of_none none]
    exact .pure _
  | escapes leftmost escapes =>
    rw [expansion_of_escapes leftmost escapes]
    exact .throw _
  | fails leftmost leads _ ih =>
    rw [expansion_of_leftmost leftmost leads]
    exact ih.fail.fail
  | @replaced chain directory path chars included result found leftmost leads _ _ ihFile ihRest =>
    have joined : (result.map fun more => found.before ++ (included ++ more)) =
        (result.map (included ++ ·)).map (found.before ++ ·) := by
      cases result <;> rfl
    rw [expansion_of_leftmost leftmost leads, joined]
    exact (ihFile.bind (ihRest.map fun _ => .pure _)).map fun _ => .pure _

theorem ExpandsRoot.yields (rewrites : registry.Rewrites loaded assembled) {path : Text}
    {result : Except TemplateError Text}
    (expands : loader.ExpandsRoot loaded assembled path result) :
    Yields registry (loader.load path) result := by
  cases expands with
  | escapes escapes =>
    rw [load, escapes]
    exact .throw _
  | file leads expands =>
    obtain ⟨changes, pure⟩ := rewrites.beforeAssemble
    rw [load, leads]
    exact (yields_dispatch pure).bind (expands.yields rewrites)

theorem exists_expandsRoot (path : Text) :
    ∃ result, loader.ExpandsRoot loaded assembled path result := by
  cases leads : TemplatePath.resolve [] path with
  | none => exact ⟨_, .escapes leads⟩
  | some relative =>
    obtain ⟨result, expands⟩ :
        ∃ result, Expands loader loaded assembled [] (.file relative) result :=
      exists_expands [] relative
    exact ⟨result, .file leads expands⟩

end Loader

/-- If the listeners that loading meets do no more than rewrite, loading a path comes to a result,
be it a text or a failure, exactly if the depth-first expansion comes to it. -/
theorem load_eq_iff_expandsRoot {loaded assembled : Text → Text → Text} {hub : Hub}
    (rewrites : hub.registry.Rewrites loaded assembled) (loader : Loader) (path : Text)
    (result : Except TemplateError Text) :
    (loader.load path hub).1 = result ↔ loader.ExpandsRoot loaded assembled path result := by
  constructor
  · rintro rfl
    obtain ⟨result, expands⟩ : ∃ result, loader.ExpandsRoot loaded assembled path result :=
      Loader.exists_expandsRoot path
    obtain ⟨loads, -⟩ := expands.yields rewrites hub rfl
    rwa [loads]
  · intro expands
    exact (expands.yields rewrites hub rfl).1

/-! ## A file that is included twice -/

/-- A file that includes two others, one of which includes the other. -/
def nestedFiles : FileTree where
  nodes :=
    [([['a']], .file (.text "1<!-- INCLUDE \"d/b\" --><!-- INCLUDE \"c\" -->".toList)),
      ([['d']], .directory),
      ([['d'], ['b']], .file (.text "2<!-- INCLUDE \"../c\" -->".toList)),
      ([['c']], .file (.text ['3']))]

/-- Listeners that put a dot behind what is read, and brackets around what is put together. -/
def bracketHub : Hub where
  registry := (({} : Registry Listener).register EventName.afterLoad
      (Listener.ofChange (Event.rewritten fun _ text => text ++ ['.'])) 1 false).register
    EventName.afterAssemble
      (Listener.ofChange (Event.rewritten fun _ text => '(' :: text ++ [')'])) 1 false

theorem rewrites_bracketHub : bracketHub.registry.Rewrites (fun _ text => text ++ ['.'])
    fun _ text => '(' :: text ++ [')'] where
  beforeAssemble := ⟨[], .nil⟩
  beforeLoad := ⟨[], .nil⟩
  afterLoad := ⟨[fun _ text => text ++ ['.']], .cons ⟨rfl, rfl⟩ .nil, fun _ _ => rfl⟩
  afterAssemble := ⟨[fun _ text => '(' :: text ++ [')']], .cons ⟨rfl, rfl⟩ .nil, fun _ _ => rfl⟩

/-- The file that is included twice is no cycle.  It stands two files deep, and so it is the failure
if files may be included one deep only. -/
theorem load_eq_iff_expandsRoot_nestedFiles :
    bracketHub.registry.Rewrites (fun _ text => text ++ ['.'])
        (fun _ text => '(' :: text ++ [')']) ∧
      Loader.ExpandsRoot ⟨['.'], 2, nestedFiles⟩ (fun _ text => text ++ ['.'])
        (fun _ text => '(' :: text ++ [')']) ['a'] (.ok "(1(2(3.).)(3.).)".toList) ∧
      ∃ error, Loader.ExpandsRoot ⟨['.'], 1, nestedFiles⟩ (fun _ text => text ++ ['.'])
          (fun _ text => '(' :: text ++ [')']) ['a'] (.error error) ∧
        error.message = "template includes nested deeper than 1 at ./c".toList := by
  refine ⟨rewrites_bracketHub, (load_eq_iff_expandsRoot rewrites_bracketHub _ _ _).1 ?_, ?_⟩
  · exact eq_ok_of_toOption (by decide +kernel)
  · have wording : (Loader.load ⟨['.'], 1, nestedFiles⟩ ['a'] bracketHub).1.mapError
        TemplateError.message = .error "template includes nested deeper than 1 at ./c".toList := by
      decide +kernel
    cases failed : (Loader.load ⟨['.'], 1, nestedFiles⟩ ['a'] bracketHub).1 with
    | ok text =>
      rw [failed] at wording
      cases wording
    | error error =>
      rw [failed] at wording
      exact ⟨error, (load_eq_iff_expandsRoot rewrites_bracketHub _ _ _).1 failed,
        Except.error.inj wording⟩

end PageTemplates
