import PageTemplates.Proofs.TracingListeners
import PageTemplates.Proofs.FileWrites

/-!
# What a rendering puts out

A manifest stands for a run of commands (`Manifest.commands`).  Applying it comes
to the page that the run leaves, or to the first failure of the run
(`Manifest.left_apply`).

`Render.wanted` says from that run what is to be put out: a namespace, or the
last parse, or the failure to report.  A rendering puts out this text or nothing
at all, and who traces it makes no difference (`render_all_or_nothing`).
-/

namespace PageTemplates

/-- The page that an action leaves, unless it fails. -/
def Page.left {α : Type} : Except TemplateError α × Page → Except TemplateError Page
  | (.ok _, page) => .ok page
  | (.error error, _) => .error error

/-! ## Runs up to the first failure -/

namespace Site

/-- The failure that an answer tells of. -/
def Answer.error? : Answer → Option TemplateError
  | .failed error => some error
  | _ => none

/-- The page that a run leaves, or the first failure. -/
def outcome (site : Site) (commands : List PageCommand) : Except TemplateError Page :=
  match (site.run commands).1.findSome? Answer.error? with
  | some error => .error error
  | none => .ok (site.run commands).2.page

variable {site : Site} {command : PageCommand} {rest : List PageCommand}

theorem outcome_of_done (done : (site.perform command).1 = .done) :
    site.outcome (command :: rest) = (site.perform command).2.outcome rest := by
  rw [outcome, run_cons, done]
  rfl

theorem outcome_of_failed {error : TemplateError}
    (failed : (site.perform command).1 = .failed error) :
    site.outcome (command :: rest) = .error error := by
  rw [outcome, run_cons, failed]
  rfl

/-- Commands that only change the page are done one after the other. -/
theorem outcome_map {command : Text × Text → PageCommand} (change : Page → Text × Text → Page)
    (changes : ∀ (site : Site) entry,
      site.perform (command entry) = site.onPage fun page => change page entry)
    (entries : Table Text) (site : Site) (rest : List PageCommand) :
    site.outcome (entries.map command ++ rest) =
      { site with page := entries.foldl change site.page }.outcome rest := by
  induction entries generalizing site with
  | nil => rfl
  | cons entry entries ih =>
    rw [List.map_cons, List.cons_append, outcome_of_done (by rw [changes]; rfl), changes, ih]
    rfl

theorem outcome_assignAll (entries : Table Text) (site : Site) (rest : List PageCommand) :
    site.outcome (entries.map (fun entry => .assign entry.1 entry.2) ++ rest) =
      { site with page := site.page.assignAll entries }.outcome rest :=
  outcome_map (fun page entry => page.assign entry.1 entry.2) (fun _ _ => rfl) entries site rest

theorem outcome_parse (site : Site) (target written : Text) (rest : List PageCommand) :
    site.outcome (.parse target written :: rest) =
      match Page.parse site.files target written site.page with
      | (.ok _, page) => { site with page := page }.outcome rest
      | (.error error, _) => .error error := by
  cases parsed : Page.parse site.files target written site.page with
  | mk result page =>
    cases result with
    | ok value =>
      have performed : site.perform (.parse target written) =
          (.done, { site with page := page }) := by
        simp only [perform, parsed]
      rw [outcome_of_done (congrArg Prod.fst performed), performed]
    | error error =>
      have performed : site.perform (.parse target written) =
          (.failed error, { site with page := page }) := by
        simp only [perform, parsed]
      exact outcome_of_failed (congrArg Prod.fst performed)

end Site

/-! ## Manifests as runs -/

/-- The assignments of a parse, and the parse. -/
def ParseStep.commands (step : ParseStep) : List PageCommand :=
  step.assign.map (fun entry => .assign entry.1 entry.2) ++ [.parse step.target step.template]

namespace Manifest

/-- The declarations, the assignments and the parses of a manifest, in order. -/
def commands (manifest : Manifest) : List PageCommand :=
  manifest.define.map (fun entry => .define entry.1 entry.2) ++
    (manifest.defineInline.map (fun entry => .defineInline entry.1 entry.2) ++
      (manifest.defineDynamic.map (fun entry => .defineDynamic entry.1 entry.2) ++
        (manifest.assign.map (fun entry => .assign entry.1 entry.2) ++
          manifest.steps.flatMap ParseStep.commands)))

theorem left_parseSteps (files : FileTree) (steps : List ParseStep) (page : Page) :
    Page.left (parseSteps files steps page) =
      Site.outcome ⟨files, page⟩ (steps.flatMap ParseStep.commands) := by
  induction steps generalizing page with
  | nil => rfl
  | cons step steps ih =>
    rw [List.flatMap_cons, ParseStep.commands, List.append_assoc, Site.outcome_assignAll,
      List.singleton_append, Site.outcome_parse]
    have first : parseSteps files (step :: steps) page =
        (Page.parse files step.target step.template >>= fun _ => parseSteps files steps)
          (page.assignAll step.assign) := rfl
    rw [first]
    cases parsed : Page.parse files step.target step.template (page.assignAll step.assign) with
    | mk result page' =>
      cases result with
      | error error =>
        rw [bind_of_error parsed]
        rfl
      | ok value => rw [bind_of_ok parsed, ih]

/-- Applying a manifest comes to what its run comes to. -/
theorem left_apply (manifest : Manifest) (files : FileTree) (page : Page) :
    Page.left (manifest.apply files page) = Site.outcome ⟨files, page⟩ manifest.commands := by
  have declares : manifest.apply files page =
      parseSteps files manifest.steps (manifest.declare page) := rfl
  rw [declares, left_parseSteps, commands,
    Site.outcome_map (fun page entry => page.define entry.1 entry.2) fun _ _ => rfl,
    Site.outcome_map (fun page entry => page.defineInline entry.1 entry.2) fun _ _ => rfl,
    Site.outcome_map (fun page entry => page.defineDynamic entry.1 entry.2) fun _ _ => rfl,
    Site.outcome_assignAll]
  rfl

end Manifest

/-! ## Pages that are traced -/

namespace Page.Overheard

variable {page other : Page} {files : FileTree}

theorem foldl (change : Page → Text × Text → Page)
    (each : ∀ (page : Page) (hub : Hub) entry, change { page with hub := hub } entry =
      { change page entry with hub := hub } ∧ (change page entry).hub = page.hub)
    (overheard : Overheard page other) (entries : Table Text) :
    Overheard (entries.foldl change page) (entries.foldl change other) := by
  induction entries generalizing page other with
  | nil => exact overheard
  | cons entry entries ih =>
    obtain ⟨hub, here, there⟩ := overheard
    obtain ⟨changed, kept⟩ := each page hub entry
    refine ih ?_
    rw [changed]
    exact .intro hub (kept ▸ here) there

theorem assignAll (overheard : Overheard page other) (entries : Table Text) :
    Overheard (page.assignAll entries) (other.assignAll entries) :=
  overheard.foldl (fun page entry => page.assign entry.1 entry.2) (fun _ _ _ => ⟨rfl, rfl⟩) entries

theorem declare (overheard : Overheard page other) (manifest : Manifest) :
    Overheard (manifest.declare page) (manifest.declare other) := by
  have defined := overheard.foldl (fun page entry => page.define entry.1 entry.2)
    (fun _ _ _ => ⟨rfl, rfl⟩) manifest.define
  have inline := defined.foldl (fun page entry => page.defineInline entry.1 entry.2)
    (fun _ _ _ => ⟨rfl, rfl⟩) manifest.defineInline
  have dynamic := inline.foldl (fun page entry => page.defineDynamic entry.1 entry.2)
    (fun _ _ _ => ⟨rfl, rfl⟩) manifest.defineDynamic
  exact dynamic.assignAll manifest.assign

theorem parseSteps (overheard : Overheard page other) (steps : List ParseStep) :
    Mirrors Overheard (Manifest.parseSteps files steps) page other := by
  induction steps generalizing page other with
  | nil => exact ⟨rfl, overheard⟩
  | cons step steps ih =>
    have assigned := overheard.assignAll step.assign
    exact (assigned.parse step.target step.template).bind fun _ _ _ _ parsed => ih parsed

/-- Applying a manifest comes to the same whoever traces it. -/
theorem apply (overheard : Overheard page other) (manifest : Manifest) :
    Mirrors Overheard (manifest.apply files) page other :=
  (overheard.declare manifest).parseSteps manifest.steps

/-- An event comes back to a page that is traced as it was sent. -/
theorem announced (overheard : Overheard page other) (event : Event)
    (goesOn : event.stopped = false) :
    ∃ told, Page.loading (Loader.dispatch event) other = (.ok event, told) ∧
      Overheard page told := by
  obtain ⟨hub, here, there⟩ := overheard
  obtain ⟨same, still⟩ := Loader.dispatch_of_traces there goesOn
  exact ⟨{ page with hub := (Loader.dispatch event hub).2 }, Prod.ext same rfl,
    .intro _ here still⟩

end Page.Overheard

/-! ## What is put out -/

namespace Render

/-- The text of a namespace, if it exists, or of the last parse. -/
def selected (name : Option Text) (page : Page) : Except CommandError Text :=
  match name with
  | none => .ok page.last
  | some name =>
    match page.namespace? name with
    | some text => .ok text
    | none => .error (.unassigned name)

/-- The text that a rendering is to put out, or why it is to fail: the manifest cannot be read, the
page cannot be created, a command of the manifest fails, or the namespace does not exist when all is
done.  The manifest runs on a page without listeners. -/
def wanted (settings : Settings) (request : RenderRequest) (files : FileTree) :
    Except CommandError Text :=
  match Manifest.load request.manifest files with
  | .error error => .error error
  | .ok manifest =>
    match Page.create settings {} files with
    | .error error => .error (.template error)
    | .ok page =>
      match Site.outcome ⟨files, page⟩ manifest.commands with
      | .error error => .error (.template error)
      | .ok page => selected (request.namespaceName.or manifest.output) page

theorem selected_eq (name : Option Text) (page : Page) :
    selected name page =
      match name.filter fun name => !page.namespaces.has name with
      | some missing => .error (.unassigned missing)
      | none => .ok (page.output name) := by
  cases name with
  | none => rfl
  | some name =>
    simp only [selected, Page.output, Option.filter_some, Table.has, Page.namespace?]
    cases page.namespaces.get? name <;> rfl

/-- The text to put out is announced as it is. -/
theorem param?_endEvent (manifest : Text) (name : Option Text) (text : Text) :
    (endEvent manifest name text).param? contentParam = some (.text text) := rfl

variable {page page' other : Page}

theorem rendering_of_ok {α : Type} {action : Rendering α} {result : α}
    (done : action page = (.ok result, page')) :
    content.rendering action page = (.ok result, page') := by
  rw [content.rendering, done]

theorem rendering_of_error {α : Type} {action : Rendering α} {error : TemplateError}
    (failed : action page = (.error error, page')) :
    content.rendering action page = (.error (.template error), page') := by
  rw [content.rendering, failed]

theorem content_of_overheard (request : RenderRequest) (manifest : Manifest) (files : FileTree)
    (overheard : Page.Overheard page other) :
    (content request manifest files other).1 =
      match Site.outcome ⟨files, page⟩ manifest.commands with
      | .error error => .error (.template error)
      | .ok page => selected (request.namespaceName.or manifest.output) page := by
  obtain ⟨told, announced, heard⟩ := overheard.announced (startEvent request.manifest) rfl
  rw [← Manifest.left_apply, content, bind_of_ok (rendering_of_ok announced)]
  cases applied : manifest.apply files page with
  | mk outcome page' =>
    obtain ⟨told', applied', still⟩ := (heard.apply manifest).result applied
    cases outcome with
    | error error =>
      rw [bind_of_error (rendering_of_error applied')]
      rfl
    | ok value =>
      rw [bind_of_ok (rendering_of_ok applied')]
      show _ = selected _ page'
      dsimp only
      rw [get_bind]
      generalize request.namespaceName.or manifest.output = name
      have same : selected name told' = selected name page' := by
        obtain ⟨hub, here, there⟩ := still
        rfl
      rw [← same, selected_eq]
      cases name.filter fun name => !told'.namespaces.has name with
      | some missing => rfl
      | none =>
        -- The last event comes back as it was sent, so the text is not replaced.
        obtain ⟨ended, announced', -⟩ :=
          still.announced (endEvent request.manifest name (told'.output name)) rfl
        dsimp only
        rw [bind_of_ok (rendering_of_ok announced'), param?_endEvent]
        dsimp only
        rw [if_pos rfl]
        rfl

/-- A page is created for listeners as it is without them. -/
theorem create_startHub (settings : Settings) (traced : Bool) (files : FileTree) :
    (∃ error, Page.create settings {} files = .error error ∧
        Page.create settings (startHub traced) files = .error error) ∨
      ∃ page other, Page.create settings {} files = .ok page ∧
        Page.create settings (startHub traced) files = .ok other ∧ Page.Overheard page other := by
  unfold Page.create
  cases settings.validate files with
  | error error => exact .inl ⟨error, rfl, rfl⟩
  | ok _ =>
    have silent : Hub.Silent {} := fun _ => rfl
    exact .inr ⟨_, _, rfl, rfl, .intro (startHub traced) silent.traces (traces_startHub traced)⟩

/-- A rendering puts out what is wanted, or fails as is wanted and puts out nothing. -/
theorem render_eq (settings : Settings) (request : RenderRequest) (traced : Bool)
    (files : FileTree) :
    (∃ error warnings notes, wanted settings request files = .error error ∧
        render settings request traced files = ⟨[], files, warnings, notes, .error error⟩) ∨
      ∃ text page, wanted settings request files = .ok text ∧
        render settings request traced files = putOut request.output text page files := by
  unfold wanted render
  cases Manifest.load request.manifest files with
  | error error => exact .inl ⟨error, [], [], rfl, rfl⟩
  | ok manifest =>
    dsimp only
    obtain ⟨error, here, there⟩ | ⟨page, other, here, there, overheard⟩ :=
      create_startHub settings traced files
    · rw [here, there]
      exact .inl ⟨.template error, [], [], rfl, rfl⟩
    · rw [here, there]
      dsimp only
      have same := content_of_overheard request manifest files overheard
      rw [← same]
      cases content request manifest files other with
      | mk outcome page' =>
        cases outcome with
        | error error => exact .inl ⟨error, _, _, rfl, rfl⟩
        | ok text => exact .inr ⟨text, page', rfl, rfl⟩

end Render

/-- A rendering is all or nothing.  Where no text is wanted, it fails for that reason, prints
nothing and leaves all files.  Otherwise it prints exactly the text, or writes it to the output
file and prints nothing.  If that file cannot be written, it says so, prints nothing and leaves
all files. -/
theorem render_all_or_nothing (settings : Settings) (request : RenderRequest) (traced : Bool)
    (files : FileTree) :
    let result := render settings request traced files
    match Render.wanted settings request files, request.output with
    | .error error, _ =>
      result.outcome = .error error ∧ result.printed = [] ∧ result.files = files
    | .ok text, none => result.outcome = .ok () ∧ result.printed = text ∧ result.files = files
    | .ok text, some path =>
      match files.write path (.text text) with
      | .error cause =>
        result.outcome = .error (.outputFailed path cause) ∧ result.printed = [] ∧
          result.files = files
      | .ok _ =>
        result.outcome = .ok () ∧ result.printed = [] ∧
          FileTree.Writes path text files result.files := by
  obtain ⟨error, warnings, notes, wanted, fails⟩ | ⟨text, page, wanted, puts⟩ :=
    Render.render_eq settings request traced files
  · rw [wanted, fails]
    exact ⟨rfl, rfl, rfl⟩
  · rw [wanted, puts]
    cases request.output with
    | none => exact ⟨rfl, rfl, rfl⟩
    | some path =>
      simp only [Render.putOut]
      cases written : files.write path (.text text) with
      | error cause => exact ⟨rfl, rfl, rfl⟩
      | ok files' => exact ⟨rfl, rfl, FileTree.writes_write written⟩

/-- A manifest that assigns and then copies, and a manifest that goes on to parse what does
not exist. -/
def copyingSite : FileTree where
  nodes :=
    [(["copy".toList], .file (.text
        "assign = \x7b A = 'a' \x7d\nparse = [\x7b target = 'B', template = 'A' \x7d]".toList)),
      (["fail".toList], .file (.text
        "parse = [[\x7b B = 'b' \x7d, 'C', 'B'], [\x7b\x7d, 'D', 'E']]".toList))]

example :
    let settings : Settings := { root := ['.'] }
    let result manifest := render settings ⟨manifest, some ['o'], some ['B']⟩ false copyingSite
    ((result "copy".toList).files.read ['o']).toOption = some ['a'] ∧
      ((result "fail".toList).files.read ['o']).toOption = none := by
  decide +kernel

end PageTemplates
