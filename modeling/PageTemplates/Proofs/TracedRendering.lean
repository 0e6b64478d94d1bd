import PageTemplates.Proofs.RenderingOutput

/-!
# Renderings with and without tracing

A rendering that is traced and one that is not start from the same page, but for
the listeners.  `Render.Undisturbed` is a command that has the same outcome on two
such pages and leaves two such pages.  All commands of a rendering are of this
kind (`Render.undisturbed_content`), those that fail and those after the last
event as well.

So only the notes tell the two renderings apart (`render_traced`).
-/

namespace PageTemplates

/-- What follows the last event comes to the same whoever traces it. -/
theorem Page.Overheard.replaceLast {page other : Page} (overheard : Page.Overheard page other)
    (content : Text) (name : Option Text) :
    Page.Overheard (page.replaceLast content name) (other.replaceLast content name) := by
  obtain ⟨hub, here, there⟩ := overheard
  cases name with
  | none => exact .intro hub here there
  | some name =>
    simp only [Page.replaceLast]
    cases page.namespaces.has name <;> exact .intro hub here there

namespace Render

section

variable {α β : Type} {command : ExceptT CommandError (StateM Page) α}
  {next : α → ExceptT CommandError (StateM Page) β}

/-- A command does the same whoever traces it. -/
def Undisturbed (command : ExceptT CommandError (StateM Page) α) : Prop :=
  ∀ page other, Page.Overheard page other →
    (command other).1 = (command page).1 ∧ Page.Overheard (command page).2 (command other).2

theorem Undisturbed.pure (value : α) :
    Undisturbed (Pure.pure value : ExceptT CommandError (StateM Page) α) :=
  fun _ _ overheard => ⟨rfl, overheard⟩

theorem Undisturbed.throw (error : CommandError) :
    Undisturbed (throw error : ExceptT CommandError (StateM Page) α) :=
  fun _ _ overheard => ⟨rfl, overheard⟩

theorem Undisturbed.bind (first : Undisturbed command)
    (second : ∀ value, Undisturbed (next value)) :
    Undisturbed (command >>= next) := by
  intro page other overheard
  obtain ⟨same, still⟩ := first page other overheard
  cases done : command page with
  | mk outcome page' =>
    cases done' : command other with
    | mk outcome' other' =>
      rw [done, done'] at same still
      obtain rfl : outcome' = outcome := same
      cases outcome' with
      | ok value =>
        rw [bind_of_ok done, bind_of_ok done']
        exact second value page' other' still
      | error error =>
        rw [bind_of_error done, bind_of_error done']
        exact ⟨rfl, still⟩

/-- A command may look at the page as long as it does not look at the listeners. -/
theorem Undisturbed.get {next : Page → ExceptT CommandError (StateM Page) β}
    (blind : ∀ page hub, next { page with hub := hub } = next page)
    (each : ∀ page, Undisturbed (next page)) : Undisturbed (get >>= next) := by
  intro page other overheard
  have undisturbed := each page page other overheard
  rw [get_bind, get_bind]
  obtain ⟨hub, here, there⟩ := overheard
  rwa [blind]

theorem Undisturbed.rendering {action : Rendering α}
    (mirrors : ∀ page other, Page.Overheard page other →
      Page.Mirrors Page.Overheard action page other) :
    Undisturbed (content.rendering action) := by
  intro page other overheard
  cases done : action page with
  | mk outcome page' =>
    obtain ⟨other', done', still⟩ := (mirrors page other overheard).result done
    cases outcome with
    | ok value =>
      rw [rendering_of_ok done, rendering_of_ok done']
      exact ⟨rfl, still⟩
    | error error =>
      rw [rendering_of_error done, rendering_of_error done']
      exact ⟨rfl, still⟩

end

theorem undisturbed_dispatch (event : Event) (goesOn : event.stopped = false) :
    Undisturbed (content.rendering (Page.loading (Loader.dispatch event))) :=
  .rendering fun _ _ overheard => overheard.loading (Loader.unmoved_dispatch event goesOn)

/-- All that a rendering does before it puts out a text comes to the same whoever traces it. -/
theorem undisturbed_content (request : RenderRequest) (manifest : Manifest) (files : FileTree) :
    Undisturbed (content request manifest files) := by
  refine (undisturbed_dispatch (startEvent request.manifest) rfl).bind fun _ => ?_
  refine (Undisturbed.rendering fun _ _ overheard => overheard.apply manifest).bind fun _ => ?_
  refine Undisturbed.get (fun _ _ => rfl) fun page => ?_
  dsimp only
  split
  · exact .throw _
  · refine (undisturbed_dispatch _ rfl).bind fun event => ?_
    split
    · split
      · exact .pure _
      · refine Undisturbed.bind (fun _ _ overheard => ⟨rfl, overheard.replaceLast _ _⟩) fun _ => ?_
        exact Undisturbed.get (fun _ _ => rfl) fun page => .pure _
    · exact .pure _

/-- The listeners have no part in what is put out. -/
theorem putOut_hub (output : Option Text) (text : Text) (page : Page) (hub : Hub)
    (files : FileTree) :
    putOut output text { page with hub := hub } files =
      { putOut output text page files with notes := hub.notes } := by
  cases output with
  | none => rfl
  | some path =>
    simp only [putOut]
    cases files.write path (.text text) <;> rfl

/-- A rendering that is traced differs from one that is not in the notes at most. -/
theorem render_true_eq (settings : Settings) (request : RenderRequest) (files : FileTree) :
    ∃ notes, render settings request true files =
      { render settings request false files with notes := notes } := by
  unfold render
  cases Manifest.load request.manifest files with
  | error error => exact ⟨[], rfl⟩
  | ok manifest =>
    dsimp only
    obtain ⟨error, plain, traced⟩ | ⟨page, other, plain, traced, overheard⟩ :=
      create_startHub settings true files
    · rw [show startHub false = {} from rfl, plain, traced]
      exact ⟨[], rfl⟩
    · rw [show startHub false = {} from rfl, plain, traced]
      dsimp only
      obtain ⟨same, still⟩ := undisturbed_content request manifest files page other overheard
      cases done : content request manifest files page with
      | mk outcome page' =>
        cases done' : content request manifest files other with
        | mk outcome' other' =>
          rw [done, done'] at same still
          obtain rfl : outcome' = outcome := same
          obtain ⟨hub, -, -⟩ := still
          cases outcome' with
          | ok text => exact ⟨hub.notes, putOut_hub request.output text page' hub files⟩
          | error error => exact ⟨hub.notes, rfl⟩

end Render

/-- Tracing adds notes to a rendering and changes nothing else: what is printed, the files that
are left, the warnings and the outcome are the same, on success and on failure.  A text that is
announced comes back as it was, whether listeners trace it or nobody asks for it. -/
theorem render_traced (settings : Settings) (request : RenderRequest) (files : FileTree) :
    let traced := render settings request true files
    let plain := render settings request false files
    traced.printed = plain.printed ∧ traced.files = plain.files ∧
      traced.warnings = plain.warnings ∧ traced.outcome = plain.outcome ∧
      ∀ listened notes name path text,
        (Loader.announce name path text { Render.startHub listened with notes := notes }).1 =
          .ok text := by
  dsimp only
  obtain ⟨notes, differs⟩ := Render.render_true_eq settings request files
  rw [differs]
  refine ⟨rfl, rfl, rfl, rfl, fun listened notes name path text => ?_⟩
  have traces : Hub.Traces { Render.startHub listened with notes := notes } :=
    (Render.traces_startHub listened).of_registry rfl
  exact (Loader.announce_of_traces name path text traces).1

example :
    let result traced := render { root := ['.'] } ⟨"copy".toList, none, none⟩ traced copyingSite
    (result true).printed = (result false).printed ∧ (result true).notes.length = 3 ∧
      (result false).notes = [] := by
  decide +kernel

end PageTemplates
