import PageTemplates.PageCommand
import PageTemplates.Proofs.ParsedCuts

/-!
# What lasts through a run

A parse is made of a few changes of the page: an event is dispatched, a file is
loaded, a static template or a division is stored, and namespaces are written.  A
property that lasts through each of them lasts through every parse
(`Page.Lasts.parse`).

No parse changes the settings, so a run never changes which declarations name a
file (`Site.isTemplateFile_run`).  And where there are no listeners, nothing but a
request to the hub changes the hub (`Site.hub_run`).
-/

namespace PageTemplates

/-! ## Loading without listeners -/

/-- No event has listeners. -/
def Hub.Silent (hub : Hub) : Prop := ∀ event, hub.registry.queue event = []

namespace Loader

variable {hub : Hub} (silent : hub.Silent)

include silent

theorem preserves_dispatch (event : Event) : Preserves (· = hub) (dispatch event) := by
  rintro _ rfl
  rw [dispatch_of_silent (silent _)]

theorem preserves_announce (name path content : Text) :
    Preserves (· = hub) (announce name path content) := by
  refine Preserves.get.bind fun _ => ?_
  split
  · refine (preserves_dispatch silent _).bind fun event => ?_
    split
    · exact .pure _
    · exact .pure _
  · exact .pure _

theorem closed_preserves : Closed (Preserves (· = hub)) where
  pure := .pure
  throw _ := .throw _
  bind := .bind
  dispatch event _ := preserves_dispatch silent event
  announce := preserves_announce silent

theorem preserves_load (loader : Loader) (path : Text) :
    Preserves (· = hub) (loader.load path) :=
  (closed_preserves silent).load loader path

end Loader

/-! ## Parses -/

namespace Page

variable {files : FileTree} {holds : Page → Prop}

theorem preserves_fill (text : Text) : Preserves holds (fill text) := by
  intro page before
  rw [fill_eq]
  exact before

theorem preserves_dynamicText (loads : ∀ path, Preserves holds (loadFile files path))
    (divisions : ∀ page origin division, holds page → holds (page.storeDivision origin division))
    (name : Text) : Preserves holds (dynamicText files name) := by
  have raws : ∀ origin source, Preserves holds (rawText files origin source) := by
    intro origin source
    cases source with
    | file path => exact loads path
    | inline => exact Preserves.get.bind fun _ => .pure _
    | block parent => exact .throw _
  have divides : ∀ origin, Preserves holds (ensureDivided files origin) := by
    intro origin page before
    cases declared : page.dynamics.get? origin with
    | none =>
      rw [ensureDivided, get_bind]
      simp only [declared]
      exact before
    | some template =>
      cases divided : template.divided with
      | true => exact (ensureDivided_of_divided declared divided).symm ▸ before
      | false =>
        rw [ensureDivided_of_not_divided declared divided]
        refine (raws origin template.origin).bind (fun raw page before => ?_) page before
        exact divisions page origin (divide raw) before
  intro page before
  cases found : findOrigin page.dynamics name with
  | error error => exact (dynamicText_of_error found).symm ▸ before
  | ok origin =>
    rw [dynamicText_of_ok found]
    refine (divides origin).bind (fun _ page before => ?_) page before
    rw [storedText_eq]
    exact before

/-- A property that nothing touches of which a parse is made. -/
structure Lasts (files : FileTree) (holds : Page → Prop) : Prop where
  tells : ∀ event, Preserves holds (loading (Loader.dispatch event))
  loads : ∀ path, Preserves holds (loadFile files path)
  statics : ∀ page statics, holds page → holds { page with statics := statics }
  divisions : ∀ page origin division, holds page → holds (page.storeDivision origin division)
  namespaces : ∀ page namespaces last, holds page →
    holds { page with namespaces := namespaces, last := last }

namespace Lasts

variable (lasts : Lasts files holds)

include lasts

theorem staticText (name : Text) (template : StaticTemplate) :
    Preserves holds (staticText files name template) := by
  unfold Page.staticText
  split
  · refine (lasts.loads _).bind fun content => ?_
    exact Preserves.bind (fun page before => lasts.statics page _ before) fun _ => .pure _
  · exact .pure _

theorem write (target value : Text) (append : Bool) {page : Page} (before : holds page) :
    holds (page.write target value append) := by
  cases append <;> exact lasts.namespaces page _ page.last before

theorem finishParse (target text : Text) (append : Bool) {page : Page} (before : holds page) :
    holds (page.finishParse target text append) := by
  cases append <;> exact lasts.namespaces page _ _ before

theorem templateText (name : Text) : Preserves holds (templateText files name) := by
  intro page before
  cases static : page.statics.get? name with
  | some template =>
    rw [templateText_of_static static]
    exact lasts.staticText name template page before
  | none =>
    rw [templateText_of_dynamic static]
    exact preserves_dynamicText lasts.loads lasts.divisions name page before

theorem parseNamed (target name : Text) (append : Bool) :
    Preserves holds (parseNamed files target name append) := by
  intro page before
  rcases template_or_not page name with template | ⟨noStatic, noDynamic⟩
  · rw [parseNamed_of_template template]
    refine ((lasts.templateText name).bind preserves_fill).bind (fun text page before => ?_)
      page before
    exact lasts.finishParse target text append before
  · rw [parseNamed_of_no_template noStatic noDynamic]
    cases page.namespace? name with
    | none => exact before
    | some value => exact lasts.write target value append before

theorem parse (target written : Text) : Preserves holds (parse files target written) :=
  (lasts.tells _).bind fun _ => lasts.parseNamed target _ _

end Lasts

theorem settings_parse (files : FileTree) (target written : Text) (page : Page) :
    (parse files target written page).2.settings = page.settings := by
  have lasts : Lasts files (fun other => other.settings = page.settings) :=
    ⟨fun _ _ => id, fun _ _ => id, fun _ _ => id, fun _ _ _ => id, fun _ _ _ => id⟩
  exact lasts.parse target written page rfl

/-- Without listeners, a parse leaves the hub as it is. -/
theorem hub_parse (files : FileTree) (target written : Text) {page : Page}
    (silent : page.hub.Silent) : (parse files target written page).2.hub = page.hub := by
  have lasts : Lasts files (fun other => other.hub = page.hub) :=
    { tells := fun event other => Loader.preserves_dispatch silent event other.hub
      loads := fun path other => Loader.preserves_load silent (other.settings.loader files) path _
      statics := fun _ _ => id
      divisions := fun _ _ _ => id
      namespaces := fun _ _ _ => id }
  exact lasts.parse target written page rfl

end Page

/-! ## Runs -/

namespace Site

theorem perform_parse_page (site : Site) (target written : Text) :
    (site.perform (.parse target written)).2.page =
      (Page.parse site.files target written site.page).2 := by
  cases parsed : Page.parse site.files target written site.page with
  | mk outcome page =>
    cases outcome <;> simp [Site.perform, parsed]

theorem run_cons (site : Site) (command : PageCommand) (rest : List PageCommand) :
    site.run (command :: rest) =
      ((site.perform command).1 :: ((site.perform command).2.run rest).1,
        ((site.perform command).2.run rest).2) := rfl

theorem run_append (site : Site) (first second : List PageCommand) :
    site.run (first ++ second) =
      ((site.run first).1 ++ ((site.run first).2.run second).1,
        ((site.run first).2.run second).2) := by
  induction first generalizing site with
  | nil => rfl
  | cons command first ih =>
    simp only [List.cons_append, run_cons, ih]

theorem length_run (site : Site) (commands : List PageCommand) :
    (site.run commands).1.length = commands.length := by
  induction commands generalizing site with
  | nil => rfl
  | cons command rest ih => simp only [run_cons, List.length_cons, ih]

/-- No command changes which declarations name a file. -/
theorem isTemplateFile_perform (site : Site) (command : PageCommand) :
    (site.perform command).2.page.settings.isTemplateFile =
      site.page.settings.isTemplateFile := by
  cases command with
  | parse target written => rw [perform_parse_page, Page.settings_parse]
  | setRoot root =>
    simp only [perform, Page.setRoot]
    cases ({ site.page.settings with root := root } : Settings).validate site.files <;> rfl
  | replaceLast content name =>
    obtain ⟨namespaces, same⟩ := Page.exists_replaceLast content name site.page
    simp only [perform, onPage, same]
  | _ => rfl

theorem hub_perform {site : Site} {command : PageCommand} (silent : site.page.hub.Silent)
    (request : ∀ operation, command ≠ .ask operation) :
    (site.perform command).2.page.hub = site.page.hub := by
  cases command with
  | parse target written =>
    rw [perform_parse_page]
    exact Page.hub_parse site.files target written silent
  | setRoot root =>
    simp only [perform, Page.setRoot]
    cases ({ site.page.settings with root := root } : Settings).validate site.files <;> rfl
  | replaceLast content name =>
    obtain ⟨namespaces, same⟩ := Page.exists_replaceLast content name site.page
    simp only [perform, onPage, same]
  | ask operation => exact absurd rfl (request operation)
  | _ => rfl

/-- Without listeners, a run that asks nothing of the hub leaves it as it is. -/
theorem hub_run {site : Site} {commands : List PageCommand} (silent : site.page.hub.Silent)
    (request : ∀ operation, .ask operation ∉ commands) :
    (site.run commands).2.page.hub = site.page.hub := by
  induction commands generalizing site with
  | nil => rfl
  | cons command rest ih =>
    have same : (site.perform command).2.page.hub = site.page.hub :=
      hub_perform silent fun operation here => request operation (here ▸ List.mem_cons_self ..)
    have still : (site.perform command).2.page.hub.Silent := same.symm ▸ silent
    refine (ih still fun operation member => ?_).trans same
    exact request operation (List.mem_cons_of_mem command member)

end Site

end PageTemplates
