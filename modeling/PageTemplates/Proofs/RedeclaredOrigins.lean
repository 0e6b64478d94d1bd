import PageTemplates.Proofs.Differences
import PageTemplates.Proofs.Origins

/-!
# Declaring an origin again

To declare an origin again puts a new text in place of what stood under its
name.  The blocks of the old text stand under other names, and nothing drops
them.  They are there until a division stores something in their place.

`Site.SameBut` compares a run with the same run in which an origin was never
declared.  The two know the same templates but for the origin, since what is
divided, and when, does not depend on the text of another template.  They differ
in the texts, and some of these differences are left when the origin is declared
again (`Difference.leftover`).  If no command looks at them, it is as if the
origin had never been declared before (`redeclare_origin`).  `row_left` is a run
that finds a block of the old text.
-/

namespace PageTemplates

namespace PageCommand

/-- A command declares a template in a file or by its text. -/
inductive DeclaresOrigin (isFile : Text → Bool) (origin : Text) : PageCommand → Prop where
  | file {path : Text} (file : isFile path = true) :
      DeclaresOrigin isFile origin (.defineDynamic origin path)
  | inline (content : Text) : DeclaresOrigin isFile origin (.defineDynamicInline origin content)

/-- Commands but for those that declare a name. -/
def without (origin : Text) (commands : List PageCommand) : List PageCommand :=
  commands.filter fun command => command.declared? ≠ some origin

theorem DeclaresOrigin.declared? {isFile : Text → Bool} {origin : Text} {command : PageCommand}
    (declares : command.DeclaresOrigin isFile origin) : command.declared? = some origin := by
  cases declares <;> rfl

end PageCommand

open PageCommand

variable {origin : Text}

/-! ## Pages that know the same templates but one -/

namespace Page

variable {files : FileTree} {page other : Page} {name : Text}

/-- Pages that load alike and know the same templates but for an origin, which
the second one does not know. -/
structure SameBut (origin : Text) (page other : Page) : Prop extends LoadsAlike page other where
  dynamics : ∀ name, name ≠ origin → other.dynamics.get? name = page.dynamics.get? name
  missing : other.dynamics.get? origin = none
  noBlock : ∀ template, page.dynamics.get? origin = some template →
    ∀ parent, template.origin ≠ .block parent

theorem statics_parseNamed (files : FileTree) (target name : Text) (append : Bool) (page : Page) :
    (parseNamed files target name append page).2.statics =
      match page.statics.get? name with
      | some template => (staticText files name template page).2.statics
      | none => page.statics := by
  have puts : ∀ text : Text,
      Keeps statics (modify (finishParse target text append) : Rendering Unit) := by
    refine fun text => Keeps.modify fun page => ?_
    cases append <;> rfl
  rcases template_or_not page name with template | ⟨noStatic, noDynamic⟩
  · rw [parseNamed_of_template template]
    refine ((view_bind puts page).trans (view_bind keeps_fill page)).trans ?_
    cases static : page.statics.get? name with
    | some known => rw [templateText_of_static static]
    | none =>
      rw [templateText_of_dynamic static]
      have lasts := @preserves_dynamicText files (fun other => other.statics = page.statics)
        (fun _ _ => id) (fun _ _ _ => id) name
      exact lasts page rfl
  · rw [parseNamed_of_no_template noStatic noDynamic, noStatic]
    cases page.namespace? name with
    | none => rfl
    | some value => cases append <;> rfl

theorem LoadsAlike.statics_parse (alike : LoadsAlike page other) (target written : Text) :
    (parse files target written other).2.statics =
      (parse files target written page).2.statics := by
  cases announced : Page.loading (Loader.dispatch (parseEvent target written)) page with
  | mk outcome told =>
    obtain ⟨told', announced', still⟩ :=
      (alike.loading (Loader.dispatch (parseEvent target written))).result announced
    cases outcome with
    | error error =>
      rw [parse_of_not_announced announced, parse_of_not_announced announced', still.statics]
    | ok event =>
      rw [parse_of_announced announced, parse_of_announced announced', statics_parseNamed,
        statics_parseNamed, still.statics]
      cases told.statics.get? (splitName written).2 with
      | none => rfl
      | some template => exact (still.staticText template).2.statics

namespace SameBut

variable (same : SameBut origin page other)

include same

theorem meets (meets : Meets page.dynamics origin name) : Meets other.dynamics origin name := by
  induction meets with
  | here => exact .here
  | @above name parent template declared block further ih =>
    by_cases here : name = origin
    · rw [here]
      exact .here
    · exact .above ((same.dynamics name here).trans declared) block ih

/-- A text is found on one page if it is found on the other. -/
theorem rawText (files : FileTree) (name : Text) (source : DynamicOrigin) :
    (Page.rawText files name source other).1.toOption.isSome =
      (Page.rawText files name source page).1.toOption.isSome := by
  cases source with
  | file path =>
    exact congrArg (fun outcome => outcome.toOption.isSome) (same.loadFile path).1
  | inline => rfl
  | block parent => rfl

theorem cut? (files : FileTree) (name : Text) :
    (other.cut? files name).map Cut.origin =
      ((page.cut? files name).map Cut.origin).filter (· ≠ origin) := by
  -- What leads to the origin here leads nowhere on the other page.
  by_cases meets : Meets page.dynamics origin name
  · rw [cut?_of_error ((same.meets meets).findOrigin_eq (.missing same.missing))]
    cases cuts : page.cut? files name with
    | none => rfl
    | some cut =>
      obtain ⟨found, -⟩ := cut?_eq_some cuts
      cases declared : page.dynamics.get? origin with
      | none => cases found.symm.trans (meets.findOrigin_eq (.missing declared))
      | some template =>
        have ends := meets.findOrigin_eq (.arrives declared (same.noBlock template declared))
        cases found.symm.trans ends
        simp [Option.filter]
  · have chain : findOrigin other.dynamics name = findOrigin page.dynamics name :=
      findOrigin_congr fun met further => congrArg (Option.map DynamicTemplate.origin)
        (same.dynamics met fun here => meets (here ▸ further))
    cases found : findOrigin page.dynamics name with
    | error error =>
      rw [cut?_of_error found, cut?_of_error (chain.trans found)]
      rfl
    | ok root =>
      have apart : root ≠ origin := fun here => meets (here ▸ meets_of_findOrigin found)
      obtain ⟨template, declared, -⟩ := findOrigin_eq_ok found
      have there := (same.dynamics root apart).trans declared
      cases divided : template.divided with
      | true =>
        rw [cut?_of_divided found declared divided,
          cut?_of_divided (chain.trans found) there divided]
        rfl
      | false =>
        rw [cut?_of_not_divided found declared divided,
          cut?_of_not_divided (chain.trans found) there divided]
        have texts := same.rawText files root template.origin
        cases raw : (Page.rawText files root template.origin page).1.toOption <;>
          cases raw' : (Page.rawText files root template.origin other).1.toOption <;>
            simp [raw, raw', apart, Option.filter] at texts ⊢

/-- The origin is declared on one page only, whatever becomes of its text. -/
theorem insert {template : DynamicTemplate}
    (noBlock : ∀ parent, template.origin ≠ .block parent) (data : Table Text) :
    SameBut origin { page with data := data, dynamics := page.dynamics.insert origin template }
      other :=
  { same with
    dynamics := fun name apart => by
      rw [Table.get?_insert, if_neg apart, same.dynamics name apart]
    noBlock := fun known declared => by
      rw [Table.get?_insert, if_pos rfl, Option.some.injEq] at declared
      exact declared ▸ noBlock }

theorem of_hub (hub : Hub) : SameBut origin { page with hub := hub } { other with hub := hub } :=
  { same with hub := rfl }

theorem parsedCut? (files : FileTree) (target written : Text) :
    (other.parsedCut? files target written).map Cut.origin =
      ((page.parsedCut? files target written).map Cut.origin).filter (· ≠ origin) := by
  cases announced : Loader.dispatch (parseEvent target written) page.hub with
  | mk outcome hub =>
    have told : Page.loading (Loader.dispatch (parseEvent target written)) page =
        (outcome, { page with hub := hub }) := by
      rw [Page.loading, announced]
    have told' : Page.loading (Loader.dispatch (parseEvent target written)) other =
        (outcome, { other with hub := hub }) := by
      rw [Page.loading, same.hub, announced]
    cases outcome with
    | error error =>
      rw [parsedCut?_of_not_announced told, parsedCut?_of_not_announced told']
      rfl
    | ok event =>
      rw [parsedCut?_of_announced told, parsedCut?_of_announced told']
      dsimp only
      by_cases static : page.statics.has (splitName written).2 = true
      · rw [if_pos static, if_pos (by rwa [same.statics])]
        rfl
      · rw [if_neg static, if_neg (by rwa [same.statics])]
        exact (same.of_hub hub).cut? files _

end SameBut
end Page

/-! ## Sites -/

namespace Site

variable {site other : Site} {command : PageCommand}

/-- Sites with the same files whose pages know the same templates but one. -/
structure SameBut (origin : Text) (site other : Site) : Prop where
  files : other.files = site.files
  page : Page.SameBut origin site.page other.page

namespace SameBut

variable (same : SameBut origin site other)

include same

theorem cut? (command : PageCommand) :
    (other.cut? command).map Cut.origin =
      ((site.cut? command).map Cut.origin).filter (· ≠ origin) := by
  cases command with
  | parse target written =>
    simp only [Site.cut?, same.files]
    exact same.page.parsedCut? site.files target written
  | _ => rfl

/-- What a command does to files, settings and static templates is the same on both. -/
theorem loads (command : PageCommand) :
    (other.perform command).2.files = (site.perform command).2.files ∧
      (other.perform command).2.page.settings = (site.perform command).2.page.settings ∧
        (other.perform command).2.page.statics = (site.perform command).2.page.statics := by
  have ⟨files, page⟩ := same
  cases command with
  | parse target written =>
    have kept : ∀ site : Site, (site.perform (.parse target written)).2.files = site.files := by
      intro site
      simp only [perform]
      split <;> rfl
    rw [kept, kept, perform_parse_page, perform_parse_page, Page.settings_parse,
      Page.settings_parse, files]
    exact ⟨rfl, page.settings, page.statics_parse target written⟩
  | setRoot root =>
    simp only [perform, Page.setRoot, files, page.settings]
    cases ({ site.page.settings with root := root } : Settings).validate site.files with
    | ok _ => exact ⟨rfl, rfl, page.statics⟩
    | error error => exact ⟨files, page.settings, page.statics⟩
  | define name path | defineInline name content =>
    exact ⟨files, page.settings, congrArg (Table.insert name _) page.statics⟩
  | replaceLast content name =>
    obtain ⟨namespaces, here⟩ := Page.exists_replaceLast content name site.page
    obtain ⟨namespaces', there⟩ := Page.exists_replaceLast content name other.page
    simp only [perform, onPage, here, there]
    exact ⟨files, page.settings, page.statics⟩
  | putFile path contents =>
    exact ⟨congrArg (FileTree.place path (.file contents)) files, page.settings, page.statics⟩
  | deleteFile path =>
    exact ⟨congrArg (FileTree.delete path) files, page.settings, page.statics⟩
  | _ => exact ⟨files, page.settings, page.statics⟩

/-- The other templates stay the same. -/
theorem get?_dynamics (command : PageCommand) {name : Text} (apart : name ≠ origin) :
    (other.perform command).2.page.dynamics.get? name =
      (site.perform command).2.page.dynamics.get? name := by
  by_cases declares : command.declared? = some name
  · cases command with
    | defineDynamic name value =>
      cases declares
      simp only [Site.perform, onPage, Page.defineDynamic, same.page.settings]
      exact Table.get?_insert_congr fun apart => absurd rfl apart
    | defineDynamicInline name content =>
      cases declares
      exact Table.get?_insert_congr fun apart => absurd rfl apart
    | _ => cases declares
  · have divided : Option.filter (· ≠ origin) ((site.cut? command).map Cut.origin) = some name ↔
        (site.cut? command).map Cut.origin = some name := by
      simp [Option.filter_eq_some_iff, apart]
    rw [other.get?_dynamics_perform declares, site.get?_dynamics_perform declares,
      Page.get?_dynamics_cutting, Page.get?_dynamics_cutting, same.cut?,
      same.page.dynamics name apart]
    simp only [divided]

/-- A command that does not declare the origin is performed on both. -/
theorem perform (apart : command.declared? ≠ some origin)
    (hub : (other.perform command).2.page.hub = (site.perform command).2.page.hub) :
    SameBut origin (site.perform command).2 (other.perform command).2 := by
  obtain ⟨files, settings, statics⟩ := same.loads command
  refine ⟨files, { settings, hub, statics
                   dynamics := fun name => same.get?_dynamics command
                   missing := ?_
                   noBlock := ?_ }⟩
  · rw [other.get?_dynamics_perform apart, Page.get?_dynamics_cutting, same.page.missing,
      Option.map_none, ite_self]
  · intro template declared
    rw [site.get?_dynamics_perform apart, Page.get?_dynamics_cutting] at declared
    split at declared
    · obtain ⟨before, known, rfl⟩ := Option.map_eq_some_iff.1 declared
      exact same.page.noBlock before known
    · exact same.page.noBlock template declared

/-- A declaration of the origin is left out on one of them. -/
theorem declare
    (declares : command.DeclaresOrigin site.page.settings.isTemplateFile origin) :
    SameBut origin (site.perform command).2 other := by
  cases declares with
  | @file path file =>
    simp only [Site.perform, onPage, Page.defineDynamic, file, if_true]
    exact ⟨same.files, same.page.insert (fun _ block => by cases block) _⟩
  | inline content => exact ⟨same.files, same.page.insert (fun _ block => by cases block) _⟩

end SameBut

/-- A run and the run without the declarations of an origin know the same other templates. -/
theorem SameBut.run {before : List PageCommand} (same : SameBut origin site other)
    (earlier : ∀ command ∈ before, command.declared? = some origin →
      command.DeclaresOrigin site.page.settings.isTemplateFile origin)
    (listeners : ∀ first, first <+: before →
      (other.run (without origin first)).2.page.hub = (site.run first).2.page.hub) :
    SameBut origin (site.run before).2 (other.run (without origin before)).2 := by
  induction before generalizing site other with
  | nil => exact same
  | cons command rest ih =>
    have later : ∀ command' ∈ rest, command'.declared? = some origin →
        command'.DeclaresOrigin (site.perform command).2.page.settings.isTemplateFile origin := by
      rw [site.isTemplateFile_perform command]
      exact fun command' member => earlier command' (List.mem_cons_of_mem command member)
    have begins : ∀ first, first <+: rest → command :: first <+: command :: rest :=
      fun first begins => List.cons_prefix_cons.2 ⟨rfl, begins⟩
    by_cases declares : command.declared? = some origin
    · have skip : ∀ first, without origin (command :: first) = without origin first :=
        fun first => List.filter_cons_of_neg (by simp [declares])
      rw [skip]
      refine ih (same.declare (earlier command (List.mem_cons_self ..) declares)) later ?_
      intro first start
      rw [← skip]
      exact listeners (command :: first) (begins first start)
    · have keep : ∀ first, without origin (command :: first) = command :: without origin first :=
        fun first => List.filter_cons_of_pos (by simp [declares])
      have hub := listeners [command] (begins [] (List.nil_prefix))
      rw [keep] at hub
      rw [keep]
      refine ih (same.perform declares hub) later fun first start => ?_
      have hub := listeners (command :: first) (begins first start)
      rw [keep] at hub
      exact hub

theorem sameBut_of_undeclared (site : Site) (undeclared : site.page.dynamics.get? origin = none) :
    SameBut origin site site where
  files := rfl
  page :=
    { settings := rfl, hub := rfl, statics := rfl, dynamics := fun _ _ => rfl
      missing := undeclared
      noBlock := fun template declared => by cases undeclared.symm.trans declared }

/-- The site with other namespaces. -/
def withNamespaces (namespaces : Table Text) (site : Site) : Site :=
  { site with page := { site.page with namespaces := namespaces } }

/-- Without listeners, what is left out of a run does not change the hub. -/
theorem hub_run_without {before : List PageCommand} (silent : site.page.hub.Silent)
    (request : ∀ operation, .ask operation ∉ before) (first : List PageCommand)
    (begins : first <+: before) :
    (site.run (without origin first)).2.page.hub = (site.run first).2.page.hub := by
  have none : ∀ operation, .ask operation ∉ first :=
    fun operation member => request operation (begins.subset member)
  have noneLeft : ∀ operation, .ask operation ∉ without origin first :=
    fun operation member => none operation (List.mem_of_mem_filter member)
  rw [hub_run silent none, hub_run silent noneLeft]

end Site

/-! ## What is left of an origin -/

/-- The texts in which one page differs from another, but for the text of an origin. -/
def Difference.leftover (origin : Text) (page other : Page) : Difference where
  names _ := False
  keys key := key ≠ origin ∧ other.data.get? key ≠ page.data.get? key

namespace Page

variable {files : FileTree} {page told : Page} {target written name : Text} {cut : Cut}

theorem SameBut.alike {other : Page} (same : SameBut origin page other) :
    Alike ⟨(· = origin), fun key => other.data.get? key ≠ page.data.get? key⟩ page
      { other with namespaces := page.namespaces } :=
  { same with
    namespaces := rfl
    data := fun _ alike => Classical.not_not.1 alike }

/-- A parse that divides an origin misses a block exactly if the division stores
no text under its name and none stood there before. -/
theorem parse_of_cut_eq_undefinedBlock_iff
    (renders : Renders target written name origin page told)
    (cuts : told.cut? files name = some cut) :
    (parse files target written page).1 = .error (.undefinedBlock name origin) ↔
      cut.stored? name = none ∧ page.data.get? name = none := by
  rw [renders.parse_eq_undefinedBlock_iff]
  obtain ⟨template, stands, outcome⟩ := dynamicText_outcome files renders.origin
  obtain ⟨found, -⟩ := cut?_eq_some cuts
  have here : cut.origin = origin := Except.ok.inj (found.symm.trans renders.origin)
  rw [cuts, get?_dynamics_cutting, Option.map_some, if_pos (congrArg some here)] at stands
  obtain ⟨before, -, rfl⟩ := Option.map_eq_some_iff.1 stands
  rw [if_pos rfl, cuts, cutting, get?_storeDivision, renders.data] at outcome
  rw [outcome, ← Option.or_eq_none_iff]
  show lookedUp name origin ((cut.stored? name).or (page.data.get? name)) = _ ↔ _
  cases (cut.stored? name).or (page.data.get? name) <;> simp [lookedUp]

end Page

namespace Site

theorem SameBut.redeclare {old fresh : Site} {declaration : PageCommand}
    (same : SameBut origin old fresh) {isFile : Text → Bool}
    (declares : declaration.DeclaresOrigin isFile origin) :
    ((fresh.withNamespaces old.page.namespaces).perform declaration).1 =
        (old.perform declaration).1 ∧
      Alike (.leftover origin old.page fresh.page) (old.perform declaration).2
        ((fresh.withNamespaces old.page.namespaces).perform declaration).2 := by
  have within : Difference.declaring ⟨(· = origin), fun key =>
      fresh.page.data.get? key ≠ old.page.data.get? key⟩ origin ≤
        .leftover origin old.page fresh.page :=
    ⟨fun name differs => differs.2 differs.1, fun key differs => ⟨differs.2, differs.1⟩⟩
  cases declares with
  | @file path file =>
    exact ⟨rfl, same.files, (same.page.alike.defineDynamic origin path).mono within⟩
  | inline content =>
    exact ⟨rfl, same.files, (same.page.alike.defineDynamicInline origin content).mono within⟩

end Site

/-- An origin that is declared again behaves as if it had never been declared
before, given the same namespaces and listeners, provided that no command looks at
a text that the earlier declarations have left before a division has stored
another one in its place.  A block of the origin is missing exactly if the new text
has no such block and no text was left under its name. -/
theorem redeclare_origin {site old fresh given : Site} {declaration : PageCommand}
    {before after : List PageCommand}
    (undeclared : site.page.dynamics.get? origin = none)
    (earlier : ∀ command ∈ before, command.declared? = some origin →
      command.DeclaresOrigin site.page.settings.isTemplateFile origin)
    (declares : declaration.DeclaresOrigin site.page.settings.isTemplateFile origin)
    (listeners : ∀ first, first <+: before →
      (site.run (without origin first)).2.page.hub = (site.run first).2.page.hub)
    (reached : (site.run before).2 = old) (skipped : (site.run (without origin before)).2 = fresh)
    (namespaces : fresh.withNamespaces old.page.namespaces = given)
    (spared : (old.perform declaration).2.Spares (.leftover origin old.page fresh.page) after) :
    ((given.run (declaration :: after)).1 = (old.run (declaration :: after)).1 ∧
      (given.run (declaration :: after)).2.page.namespaces =
        (old.run (declaration :: after)).2.page.namespaces) ∧
    ∀ target written name told cut,
      Page.Renders target written name origin (old.perform declaration).2.page told →
      told.cut? old.files name = some cut →
        ((Page.parse old.files target written (old.perform declaration).2.page).1 =
            .error (.undefinedBlock name origin) ↔
          cut.stored? name = none ∧ old.page.data.get? name = none) := by
  subst reached skipped namespaces
  have same := (site.sameBut_of_undeclared undeclared).run earlier listeners
  constructor
  · obtain ⟨answer, alike⟩ := same.redeclare declares
    obtain ⟨answers, ends⟩ := alike.run spared
    simp only [Site.run_cons, answer, answers]
    exact ⟨trivial, ends.page.namespaces⟩
  · intro target written name told cut renders cuts
    rw [Page.parse_of_cut_eq_undefinedBlock_iff renders cuts]
    refine and_congr_right fun nothing => ?_
    -- The declaration changes the text of the origin, and the division stores one for it.
    have apart : name ≠ origin := by
      obtain ⟨found, -⟩ := Page.cut?_eq_some cuts
      obtain rfl : cut.origin = origin := Except.ok.inj (found.symm.trans renders.origin)
      rintro rfl
      simp [Cut.stored?, Division.stored?] at nothing
    cases declares with
    | file file => exact iff_of_eq (congrArg (· = none)
        ((Table.get?_erase _ _ _).trans (if_neg apart)))
    | inline content => exact iff_of_eq (congrArg (· = none)
        ((Table.get?_insert _ _ _ _).trans (if_neg apart)))

/-! ## A row that is left -/

/-- Declares a form and its row, and parses the form. -/
def formHistory : List PageCommand :=
  [.defineDynamicInline "form".toList firstForm, .defineDynamic "row".toList "form".toList,
    .parse ['X'] "form".toList]

/-- The page after that. -/
def usedForm : Site := (Site.run ⟨{}, emptyPage⟩ formHistory).2

/-- The page after that, but without the form. -/
def unusedForm : Site :=
  ((Site.run ⟨{}, emptyPage⟩ (without "form".toList formHistory)).2).withNamespaces
    usedForm.page.namespaces

theorem silent_usedForm : usedForm.page.hub.Silent := by
  have same : usedForm.page.hub = emptyPage.hub :=
    Site.hub_run (fun _ => rfl) (by simp [formHistory])
  rw [same]
  exact fun _ => rfl

/-- Declares the form again, with another row. -/
def renewForm : PageCommand := .defineDynamicInline "form".toList secondForm

/-- To parse the new row looks at nothing that is left of the old form. -/
theorem spares_renewedRow {other : Page} :
    (usedForm.perform renewForm).2.Spares (.leftover "form".toList usedForm.page other)
      [.parse ['Y'] "row".toList] := by
  refine ⟨Page.spares_of_silent silent_usedForm ⟨fun _ => ⟨fun _ _ => id, ?_, ?_⟩, ?_⟩, trivial⟩
  · intro origin found _ differs
    have form : Page.findOrigin (usedForm.perform renewForm).2.page.dynamics "row".toList =
        .ok "form".toList := eq_ok_of_toOption (by decide +kernel)
    exact differs.1 (Except.ok.inj (found.symm.trans form))
  · intro origin _ _ differs
    have cut : Page.cut? (usedForm.perform renewForm).2.files "row".toList
        (usedForm.perform renewForm).2.page = some ⟨"form".toList, secondForm⟩ := by
      decide +kernel
    have named : (Page.splitName "row".toList).2 = "row".toList := rfl
    rw [named, cut] at differs
    exact absurd differs.2 (by decide +kernel)
  · intro text page' found key _ asks
    have body : (Page.templateText (usedForm.perform renewForm).2.files "row".toList
        (usedForm.perform renewForm).2.page).1 = .ok ['B'] := eq_ok_of_toOption (by decide +kernel)
    obtain rfl : ['B'] = text := Except.ok.inj (body.symm.trans (congrArg Prod.fst found))
    exact absurd asks.mem (by decide)

/-- A row in the new text of the form is shown as if the form were new. -/
theorem redeclare_form :
    (Site.mk {} emptyPage).page.dynamics.get? "form".toList = none ∧
      (unusedForm.run [renewForm, .parse ['Y'] "row".toList]).2.page.namespace? ['Y'] =
        some ['B'] := by
  have earlier : ∀ command ∈ formHistory, command.declared? = some "form".toList →
      command.DeclaresOrigin emptyPage.settings.isTemplateFile "form".toList := by
    intro command member declares
    simp only [formHistory, List.mem_cons, List.not_mem_nil, or_false] at member
    rcases member with rfl | rfl | rfl
    · exact .inline firstForm
    · exact absurd declares (by decide)
    · cases declares
  have listeners := @Site.hub_run_without "form".toList ⟨{}, emptyPage⟩ formHistory
    (fun _ => rfl) (by simp [formHistory])
  obtain ⟨⟨-, namespaces⟩, -⟩ := redeclare_origin rfl earlier (.inline secondForm) listeners
    rfl rfl rfl spares_renewedRow
  refine ⟨rfl, ?_⟩
  exact (congrArg (Table.get? ['Y']) namespaces).trans (by decide +kernel)

/-- A row that the new text of the form does not have is still there. -/
theorem row_left :
    (usedForm.run [.defineDynamicInline "form".toList plainForm,
        .parse ['Y'] "row".toList]).2.page.namespace? ['Y'] = some ['A'] ∧
      (unusedForm.run [.defineDynamicInline "form".toList plainForm,
        .parse ['Y'] "row".toList]).2.page.namespace? ['Y'] = none :=
  ⟨by decide +kernel, by decide +kernel⟩

end PageTemplates
