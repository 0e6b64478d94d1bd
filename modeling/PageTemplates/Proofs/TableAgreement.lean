import PageTemplates.Proofs.FileLoads
import PageTemplates.Proofs.Histories

/-!
# Tables that agree

The templates of a page and their texts are kept in tables of their own.  The tables
agree (`Page.Agrees`): what was declared by its text has a text, and so has every
template that counts as divided, which is never a block.  Declarations store both
sides at once, a division adds texts and drops none, and no command does anything else
to the tables.  So they agree after every run (`Page.Agrees.run`).

Parsing and dividing have answers for tables that do not agree: a missing text counts
as empty, and a block or an undeclared name that is to be divided is undefined.
`Page.parseOr` is a parse with any other answer in their place.  Where the tables
agree it is the same as a parse, so none of these answers is ever given
(`Page.Agrees.parseOr_eq`).
-/

namespace PageTemplates

namespace Page

/-- The tables of a page agree. -/
structure Agrees (page : Page) : Prop where
  /-- A static template that was declared by its text has its text. -/
  statics : ∀ name template, page.statics.get? name = some template → template.origin = .inline →
    template.content.isSome = true
  /-- A dynamic template that was declared by its text has a text. -/
  inlines : ∀ name template, page.dynamics.get? name = some template → template.origin = .inline →
    page.data.has name = true
  /-- A dynamic template that is divided has an outline. -/
  outlines : ∀ name template, page.dynamics.get? name = some template → template.divided = true →
    page.data.has name = true
  /-- No block is divided. -/
  noBlock : ∀ name template, page.dynamics.get? name = some template → template.divided = true →
    ∀ parent, template.origin ≠ .block parent

/-! ## Another answer -/

/-- The text of a static template, with another answer where none is known. -/
def staticTextOr (otherwise : Rendering Text) (files : FileTree) (name : Text)
    (template : StaticTemplate) : Rendering Text :=
  match template.content, template.origin with
  | some content, _ => pure content
  | none, .file path => do
    let content ← loadFile files path
    modify fun page =>
      { page with statics := page.statics.insert name { template with content := some content } }
    pure content
  | none, .inline => otherwise

/-- The text of an origin as declared, with another answer where none is known and for blocks. -/
def rawTextOr (otherwise : Rendering Text) (files : FileTree) (origin : Text) :
    DynamicOrigin → Rendering Text
  | .file path => loadFile files path
  | .inline => do
    match (← get).data.get? origin with
    | some text => pure text
    | none => otherwise
  | .block _ => otherwise

/-- Divides an origin if that has not been done, with another answer where none is declared. -/
def ensureDividedOr (otherwise : Rendering Text) (files : FileTree) (origin : Text) :
    Rendering Unit := do
  match (← get).dynamics.get? origin with
  | none => do
    let _ ← otherwise
  | some template =>
    if template.divided then pure ()
    else do
      let raw ← rawTextOr otherwise files origin template.origin
      modify (storeDivision origin (divide raw))

/-- The text of a dynamic template, with another answer if dividing its origin asks for it or if
the origin has no outline then. -/
def dynamicTextOr (otherwise : Rendering Text) (files : FileTree) (name : Text) :
    Rendering Text := do
  match findOrigin (← get).dynamics name with
  | .error error => throw error
  | .ok origin => do
    ensureDividedOr otherwise files origin
    match (← get).data.get? name with
    | some text => pure text
    | none => if name = origin then otherwise else throw (.undefinedBlock name origin)

/-- The text of a template, with another answer where the tables do not agree. -/
def templateTextOr (otherwise : Rendering Text) (files : FileTree) (name : Text) :
    Rendering Text := do
  match (← get).statics.get? name with
  | some template => staticTextOr otherwise files name template
  | none => dynamicTextOr otherwise files name

/-- Renders a template or copies a namespace, with another answer where the tables do not agree. -/
def parseNamedOr (otherwise : Rendering Text) (files : FileTree) (target name : Text)
    (append : Bool) : Rendering Unit := do
  let page ← get
  if page.statics.has name || page.dynamics.has name then do
    let text ← templateTextOr otherwise files name
    let text ← fill text
    modify (finishParse target text append)
  else
    match page.namespace? name with
    | some value => modify (write target value append)
    | none => throw (.undefinedTemplate name)

/-- Parses a template into a namespace, with another answer where the tables do not agree. -/
def parseOr (otherwise : Rendering Text) (files : FileTree) (target written : Text) :
    Rendering Unit := do
  let _ ← loading (Loader.dispatch (parseEvent target written))
  let (append, name) := splitName written
  parseNamedOr otherwise files target name append

variable {files : FileTree} {page page' : Page} {name origin : Text}

/-! ## What keeps the tables in agreement -/

/-- The tables of templates and texts are all that counts. -/
theorem Agrees.congr (agrees : Agrees page) (statics : page'.statics = page.statics)
    (templates : page'.templates = page.templates) : Agrees page' := by
  obtain ⟨data, dynamics⟩ := Prod.mk.inj templates
  refine ⟨?_, ?_, ?_, ?_⟩
  · rw [statics]
    exact agrees.statics
  · rw [data, dynamics]
    exact agrees.inlines
  · rw [data, dynamics]
    exact agrees.outlines
  · rw [dynamics]
    exact agrees.noBlock

/-- A division drops no text, and its origin has one then. -/
theorem has_data_storeDivision {key : Text} (division : Division)
    (known : key = origin ∨ page.data.has key = true) :
    (page.storeDivision origin division).data.has key = true := by
  rw [Table.has, get?_storeDivision, Option.isSome_or, Bool.or_eq_true]
  refine known.imp (fun own => ?_) id
  rw [Division.stored?, if_pos own]
  rfl

/-- What is pending is the text of a template that is no block. -/
theorem noBlock_of_pending? {pending : Pending}
    (empty : page.pending? (.division origin) = some pending) :
    ∃ template, page.dynamics.get? origin = some template ∧
      ∀ parent, template.origin ≠ .block parent := by
  simp only [pending?] at empty
  split at empty
  · next path declared =>
    refine ⟨_, declared, fun parent same => ?_⟩
    cases same
  · next declared =>
    refine ⟨_, declared, fun parent same => ?_⟩
    cases same
  · cases empty

theorem Agrees.store {slot : Slot} {pending : Pending} (agrees : Agrees page)
    (empty : page.pending? slot = some pending) (text : Text) : Agrees (page.store text slot) := by
  cases slot with
  | static name =>
    simp only [Page.store]
    split
    · next template declared =>
      refine ⟨fun other found known inline => ?_, agrees.inlines, agrees.outlines, agrees.noBlock⟩
      rw [Table.get?_insert] at known
      split at known
      · cases known
        rfl
      · exact agrees.statics other found known inline
    · exact agrees
  | division origin =>
    obtain ⟨template, declared, noBlock⟩ := noBlock_of_pending? empty
    have stored : ∀ other found, (page.storeDivision origin (divide text)).dynamics.get? other =
        some found → (other = origin ∧ found = { template with divided := true }) ∨
          page.dynamics.get? other = some found := by
      intro other found known
      simp only [storeDivision, declared, Table.get?_insert] at known
      split at known
      · next here => exact .inl ⟨here, (Option.some.inj known).symm⟩
      · exact .inr known
    refine ⟨agrees.statics, ?_, ?_, ?_⟩
    · intro other found known inline
      exact has_data_storeDivision _ ((stored other found known).imp And.left
        fun before => agrees.inlines other found before inline)
    · intro other found known divided
      exact has_data_storeDivision _ ((stored other found known).imp And.left
        fun before => agrees.outlines other found before divided)
    · intro other found known divided
      obtain ⟨-, rfl⟩ | before := stored other found known
      · exact noBlock
      · exact agrees.noBlock other found before divided

theorem Agrees.cache (agrees : Agrees page) (files : FileTree) (name : Text) :
    Agrees (Page.cache files name page).2 := by
  have caches := caches_cache files name page
  generalize (Page.cache files name page).2 = kept at caches
  cases caches with
  | nothing hub => exact agrees.congr rfl rfl
  | @text slot pending text hub needed empty got =>
    have told : Agrees { page with hub := hub } := agrees.congr rfl rfl
    exact told.store ((pending?_hub page hub slot).trans empty) text

/-- A parse keeps the tables in agreement, whether it succeeds or fails. -/
theorem Agrees.parse (agrees : Agrees page) (files : FileTree) (target written : Text) :
    Agrees (Page.parse files target written page).2 := by
  obtain ⟨event, hub, announced⟩ | ⟨error, hub, announced⟩ := announced_cases target written page
  · obtain ⟨namespaces, last, same⟩ := exists_parse files announced
    have told : Agrees { page with hub := hub } := agrees.congr rfl rfl
    exact same ▸ (told.cache files (splitName written).2).congr rfl rfl
  · exact (parse_of_not_announced announced).symm ▸ agrees.congr rfl rfl

/-! ## No other answer -/

/-- An origin that has been divided has an outline. -/
theorem Agrees.has_of_ensureDivided (agrees : Agrees page)
    (found : findOrigin page.dynamics name = .ok origin)
    (done : ensureDivided files origin page = (.ok (), page')) : page'.data.has origin = true := by
  obtain ⟨template, declared, divided, -, same⟩ | ⟨raw, kept, -, -, same⟩ |
    ⟨_, error, kept, -, -, -, -, -, failed⟩ := ensureDivided_cases files found
  · cases same.symm.trans done
    exact agrees.outlines origin template declared divided
  · cases same.symm.trans done
    exact has_data_storeDivision (divide raw) (.inl rfl)
  · cases failed.symm.trans done

theorem Agrees.staticTextOr_eq (agrees : Agrees page) {template : StaticTemplate}
    (static : page.statics.get? name = some template) (otherwise : Rendering Text) :
    staticTextOr otherwise files name template = staticText files name template := by
  obtain ⟨source, content⟩ := template
  cases content with
  | some content => rfl
  | none =>
    cases source with
    | file path => rfl
    | inline => cases agrees.statics name _ static rfl

theorem Agrees.rawTextOr_eq (agrees : Agrees page) {template : DynamicTemplate}
    (declared : page.dynamics.get? origin = some template)
    (noBlock : ∀ parent, template.origin ≠ .block parent) (otherwise : Rendering Text) :
    rawTextOr otherwise files origin template.origin page =
      rawText files origin template.origin page := by
  cases source : template.origin with
  | file path => rfl
  | inline =>
    have stored := agrees.inlines origin template declared source
    obtain ⟨text, known⟩ := Option.isSome_iff_exists.1 stored
    rw [rawTextOr, rawText, get_bind, get_bind, known]
    rfl
  | block parent => exact absurd source (noBlock parent)

theorem Agrees.ensureDividedOr_eq (agrees : Agrees page)
    (found : findOrigin page.dynamics name = .ok origin) (otherwise : Rendering Text) :
    ensureDividedOr otherwise files origin page = ensureDivided files origin page := by
  obtain ⟨template, declared, noBlock⟩ := findOrigin_eq_ok found
  rw [ensureDividedOr, get_bind]
  simp only [declared]
  cases divided : template.divided with
  | true => exact (ensureDivided_of_divided declared divided).symm
  | false =>
    rw [ensureDivided_of_not_divided declared divided]
    exact bind_of_eq (agrees.rawTextOr_eq declared noBlock otherwise)

theorem Agrees.dynamicTextOr_eq (agrees : Agrees page) (otherwise : Rendering Text)
    (files : FileTree) (name : Text) :
    dynamicTextOr otherwise files name page = dynamicText files name page := by
  rw [dynamicTextOr, dynamicText, get_bind, get_bind]
  cases found : findOrigin page.dynamics name with
  | error error => rfl
  | ok origin =>
    dsimp only
    refine (bind_of_eq (agrees.ensureDividedOr_eq found otherwise)).trans ?_
    cases done : ensureDivided files origin page with
    | mk outcome page' =>
      cases outcome with
      | error error => rw [bind_of_error done, bind_of_error done]
      | ok value =>
        rw [bind_of_ok done, bind_of_ok done, storedText_eq, get_bind]
        cases stored : page'.data.get? name with
        | some text => rfl
        | none =>
          have other : name ≠ origin := by
            rintro rfl
            have known := agrees.has_of_ensureDivided found done
            rw [Table.has, stored] at known
            cases known
          simp only [if_neg other]
          rfl

theorem Agrees.templateTextOr_eq (agrees : Agrees page) (otherwise : Rendering Text)
    (files : FileTree) (name : Text) :
    templateTextOr otherwise files name page = templateText files name page := by
  rw [templateTextOr, get_bind]
  cases static : page.statics.get? name with
  | some template =>
    rw [templateText_of_static static, ← agrees.staticTextOr_eq static otherwise]
  | none => rw [templateText_of_dynamic static, ← agrees.dynamicTextOr_eq otherwise]

theorem Agrees.parseNamedOr_eq (agrees : Agrees page) (otherwise : Rendering Text)
    (files : FileTree) (target name : Text) (append : Bool) :
    parseNamedOr otherwise files target name append page =
      parseNamed files target name append page := by
  rw [parseNamedOr, get_bind]
  rcases template_or_not page name with template | ⟨noStatic, noDynamic⟩
  · rw [parseNamed_of_template template, if_pos (by simpa using template), bind_assoc,
      bind_of_eq (agrees.templateTextOr_eq otherwise files name)]
  · rw [parseNamed_of_no_template noStatic noDynamic,
      if_neg (by simpa [Table.has, noStatic] using noDynamic)]
    cases page.namespace? name <;> rfl

/-- Where the tables agree, a parse has no use for another answer. -/
theorem Agrees.parseOr_eq (agrees : Agrees page) (otherwise : Rendering Text) (files : FileTree)
    (target written : Text) :
    parseOr otherwise files target written page = Page.parse files target written page := by
  obtain ⟨event, hub, announced⟩ | ⟨error, hub, announced⟩ := announced_cases target written page
  · have told : Agrees { page with hub := hub } := agrees.congr rfl rfl
    rw [parseOr, bind_of_ok announced, parse_of_announced announced]
    exact told.parseNamedOr_eq otherwise files target _ _
  · rw [parseOr, bind_of_error announced, parse_of_not_announced announced]

/-! ## Origins have an outline -/

theorem raises_staticText (files : FileTree) (name : Text) (template : StaticTemplate) :
    Raises Loader.NoBlock (staticText files name template) := by
  unfold staticText
  split
  · refine Raises.bind (Raises.get.bind fun page state error failed => ?_) fun content => ?_
    · exact Loader.raises_load _ _ state.hub error failed
    · exact Raises.bind (fun _ _ failed => by cases failed) fun _ => .pure content
  · exact .pure _

/-- The text of an origin can only be missing because it cannot be loaded. -/
theorem Agrees.noBlock_templateText {error : TemplateError} (agrees : Agrees page)
    (found : findOrigin page.dynamics name = .ok name)
    (failed : (templateText files name page).1 = .error error) : Loader.NoBlock error := by
  cases static : page.statics.get? name with
  | some template =>
    rw [templateText_of_static static] at failed
    exact raises_staticText files name template page error failed
  | none =>
    rw [templateText_of_dynamic static, dynamicText_of_ok found] at failed
    cases done : ensureDivided files name page with
    | mk outcome page' =>
      cases outcome with
      | ok value =>
        obtain ⟨text, stored⟩ := Option.isSome_iff_exists.1 (agrees.has_of_ensureDivided found done)
        rw [bind_of_ok done, storedText_eq, stored] at failed
        cases failed
      | error cause =>
        rw [bind_of_error done] at failed
        cases failed
        obtain ⟨_, -, -, -, same⟩ | ⟨_, _, -, -, same⟩ | ⟨_, _, _, -, -, -, -, fits, same⟩ :=
          ensureDivided_cases files found
        · cases same.symm.trans done
        · cases same.symm.trans done
        · cases same.symm.trans done
          exact fits

theorem Agrees.noBlock_parseNamed {target : Text} {append : Bool} {error : TemplateError}
    (agrees : Agrees page) (found : findOrigin page.dynamics name = .ok name)
    (failed : (parseNamed files target name append page).1 = .error error) :
    Loader.NoBlock error := by
  rw [parseNamed_of_template (.inr (has_of_findOrigin found))] at failed
  cases text : templateText files name page with
  | mk outcome kept =>
    cases outcome with
    | error cause =>
      rw [bind_of_error (bind_of_error text)] at failed
      cases failed
      exact agrees.noBlock_templateText found (congrArg Prod.fst text)
    | ok raw =>
      have rest : (templateText files name >>= fill) page = fill raw kept := bind_of_ok text
      rw [bind_of_eq rest] at failed
      refine Raises.bind (raises_fill raw) (fun _ => ?_) kept error failed
      exact fun _ _ failed => by cases failed

/-- A parse of an origin does not report a missing block. -/
theorem Agrees.noBlock_parse {target written : Text} {error : TemplateError} (agrees : Agrees page)
    (found : findOrigin page.dynamics (splitName written).2 = .ok (splitName written).2)
    (failed : (Page.parse files target written page).1 = .error error) : Loader.NoBlock error := by
  obtain ⟨event, hub, announced⟩ | ⟨cause, hub, announced⟩ := announced_cases target written page
  · have told : Agrees { page with hub := hub } := agrees.congr rfl rfl
    rw [parse_of_announced announced] at failed
    exact told.noBlock_parseNamed found failed
  · have raised := Loader.raises_dispatch (parseEvent target written) page.hub cause
      (congrArg Prod.fst announced)
    rw [parse_of_not_announced announced] at failed
    exact Except.error.inj failed ▸ raised

/-! ## Declarations -/

theorem Agrees.declareStatic {template : StaticTemplate} (agrees : Agrees page) (name : Text)
    (known : template.origin = .inline → template.content.isSome = true) :
    Agrees { page with statics := page.statics.insert name template } := by
  refine ⟨fun other found declared inline => ?_, agrees.inlines, agrees.outlines, agrees.noBlock⟩
  rw [Table.get?_insert] at declared
  split at declared
  · cases declared
    exact known inline
  · exact agrees.statics other found declared inline

/-- A dynamic template that is declared is not divided, and the texts under other names stay. -/
theorem Agrees.declareDynamic {data : Table Text} {source : DynamicOrigin} (agrees : Agrees page)
    (name : Text) (known : source = .inline → data.has name = true)
    (others : ∀ other, other ≠ name → data.get? other = page.data.get? other) :
    Agrees { page with data := data, dynamics := page.dynamics.insert name ⟨source, false⟩ } := by
  have texts : ∀ other, other ≠ name → page.data.has other = true → data.has other = true := by
    intro other apart stored
    rwa [Table.has, others other apart]
  refine ⟨agrees.statics, ?_, ?_, ?_⟩
  · intro other found declared inline
    rw [Table.get?_insert] at declared
    split at declared
    · next here =>
      cases declared
      exact here ▸ known inline
    · next apart => exact texts other apart (agrees.inlines other found declared inline)
  · intro other found declared divided
    rw [Table.get?_insert] at declared
    split at declared
    · cases declared
      cases divided
    · next apart => exact texts other apart (agrees.outlines other found declared divided)
  · intro other found declared divided
    rw [Table.get?_insert] at declared
    split at declared
    · cases declared
      cases divided
    · exact agrees.noBlock other found declared divided

theorem agrees_create {settings : Settings} {hub : Hub}
    (created : create settings hub files = .ok page) : Agrees page := by
  unfold create at created
  split at created
  · cases created
    exact ⟨nofun, nofun, nofun, nofun⟩
  · cases created

end Page

/-! ## Runs -/

/-- Every command keeps the tables in agreement. -/
theorem Page.Agrees.perform {site : Site} (agrees : site.page.Agrees) (command : PageCommand) :
    (site.perform command).2.page.Agrees := by
  cases command with
  | parse target written =>
    rw [Site.perform_parse_page]
    exact agrees.parse site.files target written
  | define name path => exact agrees.declareStatic name nofun
  | defineInline name content => exact agrees.declareStatic name fun _ => rfl
  | defineDynamic name value =>
    refine agrees.declareDynamic name (fun inline => ?_) fun other apart => ?_
    · split at inline <;> cases inline
    · exact (Table.get?_erase _ _ _).trans (if_neg apart)
  | defineDynamicInline name content =>
    refine agrees.declareDynamic name (fun _ => ?_) fun other apart => ?_
    · simp [Table.has]
    · exact (Table.get?_insert _ _ _ _).trans (if_neg apart)
  | replaceLast content name =>
    obtain ⟨namespaces, same⟩ := Page.exists_replaceLast content name site.page
    have after : (site.page.replaceLast content name).Agrees := same ▸ agrees.congr rfl rfl
    exact after
  | setRoot root =>
    obtain ⟨moved, same⟩ := Site.exists_setRoot site root
    exact same ▸ agrees.congr rfl rfl
  | assign | unassign | ask => exact agrees.congr rfl rfl
  | putFile | deleteFile => exact agrees

theorem Page.Agrees.run {site : Site} (agrees : site.page.Agrees) (commands : List PageCommand) :
    (site.run commands).2.page.Agrees := by
  induction commands generalizing site with
  | nil => exact agrees
  | cons command rest ih => exact ih (agrees.perform command)

/-- The tables of templates and texts agree after every run.  So an origin always has an outline
once it is divided, and no parse ever takes an answer for a text that is missing, for a block that
is to be divided, or for an origin that is not declared. -/
theorem tables_agree {settings : Settings} {hub : Hub} {files : FileTree} {page : Page}
    (created : Page.create settings hub files = .ok page) (commands : List PageCommand)
    {site : Site} (reached : (Site.run ⟨files, page⟩ commands).2 = site) :
    site.page.Agrees ∧
      (∀ files target written template error,
        site.page.dynamics.get? (Page.splitName written).2 = some template →
        (∀ parent, template.origin ≠ .block parent) →
        (Page.parse files target written site.page).1 = .error error →
          error.isUndefinedBlock = false) ∧
      ∀ otherwise files target written,
        Page.parseOr otherwise files target written site.page =
          Page.parse files target written site.page := by
  subst reached
  have start : (Site.mk files page).page.Agrees := Page.agrees_create created
  have agrees := start.run commands
  refine ⟨agrees, ?_, agrees.parseOr_eq⟩
  intro files target written template error declared noBlock failed
  exact agrees.noBlock_parse (Page.findOrigin_self declared noBlock) failed

/-- A page without templates on which few placeholders are replaced. -/
def scantPage : Page where
  settings := { root := ['.'], maxSubstitutions := 3 }

/-- Declares a form whose row shows itself, and another form with the name of that row.  Parses the
first form and a cell that it does not have. -/
def crossedCommands : List PageCommand :=
  [.defineDynamicInline "form".toList "<!-- BDP: row -->{ROW}<!-- EDP: row -->".toList,
    .defineDynamicInline "row".toList ['B'], .defineDynamic "cell".toList "form".toList,
    .parse ['X'] "form".toList, .parse ['Y'] "cell".toList]

/-- Both parses fail, and the row has taken the place of the text of the second form.  That form
cannot be parsed then, but not for want of an outline. -/
theorem tables_agree_crossedCommands :
    (Site.run ⟨{}, scantPage⟩ crossedCommands).2.page.Agrees ∧
      (Site.run ⟨{}, scantPage⟩ crossedCommands).2.page.data.get? "row".toList =
        some "{ROW}".toList ∧
      ∃ error, (Page.parse {} ['Z'] "row".toList
          (Site.run ⟨{}, scantPage⟩ crossedCommands).2.page).1 = .error error ∧
        error.isUndefinedBlock = false := by
  have created : Page.create scantPage.settings {} {} = .ok scantPage := rfl
  obtain ⟨agrees, origins, -⟩ := tables_agree created crossedCommands rfl
  have fails : (Page.parse {} ['Z'] "row".toList
      (Site.run ⟨{}, scantPage⟩ crossedCommands).2.page).1.toOption = none := by decide +kernel
  refine ⟨agrees, by decide +kernel, ?_⟩
  cases failed : (Page.parse {} ['Z'] "row".toList
      (Site.run ⟨{}, scantPage⟩ crossedCommands).2.page).1 with
  | ok value =>
    rw [failed] at fails
    cases fails
  | error error =>
    have declared : (Site.run ⟨{}, scantPage⟩ crossedCommands).2.page.dynamics.get? "row".toList =
        some ⟨.inline, false⟩ := by decide +kernel
    exact ⟨error, rfl, origins {} ['Z'] "row".toList _ error declared nofun failed⟩

end PageTemplates
