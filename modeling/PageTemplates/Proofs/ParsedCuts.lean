import PageTemplates.Page
import PageTemplates.Proofs.Actions
import PageTemplates.Proofs.Ancestry
import PageTemplates.Proofs.ScanInvariant

/-!
# What a parse divides

A parse divides at most one template, the origin of the name that is parsed,
and only if that origin has not been divided.  `Page.cut?` says which template
that is and which text is divided.  It is told apart from the parse itself, so
a run can be followed by the divisions in it.

The table of texts and the dynamic templates after a parse are those before it
with this division stored (`parse_templates`).  Whatever else a parse does, it
leaves both alone (`Keeps`).  The text a dynamic template gives is then looked
up under its name in that table (`dynamicText_outcome`).
-/

namespace PageTemplates

namespace Page

/-! ## What an action keeps -/

variable {α β γ : Type}

/-- An action leaves what a function sees of a page as it is. -/
def Keeps (view : Page → γ) (action : Rendering α) : Prop :=
  ∀ page, view (action page).2 = view page

variable {view : Page → γ}

theorem Keeps.pure (value : α) : Keeps view (Pure.pure value) := fun _ => rfl

theorem Keeps.throw (error : TemplateError) : Keeps view (throw error : Rendering α) :=
  fun _ => rfl

/-- What is done next with a value counts no more if it keeps the view. -/
theorem view_bind {action : Rendering α} {next : α → Rendering β}
    (second : ∀ value, Keeps view (next value)) (page : Page) :
    view ((action >>= next) page).2 = view (action page).2 := by
  cases done : action page with
  | mk outcome page' =>
    cases outcome with
    | ok value =>
      rw [bind_of_ok done]
      exact second value page'
    | error error => rw [bind_of_error done]

theorem Keeps.bind {action : Rendering α} {next : α → Rendering β} (first : Keeps view action)
    (second : ∀ value, Keeps view (next value)) : Keeps view (action >>= next) :=
  fun page => (view_bind second page).trans (first page)

theorem Keeps.get : Keeps view (MonadState.get : Rendering Page) := fun _ => rfl

theorem Keeps.modify {change : Page → Page} (same : ∀ page, view (change page) = view page) :
    Keeps view (modify change : Rendering Unit) := same

theorem Keeps.loading {action : Loading α}
    (same : ∀ page hub, view { page with hub := hub } = view page) :
    Keeps view (Page.loading action) := fun page => same page _

/-- The part of a page that division writes and that declarations write. -/
def templates (page : Page) : Table Text × Table DynamicTemplate := (page.data, page.dynamics)

/-- Loading a file changes nothing but the hub. -/
theorem keeps_loadFile (hubless : ∀ page hub, view { page with hub := hub } = view page)
    (files : FileTree) (path : Text) : Keeps view (loadFile files path) :=
  Keeps.get.bind fun _ => Keeps.loading hubless

/-- Getting the text of a static template changes nothing but the hub and the static templates. -/
theorem keeps_staticText (hubless : ∀ page hub, view { page with hub := hub } = view page)
    (staticless : ∀ page statics, view { page with statics := statics } = view page)
    (files : FileTree) (name : Text) (template : StaticTemplate) :
    Keeps view (staticText files name template) := by
  unfold staticText
  split
  · refine (keeps_loadFile hubless files _).bind fun content => ?_
    exact (Keeps.modify fun page => staticless page _).bind fun _ => .pure content
  · exact .pure _

theorem keeps_rawText (hubless : ∀ page hub, view { page with hub := hub } = view page)
    (files : FileTree) (origin : Text) (source : DynamicOrigin) :
    Keeps view (rawText files origin source) := by
  cases source with
  | file path => exact keeps_loadFile hubless files path
  | inline => exact Keeps.get.bind fun _ => .pure _
  | block parent => exact .throw _

theorem keeps_fill (text : Text) : Keeps view (fill text) := by
  refine Keeps.get.bind fun page => ?_
  cases substitute page.value? page.settings.maxSubstitutions text with
  | ok filled => exact .pure filled
  | error error => exact .throw error

/-- Filling in a text fails only for its limit. -/
theorem raises_fill (text : Text) : Raises Loader.NoBlock (fill text) := by
  refine Raises.get.bind fun page => ?_
  cases filled : substitute page.value? page.settings.maxSubstitutions text with
  | ok value => exact .pure value
  | error error =>
    refine .throw ?_
    rcases substitute_eq_ok_or_error with ⟨out, done⟩ | failed
    · cases filled.symm.trans done
    · cases filled.symm.trans failed
      rfl

theorem keeps_renderStatic (files : FileTree) (name : Text) (template : StaticTemplate) :
    Keeps templates (renderStatic files name template) :=
  (keeps_staticText (fun _ _ => rfl) (fun _ _ => rfl) files name template).bind keeps_fill

theorem templates_finishParse (target text : Text) (append : Bool) (page : Page) :
    (page.finishParse target text append).templates = page.templates := by
  cases append <;> rfl

theorem templates_write (target value : Text) (append : Bool) (page : Page) :
    (page.write target value append).templates = page.templates := by
  cases append <;> rfl

/-- Nothing but the namespaces changes along with what the last parse left. -/
theorem exists_replaceLast (content : Text) (name : Option Text) (page : Page) :
    ∃ namespaces, page.replaceLast content name =
      { page with namespaces := namespaces, last := content } := by
  cases name with
  | none => exact ⟨page.namespaces, rfl⟩
  | some name =>
    simp only [replaceLast]
    split
    · exact ⟨page.namespaces.insert name content, rfl⟩
    · exact ⟨page.namespaces, rfl⟩

theorem templates_replaceLast (content : Text) (name : Option Text) (page : Page) :
    (page.replaceLast content name).templates = page.templates := by
  obtain ⟨namespaces, same⟩ := exists_replaceLast content name page
  rw [same]
  rfl

end Page

/-! ## Divisions -/

/-- A template that was divided. -/
structure Cut where
  origin : Text
  /-- The text that was divided. -/
  raw : Text
  deriving DecidableEq, Repr

namespace Page

/-- Stores a division, if there is one. -/
def cutting (page : Page) : Option Cut → Page
  | none => page
  | some cut => page.storeDivision cut.origin (divide cut.raw)

/-- What asking for a dynamic template divides. -/
def cut? (files : FileTree) (name : Text) (page : Page) : Option Cut :=
  match findOrigin page.dynamics name with
  | .error _ => none
  | .ok origin =>
    match page.dynamics.get? origin with
    | none => none
    | some template =>
      if template.divided then none
      else
        match (rawText files origin template.origin page).1 with
        | .ok raw => some ⟨origin, raw⟩
        | .error _ => none

/-- What a parse divides. -/
def parsedCut? (files : FileTree) (target written : Text) (page : Page) : Option Cut :=
  match loading (Loader.dispatch (parseEvent target written)) page with
  | (.error _, _) => none
  | (.ok _, told) =>
    if told.statics.has (splitName written).2 then none else told.cut? files (splitName written).2

/-- Storing a division depends on the texts and the dynamic templates alone. -/
theorem templates_cutting {page page' : Page} (same : page'.templates = page.templates)
    (cut : Option Cut) : (page'.cutting cut).templates = (page.cutting cut).templates := by
  cases cut with
  | none => exact same
  | some cut =>
    obtain ⟨data, dynamics⟩ := Prod.mk.inj same
    simp only [templates, cutting, storeDivision, data, dynamics]

/-! ## Origins -/

variable {files : FileTree} {name origin : Text} {page : Page}

/-- The walk to an origin ends at a template that is no block. -/
theorem originWithin_eq_ok {dynamics : Table DynamicTemplate} {start : Text} {steps : Nat}
    (found : originWithin dynamics start steps name = .ok origin) :
    ∃ template, dynamics.get? origin = some template ∧
      ∀ parent, template.origin ≠ .block parent := by
  induction steps generalizing name with
  | zero => cases found
  | succ steps ih =>
    rw [originWithin] at found
    split at found
    · cases found
    · next template declared =>
      split at found
      · exact ih found
      · next noBlock =>
        cases found
        exact ⟨template, declared, noBlock⟩

theorem findOrigin_eq_ok {dynamics : Table DynamicTemplate}
    (found : findOrigin dynamics name = .ok origin) :
    ∃ template, dynamics.get? origin = some template ∧
      ∀ parent, template.origin ≠ .block parent :=
  originWithin_eq_ok found

/-- A template that is no block is its own origin. -/
theorem findOrigin_self {dynamics : Table DynamicTemplate} {template : DynamicTemplate}
    (declared : dynamics.get? name = some template)
    (noBlock : ∀ parent, template.origin ≠ .block parent) :
    findOrigin dynamics name = .ok name :=
  originWithin_of_noBlock declared noBlock

/-- A name with an origin is a dynamic template. -/
theorem has_of_findOrigin {dynamics : Table DynamicTemplate}
    (found : findOrigin dynamics name = .ok origin) : dynamics.has name = true := by
  cases declared : dynamics.get? name with
  | some template => simp [Table.has, declared]
  | none =>
    rw [findOrigin, originWithin, declared] at found
    cases found

/-! ## Dividing an origin -/

theorem ensureDivided_of_divided {template : DynamicTemplate}
    (declared : page.dynamics.get? origin = some template) (divided : template.divided = true) :
    ensureDivided files origin page = (.ok (), page) := by
  rw [ensureDivided, get_bind]
  simp only [declared, divided, if_true]
  rfl

theorem ensureDivided_of_not_divided {template : DynamicTemplate}
    (declared : page.dynamics.get? origin = some template) (divided : template.divided = false) :
    ensureDivided files origin page =
      (rawText files origin template.origin >>= fun raw =>
        (modify (storeDivision origin (divide raw)) : Rendering Unit)) page := by
  rw [ensureDivided, get_bind]
  simp only [declared, divided, Bool.false_eq_true, if_false]

theorem cut?_of_error {error : TemplateError}
    (lost : findOrigin page.dynamics name = .error error) :
    page.cut? files name = none := by
  rw [cut?, lost]

theorem cut?_of_divided {template : DynamicTemplate}
    (found : findOrigin page.dynamics name = .ok origin)
    (declared : page.dynamics.get? origin = some template) (divided : template.divided = true) :
    page.cut? files name = none := by
  simp only [cut?, found, declared, divided, if_true]

theorem cut?_of_not_divided {template : DynamicTemplate}
    (found : findOrigin page.dynamics name = .ok origin)
    (declared : page.dynamics.get? origin = some template) (divided : template.divided = false) :
    page.cut? files name =
      (rawText files origin template.origin page).1.toOption.map (Cut.mk origin) := by
  simp only [cut?, found, declared, divided, Bool.false_eq_true, if_false]
  cases (rawText files origin template.origin page).1 <;> rfl

/-- What is divided is the origin as it is declared. -/
theorem cut?_eq_some {cut : Cut} (cuts : page.cut? files name = some cut) :
    findOrigin page.dynamics name = .ok cut.origin ∧
      ∃ template, page.dynamics.get? cut.origin = some template ∧ template.divided = false ∧
        (rawText files cut.origin template.origin page).1 = .ok cut.raw := by
  unfold cut? at cuts
  split at cuts
  · cases cuts
  · next origin found =>
    split at cuts
    · cases cuts
    · next template declared =>
      split at cuts
      · cases cuts
      · next undivided =>
        split at cuts
        · next raw text =>
          cases cuts
          exact ⟨found, template, declared, by simpa using undivided, text⟩
        · cases cuts

theorem raises_rawText (files : FileTree) {source : DynamicOrigin}
    (noBlock : ∀ parent, source ≠ .block parent) :
    Raises Loader.NoBlock (rawText files origin source) := by
  cases source with
  | file path =>
    refine Raises.get.bind fun page => ?_
    intro state error failed
    exact Loader.raises_load _ path state.hub error failed
  | inline => exact Raises.get.bind fun _ => .pure _
  | block parent => exact absurd rfl (noBlock parent)

/-- All that dividing an origin can do: it finds the origin divided, divides it,
or fails for want of its text. -/
theorem ensureDivided_cases (files : FileTree)
    (found : findOrigin page.dynamics name = .ok origin) :
    (∃ template, page.dynamics.get? origin = some template ∧ template.divided = true ∧
        page.cut? files name = none ∧ ensureDivided files origin page = (.ok (), page)) ∨
      (∃ (raw : Text) (page' : Page), page.cut? files name = some ⟨origin, raw⟩ ∧
        page'.templates = page.templates ∧
        ensureDivided files origin page = (.ok (), page'.storeDivision origin (divide raw))) ∨
      ∃ (template : DynamicTemplate) (error : TemplateError) (page' : Page),
        page.dynamics.get? origin = some template ∧
        template.divided = false ∧ page.cut? files name = none ∧
        page'.templates = page.templates ∧ Loader.NoBlock error ∧
        ensureDivided files origin page = (.error error, page') := by
  obtain ⟨template, declared, noBlock⟩ := findOrigin_eq_ok found
  cases divided : template.divided with
  | true =>
    exact .inl ⟨template, declared, divided, cut?_of_divided found declared divided,
      ensureDivided_of_divided declared divided⟩
  | false =>
    have kept : (rawText files origin template.origin page).2.templates = page.templates :=
      keeps_rawText (fun _ _ => rfl) files origin template.origin page
    rw [ensureDivided_of_not_divided declared divided]
    cases loaded : rawText files origin template.origin page with
    | mk outcome page' =>
      rw [loaded] at kept
      cases outcome with
      | ok raw =>
        refine .inr (.inl ⟨raw, page', ?_, kept, bind_of_ok loaded⟩)
        rw [cut?_of_not_divided found declared divided, loaded]
        rfl
      | error error =>
        have fits := raises_rawText files noBlock page error (by rw [loaded])
        refine .inr (.inr ⟨template, error, page', declared, divided, ?_, kept, fits,
          bind_of_error loaded⟩)
        rw [cut?_of_not_divided found declared divided, loaded]
        rfl

/-- Dividing an origin leaves its division stored. -/
theorem ensureDivided_templates (files : FileTree)
    (found : findOrigin page.dynamics name = .ok origin) :
    (ensureDivided files origin page).2.templates =
      (page.cutting (page.cut? files name)).templates := by
  obtain ⟨template, -, -, cut, done⟩ | ⟨raw, page', cut, kept, done⟩ |
    ⟨template, error, page', -, -, cut, kept, -, failed⟩ := ensureDivided_cases files found
  · rw [cut, done]
    rfl
  · rw [cut, done]
    exact templates_cutting kept (some ⟨origin, raw⟩)
  · rw [cut, failed]
    exact kept

/-- Dividing an origin succeeds if it is divided then, and otherwise fails for
want of its text. -/
theorem ensureDivided_outcome (files : FileTree)
    (found : findOrigin page.dynamics name = .ok origin) :
    ∃ template, (page.cutting (page.cut? files name)).dynamics.get? origin = some template ∧
      if template.divided then (ensureDivided files origin page).1 = .ok ()
      else ∃ error, (ensureDivided files origin page).1 = .error error ∧ Loader.NoBlock error := by
  obtain ⟨template, declared, divided, cut, done⟩ | ⟨raw, page', cut, -, done⟩ |
    ⟨template, error, page', declared, divided, cut, -, fits, failed⟩ :=
      ensureDivided_cases files found
  · rw [cut, done]
    exact ⟨template, declared, by simp [divided]⟩
  · obtain ⟨template, declared, -⟩ := findOrigin_eq_ok found
    rw [cut, done]
    exact ⟨{ template with divided := true }, by simp [cutting, storeDivision, declared], rfl⟩
  · rw [cut, failed]
    exact ⟨template, declared, by simpa [divided] using fits⟩

/-! ## The text of a dynamic template -/

theorem dynamicText_of_error {error : TemplateError}
    (found : findOrigin page.dynamics name = .error error) :
    dynamicText files name page = (.error error, page) := by
  rw [dynamicText, get_bind, found]
  rfl

theorem dynamicText_of_ok (found : findOrigin page.dynamics name = .ok origin) :
    dynamicText files name page =
      (ensureDivided files origin >>= fun _ => storedText name origin) page := by
  rw [dynamicText, get_bind]
  simp only [found]

/-- What a lookup in the table of texts comes to. -/
def lookedUp (name origin : Text) : Option Text → Except TemplateError Text
  | none => .error (.undefinedBlock name origin)
  | some text => .ok text

theorem storedText_eq (name origin : Text) (page : Page) :
    storedText name origin page = (lookedUp name origin (page.data.get? name), page) := by
  rw [storedText, get_bind]
  cases page.data.get? name <;> rfl

/-- A dynamic template gives what stands under its name once its origin is
divided, and fails if the origin cannot be divided. -/
theorem dynamicText_outcome (files : FileTree)
    (found : findOrigin page.dynamics name = .ok origin) :
    ∃ template, (page.cutting (page.cut? files name)).dynamics.get? origin = some template ∧
      if template.divided then
        (dynamicText files name page).1 =
          lookedUp name origin ((page.cutting (page.cut? files name)).data.get? name)
      else ∃ error, (dynamicText files name page).1 = .error error ∧ Loader.NoBlock error := by
  obtain ⟨template, stands, outcome⟩ := ensureDivided_outcome files found
  have stored := ensureDivided_templates files found
  refine ⟨template, stands, ?_⟩
  rw [dynamicText_of_ok found]
  cases done : ensureDivided files origin page with
  | mk result page' =>
    rw [done] at outcome stored
    split
    · next divided =>
      rw [if_pos divided] at outcome
      obtain rfl : result = .ok () := outcome
      have data : page'.data = (page.cutting (page.cut? files name)).data :=
        congrArg Prod.fst stored
      rw [bind_of_ok done, storedText_eq, ← data]
    · next undivided =>
      rw [if_neg undivided] at outcome
      obtain ⟨error, failed, fits⟩ := outcome
      obtain rfl : result = .error error := failed
      rw [bind_of_error done]
      exact ⟨error, rfl, fits⟩

theorem dynamicText_templates :
    (dynamicText files name page).2.templates =
      (page.cutting (page.cut? files name)).templates := by
  cases found : findOrigin page.dynamics name with
  | error error =>
    rw [dynamicText_of_error found, cut?_of_error found]
    rfl
  | ok origin =>
    rw [dynamicText_of_ok found, ← ensureDivided_templates files found]
    refine view_bind (fun _ now => ?_) page
    rw [storedText_eq]

/-! ## A parse -/

theorem parse_of_not_announced {target written : Text} {error : TemplateError} {told : Page}
    (announced : loading (Loader.dispatch (parseEvent target written)) page =
      (.error error, told)) :
    parse files target written page = (.error error, told) := by
  rw [parse, bind_of_error announced]

theorem parse_of_announced {target written : Text} {event : Event} {told : Page}
    (announced : loading (Loader.dispatch (parseEvent target written)) page = (.ok event, told)) :
    parse files target written page =
      parseNamed files target (splitName written).2 (splitName written).1 told := by
  rw [parse, bind_of_ok announced]

/-- A dynamic template that is not also static is rendered. -/
theorem parseNamed_of_dynamic {target : Text} {append : Bool}
    (noStatic : page.statics.get? name = none) (dynamic : page.dynamics.has name = true) :
    parseNamed files target name append page =
      (renderDynamic files name >>= fun text =>
        (modify (finishParse target text append) : Rendering Unit)) page := by
  rw [parseNamed, get_bind]
  simp only [noStatic, dynamic, if_true]

/-- A name is that of a template, or of no template of either kind. -/
theorem template_or_not (page : Page) (name : Text) :
    (page.statics.has name = true ∨ page.dynamics.has name = true) ∨
      (page.statics.get? name = none ∧ page.dynamics.has name = false) := by
  cases static : page.statics.get? name with
  | some template => exact .inl (.inl (by rw [Table.has, static]; rfl))
  | none =>
    cases page.dynamics.has name with
    | true => exact .inl (.inr rfl)
    | false => exact .inr ⟨rfl, rfl⟩

/-- What is no template may be a namespace, which is copied. -/
theorem parseNamed_of_no_template {target : Text} {append : Bool}
    (noStatic : page.statics.get? name = none) (noDynamic : page.dynamics.has name = false) :
    parseNamed files target name append page =
      match page.namespace? name with
      | some value => (.ok (), page.write target value append)
      | none => (.error (.undefinedTemplate name), page) := by
  rw [parseNamed, get_bind]
  simp only [noStatic, noDynamic, Bool.false_eq_true, if_false]
  cases page.namespace? name <;> rfl

/-- A name without an origin divides nothing. -/
theorem cut?_of_undeclared (undeclared : page.dynamics.has name = false) :
    page.cut? files name = none := by
  have missing : page.dynamics.get? name = none := by
    simpa [Table.has] using undeclared
  have lost : findOrigin page.dynamics name = .error (.undefinedTemplate name) := by
    rw [findOrigin, originWithin, missing]
  exact cut?_of_error lost

theorem parseNamed_templates (target : Text) (append : Bool) :
    (parseNamed files target name append page).2.templates =
      (page.cutting (if page.statics.has name then none else page.cut? files name)).templates := by
  cases static : page.statics.get? name with
  | some template =>
    have isStatic : page.statics.has name = true := by simp [Table.has, static]
    rw [parseNamed, get_bind]
    simp only [static, isStatic, if_true]
    refine (keeps_renderStatic files name template).bind (fun text => ?_) page
    exact Keeps.modify fun page => templates_finishParse target text append page
  | none =>
    have noStatic : page.statics.has name = false := by simp [Table.has, static]
    simp only [noStatic, Bool.false_eq_true, if_false]
    cases dynamic : page.dynamics.has name with
    | true =>
      rw [parseNamed_of_dynamic static dynamic, ← dynamicText_templates]
      refine (view_bind (fun text => ?_) page).trans (view_bind keeps_fill page)
      exact Keeps.modify fun page => templates_finishParse target text append page
    | false =>
      rw [cut?_of_undeclared dynamic, parseNamed_of_no_template static dynamic]
      cases page.namespace? name with
      | none => rfl
      | some value => exact templates_write target value append page

theorem parsedCut?_of_not_announced {target written : Text} {error : TemplateError} {told : Page}
    (announced : loading (Loader.dispatch (parseEvent target written)) page =
      (.error error, told)) :
    page.parsedCut? files target written = none := by
  rw [parsedCut?, announced]

theorem parsedCut?_of_announced {target written : Text} {event : Event} {told : Page}
    (announced : loading (Loader.dispatch (parseEvent target written)) page = (.ok event, told)) :
    page.parsedCut? files target written =
      if told.statics.has (splitName written).2 then none
      else told.cut? files (splitName written).2 := by
  rw [parsedCut?, announced]

/-- A parse stores what it divides, and leaves texts and dynamic templates alone otherwise. -/
theorem parse_templates (target written : Text) :
    (parse files target written page).2.templates =
      (page.cutting (page.parsedCut? files target written)).templates := by
  cases announced : loading (Loader.dispatch (parseEvent target written)) page with
  | mk outcome told =>
    have same : told.templates = page.templates :=
      (congrArg (fun result => result.2.templates) announced).symm
    cases outcome with
    | error error =>
      rw [parse_of_not_announced announced, parsedCut?_of_not_announced announced]
      exact same
    | ok event =>
      rw [parse_of_announced announced, parseNamed_templates, parsedCut?_of_announced announced]
      exact templates_cutting same _

/-- What a parse divides is the origin of the name that is parsed. -/
theorem origin_of_parsedCut? {target written : Text} {cut : Cut}
    (cuts : page.parsedCut? files target written = some cut) :
    findOrigin page.dynamics (splitName written).2 = .ok cut.origin := by
  unfold parsedCut? at cuts
  split at cuts
  · cases cuts
  · next told announced =>
    have same : told.dynamics = page.dynamics :=
      (congrArg (fun result => result.2.dynamics) announced).symm
    split at cuts
    · cases cuts
    · exact same ▸ (cut?_eq_some cuts).1

/-- A division changes the template that is divided and no other. -/
theorem get?_dynamics_cutting (cut : Option Cut) (name : Text) (page : Page) :
    (page.cutting cut).dynamics.get? name =
      if cut.map Cut.origin = some name then
        (page.dynamics.get? name).map fun template => { template with divided := true }
      else page.dynamics.get? name := by
  cases cut with
  | none => rfl
  | some cut =>
    simp only [cutting, storeDivision, Option.map_some, Option.some.injEq]
    cases declared : page.dynamics.get? cut.origin with
    | none =>
      by_cases here : cut.origin = name
      · rw [if_pos here, ← here, declared, Option.map_none]
      · rw [if_neg here]
    | some template =>
      rw [Table.get?_insert]
      by_cases here : cut.origin = name
      · rw [if_pos here.symm, if_pos here, ← here, declared, Option.map_some]
      · rw [if_neg (Ne.symm here), if_neg here]

/-! ## A parse of a dynamic template -/

/-- A parse gets through its announcement and names a dynamic template with
this origin, and no static one. -/
structure Renders (target written name origin : Text) (page told : Page) : Prop where
  /-- The announcement succeeds. -/
  announced : ∃ event,
    loading (Loader.dispatch (parseEvent target written)) page = (.ok event, told)
  /-- The name is what is written but for a dot in front. -/
  named : (splitName written).2 = name
  /-- No static template has the name. -/
  noStatic : told.statics.get? name = none
  /-- The chain of parents of the name ends at the origin. -/
  origin : findOrigin told.dynamics name = .ok origin

/-- Without listeners a parse gets through its announcement. -/
theorem renders_of_silent {target written : Text}
    (silent : (page.hub.registry.queue EventName.parseTemplate).isEmpty = true)
    (named : (splitName written).2 = name) (noStatic : page.statics.get? name = none)
    (found : (findOrigin page.dynamics name).toOption = some origin) :
    Renders target written name origin page page where
  announced := by
    refine ⟨parseEvent target written, ?_⟩
    rw [loading, Loader.dispatch_of_silent (List.isEmpty_iff.1 silent)]
  named := named
  noStatic := noStatic
  origin := eq_ok_of_toOption found

namespace Renders

variable {target written : Text} {told : Page}
  (renders : Renders target written name origin page told)

include renders

theorem templates : told.templates = page.templates := by
  obtain ⟨event, announced⟩ := renders.announced
  exact (congrArg (fun result => result.2.templates) announced).symm

theorem data : told.data = page.data := congrArg Prod.fst renders.templates

theorem dynamics : told.dynamics = page.dynamics := congrArg Prod.snd renders.templates

theorem dynamic : told.dynamics.has name = true := has_of_findOrigin renders.origin

theorem parsedCut?_eq (files : FileTree) :
    page.parsedCut? files target written = told.cut? files name := by
  obtain ⟨event, announced⟩ := renders.announced
  rw [parsedCut?_of_announced announced, renders.named, Table.has, renders.noStatic]
  rfl

/-- The text of the template is filled in and put into the namespace. -/
theorem parse_eq (files : FileTree) : parse files target written page =
    ((dynamicText files name >>= fill) >>= fun text =>
      (modify (finishParse target text (splitName written).1) : Rendering Unit)) told := by
  obtain ⟨event, announced⟩ := renders.announced
  rw [parse_of_announced announced, renders.named,
    parseNamed_of_dynamic renders.noStatic renders.dynamic]
  rfl

/-- A parse reports a missing block exactly when the text is missing. -/
theorem parse_eq_undefinedBlock_iff (files : FileTree) (block parent : Text) :
    (parse files target written page).1 = .error (.undefinedBlock block parent) ↔
      (dynamicText files name told).1 = .error (.undefinedBlock block parent) := by
  rw [renders.parse_eq]
  cases text : dynamicText files name told with
  | mk outcome page' =>
    cases outcome with
    | error error =>
      rw [bind_of_error (bind_of_error text)]
      simp
    | ok text' =>
      have rest : (dynamicText files name >>= fill) told = fill text' page' := bind_of_ok text
      cases filled : fill text' page' with
      | mk outcome page'' =>
        rw [filled] at rest
        cases outcome with
        | ok value =>
          rw [bind_of_ok rest]
          constructor <;> intro failed <;> cases failed
        | error error =>
          have fits := raises_fill text' page' error (by rw [filled])
          rw [bind_of_error rest]
          constructor
          · intro failed
            cases failed
            cases fits
          · intro failed
            cases failed

end Renders

/-! ## The text of a template -/

/-- The text of a template, static or dynamic, before it is filled in. -/
def templateText (files : FileTree) (name : Text) : Rendering Text := do
  match (← get).statics.get? name with
  | some template => staticText files name template
  | none => dynamicText files name

theorem templateText_of_static {template : StaticTemplate}
    (static : page.statics.get? name = some template) :
    templateText files name page = staticText files name template page := by
  rw [templateText, get_bind]
  simp only [static]

theorem templateText_of_dynamic (noStatic : page.statics.get? name = none) :
    templateText files name page = dynamicText files name page := by
  rw [templateText, get_bind]
  simp only [noStatic]

/-- A template of a divided origin gives what stands under its name. -/
theorem dynamicText_of_divided {template : DynamicTemplate}
    (found : findOrigin page.dynamics name = .ok origin)
    (declared : page.dynamics.get? origin = some template) (divided : template.divided = true) :
    dynamicText files name page = (lookedUp name origin (page.data.get? name), page) := by
  rw [dynamicText_of_ok found, bind_of_ok (ensureDivided_of_divided declared divided),
    storedText_eq]

theorem fill_eq (text : Text) (page : Page) :
    fill text page = (substitute page.value? page.settings.maxSubstitutions text, page) := by
  rw [fill, get_bind]
  cases substitute page.value? page.settings.maxSubstitutions text <;> rfl

/-- A template is rendered by filling in its text, and its name need not be looked at again. -/
theorem parseNamed_of_template {target : Text} {append : Bool}
    (template : page.statics.has name = true ∨ page.dynamics.has name = true) :
    parseNamed files target name append page =
      ((templateText files name >>= fill) >>= fun text =>
        (modify (finishParse target text append) : Rendering Unit)) page := by
  cases static : page.statics.get? name with
  | some declared =>
    rw [bind_of_eq (bind_of_eq (templateText_of_static static)), parseNamed, get_bind]
    simp only [static]
    rfl
  | none =>
    have dynamic : page.dynamics.has name = true := by simpa [Table.has, static] using template
    rw [bind_of_eq (bind_of_eq (templateText_of_dynamic static)),
      parseNamed_of_dynamic static dynamic]
    rfl

end Page
end PageTemplates
