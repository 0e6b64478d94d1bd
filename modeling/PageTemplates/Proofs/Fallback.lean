import PageTemplates.PageCommand
import PageTemplates.Proofs.ParsedCuts

/-!
# Blocks that fall back

A block that was never parsed shows its own body, which is filled in where it
stands.  A block that was parsed into its variable has been filled in already,
and the result is looked at once more where it stands.  Both ways come to the
same text (`parse_after_block`).

The reason is a property of substitution.  Suppose that the value of a variable
settles to a normal text.  To put in that text at once is to put in the value
and go on with the steps that settle it, so each step of the second way stands
for one or more steps of the first (`Step.of_assigned`).  The same names have
values in both, so the same texts are normal.  Hence the second way ends, at
the same text and after no more steps (`Steps.assigned`).  This also holds
where a brace of the value closes one that stands in front of it, since steps
may be done anywhere in a text.
-/

namespace PageTemplates

namespace Substitution

/-! ## Settled values -/

/-- The lookup in which a variable has been given a value. -/
def assigned (name value : Text) (lookup : Text → Option Text) (other : Text) : Option Text :=
  if other = name then some value else lookup other

variable {lookup : Text → Option Text} {name body settled : Text}

/-- A text that is not normal has a step. -/
theorem exists_step_of_not_normal {text : Text} (unsettled : ¬ Normal lookup text) :
    ∃ next, Step lookup text next := by
  refine Classical.byContradiction fun stuck => unsettled fun before name after same named => ?_
  cases known : lookup name with
  | none => rfl
  | some value => exact absurd ⟨_, same ▸ Step.replace before after named known⟩ stuck

/-- Where a variable has a value, another value changes no normal text. -/
theorem normal_assigned_iff {text : Text} (known : lookup name = some body) :
    Normal (assigned name settled lookup) text ↔ Normal lookup text := by
  have same : ∀ other, assigned name settled lookup other = none ↔ lookup other = none := by
    intro other
    unfold assigned
    split
    · next here => simp [here, known]
    · rfl
  simp only [Normal, same]

/-- To put in what a value settles to is to put in the value and settle it there. -/
theorem Step.of_assigned {text next : Text} {k : Nat} (known : lookup name = some body)
    (settles : Steps lookup k body settled) (step : Step (assigned name settled lookup) text next) :
    ∃ n, 0 < n ∧ Steps lookup n text next := by
  cases step with
  | @replace before after other value named found =>
    unfold assigned at found
    split at found
    · next here =>
      obtain rfl := Option.some.inj found
      have inside := settles.within before after
      simp only [List.append_assoc] at inside
      exact ⟨k + 1, Nat.succ_pos k, .next (.replace before after named (here ▸ known)) inside⟩
    · exact ⟨1, Nat.one_pos, .next (.replace before after named found) (.none _)⟩

/-- A text settles to the same once a value in it has been settled, and not more slowly. -/
theorem Steps.assigned {text out : Text} {n k : Nat} (known : lookup name = some body)
    (settles : Steps lookup k body settled) (steps : Steps lookup n text out)
    (normal : Normal lookup out) :
    ∃ m ≤ n, Steps (assigned name settled lookup) m text out ∧
      Normal (Substitution.assigned name settled lookup) out := by
  have ended : Normal (Substitution.assigned name settled lookup) out :=
    normal_assigned_iff known |>.2 normal
  induction n using Nat.strongRecOn generalizing text with
  | _ n ih =>
    by_cases done : Normal (Substitution.assigned name settled lookup) text
    · obtain ⟨rfl, rfl⟩ := steps.eq_of_normal ((normal_assigned_iff known).1 done)
      exact ⟨0, Nat.le_refl 0, .none _, ended⟩
    · obtain ⟨next, step⟩ := exists_step_of_not_normal done
      obtain ⟨some, positive, taken⟩ := step.of_assigned known settles
      obtain ⟨few, rest⟩ := steps.rest_of_normal normal taken
      obtain ⟨m, fewer, later, -⟩ := ih (n - some) (by omega) rest
      exact ⟨m + 1, by omega, .next step later, ended⟩

end Substitution

namespace Page

variable {files : FileTree} {page page' : Page} {target name origin shown settled text out : Text}

/-! ## Parses without listeners -/

theorem splitName_of_dotless (dotless : name.head? ≠ some '.') :
    splitName name = (false, name) := by
  unfold splitName
  split
  · exact absurd rfl dotless
  · rfl

/-- Without listeners, a parse fills in the text of its template and puts it in place. -/
theorem parse_of_silent (silent : ∀ event, page.hub.registry.queue event = [])
    (dotless : name.head? ≠ some '.')
    (template : page.statics.has name = true ∨ page.dynamics.has name = true) :
    parse files target name page =
      ((templateText files name >>= fill) >>= fun text =>
        (modify (finishParse target text false) : Rendering Unit)) page := by
  have told : loading (Loader.dispatch (parseEvent target name)) page =
      (.ok (parseEvent target name), page) := by
    rw [loading, Loader.dispatch_of_silent (silent _)]
  rw [parse_of_announced told, splitName_of_dotless dotless, parseNamed_of_template template]

/-- A parse succeeds if the text of the template is found and can be filled in. -/
theorem parse_of_substitute (silent : ∀ event, page.hub.registry.queue event = [])
    (dotless : name.head? ≠ some '.')
    (template : page.statics.has name = true ∨ page.dynamics.has name = true)
    (found : templateText files name page = (.ok text, page'))
    (filled : substitute page'.value? page'.settings.maxSubstitutions text = .ok out) :
    parse files target name page = (.ok (), page'.finishParse target out false) := by
  have put : (templateText files name >>= fill) page = (.ok out, page') := by
    rw [bind_of_ok found, fill_eq, filled]
  rw [parse_of_silent silent dotless template, bind_of_ok put]
  rfl

/-- A parse that succeeds has found the text of the template and filled it in. -/
theorem exists_of_parse_eq_ok (silent : ∀ event, page.hub.registry.queue event = [])
    (dotless : name.head? ≠ some '.')
    (template : page.statics.has name = true ∨ page.dynamics.has name = true)
    (parsed : (parse files target name page).1 = .ok ()) :
    ∃ text page' out, templateText files name page = (.ok text, page') ∧
      substitute page'.value? page'.settings.maxSubstitutions text = .ok out := by
  rw [parse_of_silent silent dotless template] at parsed
  cases found : templateText files name page with
  | mk outcome page' =>
    cases outcome with
    | error error =>
      rw [bind_of_error (bind_of_error found)] at parsed
      cases parsed
    | ok text =>
      have filled : (templateText files name >>= fill) page =
          (substitute page'.value? page'.settings.maxSubstitutions text, page') :=
        (bind_of_ok found).trans (fill_eq text page')
      cases put : substitute page'.value? page'.settings.maxSubstitutions text with
      | error error =>
        rw [put] at filled
        rw [bind_of_error filled] at parsed
        cases parsed
      | ok out => exact ⟨text, page', out, rfl, put⟩

/-! ## A page on which a block was parsed -/

/-- What a page looks up and how far it goes in filling in a text. -/
def lookups (page : Page) : (Text → Option Text) × Nat :=
  (page.value?, page.settings.maxSubstitutions)

theorem value?_finishParse (page : Page) :
    (page.finishParse shown settled false).value? =
      Substitution.assigned shown settled page.value? := by
  funext key
  simp only [value?, finishParse, write, assign, Bool.false_eq_true, if_false, Table.get?_insert,
    Substitution.assigned]
  split <;> rfl

theorem namespace?_finishParse (page : Page) :
    (page.finishParse target text false).namespace? target = some text := by
  simp [namespace?, finishParse, write, assign]

/-- Putting a text into a namespace changes no static template, and neither does
loading a static template change what was put. -/
theorem staticText_finishParse (template : StaticTemplate) :
    staticText files name template (page.finishParse shown settled false) =
      ((staticText files name template page).1,
        (staticText files name template page).2.finishParse shown settled false) := by
  obtain ⟨source, content⟩ := template
  cases content with
  | some content => rfl
  | none =>
    cases source with
    | inline => rfl
    | file path =>
      cases loaded : (page.settings.loader files).load path page.hub with
      | mk outcome hub =>
        have here : loadFile files path page = (outcome, { page with hub := hub }) := by
          rw [loadFile, get_bind, loading, loaded]
        have there : loadFile files path (page.finishParse shown settled false) =
            (outcome, { page.finishParse shown settled false with hub := hub }) := by
          -- The parse has changed neither the settings nor the hub.
          have again : ((page.finishParse shown settled false).settings.loader files).load path
              (page.finishParse shown settled false).hub = (outcome, hub) := loaded
          rw [loadFile, get_bind, loading, again]
        simp only [staticText]
        cases outcome with
        | error error =>
          rw [bind_of_error here, bind_of_error there]
          rfl
        | ok content =>
          rw [bind_of_ok here, bind_of_ok there]
          rfl

/-- So does the text of a template whose origin is divided. -/
theorem templateText_finishParse {template : DynamicTemplate}
    (found : findOrigin page.dynamics name = .ok origin)
    (declared : page.dynamics.get? origin = some template) (divided : template.divided = true)
    (gives : templateText files name page = (.ok text, page')) :
    page'.lookups = page.lookups ∧
      templateText files name (page.finishParse shown settled false) =
        (.ok text, page'.finishParse shown settled false) := by
  cases static : page.statics.get? name with
  | some known =>
    rw [templateText_of_static static] at gives
    constructor
    · have kept : (staticText files name known page).2.lookups = page.lookups :=
        keeps_staticText (fun _ _ => rfl) (fun _ _ => rfl) files name known page
      rwa [gives] at kept
    · have still : (page.finishParse shown settled false).statics.get? name = some known := static
      rw [templateText_of_static still, staticText_finishParse, gives]
  | none =>
    rw [templateText_of_dynamic static, dynamicText_of_divided found declared divided] at gives
    obtain ⟨looked, rfl⟩ := Prod.mk.inj gives
    have still : (page.finishParse shown settled false).statics.get? name = none := static
    have origins : findOrigin (page.finishParse shown settled false).dynamics name = .ok origin :=
      found
    rw [templateText_of_dynamic still, dynamicText_of_divided origins declared divided]
    exact ⟨rfl, congrArg (·, page.finishParse shown settled false) looked⟩

/-! ## The two ways -/

/-- Let an origin be divided, and let a block of it stand in the table under its
name and under a variable that is not assigned, as its upper-cased name is.  If
the block can be parsed into the variable, and another template of the origin
into any namespace, then the second parse gives the same text behind the first. -/
theorem parse_after_block {template : DynamicTemplate} {body whole : Text}
    (silent : ∀ event, page.hub.registry.queue event = [])
    (declared : page.dynamics.get? origin = some template) (divided : template.divided = true)
    (block : findOrigin page.dynamics name = .ok origin)
    (underName : page.data.get? name = some body) (underShown : page.data.get? shown = some body)
    (unassigned : page.namespaces.get? shown = none) (noStatic : page.statics.get? name = none)
    (dotless : name.head? ≠ some '.') (wholeOrigin : findOrigin page.dynamics whole = .ok origin)
    (wholeDotless : whole.head? ≠ some '.')
    (first : (parse files shown name page).1 = .ok ())
    (alone : (parse files target whole page).1 = .ok ()) :
    (parse files target whole (parse files shown name page).2).1 = .ok () ∧
      (parse files target whole (parse files shown name page).2).2.namespace? target =
        (parse files target whole page).2.namespace? target := by
  have isDynamic : page.statics.has name = true ∨ page.dynamics.has name = true :=
    .inr (has_of_findOrigin block)
  have wholeDynamic : page.statics.has whole = true ∨ page.dynamics.has whole = true :=
    .inr (has_of_findOrigin wholeOrigin)
  -- The first parse puts the settled body under the variable.
  have given : templateText files name page = (.ok body, page) := by
    rw [templateText_of_dynamic noStatic, dynamicText_of_divided block declared divided, underName]
    rfl
  obtain ⟨body', page', settled, found, settles⟩ :=
    exists_of_parse_eq_ok silent dotless isDynamic first
  obtain ⟨sameBody, rfl⟩ := Prod.mk.inj (given.symm.trans found)
  obtain rfl := Except.ok.inj sameBody
  rw [parse_of_substitute silent dotless isDynamic given settles]
  obtain ⟨k, -, settles, -⟩ := substitute_eq_ok_iff.1 settles
  -- The other one fills in the same text with and without it.
  obtain ⟨text, page', out, gives, filled⟩ :=
    exists_of_parse_eq_ok silent wholeDotless wholeDynamic alone
  obtain ⟨same, later⟩ := templateText_finishParse wholeOrigin declared divided gives
  have values : page'.value? = page.value? := congrArg Prod.fst same
  have limit : page'.settings.maxSubstitutions = page.settings.maxSubstitutions :=
    congrArg Prod.snd same
  have known : page'.value? shown = some body := by
    rw [values, value?, unassigned, underShown]
    rfl
  rw [← values] at settles
  obtain ⟨n, few, steps, normal⟩ := substitute_eq_ok_iff.1 filled
  obtain ⟨m, fewer, steps, normal⟩ := settles.assigned known steps normal
  have refilled : substitute (page'.finishParse shown settled false).value?
      (page'.finishParse shown settled false).settings.maxSubstitutions text = .ok out := by
    rw [value?_finishParse]
    exact substitute_eq_ok_iff.2 ⟨m, Nat.le_trans fewer few, steps, normal⟩
  have quiet : ∀ event, (page.finishParse shown settled false).hub.registry.queue event = [] :=
    silent
  rw [parse_of_substitute quiet wholeDotless wholeDynamic later refilled,
    parse_of_substitute silent wholeDotless wholeDynamic gives filled]
  exact ⟨rfl, by rw [namespace?_finishParse, namespace?_finishParse]⟩

end Page

/-! ## A block that opens a brace -/

/-- A form whose row opens a brace that is closed behind the row. -/
def openForm : Text := "<!-- BDP: row -->\x7bA<!-- EDP: row -->\x7d".toList

/-- Declares the form and its row, gives the variable between the braces a value and
parses the form. -/
def openCommands : List PageCommand :=
  [.defineDynamicInline "form".toList openForm, .defineDynamic "row".toList "form".toList,
    .assign ['A'] "done".toList, .parse ['W'] "form".toList]

/-- The page after that. -/
def openPage : Page := (Site.run ⟨{}, { settings := { root := ['.'] } }⟩ openCommands).2.page

/-- The brace of the row pairs with the one behind it in both ways. -/
theorem parse_after_open_block :
    (Page.parse {} "ROW".toList "row".toList openPage).1 = .ok () ∧
      (Page.parse {} ['P'] "form".toList
        (Page.parse {} "ROW".toList "row".toList openPage).2).1 = .ok () ∧
      (Page.parse {} ['P'] "form".toList
        (Page.parse {} "ROW".toList "row".toList openPage).2).2.namespace? ['P'] =
          some "done".toList := by
  have empty : openPage.hub.registry.queues = [] := List.isEmpty_iff.1 (by decide +kernel)
  have silent : ∀ event, openPage.hub.registry.queue event = [] := fun event => by
    rw [Registry.queue, empty]
    rfl
  have declared : openPage.dynamics.get? "form".toList = some ⟨.inline, true⟩ := by decide +kernel
  have block : Page.findOrigin openPage.dynamics "row".toList = .ok "form".toList :=
    eq_ok_of_toOption (by decide +kernel)
  have whole : Page.findOrigin openPage.dynamics "form".toList = .ok "form".toList :=
    eq_ok_of_toOption (by decide +kernel)
  have underName : openPage.data.get? "row".toList = some "\x7bA".toList := by decide +kernel
  have underShown : openPage.data.get? "ROW".toList = some "\x7bA".toList := by decide +kernel
  have first : (Page.parse {} "ROW".toList "row".toList openPage).1 = .ok () :=
    eq_ok_of_toOption (by decide +kernel)
  have alone : (Page.parse {} ['P'] "form".toList openPage).1 = .ok () :=
    eq_ok_of_toOption (by decide +kernel)
  obtain ⟨succeeds, same⟩ := Page.parse_after_block silent declared rfl block underName underShown
    (by decide +kernel) (by decide +kernel) (by decide) whole (by decide) first alone
  exact ⟨first, succeeds, same.trans (by decide +kernel)⟩

end PageTemplates
