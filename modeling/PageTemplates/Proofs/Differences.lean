import PageTemplates.Proofs.LookedUpNames
import PageTemplates.Proofs.Histories

/-!
# Pages that differ

Two pages may differ in the dynamic templates of some names and in the texts
under some keys (`Difference`).  This file says when a run does not show it.

A parse looks at the templates on the way to the origin of its name, at the text
of that origin if it has to be divided, at the text under the name, and at the
texts that placeholders ask for.  If none of these may differ
(`Page.Spares`), the parse gives the same on both pages (`Page.Alike.parse`).  It
may even make them more alike, for a division stores the same texts on both
(`Difference.cutting`).  A declaration does so, too.  `Site.Spares` follows this
along a run, and `Site.Alike.run` compares the two runs.
-/

namespace PageTemplates

open Substitution

namespace Page

variable {α β : Type} {files : FileTree} {page other : Page} {name origin text : Text}

/-! ## Actions on two pages -/

/-- An action has the same outcome on two pages and leaves them in a relation. -/
def Mirrors (related : Page → Page → Prop) (action : Rendering α) (page other : Page) : Prop :=
  (action other).1 = (action page).1 ∧ related (action page).2 (action other).2

variable {related : Page → Page → Prop}

theorem Mirrors.result {action : Rendering α} {outcome : Except TemplateError α} {page' : Page}
    (mirrors : Mirrors related action page other) (done : action page = (outcome, page')) :
    ∃ other', action other = (outcome, other') ∧ related page' other' := by
  obtain ⟨same, still⟩ := mirrors
  rw [done] at same still
  exact ⟨(action other).2, Prod.ext same rfl, still⟩

theorem Mirrors.bind {action : Rendering α} {next : α → Rendering β}
    (first : Mirrors related action page other)
    (second : ∀ value page' other', action page = (.ok value, page') → related page' other' →
      Mirrors related (next value) page' other') :
    Mirrors related (action >>= next) page other := by
  cases done : action page with
  | mk outcome page' =>
    obtain ⟨other', done', still⟩ := first.result done
    unfold Mirrors
    cases outcome with
    | ok value =>
      rw [bind_of_ok done, bind_of_ok done']
      exact second value page' other' done still
    | error error =>
      rw [bind_of_error done, bind_of_error done']
      exact ⟨rfl, still⟩

theorem Mirrors.of_eq {action again : Rendering α} (mirrors : Mirrors related action page other)
    (here : again page = action page) (there : again other = action other) :
    Mirrors related again page other := by
  unfold Mirrors
  rwa [here, there]

/-- Pages on which files and static templates load alike. -/
structure LoadsAlike (page other : Page) : Prop where
  settings : other.settings = page.settings
  hub : other.hub = page.hub
  statics : other.statics = page.statics

namespace LoadsAlike

variable (alike : LoadsAlike page other)

include alike

theorem loading (action : Loading α) : Mirrors LoadsAlike (Page.loading action) page other := by
  have same : action other.hub = action page.hub := congrArg action alike.hub
  have hub : (action other.hub).2 = (action page.hub).2 := congrArg Prod.snd same
  exact ⟨congrArg (fun result => result.1) same, alike.settings, hub, alike.statics⟩

theorem loadFile (path : Text) : Mirrors LoadsAlike (Page.loadFile files path) page other := by
  have loads := alike.loading ((page.settings.loader files).load path)
  refine loads.of_eq rfl ?_
  rw [Page.loadFile, get_bind, alike.settings]

theorem staticText (template : StaticTemplate) :
    Mirrors LoadsAlike (Page.staticText files name template) page other := by
  unfold Page.staticText
  split
  · refine (alike.loadFile _).bind fun content page' other' _ alike => Mirrors.bind ?_ ?_
    · exact ⟨rfl, alike.settings, alike.hub, congrArg (Table.insert name _) alike.statics⟩
    · exact fun _ _ _ _ alike => ⟨rfl, alike⟩
  · exact ⟨rfl, alike⟩

end LoadsAlike

end Page

/-! ## Differences -/

/-- What two pages may differ in. -/
structure Difference where
  /-- The names that may have different dynamic templates. -/
  names : Text → Prop
  /-- The keys under which different texts may stand. -/
  keys : Text → Prop

namespace Difference

/-- A declaration puts the same template and the same text under a name. -/
def declaring (difference : Difference) (name : Text) : Difference where
  names other := difference.names other ∧ other ≠ name
  keys key := difference.keys key ∧ key ≠ name

/-- All that one name stands for may differ. -/
def only (name : Text) : Difference := ⟨(· = name), (· = name)⟩

/-- A division stores the same texts. -/
def cutting (difference : Difference) : Option Cut → Difference
  | none => difference
  | some cut =>
    { difference with keys := fun key => difference.keys key ∧ cut.stored? key = none }

instance : LE Difference where
  le less more :=
    (∀ name, less.names name → more.names name) ∧ ∀ key, less.keys key → more.keys key

theorem declaring_le (difference : Difference) (name : Text) :
    difference.declaring name ≤ difference :=
  ⟨fun _ differs => differs.1, fun _ differs => differs.1⟩

theorem cutting_le (difference : Difference) (cut : Option Cut) :
    difference.cutting cut ≤ difference := by
  cases cut with
  | none => exact ⟨fun _ differs => differs, fun _ differs => differs⟩
  | some cut => exact ⟨fun _ differs => differs, fun _ differs => differs.1⟩

end Difference

namespace Page

variable {files : FileTree} {page other page' other' : Page} {name origin text : Text}
  {difference : Difference}

/-- Two pages differ at most in some templates and texts.  What the last parse
left and the warnings are not compared, for no command looks at them. -/
structure Alike (difference : Difference) (page other : Page) : Prop
    extends LoadsAlike page other where
  namespaces : other.namespaces = page.namespaces
  dynamics : ∀ name, ¬ difference.names name →
    other.dynamics.get? name = page.dynamics.get? name
  data : ∀ key, ¬ difference.keys key → other.data.get? key = page.data.get? key

/-- What loading does not change. -/
def unloaded (page : Page) : Table Text × Table DynamicTemplate × Table Text :=
  (page.namespaces, page.dynamics, page.data)

namespace Alike

theorem mono {more : Difference} (alike : Alike difference page other)
    (within : difference ≤ more) : Alike more page other :=
  { alike with
    dynamics := fun name same => alike.dynamics name fun differs => same (within.1 name differs)
    data := fun key same => alike.data key fun differs => same (within.2 key differs) }

theorem refl (difference : Difference) (page : Page) : Alike difference page page :=
  { settings := rfl, hub := rfl, statics := rfl, namespaces := rfl,
    dynamics := fun _ _ => rfl, data := fun _ _ => rfl }

theorem trans {third : Page} (first : Alike difference page other)
    (second : Alike difference other third) : Alike difference page third where
  settings := second.settings.trans first.settings
  hub := second.hub.trans first.hub
  statics := second.statics.trans first.statics
  namespaces := second.namespaces.trans first.namespaces
  dynamics name same := (second.dynamics name same).trans (first.dynamics name same)
  data key same := (second.data key same).trans (first.data key same)

theorem of_unloaded (alike : Alike difference page other) (loads : LoadsAlike page' other')
    (kept : page'.unloaded = page.unloaded) (kept' : other'.unloaded = other.unloaded) :
    Alike difference page' other' := by
  simp only [unloaded, Prod.mk.injEq] at kept kept'
  obtain ⟨namespaces, dynamics, data⟩ := kept
  obtain ⟨namespaces', dynamics', data'⟩ := kept'
  refine { loads with
    namespaces := ?_
    dynamics := ?_
    data := ?_ }
  · rw [namespaces', namespaces, alike.namespaces]
  · rw [dynamics', dynamics]
    exact alike.dynamics
  · rw [data', data]
    exact alike.data

/-- Loading does the same on pages that are alike. -/
theorem of_loads {action : Rendering α} (alike : Alike difference page other)
    (loads : Mirrors LoadsAlike action page other) (kept : Keeps unloaded action) :
    Mirrors (Alike difference) action page other :=
  ⟨loads.1, alike.of_unloaded loads.2 (kept page) (kept other)⟩

theorem loading (alike : Alike difference page other) (action : Loading α) :
    Mirrors (Alike difference) (Page.loading action) page other :=
  alike.of_loads (alike.toLoadsAlike.loading action) (Keeps.loading fun _ _ => rfl)

/-- Whatever stands in a difference, a division stores over it. -/
theorem storeDivision (cut : Cut) (alike : Alike difference page other)
    (same : ¬ difference.names cut.origin) :
    Alike (difference.cutting (some cut)) (page.storeDivision cut.origin (divide cut.raw))
      (other.storeDivision cut.origin (divide cut.raw)) := by
  have here := alike.dynamics cut.origin same
  refine { alike with
    dynamics := fun name still => ?_
    data := fun key still => ?_ }
  · simp only [Page.storeDivision, here]
    cases page.dynamics.get? cut.origin with
    | none => exact alike.dynamics name still
    | some template => exact Table.get?_insert_congr fun _ => alike.dynamics name still
  · rw [get?_storeDivision, get?_storeDivision]
    cases stored : (divide cut.raw).stored? cut.origin key with
    | some text => rfl
    | none => exact alike.data key fun differs => still ⟨differs, stored⟩

end Alike

/-! ## The text of a template -/

/-- No placeholder takes its value from a text that may differ. -/
def Unasked (difference : Difference) (page : Page) (text : Text) : Prop :=
  ∀ key, difference.keys key → Asks page.value? key text → page.namespaces.has key = true

/-- Getting the text of a dynamic template looks at nothing that may differ. -/
structure Avoids (difference : Difference) (files : FileTree) (name : Text) (page : Page) :
    Prop where
  /-- The templates on the way to the origin are the same. -/
  chain : ∀ met, Meets page.dynamics met name → ¬ difference.names met
  /-- So is the text that is divided. -/
  raw : ∀ origin, findOrigin page.dynamics name = .ok origin →
    page.dynamics.get? origin = some ⟨.inline, false⟩ → ¬ difference.keys origin
  /-- So is the text under the name once the origin is divided. -/
  text : ∀ origin, findOrigin page.dynamics name = .ok origin →
    (ensureDivided files origin page).1 = .ok () →
      ¬ (difference.cutting (page.cut? files name)).keys name

/-- What a parse of a name divides. -/
def namedCut? (files : FileTree) (name : Text) (page : Page) : Option Cut :=
  if page.statics.has name then none else page.cut? files name

/-- Rendering what has a name looks at nothing that may differ. -/
structure Overlooks (difference : Difference) (files : FileTree) (name : Text) (page : Page) :
    Prop where
  found : page.statics.get? name = none → Avoids difference files name page
  filled : ∀ text page', templateText files name page = (.ok text, page') →
    Unasked (difference.cutting (page.namedCut? files name)) page' text

namespace Alike

variable (alike : Alike difference page other)

include alike

theorem rawText (files : FileTree) {source : DynamicOrigin}
    (same : source = .inline → ¬ difference.keys origin) :
    Mirrors (Alike difference) (Page.rawText files origin source) page other := by
  cases source with
  | file path =>
    exact alike.of_loads (alike.toLoadsAlike.loadFile path)
      (keeps_loadFile (fun _ _ => rfl) files path)
  | inline =>
    have text := alike.data origin (same rfl)
    exact ⟨congrArg (fun text : Option Text => Except.ok (text.getD [])) text, alike⟩
  | block parent => exact ⟨rfl, alike⟩

theorem ensureDivided (found : findOrigin page.dynamics name = .ok origin)
    (plain : ¬ difference.names origin)
    (raw : page.dynamics.get? origin = some ⟨.inline, false⟩ → ¬ difference.keys origin) :
    Mirrors (Alike (difference.cutting (page.cut? files name)))
      (Page.ensureDivided files origin) page other := by
  obtain ⟨⟨source, divided⟩, declared, -⟩ := findOrigin_eq_ok found
  -- The origin is the same, so both pages divide it or neither does.
  have there := (alike.dynamics origin plain).trans declared
  unfold Mirrors
  cases divided with
  | true =>
    rw [ensureDivided_of_divided declared rfl, ensureDivided_of_divided there rfl,
      cut?_of_divided found declared rfl]
    exact ⟨rfl, alike⟩
  | false =>
    rw [ensureDivided_of_not_divided declared rfl, ensureDivided_of_not_divided there rfl,
      cut?_of_not_divided found declared rfl]
    have plainText : source = .inline → ¬ difference.keys origin :=
      fun inline => raw (inline ▸ declared)
    cases loaded : Page.rawText files origin source page with
    | mk outcome page' =>
      obtain ⟨other', loaded', still⟩ := (alike.rawText files plainText).result loaded
      cases outcome with
      | ok raw =>
        rw [bind_of_ok loaded, bind_of_ok loaded']
        exact ⟨rfl, still.storeDivision ⟨origin, raw⟩ plain⟩
      | error error =>
        rw [bind_of_error loaded, bind_of_error loaded']
        exact ⟨rfl, still⟩

theorem findOrigin_eq (chain : ∀ met, Meets page.dynamics met name → ¬ difference.names met) :
    findOrigin other.dynamics name = findOrigin page.dynamics name :=
  findOrigin_congr fun met meets =>
    congrArg (Option.map DynamicTemplate.origin) (alike.dynamics met (chain met meets))

theorem dynamicText (avoids : Avoids difference files name page) :
    Mirrors (Alike (difference.cutting (page.cut? files name)))
      (Page.dynamicText files name) page other := by
  have origins := alike.findOrigin_eq avoids.chain
  cases found : findOrigin page.dynamics name with
  | error error =>
    have lost := origins.trans found
    unfold Mirrors
    rw [dynamicText_of_error found, dynamicText_of_error lost, cut?_of_error found]
    exact ⟨rfl, alike⟩
  | ok origin =>
    have plain := avoids.chain origin (meets_of_findOrigin found)
    refine Mirrors.of_eq ?_ (dynamicText_of_ok found) (dynamicText_of_ok (origins.trans found))
    refine (alike.ensureDivided found plain (avoids.raw origin found)).bind
      fun _ page' other' done still => ?_
    unfold Mirrors
    rw [storedText_eq, storedText_eq,
      still.data name (avoids.text origin found (congrArg Prod.fst done))]
    exact ⟨rfl, still⟩

theorem templateText (overlooks : Overlooks difference files name page) :
    Mirrors (Alike (difference.cutting (page.namedCut? files name)))
      (Page.templateText files name) page other := by
  unfold namedCut?
  cases static : page.statics.get? name with
  | some template =>
    have there : other.statics.get? name = some template := by rw [alike.statics, static]
    rw [if_pos (by simp [Table.has, static])]
    refine Mirrors.of_eq ?_ (templateText_of_static static) (templateText_of_static there)
    exact alike.of_loads (alike.toLoadsAlike.staticText template)
      (keeps_staticText (fun _ _ => rfl) (fun _ _ => rfl) files name template)
  | none =>
    have there : other.statics.get? name = none := by rw [alike.statics, static]
    rw [if_neg (by simp [Table.has, static])]
    exact (alike.dynamicText (overlooks.found static)).of_eq (templateText_of_dynamic static)
      (templateText_of_dynamic there)

theorem fill (unasked : Unasked difference page text) :
    Mirrors (Alike difference) (Page.fill text) page other := by
  have values : ∀ key, Asks page.value? key text → other.value? key = page.value? key := by
    intro key asks
    rw [value?, value?, alike.namespaces]
    by_cases differs : difference.keys key
    · obtain ⟨value, assigned⟩ := Option.isSome_iff_exists.1 (unasked key differs asks)
      rw [assigned]
      rfl
    · rw [alike.data key differs]
  unfold Mirrors
  rw [fill_eq, fill_eq, alike.settings, substitute_congr values]
  exact ⟨rfl, alike⟩

/-! ## A parse -/

theorem write (target value : Text) (append : Bool) :
    Alike difference (page.write target value append) (other.write target value append) := by
  have namespaces : (other.write target value append).namespaces =
      (page.write target value append).namespaces := by
    unfold Page.write
    split <;> simp only [assign, namespace?, alike.namespaces]
  cases append <;> exact { alike with namespaces := namespaces }

theorem finishParse (target text : Text) (append : Bool) :
    Alike difference (page.finishParse target text append)
      (other.finishParse target text append) :=
  { alike.write target text append with }

theorem parseNamed (overlooks : Overlooks difference files name page) (target : Text)
    (append : Bool) :
    Mirrors (Alike (difference.cutting (page.namedCut? files name)))
      (Page.parseNamed files target name append) page other := by
  rcases template_or_not page name with template | ⟨static, dynamic⟩
  · have there : other.statics.has name = true ∨ other.dynamics.has name = true := by
      rcases template with static | dynamic
      · exact .inl (by rw [alike.statics, static])
      · cases static : page.statics.get? name with
        | some known => exact .inl (by rw [alike.statics, Table.has, static]; rfl)
        | none =>
          have same := alike.dynamics name ((overlooks.found static).chain name .here)
          exact .inr (by rwa [Table.has, same])
    refine Mirrors.of_eq ?_ (parseNamed_of_template template) (parseNamed_of_template there)
    refine Mirrors.bind (Mirrors.bind (alike.templateText overlooks) ?_) ?_
    · exact fun text page' other' found still => still.fill (overlooks.filled text page' found)
    · exact fun text page' other' _ still => ⟨rfl, still.finishParse target text append⟩
  · have same := alike.dynamics name ((overlooks.found static).chain name .here)
    have static' : other.statics.get? name = none := by rw [alike.statics, static]
    have dynamic' : other.dynamics.has name = false := by rwa [Table.has, same]
    have nothing : page.namedCut? files name = none := by
      rw [namedCut?, cut?_of_undeclared dynamic, ite_self]
    unfold Mirrors
    rw [nothing, parseNamed_of_no_template static dynamic,
      parseNamed_of_no_template static' dynamic', namespace?, namespace?, alike.namespaces]
    cases page.namespaces.get? name with
    | none => exact ⟨rfl, alike⟩
    | some value => exact ⟨rfl, alike.write target value append⟩

/-! ## Declarations -/

theorem defineDynamic (name value : Text) :
    Alike (difference.declaring name) (page.defineDynamic name value)
      (other.defineDynamic name value) :=
  { alike with
    dynamics := fun met still => by
      simp only [Page.defineDynamic, alike.settings]
      exact Table.get?_insert_congr fun apart =>
        alike.dynamics met fun differs => still ⟨differs, apart⟩
    data := fun key still => Table.get?_erase_congr fun apart =>
      alike.data key fun differs => still ⟨differs, apart⟩ }

theorem defineDynamicInline (name content : Text) :
    Alike (difference.declaring name) (page.defineDynamicInline name content)
      (other.defineDynamicInline name content) :=
  { alike with
    dynamics := fun met still => Table.get?_insert_congr fun apart =>
      alike.dynamics met fun differs => still ⟨differs, apart⟩
    data := fun key still => Table.get?_insert_congr fun apart =>
      alike.data key fun differs => still ⟨differs, apart⟩ }

end Alike

/-- A parse looks at nothing that may differ. -/
def Spares (difference : Difference) (files : FileTree) (target written : Text) (page : Page) :
    Prop :=
  ∀ event told, loading (Loader.dispatch (parseEvent target written)) page = (.ok event, told) →
    Overlooks difference files (splitName written).2 told

/-- Without listeners, a parse looks at what it needs to render its name. -/
theorem spares_of_silent {target written : Text} (silent : page.hub.Silent)
    (overlooks : Overlooks difference files (splitName written).2 page) :
    Spares difference files target written page := by
  intro event told announced
  rw [loading, Loader.dispatch_of_silent (silent _)] at announced
  cases announced
  exact overlooks

/-- A parse that looks at nothing that may differ gives the same on both pages. -/
theorem Alike.parse {target written : Text} (alike : Alike difference page other)
    (spares : Spares difference files target written page) :
    Mirrors (Alike (difference.cutting (page.parsedCut? files target written)))
      (Page.parse files target written) page other := by
  cases announced : Page.loading (Loader.dispatch (parseEvent target written)) page with
  | mk outcome told =>
    obtain ⟨told', announced', still⟩ :=
      (alike.loading (Loader.dispatch (parseEvent target written))).result announced
    unfold Mirrors
    cases outcome with
    | error error =>
      rw [parse_of_not_announced announced, parse_of_not_announced announced',
        parsedCut?_of_not_announced announced]
      exact ⟨rfl, still⟩
    | ok event =>
      rw [parse_of_announced announced, parse_of_announced announced',
        parsedCut?_of_announced announced]
      exact still.parseNamed (spares event told announced) target (splitName written).1

/-- A name that is no variable is used by the parses whose chain meets it, and by no others. -/
theorem spares_only {target written : Text} (noVariable : Name.isVariable name = false)
    (chain : ∀ met, Meets page.dynamics met (splitName written).2 → met ≠ name) :
    Spares (.only name) files target written page := by
  intro event told announced
  have same : told.dynamics = page.dynamics :=
    (congrArg (fun result => result.2.dynamics) announced).symm
  rw [← same] at chain
  refine ⟨fun _ => ⟨chain, ?_, ?_⟩, ?_⟩
  · exact fun origin found _ => chain origin (meets_of_findOrigin found)
  · exact fun origin found _ differs => chain _ .here ((Difference.cutting_le _ _).2 _ differs)
  · rintro text page' - key differs asks
    obtain rfl : key = name := (Difference.cutting_le _ _).2 key differs
    rw [asks.isVariable] at noVariable
    cases noVariable

/-- A parse that names a dynamic template does so on both pages. -/
theorem Alike.renders {target written : Text} {told : Page} (alike : Alike difference page other)
    (renders : Renders target written name origin page told)
    (chain : ∀ met, Meets page.dynamics met name → ¬ difference.names met) :
    ∃ told', Alike difference told told' ∧ Renders target written name origin other told' := by
  obtain ⟨event, announced⟩ := renders.announced
  obtain ⟨told', announced', still⟩ :=
    (alike.loading (Loader.dispatch (parseEvent target written))).result announced
  rw [← renders.dynamics] at chain
  exact ⟨told', still,
    { announced := ⟨event, announced'⟩
      named := renders.named
      noStatic := by rw [still.statics, renders.noStatic]
      origin := (still.findOrigin_eq chain).trans renders.origin }⟩

end Page

/-! ## Runs -/

/-- What may still differ behind a command. -/
def Difference.behind (difference : Difference) (site : Site) (command : PageCommand) :
    Difference :=
  match command.declared? with
  | some name => difference.declaring name
  | none => difference.cutting (site.cut? command)

theorem Difference.behind_le (difference : Difference) (site : Site) (command : PageCommand) :
    difference.behind site command ≤ difference := by
  unfold behind
  cases command.declared? with
  | some name => exact difference.declaring_le name
  | none => exact difference.cutting_le _

namespace Site

variable {site other : Site} {difference : Difference} {command : PageCommand}

/-- Two sites have the same files, and their pages differ at most in some
templates and texts. -/
structure Alike (difference : Difference) (site other : Site) : Prop where
  files : other.files = site.files
  page : Page.Alike difference site.page other.page

/-- A command looks at nothing that may differ.  Only a parse looks at dynamic
templates and their texts at all. -/
def Ignores (difference : Difference) (site : Site) : PageCommand → Prop
  | .parse target written => Page.Spares difference site.files target written site.page
  | _ => True

/-- No command of a run looks at anything that may still differ when its turn comes. -/
def Spares : Difference → Site → List PageCommand → Prop
  | _, _, [] => True
  | difference, site, command :: rest =>
    site.Ignores difference command ∧
      Spares (difference.behind site command) (site.perform command).2 rest

theorem Alike.parse {target written : Text} (alike : Alike difference site other)
    (ignores : site.Ignores difference (.parse target written)) :
    (other.perform (.parse target written)).1 = (site.perform (.parse target written)).1 ∧
      Alike (difference.cutting (site.cut? (.parse target written)))
        (site.perform (.parse target written)).2 (other.perform (.parse target written)).2 := by
  simp only [Site.perform, alike.files]
  cases parsed : Page.parse site.files target written site.page with
  | mk outcome page =>
    obtain ⟨page', parsed', still⟩ := (alike.page.parse ignores).result parsed
    rw [parsed']
    cases outcome with
    | ok _ => exact ⟨rfl, rfl, still⟩
    | error error => exact ⟨rfl, rfl, still⟩

/-- A command that looks at nothing that may differ answers the same on both sites. -/
theorem Alike.perform (alike : Alike difference site other)
    (ignores : site.Ignores difference command) :
    (other.perform command).1 = (site.perform command).1 ∧
      Alike (difference.behind site command) (site.perform command).2
        (other.perform command).2 := by
  have ⟨files, page⟩ := alike
  cases command with
  | parse target written => exact alike.parse ignores
  | defineDynamic name value => exact ⟨rfl, files, page.defineDynamic name value⟩
  | defineDynamicInline name text => exact ⟨rfl, files, page.defineDynamicInline name text⟩
  | assign name value =>
    have namespaces := congrArg (Table.insert name value) page.namespaces
    exact ⟨rfl, files, { page with namespaces := namespaces }⟩
  | unassign name =>
    have namespaces := congrArg (Table.erase name) page.namespaces
    exact ⟨rfl, files, { page with namespaces := namespaces }⟩
  | define name path | defineInline name content =>
    exact ⟨rfl, files, { page with statics := congrArg (Table.insert name _) page.statics }⟩
  | replaceLast content name =>
    refine ⟨rfl, files, ?_⟩
    cases name with
    | none => exact { page with }
    | some name =>
      simp only [Site.perform, onPage, Page.replaceLast, page.namespaces]
      split
      · exact { page with namespaces := congrArg (Table.insert name content) page.namespaces }
      · exact { page with }
  | setRoot root =>
    simp only [Site.perform, Page.setRoot, files, page.settings]
    cases ({ site.page.settings with root := root } : Settings).validate site.files with
    | ok _ => exact ⟨rfl, rfl, { page with settings := rfl }⟩
    | error error => exact ⟨rfl, files, page⟩
  | ask operation =>
    have same : Hub.performOperation operation other.page.hub =
        Hub.performOperation operation site.page.hub := congrArg _ page.hub
    have hub : (Hub.performOperation operation other.page.hub).2 =
        (Hub.performOperation operation site.page.hub).2 := congrArg Prod.snd same
    have reply : (Hub.performOperation operation other.page.hub).1 =
        (Hub.performOperation operation site.page.hub).1 := congrArg Prod.fst same
    exact ⟨congrArg Answer.replied reply, files, { page with hub := hub }⟩
  | putFile path contents =>
    exact ⟨rfl, congrArg (FileTree.place path (.file contents)) files, page⟩
  | deleteFile path => exact ⟨rfl, congrArg (FileTree.delete path) files, page⟩

theorem Alike.refl (difference : Difference) (site : Site) : Alike difference site site :=
  ⟨rfl, .refl difference site.page⟩

theorem Alike.mono {more : Difference} (alike : Alike difference site other)
    (within : difference ≤ more) : Alike more site other :=
  ⟨alike.files, alike.page.mono within⟩

/-- A run that looks at nothing that may differ answers the same on both sites. -/
theorem Alike.run {commands : List PageCommand} (alike : Alike difference site other)
    (spares : site.Spares difference commands) :
    (other.run commands).1 = (site.run commands).1 ∧
      Alike difference (site.run commands).2 (other.run commands).2 := by
  induction commands generalizing difference site other with
  | nil => exact ⟨rfl, alike⟩
  | cons command rest ih =>
    obtain ⟨ignores, later⟩ := spares
    obtain ⟨answer, still⟩ := alike.perform ignores
    obtain ⟨answers, ends⟩ := ih still later
    simp only [run_cons, answer, answers]
    exact ⟨trivial, ends.mono (difference.behind_le site command)⟩

/-- Where nothing differs, nothing is looked at that does. -/
theorem spares_of_same {commands : List PageCommand} (names : ∀ name, ¬ difference.names name)
    (keys : ∀ key, ¬ difference.keys key) : site.Spares difference commands := by
  induction commands generalizing difference site with
  | nil => trivial
  | cons command rest ih =>
    have less := difference.behind_le site command
    refine ⟨?_, ih (fun name differs => names name (less.1 name differs))
      fun key differs => keys key (less.2 key differs)⟩
    cases command with
    | parse target written =>
      intro event told announced
      refine ⟨fun _ => ⟨fun met _ => names met, fun origin _ _ => keys origin, ?_⟩, ?_⟩
      · exact fun origin _ _ differs => keys _ ((difference.cutting_le _).2 _ differs)
      · intro text page' _ key differs
        exact absurd ((difference.cutting_le _).2 key differs) (keys key)
    | _ => trivial

end Site
end PageTemplates
