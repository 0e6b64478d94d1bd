import PageTemplates.Proofs.Slots
import PageTemplates.Proofs.Differences
import PageTemplates.Proofs.NotesIgnored

/-!
# Files are loaded once

A parse loads a file if the slot of its name is empty and has a file
(`Page.Loads`).  If that succeeds the slot is full, and no command empties it but a
declaration of the template that it belongs to.  So every later parse of a name with this
slot takes what is at hand, and the loader has no part in it (`Site.HasAtHand`).
If it fails the slot stays empty, and every later parse of such a name loads
the file again (`Site.Fetches`).

Two runs may therefore differ in what becomes of the files.  As long as no file
is loaded in either of them, or only in vain and without an effect on the
listeners, their pages stay the same but for the template root
(`Page.Twin.parse`), and the parses that find their slot full come to the same
(`loaded_once`).
-/

namespace PageTemplates

namespace PageCommand

/-- Whether a command declares the template that a slot belongs to. -/
def declares (slot : Slot) : PageCommand → Bool
  | .define name _ | .defineInline name _ => slot = .static name
  | .defineDynamic name _ | .defineDynamicInline name _ => slot = .division name
  | _ => false

/-- Whether a command changes the files and nothing else. -/
def changesFiles : PageCommand → Bool
  | .putFile _ _ | .deleteFile _ => true
  | _ => false

end PageCommand

/-- The same commands, but for changes to the files. -/
inductive DifferInFiles : (first second : List PageCommand) → Prop where
  | nil : DifferInFiles [] []
  | both {first second : List PageCommand} (command : PageCommand)
      (rest : DifferInFiles first second) : DifferInFiles (command :: first) (command :: second)
  | left {first second : List PageCommand} {command : PageCommand}
      (changes : command.changesFiles = true) (rest : DifferInFiles first second) :
      DifferInFiles (command :: first) second
  | right {first second : List PageCommand} {command : PageCommand}
      (changes : command.changesFiles = true) (rest : DifferInFiles first second) :
      DifferInFiles first (command :: second)

namespace Page

variable {files other files' : FileTree} {page told page' : Page} {target written name path : Text}
  {slot : Slot}

/-! ## Loads -/

/-- A parse gets through its announcement and finds the slot of its name empty, with a file at this
path. -/
structure Loads (target written : Text) (slot : Slot) (path : Text) (page told : Page) : Prop where
  announced : ∃ event,
    loading (Loader.dispatch (parseEvent target written)) page = (.ok event, told)
  needed : told.slot? (splitName written).2 = some slot
  empty : told.pending? slot = some (.file path)

/-- An announcement leaves what is pending. -/
theorem Loads.pending? (loads : Loads target written slot path page told) :
    page.pending? slot = some (.file path) := by
  obtain ⟨event, announced⟩ := loads.announced
  have same : told.pending? slot = page.pending? slot :=
    (congrArg (fun result => result.2.pending? slot) announced).symm.trans
      (pending?_hub page _ slot)
  exact same.symm.trans loads.empty

theorem Loads.slot? (loads : Loads target written slot path page told) :
    page.slot? (splitName written).2 = some slot := by
  obtain ⟨event, announced⟩ := loads.announced
  have same : told.slot? (splitName written).2 = page.slot? (splitName written).2 :=
    (congrArg (fun result => result.2.slot? (splitName written).2) announced).symm
  exact same.symm.trans loads.needed

/-- A parse that loads a file for a slot. -/
def parseLoading (files : FileTree) (slot : Slot) (path target written : Text) :
    Rendering Unit := do
  let _ ← loading (Loader.dispatch (parseEvent target written))
  let text ← loadFile files path
  modify fun page => page.store text slot
  attempt (rendered target (splitName written).2 (splitName written).1)

/-- With a full slot nothing is loaded. -/
theorem parse_of_full (needed : page.slot? (splitName written).2 = some slot)
    (full : page.pending? slot = none) :
    parse files target written page = parseAtHand target written page := by
  rw [parse_eq_cache, parseAtHand]
  obtain ⟨event, hub, announced⟩ | ⟨error, hub, announced⟩ := announced_cases target written page
  · have asked := (slot?_hub (splitName written).2 page hub).trans needed
    have still := (pending?_hub page hub slot).trans full
    rw [bind_of_ok announced, bind_of_ok announced, bind_of_ok (cache_of_full asked still)]
  · rw [bind_of_error announced, bind_of_error announced]

/-- With an empty slot of a file the file is loaded. -/
theorem parse_of_empty (needed : page.slot? (splitName written).2 = some slot)
    (empty : page.pending? slot = some (.file path)) :
    parse files target written page = parseLoading files slot path target written page := by
  rw [parse_eq_cache, parseLoading]
  obtain ⟨event, hub, announced⟩ | ⟨error, hub, announced⟩ := announced_cases target written page
  · have asked := (slot?_hub (splitName written).2 page hub).trans needed
    have still := (pending?_hub page hub slot).trans empty
    have loads := (cache_of_slot asked).trans (@cacheSlot_of_pending files _ _ _ still)
    rw [bind_of_ok announced, bind_of_ok announced, bind_of_eq loads, bind_assoc]
    rfl
  · rw [bind_of_error announced, bind_of_error announced]

/-- A load leaves what is pending, as long as its text is not stored. -/
theorem Loads.pending?_loadFile (loads : Loads target written slot path page told)
    {outcome : Except TemplateError Text} {loaded : Page}
    (got : loadFile files path told = (outcome, loaded)) :
    loaded.pending? slot = some (.file path) := by
  obtain ⟨hub, same⟩ := exists_fetch files (.file path) told
  obtain rfl : { told with hub := hub } = loaded := same.symm.trans (congrArg Prod.snd got)
  exact (pending?_hub told hub slot).trans loads.empty

/-- A load that succeeds fills the slot. -/
theorem Loads.parse_of_ok {text : Text} {loaded : Page}
    (loads : Loads target written slot path page told)
    (got : loadFile files path told = (.ok text, loaded)) :
    parse files target written page =
      attempt (rendered target (splitName written).2 (splitName written).1)
        (loaded.store text slot) := by
  obtain ⟨event, announced⟩ := loads.announced
  have cached : cache files (splitName written).2 told = (.ok (), loaded.store text slot) := by
    rw [cache_of_slot loads.needed, cacheSlot_of_pending loads.empty]
    exact bind_of_ok got
  rw [parse_eq_cache, bind_of_ok announced, bind_of_ok cached]

/-- A load that fails makes the parse fail, and leaves the slot empty. -/
theorem Loads.parse_of_error {error : TemplateError} {failed : Page}
    (loads : Loads target written slot path page told)
    (lost : loadFile files path told = (.error error, failed)) :
    parse files target written page = (.error error, failed) := by
  obtain ⟨event, announced⟩ := loads.announced
  have stopped : cache files (splitName written).2 told = (.error error, failed) := by
    rw [cache_of_slot loads.needed, cacheSlot_of_pending loads.empty]
    exact bind_of_error lost
  rw [parse_eq_cache, bind_of_ok announced, bind_of_error stopped]

/-! ## Slots along a parse -/

/-- What is pending for a slot depends on the templates and on their texts. -/
theorem pending?_congr (statics : page'.statics = page.statics)
    (dynamics : page'.dynamics = page.dynamics) (data : page'.data = page.data) :
    page'.pending? slot = page.pending? slot := by
  cases slot <;> simp only [pending?, statics, dynamics, data]

/-- Filling one slot leaves the others as they are, but for those that wait for a text on the
page. -/
theorem pending?_store_other {other : Slot} {text : Text} (apart : other ≠ slot)
    (noText : ∀ text, page.pending? slot ≠ some (.inline text)) :
    (page.store text other).pending? slot = page.pending? slot := by
  cases other with
  | static filled =>
    cases known : page.statics.get? filled with
    | none => simp only [store, known]
    | some template =>
      cases slot with
      | static name =>
        have differ : name ≠ filled := fun here => apart (congrArg Slot.static here.symm)
        simp only [store, known, pending?, Table.get?_insert, if_neg differ]
      | division origin => simp only [store, known, pending?]
  | division filled =>
    cases slot with
    | static name => rfl
    | division origin =>
      have differ : origin ≠ filled := fun here => apart (congrArg Slot.division here.symm)
      have same : (page.storeDivision filled (divide text)).dynamics.get? origin =
          page.dynamics.get? origin := by
        simp only [storeDivision]
        split
        · rw [Table.get?_insert, if_neg differ]
        · rfl
      simp only [store, pending?] at noText ⊢
      rw [same]
      split
      · rfl
      · next declared => exact absurd (by rw [declared]) (noText _)
      · rfl

/-- A parse that is announced leaves the templates as the slot of its name has left them. -/
theorem exists_parse (files : FileTree) {event : Event} {target written : Text}
    (announced : loading (Loader.dispatch (parseEvent target written)) page = (.ok event, told)) :
    ∃ namespaces last, (parse files target written page).2 =
      { (cache files (splitName written).2 told).2 with
        namespaces := namespaces, last := last } := by
  rw [parse_eq_cache, bind_of_ok announced]
  cases cached : cache files (splitName written).2 told with
  | mk outcome kept =>
    cases outcome with
    | error error =>
      rw [bind_of_error cached]
      exact ⟨kept.namespaces, kept.last, rfl⟩
    | ok value =>
      rw [bind_of_ok cached]
      exact exists_attempt target (splitName written).2 (splitName written).1 kept

/-- A parse leaves a slot as it is, or loads its file. -/
theorem pending?_parse (files : FileTree) (target written : Text)
    (noText : ∀ text, page.pending? slot ≠ some (.inline text)) :
    (parse files target written page).2.pending? slot = page.pending? slot ∨
      ∃ path told text loaded, Loads target written slot path page told ∧
        loadFile files path told = (.ok text, loaded) := by
  obtain ⟨event, hub, announced⟩ | ⟨error, hub, announced⟩ := announced_cases target written page
  · obtain ⟨namespaces, last, same⟩ := exists_parse files announced
    have caches := caches_cache files (splitName written).2 { page with hub := hub }
    rw [same]
    generalize (cache files (splitName written).2 { page with hub := hub }).2 = kept at caches
    have shown : ({ kept with namespaces := namespaces, last := last } : Page).pending? slot =
        kept.pending? slot := pending?_congr rfl rfl rfl
    rw [shown]
    cases caches with
    | nothing hub' => exact .inl (pending?_congr rfl rfl rfl)
    | @text filled pending text hub' needed empty got =>
      by_cases here : filled = slot
      · subst here
        cases pending with
        | file path => exact .inr ⟨path, _, text, _, ⟨⟨event, announced⟩, needed, empty⟩, got⟩
        | inline text' => exact absurd empty (noText text')
      · have still := pending?_hub page hub' slot
        exact .inl ((pending?_store_other here (still.symm ▸ noText)).trans still)
  · rw [parse_of_not_announced announced]
    exact .inl (pending?_hub page hub slot)

end Page

/-! ## Slots along a run -/

/-- A property of every step of a run. -/
def Site.Throughout (holds : Site → PageCommand → Prop) : Site → List PageCommand → Prop
  | _, [] => True
  | site, command :: rest =>
    holds site command ∧ (site.perform command).2.Throughout holds rest

namespace Site

variable {site : Site} {slot : Slot} {path : Text} {command : PageCommand}
  {commands : List PageCommand}

/-- If the command loads a file for the slot, that fails. -/
def FailsFor (slot : Slot) (site : Site) (command : PageCommand) : Prop :=
  ∀ target written path told, command = .parse target written →
    site.page.Loads target written slot path told →
      ∃ error, (Page.loadFile site.files path told).1 = .error error

/-- Every parse of a name with the slot takes what is at hand, whatever the files are. -/
def HasAtHand (slot : Slot) (site : Site) : Prop :=
  ∀ files target written, site.page.slot? (Page.splitName written).2 = some slot →
    Page.parse files target written site.page = Page.parseAtHand target written site.page

/-- Every parse of a name with the slot loads its file, whatever the files are. -/
def Fetches (slot : Slot) (path : Text) (site : Site) : Prop :=
  ∀ files target written, site.page.slot? (Page.splitName written).2 = some slot →
    Page.parse files target written site.page =
      Page.parseLoading files slot path target written site.page

/-- A slot that does not wait for a text on the page stays as it is, unless its template is
declared or its file is loaded. -/
theorem pending?_perform (undeclared : command.declares slot = false)
    (noText : ∀ text, site.page.pending? slot ≠ some (.inline text)) :
    (site.perform command).2.page.pending? slot = site.page.pending? slot ∨
      ∃ target written path told text loaded, command = .parse target written ∧
        site.page.Loads target written slot path told ∧
        Page.loadFile site.files path told = (.ok text, loaded) := by
  cases command with
  | parse target written =>
    rw [perform_parse_page]
    refine (Page.pending?_parse site.files target written noText).imp_right ?_
    rintro ⟨path, told, text, loaded, loads, got⟩
    exact ⟨target, written, path, told, text, loaded, rfl, loads, got⟩
  | define name path | defineInline name content =>
    refine .inl ?_
    cases slot with
    | static own =>
      have apart : own ≠ name := fun here => by simp [PageCommand.declares, here] at undeclared
      simp only [perform, onPage, Page.define, Page.defineInline, Page.pending?,
        Table.get?_insert, if_neg apart]
    | division own => rfl
  | defineDynamic name value | defineDynamicInline name content =>
    refine .inl ?_
    cases slot with
    | static own => rfl
    | division own =>
      have apart : own ≠ name := fun here => by simp [PageCommand.declares, here] at undeclared
      simp only [perform, onPage, Page.defineDynamic, Page.defineDynamicInline, Page.pending?,
        Table.get?_insert, Table.get?_erase, if_neg apart]
  | replaceLast content name =>
    obtain ⟨namespaces, same⟩ := Page.exists_replaceLast content name site.page
    exact .inl (by simp only [perform, onPage, same]; exact Page.pending?_congr rfl rfl rfl)
  | setRoot root =>
    refine .inl ?_
    simp only [perform, Page.setRoot]
    cases ({ site.page.settings with root := root } : Settings).validate site.files with
    | ok value => exact Page.pending?_congr rfl rfl rfl
    | error error => rfl
  | assign | unassign | ask => exact .inl (Page.pending?_congr rfl rfl rfl)
  | putFile | deleteFile => exact .inl rfl

/-- A full slot stays full. -/
theorem full_perform (full : site.page.pending? slot = none)
    (undeclared : command.declares slot = false) :
    (site.perform command).2.page.pending? slot = none := by
  have noText : ∀ text, site.page.pending? slot ≠ some (.inline text) := by simp [full]
  obtain same | ⟨_, _, path, told, _, _, _, loads, _⟩ := pending?_perform undeclared noText
  · exact same.trans full
  · cases loads.pending?.symm.trans full

theorem full_run (full : site.page.pending? slot = none)
    (undeclared : ∀ command ∈ commands, command.declares slot = false) :
    (site.run commands).2.page.pending? slot = none := by
  induction commands generalizing site with
  | nil => exact full
  | cons command rest ih =>
    exact ih (full_perform full (undeclared command (List.mem_cons_self ..)))
      fun other member => undeclared other (List.mem_cons_of_mem command member)

/-- An empty slot stays empty while its file cannot be loaded. -/
theorem empty_run (empty : site.page.pending? slot = some (.file path))
    (undeclared : ∀ command ∈ commands, command.declares slot = false)
    (fails : site.Throughout (FailsFor slot) commands) :
    (site.run commands).2.page.pending? slot = some (.file path) := by
  induction commands generalizing site with
  | nil => exact empty
  | cons command rest ih =>
    have noText : ∀ text, site.page.pending? slot ≠ some (.inline text) := by simp [empty]
    have still : (site.perform command).2.page.pending? slot = some (.file path) := by
      obtain same | ⟨target, written, path', told, text, loaded, parses, loads, got⟩ :=
        pending?_perform (undeclared command (List.mem_cons_self ..)) noText
      · exact same.trans empty
      · obtain ⟨error, lost⟩ := fails.1 target written path' told parses loads
        rw [got] at lost
        cases lost
    exact ih still (fun other member => undeclared other (List.mem_cons_of_mem command member))
      fails.2

end Site

/-! ## Two runs -/

namespace Page

/-- Pages that are the same but for the template root and for what listeners have noted. -/
structure Twin (page other : Page) : Prop where
  settings : ∃ root, other.settings = { page.settings with root := root }
  registry : other.hub.registry = page.hub.registry
  statics : other.statics = page.statics
  dynamics : other.dynamics = page.dynamics
  data : other.data = page.data
  namespaces : other.namespaces = page.namespaces
  last : other.last = page.last

variable {files files' : FileTree} {page other : Page} {target written name : Text} {slot : Slot}

theorem Twin.refl (page : Page) : Twin page page :=
  ⟨⟨page.settings.root, rfl⟩, rfl, rfl, rfl, rfl, rfl, rfl⟩

namespace Twin

variable (twin : Twin page other)

include twin

theorem slot? (name : Text) : other.slot? name = page.slot? name := by
  simp only [Page.slot?, twin.statics, twin.dynamics]

theorem pending? (slot : Slot) : other.pending? slot = page.pending? slot :=
  pending?_congr twin.statics twin.dynamics twin.data

theorem of_hub {hub hub' : Hub} (same : hub'.registry = hub.registry) :
    Twin { page with hub := hub } { other with hub := hub' } :=
  ⟨twin.settings, same, twin.statics, twin.dynamics, twin.data, twin.namespaces, twin.last⟩

theorem write (target value : Text) (append : Bool) :
    Twin (page.write target value append) (other.write target value append) := by
  have put : ∀ text, Twin (page.assign target text) (other.assign target text) := fun text =>
    { twin with namespaces := congrArg (Table.insert target text) twin.namespaces }
  cases append with
  | false => exact put value
  | true =>
    have before : other.namespace? target = page.namespace? target :=
      congrArg (Table.get? target) twin.namespaces
    simp only [Page.write, if_true, before]
    exact put _

theorem finishParse (target text : Text) (append : Bool) :
    Twin (page.finishParse target text append) (other.finishParse target text append) := by
  have written := twin.write target text append
  have value : (other.write target text append).namespace? target =
      (page.write target text append).namespace? target :=
    congrArg (Table.get? target) written.namespaces
  exact { written with last := congrArg (Option.getD · []) value }

theorem filledAtHand (name : Text) : other.filledAtHand name = page.filledAtHand name := by
  obtain ⟨root, settings⟩ := twin.settings
  have text : other.textAtHand name = page.textAtHand name := by
    simp only [textAtHand, twin.statics, twin.dynamics, twin.data]
  have values : other.value? = page.value? := by
    funext key
    simp only [value?, twin.namespaces, twin.data]
  simp only [Page.filledAtHand, text, values, settings]

/-- What is at hand is rendered alike. -/
theorem attempt (target name : Text) (append : Bool) :
    Mirrors Twin (Page.attempt (rendered target name append)) page other := by
  have filled := twin.filledAtHand name
  have value : other.namespace? name = page.namespace? name :=
    congrArg (Table.get? name) twin.namespaces
  unfold Mirrors
  simp only [Page.attempt, rendered, twin.statics, twin.dynamics, filled, value]
  by_cases template : (page.statics.has name || page.dynamics.has name) = true
  · simp only [if_pos template]
    cases page.filledAtHand name with
    | error error => exact ⟨rfl, twin⟩
    | ok text => exact ⟨rfl, twin.finishParse target text append⟩
  · simp only [if_neg template]
    cases page.namespace? name with
    | none => exact ⟨rfl, twin⟩
    | some value => exact ⟨rfl, twin.write target value append⟩

theorem store (text : Text) (slot : Slot) :
    Twin (page.store text slot) (other.store text slot) := by
  cases slot with
  | static name =>
    simp only [Page.store, twin.statics]
    cases page.statics.get? name with
    | none => exact twin
    | some template => exact { twin with statics := rfl }
  | division origin =>
    exact { twin with
      dynamics := by simp only [Page.store, storeDivision, twin.dynamics]
      data := by simp only [Page.store, storeDivision, twin.data] }

/-- Announcements come to the same, since the same listeners hear them. -/
theorem announced (target written : Text) :
    Mirrors Twin (loading (Loader.dispatch (parseEvent target written))) page other := by
  obtain ⟨outcome, registry⟩ := Loader.heeds_dispatch (parseEvent target written) twin.registry
  exact ⟨outcome, twin.of_hub registry⟩

end Twin

/-- A load that fails, and leaves the listeners registered as they were. -/
def InVain (files : FileTree) (path : Text) (page : Page) : Prop :=
  (∃ error, (loadFile files path page).1 = .error error) ∧
    (loadFile files path page).2.hub.registry = page.hub.registry

theorem InVain.exists_failed {path : Text} (vain : InVain files path page) :
    ∃ error hub, loadFile files path page = (.error error, { page with hub := hub }) ∧
      hub.registry = page.hub.registry := by
  obtain ⟨⟨error, failed⟩, registry⟩ := vain
  exact ⟨error, (loadFile files path page).2.hub, Prod.ext failed rfl, registry⟩

/-- Where nothing is loaded the slot is filled alike, and where a file is loaded in vain neither
slot is filled. -/
theorem Twin.cache (twin : Twin page other) (files files' : FileTree)
    (vain : ∀ slot path, page.slot? name = some slot → page.pending? slot = some (.file path) →
      InVain files path page ∧ InVain files' path other) :
    Twin (cache files name page).2 (cache files' name other).2 ∧
      (Page.cache files' name other).1.toOption = (Page.cache files name page).1.toOption := by
  cases needed : page.slot? name with
  | none =>
    rw [cache_of_no_slot needed, cache_of_no_slot ((twin.slot? name).trans needed)]
    exact ⟨twin, rfl⟩
  | some slot =>
    have needed' := (twin.slot? name).trans needed
    have same := twin.pending? slot
    cases pends : page.pending? slot with
    | none =>
      rw [cache_of_full needed pends, cache_of_full needed' (same.trans pends)]
      exact ⟨twin, rfl⟩
    | some pending =>
      rw [cache_of_slot needed, cache_of_slot needed', cacheSlot_of_pending pends,
        cacheSlot_of_pending (same.trans pends)]
      cases pending with
      | inline text => exact ⟨twin.store text slot, rfl⟩
      | file path =>
        obtain ⟨vain, vain'⟩ := vain slot path needed pends
        obtain ⟨error, hub, failed, registry⟩ := vain.exists_failed
        obtain ⟨error', hub', failed', registry'⟩ := vain'.exists_failed
        have listeners := registry'.trans (twin.registry.trans registry.symm)
        rw [fetch, fetch, bind_of_error failed, bind_of_error failed']
        exact ⟨twin.of_hub listeners, rfl⟩

/-- A parse that loads nothing comes to the same on both pages. -/
theorem Twin.parseAtHand (twin : Twin page other) (target written : Text) :
    Mirrors Twin (parseAtHand target written) page other :=
  (twin.announced target written).bind fun _ _ _ _ still => still.attempt target _ _

/-- A parse leaves two pages the same if it loads nothing but in vain. -/
theorem Twin.parse (twin : Twin page other)
    (vain : ∀ slot path told, Loads target written slot path page told → InVain files path told)
    (vain' : ∀ slot path told, Loads target written slot path other told →
      InVain files' path told) :
    Twin (parse files target written page).2 (parse files' target written other).2 := by
  rw [parse_eq_cache, parse_eq_cache]
  cases announced : loading (Loader.dispatch (parseEvent target written)) page with
  | mk outcome told =>
    obtain ⟨told', announced', still⟩ := (twin.announced target written).result announced
    cases outcome with
    | error error =>
      rw [bind_of_error announced, bind_of_error announced']
      exact still
    | ok event =>
      rw [bind_of_ok announced, bind_of_ok announced']
      obtain ⟨kept, alike⟩ := still.cache files files' fun slot path needed empty =>
        ⟨vain slot path told ⟨⟨event, announced⟩, needed, empty⟩,
          vain' slot path told' ⟨⟨event, announced'⟩, (still.slot? _).trans needed,
            (still.pending? slot).trans empty⟩⟩
      cases cached : Page.cache files (splitName written).2 told with
      | mk outcome page' =>
        cases cached' : Page.cache files' (splitName written).2 told' with
        | mk outcome' other' =>
          rw [cached, cached'] at kept alike
          cases outcome with
          | error error =>
            cases outcome' with
            | error error' =>
              rw [bind_of_error cached, bind_of_error cached']
              exact kept
            | ok value => cases alike
          | ok value =>
            cases outcome' with
            | error error' => cases alike
            | ok value' =>
              rw [bind_of_ok cached, bind_of_ok cached']
              exact (kept.attempt target _ _).2

end Page

/-- What a parse came to, and what shows of the page then. -/
structure ParseResult where
  answer : Site.Answer
  namespaces : Table Text
  last : Text

namespace Site

variable {site other after : Site} {slot : Slot} {command : PageCommand}
  {first second : List PageCommand}

/-- If the command loads a file, it does so in vain. -/
def LoadsInVain (site : Site) (command : PageCommand) : Prop :=
  ∀ target written slot path told, command = .parse target written →
    site.page.Loads target written slot path told → Page.InVain site.files path told

/-- A parse of a name whose slot is full loads nothing. -/
theorem loadsInVain_of_full {target written : Text}
    (needed : site.page.slot? (Page.splitName written).2 = some slot)
    (full : site.page.pending? slot = none) : site.LoadsInVain (.parse target written) := by
  intro target' written' slot' path told parses loads
  cases parses
  obtain rfl : slot = slot' := Option.some.inj (needed.symm.trans loads.slot?)
  cases full.symm.trans loads.pending?

/-- Whether a command parses a name with the slot. -/
def asksFor (slot : Slot) (site : Site) : PageCommand → Bool
  | .parse _ written => site.page.slot? (Page.splitName written).2 = some slot
  | _ => false

/-- The results of the parses of names with the slot. -/
def resultsFor (slot : Slot) : Site → List PageCommand → List ParseResult
  | _, [] => []
  | site, command :: rest =>
    let (answer, after) := site.perform command
    let later := after.resultsFor slot rest
    if site.asksFor slot command then ⟨answer, after.page.namespaces, after.page.last⟩ :: later
    else later

theorem page_perform_of_changesFiles (changes : command.changesFiles = true) :
    (site.perform command).2.page = site.page := by
  cases command with
  | putFile | deleteFile => rfl
  | _ => cases changes

theorem asksFor_of_changesFiles (changes : command.changesFiles = true) :
    site.asksFor slot command = false := by
  cases command with
  | putFile | deleteFile => rfl
  | _ => cases changes

/-- Moving the template root changes no other setting, and nothing else. -/
theorem exists_setRoot (site : Site) (root : Text) :
    ∃ moved, (site.perform (.setRoot root)).2.page =
      { site.page with settings := { site.page.settings with root := moved } } := by
  simp only [perform, Page.setRoot]
  cases ({ site.page.settings with root := root } : Settings).validate site.files with
  | ok value => exact ⟨root, rfl⟩
  | error error => exact ⟨site.page.settings.root, rfl⟩

/-- A command leaves two pages the same if it loads nothing but in vain. -/
theorem twin_perform (twin : Page.Twin site.page other.page) (vain : site.LoadsInVain command)
    (vain' : other.LoadsInVain command) :
    Page.Twin (site.perform command).2.page (other.perform command).2.page := by
  cases command with
  | parse target written =>
    rw [perform_parse_page, perform_parse_page]
    exact twin.parse (fun slot path told => vain target written slot path told rfl)
      fun slot path told => vain' target written slot path told rfl
  | assign name value =>
    exact { twin with namespaces := congrArg (Table.insert name value) twin.namespaces }
  | unassign name =>
    exact { twin with namespaces := congrArg (Table.erase name) twin.namespaces }
  | define name path | defineInline name content =>
    exact { twin with statics := congrArg (Table.insert name _) twin.statics }
  | defineDynamic name value =>
    obtain ⟨root, settings⟩ := twin.settings
    have file : other.page.settings.isTemplateFile value =
        site.page.settings.isTemplateFile value := by
      rw [settings]
      rfl
    simp only [perform, onPage, Page.defineDynamic, file]
    exact { twin with
      dynamics := congrArg (Table.insert name _) twin.dynamics
      data := congrArg (Table.erase name) twin.data }
  | defineDynamicInline name content =>
    exact { twin with
      dynamics := congrArg (Table.insert name _) twin.dynamics
      data := congrArg (Table.insert name content) twin.data }
  | replaceLast content name =>
    cases name with
    | none => exact { twin with last := rfl }
    | some name =>
      simp only [perform, onPage, Page.replaceLast, twin.namespaces]
      split
      · exact { twin with
          namespaces := congrArg (Table.insert name content) twin.namespaces
          last := rfl }
      · exact { twin with last := rfl }
  | setRoot root =>
    obtain ⟨here, moved⟩ := exists_setRoot site root
    obtain ⟨there, moved'⟩ := exists_setRoot other root
    obtain ⟨old, settings⟩ := twin.settings
    rw [moved, moved']
    exact { twin with settings := ⟨there, by rw [settings]⟩ }
  | ask operation =>
    obtain ⟨-, registry⟩ := Hub.heeds_performOperation operation _ _ twin.registry
    exact { twin with registry := registry }
  | putFile | deleteFile => exact twin

theorem asksFor_eq (twin : Page.Twin site.page other.page) (command : PageCommand) :
    other.asksFor slot command = site.asksFor slot command := by
  cases command with
  | parse target written => simp only [asksFor, twin.slot?]
  | _ => rfl

theorem answer_perform_parse {target written : Text}
    (same : (Page.parse other.files target written other.page).1 =
      (Page.parse site.files target written site.page).1) :
    (other.perform (.parse target written)).1 = (site.perform (.parse target written)).1 := by
  simp only [perform]
  cases here : Page.parse site.files target written site.page with
  | mk outcome page =>
    cases there : Page.parse other.files target written other.page with
    | mk outcome' page' =>
      rw [here, there] at same
      obtain rfl : outcome' = outcome := same
      cases outcome' <;> rfl

/-- A parse of a name whose slot is full answers the same on pages that are the same. -/
theorem answer_of_full (twin : Page.Twin site.page other.page)
    (full : site.page.pending? slot = none) (asks : site.asksFor slot command = true) :
    (other.perform command).1 = (site.perform command).1 := by
  cases command with
  | parse target written =>
    have needed : site.page.slot? (Page.splitName written).2 = some slot := by
      simpa [asksFor] using asks
    refine answer_perform_parse ?_
    rw [Page.parse_of_full needed full,
      Page.parse_of_full ((twin.slot? _).trans needed) ((twin.pending? slot).trans full)]
    exact (twin.parseAtHand target written).1
  | _ => cases asks

theorem resultsFor_cons (site : Site) (slot : Slot) (command : PageCommand)
    (rest : List PageCommand) :
    site.resultsFor slot (command :: rest) =
      if site.asksFor slot command then
        ⟨(site.perform command).1, (site.perform command).2.page.namespaces,
          (site.perform command).2.page.last⟩ :: (site.perform command).2.resultsFor slot rest
      else (site.perform command).2.resultsFor slot rest := rfl

/-- The parses of names whose slot is full come to the same on pages that are the same. -/
theorem resultsFor_eq (twin : Page.Twin site.page other.page)
    (full : site.page.pending? slot = none) (differ : DifferInFiles first second)
    (undeclared : ∀ command ∈ first, command.declares slot = false)
    (vain : site.Throughout LoadsInVain first) (vain' : other.Throughout LoadsInVain second) :
    site.resultsFor slot first = other.resultsFor slot second := by
  induction differ generalizing site other with
  | nil => rfl
  | both command differ ih =>
    have after := twin_perform twin vain.1 vain'.1
    have later := ih after (full_perform full (undeclared command (List.mem_cons_self ..)))
      (fun other member => undeclared other (List.mem_cons_of_mem command member)) vain.2 vain'.2
    rw [resultsFor_cons, resultsFor_cons, asksFor_eq twin, later]
    split
    · next asks => rw [answer_of_full twin full asks, after.namespaces, after.last]
    · rfl
  | @left first second command changes differ ih =>
    have same := @page_perform_of_changesFiles site command changes
    rw [resultsFor_cons, asksFor_of_changesFiles changes]
    exact ih (same.symm ▸ twin) (same.symm ▸ full)
      (fun other member => undeclared other (List.mem_cons_of_mem command member)) vain.2 vain'
  | @right first second command changes differ ih =>
    have same := @page_perform_of_changesFiles other command changes
    rw [resultsFor_cons, asksFor_of_changesFiles changes]
    exact ih (same.symm ▸ twin) full undeclared vain vain'.2

end Site

/-- A file that has been loaded is not loaded again, and one that could not be loaded is.

Once the file of a slot is loaded, whatever then comes of the parse, every later parse of a name
with this slot takes what is at hand, until the template of the slot is declared again.  So what
becomes of the files does not show in these parses, as long as no other file is loaded.  A load in
vain does not count if it leaves the listeners registered as they were.

If the file cannot be loaded the parse fails, and every later parse of a name with this slot loads
the file, until that succeeds or the template is declared again. -/
theorem loaded_once {site after : Site} {target written path : Text} {slot : Slot} {told : Page}
    (loads : site.page.Loads target written slot path told)
    (parsed : (site.perform (.parse target written)).2 = after) :
    (∀ text loaded, Page.loadFile site.files path told = (.ok text, loaded) →
      (∀ between, (∀ command ∈ between, command.declares slot = false) →
        (after.run between).2.HasAtHand slot) ∧
      ∀ first second, DifferInFiles first second →
        (∀ command ∈ first, command.declares slot = false) →
          after.Throughout Site.LoadsInVain first → after.Throughout Site.LoadsInVain second →
            after.resultsFor slot first = after.resultsFor slot second) ∧
    (∀ error failed, Page.loadFile site.files path told = (.error error, failed) →
      (site.perform (.parse target written)).1 = .failed error ∧
      ∀ between, (∀ command ∈ between, command.declares slot = false) →
        after.Throughout (Site.FailsFor slot) between →
          (after.run between).2.Fetches slot path) := by
  subst parsed
  constructor
  · intro text loaded got
    have full : (site.perform (.parse target written)).2.page.pending? slot = none := by
      rw [Site.perform_parse_page, loads.parse_of_ok got]
      obtain ⟨namespaces, last, same⟩ := Page.exists_attempt target (Page.splitName written).2
        (Page.splitName written).1 (loaded.store text slot)
      have filled := Page.pending?_store (loads.pending?_loadFile got) text
      rw [same]
      exact (Page.pending?_congr rfl rfl rfl).trans filled
    refine ⟨fun between undeclared files target written needed => ?_, ?_⟩
    · exact Page.parse_of_full needed (Site.full_run full undeclared)
    · intro first second differ undeclared vain vain'
      exact Site.resultsFor_eq (Page.Twin.refl _) full differ undeclared vain vain'
  · intro error failed lost
    have stops := loads.parse_of_error lost
    have empty : (site.perform (.parse target written)).2.page.pending? slot =
        some (.file path) := by
      rw [Site.perform_parse_page, stops]
      exact loads.pending?_loadFile lost
    refine ⟨by simp only [Site.perform, stops], ?_⟩
    intro between undeclared fails files target written needed
    exact Page.parse_of_empty needed (Site.empty_run empty undeclared fails)

/-- A page with a note in a file. -/
def notePage : Page where
  settings := { root := ['.'] }
  statics := [("note".toList, ⟨.file "note.tpl".toList, none⟩)]

/-- The note in its file. -/
def noteFiles : FileTree where
  nodes := [(["note.tpl".toList], .file (.text ['N']))]

theorem loads_notePage (target : Text) :
    notePage.Loads target "note".toList (.static "note".toList) "note.tpl".toList notePage where
  announced := ⟨_, Page.announced_of_silent target "note".toList fun _ => rfl⟩
  needed := rfl
  empty := rfl

/-- A note that was loaded is shown when its file is gone.  A note that has no file is looked for
again. -/
theorem loaded_once_notePage :
    (Page.loadFile noteFiles "note.tpl".toList notePage).1.toOption = some ['N'] ∧
      ((Site.mk noteFiles notePage).perform (.parse ['X'] "note".toList)).2.resultsFor
          (.static "note".toList) [.deleteFile "note.tpl".toList, .parse ['Y'] "note".toList] =
        ((Site.mk noteFiles notePage).perform (.parse ['X'] "note".toList)).2.resultsFor
          (.static "note".toList) [.parse ['Y'] "note".toList] ∧
      (Page.loadFile {} "note.tpl".toList notePage).1.toOption = none ∧
      (((Site.mk {} notePage).perform (.parse ['X'] "note".toList)).2.run
        [.putFile "note.tpl".toList (.text ['N'])]).2.Fetches (.static "note".toList)
          "note.tpl".toList := by
  have present : (Page.loadFile noteFiles "note.tpl".toList notePage).1.toOption = some ['N'] := by
    decide +kernel
  have absent : (Page.loadFile {} "note.tpl".toList notePage).1.toOption = none := by
    decide +kernel
  refine ⟨present, ?_, absent, ?_⟩
  · have got : Page.loadFile noteFiles "note.tpl".toList notePage =
        (.ok ['N'], (Page.loadFile noteFiles "note.tpl".toList notePage).2) :=
      Prod.ext (eq_ok_of_toOption present) rfl
    obtain ⟨-, agree⟩ := (@loaded_once ⟨noteFiles, notePage⟩ _ ['X'] _ _ _ _
      (loads_notePage ['X']) rfl).1 ['N'] _ got
    have full : ((Site.mk noteFiles notePage).perform (.parse ['X'] "note".toList)).2.page.pending?
        (.static "note".toList) = none := by decide +kernel
    have needed : ((Site.mk noteFiles notePage).perform (.parse ['X'] "note".toList)).2.page.slot?
        "note".toList = some (.static "note".toList) := by decide +kernel
    refine agree _ _ (.left rfl (.both _ .nil)) (by decide) ⟨?_, ?_, trivial⟩ ⟨?_, trivial⟩
    · intro target written slot path told parses
      cases parses
    · exact Site.loadsInVain_of_full needed full
    · exact Site.loadsInVain_of_full needed full
  · cases lost : Page.loadFile {} "note.tpl".toList notePage with
    | mk outcome failed =>
      rw [lost] at absent
      cases outcome with
      | ok text => cases absent
      | error error =>
        obtain ⟨-, retried⟩ := (@loaded_once ⟨{}, notePage⟩ _ ['X'] _ _ _ _
          (loads_notePage ['X']) rfl).2 error failed lost
        refine retried _ (by decide) ⟨?_, trivial⟩
        intro target written path told parses
        cases parses

end PageTemplates
