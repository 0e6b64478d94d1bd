import PageTemplates.Proofs.ParseInvariants

/-!
# What a parse caches

A text is got once, when a parse first needs it, and has a *slot* on the page
from then on: a static template keeps the text of its file, and an origin keeps
its division.  A parse is announced, then the slot of its name is filled if it is
empty, and then everything else is done with what the page has at hand
(`parse_eq_cache`).  That last part needs no files, runs no listeners and is a function
of the page alone (`Page.rendered`).

Before a parse renders anything it can fill one slot (`Page.Caches`).  That leaves
the settings, the namespaces and what the templates are declared to be
(`Page.Similar`).  It says nothing of the texts of dynamic templates, since a
division writes into the table of all of them.  Without listeners a slot is filled
once and for all (`cache_again`).
-/

namespace PageTemplates

/-- Where a page keeps a text that it has got. -/
inductive Slot where
  /-- The content of a static template. -/
  | static (name : Text)
  /-- The division of an origin. -/
  | division (origin : Text)
  deriving DecidableEq, Repr

/-- Where the text for an empty slot is to be had. -/
inductive Pending where
  | file (path : Text)
  /-- On the page. -/
  | inline (text : Text)
  deriving DecidableEq, Repr

/-- A static template as it was declared, without the text of its file. -/
def StaticTemplate.declared (template : StaticTemplate) : StaticTemplate :=
  match template.origin with
  | .file path => ⟨.file path, none⟩
  | .inline => template

namespace Page

/-! ## Slots -/

/-- The slot of the text that a parse of a name needs. -/
def slot? (name : Text) (page : Page) : Option Slot :=
  if page.statics.has name then some (.static name)
  else (findOrigin page.dynamics name).toOption.map Slot.division

/-- What is still to be got for a slot. -/
def pending? (page : Page) : Slot → Option Pending
  | .static name =>
    match page.statics.get? name with
    | some ⟨.file path, none⟩ => some (.file path)
    | _ => none
  | .division origin =>
    match page.dynamics.get? origin with
    | some ⟨.file path, false⟩ => some (.file path)
    | some ⟨.inline, false⟩ => some (.inline ((page.data.get? origin).getD []))
    | _ => none

/-- Fills a slot with a text. -/
def store (page : Page) (text : Text) : Slot → Page
  | .static name =>
    match page.statics.get? name with
    | some template =>
      { page with statics := page.statics.insert name { template with content := some text } }
    | none => page
  | .division origin => page.storeDivision origin (divide text)

/-- Gets a text. -/
def fetch (files : FileTree) : Pending → Rendering Text
  | .file path => loadFile files path
  | .inline text => pure text

/-- Fills a slot if it is empty. -/
def cacheSlot (files : FileTree) (slot : Slot) : Rendering Unit := do
  match (← get).pending? slot with
  | none => pure ()
  | some pending => do
    let text ← fetch files pending
    modify fun page => page.store text slot

/-- Fills the slot of a name if it is empty. -/
def cache (files : FileTree) (name : Text) : Rendering Unit := do
  match (← get).slot? name with
  | none => pure ()
  | some slot => cacheSlot files slot

/-! ## Rendering what is at hand -/

/-- The text of a template, if its slot is full. -/
def textAtHand (name : Text) (page : Page) : Except TemplateError Text :=
  match page.statics.get? name with
  | some template => .ok (template.content.getD [])
  | none =>
    match findOrigin page.dynamics name with
    | .error error => .error error
    | .ok origin => lookedUp name origin (page.data.get? name)

/-- The text of a template with its placeholders replaced, if its slot is full. -/
def filledAtHand (name : Text) (page : Page) : Except TemplateError Text :=
  match page.textAtHand name with
  | .error error => .error error
  | .ok text => substitute page.value? page.settings.maxSubstitutions text

/-- The page after a parse of a name whose slot is full. -/
def rendered (target name : Text) (append : Bool) (page : Page) : Except TemplateError Page :=
  if page.statics.has name || page.dynamics.has name then
    (page.filledAtHand name).map fun text => page.finishParse target text append
  else
    match page.namespace? name with
    | some value => .ok (page.write target value append)
    | none => .error (.undefinedTemplate name)

/-- Looks at the page. -/
def reading {α : Type} (look : Page → Except TemplateError α) : Rendering α := fun page =>
  (look page, page)

/-- Changes the page, or fails and leaves it. -/
def attempt (change : Page → Except TemplateError Page) : Rendering Unit := fun page =>
  match change page with
  | .ok changed => (.ok (), changed)
  | .error error => (.error error, page)

/-- A parse that takes what is at hand. -/
def parseAtHand (target written : Text) : Rendering Unit := do
  let _ ← loading (Loader.dispatch (parseEvent target written))
  attempt (rendered target (splitName written).2 (splitName written).1)

/-! ## What stays -/

/-- Two pages differ in the texts of dynamic templates, in the texts that were got and in the
listeners at most. -/
structure Similar (page page' : Page) : Prop where
  settings : page'.settings = page.settings
  namespaces : page'.namespaces = page.namespaces
  last : page'.last = page.last
  statics : ∀ name, (page'.statics.get? name).map StaticTemplate.declared =
    (page.statics.get? name).map StaticTemplate.declared
  dynamics : ∀ name, (page'.dynamics.get? name).map DynamicTemplate.origin =
    (page.dynamics.get? name).map DynamicTemplate.origin

/-- All that the slot of a name can do to a page: it stays as it is, or it was empty and is
filled. -/
inductive Caches (files : FileTree) (name : Text) (page : Page) : (page' : Page) → Prop where
  | nothing (hub : Hub) : Caches files name page { page with hub := hub }
  | text {slot : Slot} {pending : Pending} {text : Text} {hub : Hub}
      (needed : page.slot? name = some slot) (empty : page.pending? slot = some pending)
      (got : fetch files pending page = (.ok text, { page with hub := hub })) :
      Caches files name page ({ page with hub := hub }.store text slot)

variable {files : FileTree} {page page' page'' : Page} {target written name text : Text}
  {slot : Slot}
  {append : Bool}

namespace Similar

theorem refl (page : Page) : Similar page page := ⟨rfl, rfl, rfl, fun _ => rfl, fun _ => rfl⟩

theorem of_hub (page : Page) (hub : Hub) : Similar page { page with hub := hub } :=
  ⟨rfl, rfl, rfl, fun _ => rfl, fun _ => rfl⟩

theorem trans (first : Similar page page') (second : Similar page' page'') :
    Similar page page'' where
  settings := second.settings.trans first.settings
  namespaces := second.namespaces.trans first.namespaces
  last := second.last.trans first.last
  statics name := (second.statics name).trans (first.statics name)
  dynamics name := (second.dynamics name).trans (first.dynamics name)

variable (similar : Similar page page')

include similar

theorem hasStatic (name : Text) : page'.statics.has name = page.statics.has name := by
  have same := congrArg Option.isSome (similar.statics name)
  rwa [Option.isSome_map, Option.isSome_map] at same

theorem hasDynamic (name : Text) : page'.dynamics.has name = page.dynamics.has name := by
  have same := congrArg Option.isSome (similar.dynamics name)
  rwa [Option.isSome_map, Option.isSome_map] at same

theorem findOrigin (name : Text) :
    Page.findOrigin page'.dynamics name = Page.findOrigin page.dynamics name :=
  findOrigin_congr fun met _ => similar.dynamics met

theorem slot? (name : Text) : page'.slot? name = page.slot? name := by
  rw [Page.slot?, Page.slot?, similar.hasStatic, similar.findOrigin]

end Similar

/-! ## Filling a slot -/

/-- The listeners have no part in what is pending. -/
theorem pending?_hub (page : Page) (hub : Hub) (slot : Slot) :
    ({ page with hub := hub } : Page).pending? slot = page.pending? slot := by
  cases slot <;> rfl

/-- Getting a text changes nothing but the hub. -/
theorem exists_fetch (files : FileTree) (pending : Pending) (page : Page) :
    ∃ hub, (fetch files pending page).2 = { page with hub := hub } := by
  cases pending with
  | file path => exact ⟨_, rfl⟩
  | inline text => exact ⟨page.hub, rfl⟩

theorem cacheSlot_of_full (full : page.pending? slot = none) :
    cacheSlot files slot page = (.ok (), page) := by
  rw [cacheSlot, get_bind]
  simp only [full]
  rfl

theorem cacheSlot_of_pending {pending : Pending} (empty : page.pending? slot = some pending) :
    cacheSlot files slot page = (fetch files pending >>= fun text =>
      (modify fun page => page.store text slot : Rendering Unit)) page := by
  rw [cacheSlot, get_bind]
  simp only [empty]

/-- All that filling a slot can do. -/
theorem cacheSlot_cases (files : FileTree) (slot : Slot) (page : Page) :
    (page.pending? slot = none ∧ cacheSlot files slot page = (.ok (), page)) ∨
      (∃ (pending : Pending) (text : Text) (hub : Hub), page.pending? slot = some pending ∧
        fetch files pending page = (.ok text, { page with hub := hub }) ∧
        cacheSlot files slot page = (.ok (), { page with hub := hub }.store text slot)) ∨
      ∃ (pending : Pending) (error : TemplateError) (hub : Hub),
        page.pending? slot = some pending ∧
        fetch files pending page = (.error error, { page with hub := hub }) ∧
        cacheSlot files slot page = (.error error, { page with hub := hub }) := by
  cases empty : page.pending? slot with
  | none => exact .inl ⟨rfl, cacheSlot_of_full empty⟩
  | some pending =>
    rw [cacheSlot_of_pending empty]
    obtain ⟨hub, told⟩ := exists_fetch files pending page
    cases got : fetch files pending page with
    | mk outcome page' =>
      obtain rfl : page' = { page with hub := hub } := by rw [← told, got]
      cases outcome with
      | ok text => exact .inr (.inl ⟨pending, text, hub, rfl, got, bind_of_ok got⟩)
      | error error => exact .inr (.inr ⟨pending, error, hub, rfl, got, bind_of_error got⟩)

theorem cache_of_slot (needed : page.slot? name = some slot) :
    cache files name page = cacheSlot files slot page := by
  rw [cache, get_bind]
  simp only [needed]

theorem cache_of_no_slot (needless : page.slot? name = none) :
    cache files name page = (.ok (), page) := by
  rw [cache, get_bind]
  simp only [needless]
  rfl

theorem cache_of_full (needed : page.slot? name = some slot) (full : page.pending? slot = none) :
    cache files name page = (.ok (), page) := by
  rw [cache_of_slot needed, cacheSlot_of_full full]

/-- Only what can be declared in a file or by a text is pending. -/
theorem similar_store {pending : Pending} (empty : page.pending? slot = some pending)
    (text : Text) : Similar page (page.store text slot) := by
  cases slot with
  | static name =>
    simp only [pending?] at empty
    split at empty
    · next path declared =>
      simp only [store, declared]
      refine ⟨rfl, rfl, rfl, fun other => ?_, fun _ => rfl⟩
      rw [Table.get?_insert]
      split
      · next here => rw [here, declared]; rfl
      · rfl
    · cases empty
  | division origin =>
    refine ⟨rfl, rfl, rfl, fun _ => rfl, fun other => ?_⟩
    simp only [store, storeDivision]
    cases declared : page.dynamics.get? origin with
    | none => rfl
    | some template =>
      rw [Table.get?_insert]
      split
      · next here => rw [here, declared]; rfl
      · rfl

/-- A slot that is filled stays full. -/
theorem pending?_store {pending : Pending} (empty : page.pending? slot = some pending)
    (text : Text) : (page.store text slot).pending? slot = none := by
  cases slot with
  | static name =>
    simp only [pending?] at empty
    split at empty
    · next path declared => simp [store, pending?, declared]
    · cases empty
  | division origin =>
    simp only [pending?] at empty
    split at empty
    · next path declared => simp [store, storeDivision, pending?, declared]
    · next declared => simp [store, storeDivision, pending?, declared]
    · cases empty

theorem caches_cache (files : FileTree) (name : Text) (page : Page) :
    Caches files name page (cache files name page).2 := by
  cases needed : page.slot? name with
  | none =>
    rw [cache_of_no_slot needed]
    exact .nothing page.hub
  | some slot =>
    rw [cache_of_slot needed]
    obtain ⟨-, done⟩ | ⟨pending, text, hub, empty, got, done⟩ |
      ⟨pending, error, hub, -, -, failed⟩ := cacheSlot_cases files slot page
    · rw [done]
      exact .nothing page.hub
    · rw [done]
      exact .text needed empty got
    · rw [failed]
      exact .nothing hub

theorem Caches.similar (caches : Caches files name page page') : Similar page page' := by
  cases caches with
  | nothing hub => exact .of_hub page hub
  | @text slot pending text hub needed empty got =>
    have still := (pending?_hub page hub slot).trans empty
    exact (Similar.of_hub page hub).trans (similar_store still text)

/-- Without listeners, filling a slot again comes to the same and changes nothing. -/
theorem cache_again (silent : page.hub.Silent) :
    cache files name (cache files name page).2 =
      ((cache files name page).1, (cache files name page).2) := by
  cases needed : page.slot? name with
  | none => rw [cache_of_no_slot needed, cache_of_no_slot needed]
  | some slot =>
    have same := (caches_cache files name page).similar.slot? name
    rw [cache_of_slot needed] at same ⊢
    obtain ⟨full, done⟩ | ⟨pending, text, hub, empty, got, done⟩ |
      ⟨pending, error, hub, empty, failed, stopped⟩ := cacheSlot_cases files slot page
    · rw [done, cache_of_full needed full]
    · rw [done] at same ⊢
      have still := (pending?_hub page hub slot).trans empty
      exact cache_of_full (same.trans needed) (pending?_store still text)
    · rw [stopped]
      have quiet : hub = page.hub := by
        cases pending with
        | file path =>
          have kept := Loader.preserves_load silent (page.settings.loader files) path page.hub rfl
          exact (congrArg (fun result => result.2.hub) failed).symm.trans kept
        | inline text => cases failed
      subst quiet
      rw [cache_of_slot needed, stopped]

/-! ## A parse, slot first -/

/-- Dividing an origin fills its slot. -/
theorem ensureDivided_eq {origin : Text} (found : findOrigin page.dynamics name = .ok origin) :
    ensureDivided files origin page = cacheSlot files (.division origin) page := by
  obtain ⟨⟨source, divided⟩, declared, noBlock⟩ := findOrigin_eq_ok found
  cases divided with
  | true =>
    have full : page.pending? (.division origin) = none := by simp [pending?, declared]
    rw [ensureDivided_of_divided declared rfl, cacheSlot_of_full full]
  | false =>
    rw [ensureDivided_of_not_divided declared rfl]
    cases source with
    | file path =>
      have empty : page.pending? (.division origin) = some (.file path) := by
        simp [pending?, declared]
      rw [cacheSlot_of_pending empty]
      rfl
    | inline =>
      have empty : page.pending? (.division origin) =
          some (.inline ((page.data.get? origin).getD [])) := by
        simp [pending?, declared]
      rw [cacheSlot_of_pending empty]
      rfl
    | block parent => exact absurd rfl (noBlock parent)

theorem dynamicText_eq (noStatic : page.statics.get? name = none) :
    dynamicText files name page =
      (cache files name >>= fun _ => reading (textAtHand name)) page := by
  have hidden : page.statics.has name = false := by simp [Table.has, noStatic]
  cases found : findOrigin page.dynamics name with
  | error error =>
    have needless : page.slot? name = none := by simp [slot?, hidden, found, Except.toOption]
    rw [dynamicText_of_error found, bind_of_ok (cache_of_no_slot needless), reading, textAtHand,
      noStatic, found]
  | ok origin =>
    have needed : page.slot? name = some (.division origin) := by
      simp [slot?, hidden, found, Except.toOption]
    have divides : ensureDivided files origin page = cache files name page :=
      (ensureDivided_eq found).trans (cache_of_slot needed).symm
    have similar := (caches_cache files name page).similar
    rw [dynamicText_of_ok found, bind_of_eq divides]
    cases done : cache files name page with
    | mk outcome page' =>
      rw [done] at similar
      cases outcome with
      | error error => rw [bind_of_error done, bind_of_error done]
      | ok value =>
        have still : page'.statics.get? name = none := by
          simpa [Table.has] using (similar.hasStatic name).trans hidden
        rw [bind_of_ok done, bind_of_ok done, storedText_eq, reading, textAtHand, still,
          similar.findOrigin name, found]

theorem staticText_eq {template : StaticTemplate}
    (static : page.statics.get? name = some template) :
    staticText files name template page =
      (cache files name >>= fun _ => reading (textAtHand name)) page := by
  have needed : page.slot? name = some (.static name) := by simp [slot?, Table.has, static]
  obtain ⟨origin, content⟩ := template
  have kept (full : page.pending? (.static name) = none) :
      (cache files name >>= fun _ => reading (textAtHand name)) page =
        (.ok (content.getD []), page) := by
    rw [bind_of_ok (cache_of_full needed full), reading, textAtHand, static]
  cases content with
  | some content => exact (kept (by simp [pending?, static])).symm
  | none =>
    cases origin with
    | inline => exact (kept (by simp [pending?, static])).symm
    | file path =>
      have empty : page.pending? (.static name) = some (.file path) := by simp [pending?, static]
      have loads : staticText files name ⟨.file path, none⟩ page =
          (fetch files (.file path) >>= fun text => (do
            modify fun page =>
              { page with statics := page.statics.insert name ⟨.file path, some text⟩ }
            pure text)) page := rfl
      rw [loads, bind_of_eq (cache_of_slot needed)]
      obtain ⟨full, -⟩ | ⟨pending, text, hub, due, got, done⟩ |
        ⟨pending, error, hub, due, failed, stopped⟩ := cacheSlot_cases files (.static name) page
      · cases full.symm.trans empty
      · obtain rfl := Option.some.inj (empty.symm.trans due)
        rw [bind_of_ok got, bind_of_ok done]
        simp only [store, static, reading, textAtHand, Table.get?_insert, if_true]
        rfl
      · obtain rfl := Option.some.inj (empty.symm.trans due)
        rw [bind_of_error failed, bind_of_error stopped]

/-- The text of a template is at hand once its slot is full. -/
theorem templateText_eq (files : FileTree) (name : Text) (page : Page) :
    templateText files name page =
      (cache files name >>= fun _ => reading (textAtHand name)) page := by
  cases static : page.statics.get? name with
  | some template => rw [templateText_of_static static, staticText_eq static]
  | none => rw [templateText_of_dynamic static, dynamicText_eq static]

theorem attempt_of_ok {change : Page → Except TemplateError Page} (done : change page = .ok page') :
    attempt change page = (.ok (), page') := by
  rw [attempt, done]

theorem attempt_of_error {change : Page → Except TemplateError Page} {error : TemplateError}
    (failed : change page = .error error) : attempt change page = (.error error, page) := by
  rw [attempt, failed]

/-- The text at hand is filled in. -/
theorem textAtHand_fill (name : Text) (page : Page) :
    (reading (textAtHand name) >>= fill) page = (page.filledAtHand name, page) := by
  rw [filledAtHand]
  cases text : page.textAtHand name with
  | error error =>
    have read : reading (textAtHand name) page = (.error error, page) := by rw [reading, text]
    rw [bind_of_error read]
  | ok text' =>
    have read : reading (textAtHand name) page = (.ok text', page) := by rw [reading, text]
    rw [bind_of_ok read, fill_eq]

/-- A template is rendered by filling in the text at hand. -/
theorem attempt_rendered {target : Text}
    (template : page.statics.has name = true ∨ page.dynamics.has name = true) :
    ((reading (textAtHand name) >>= fill) >>= fun text =>
      (modify (finishParse target text append) : Rendering Unit)) page =
        attempt (rendered target name append) page := by
  have asked : (page.statics.has name || page.dynamics.has name) = true := by
    simpa using template
  have read := textAtHand_fill name page
  rw [attempt, rendered, if_pos asked]
  cases filled : page.filledAtHand name with
  | error error =>
    rw [filled] at read
    rw [bind_of_error read]
    rfl
  | ok text =>
    rw [filled] at read
    rw [bind_of_ok read]
    rfl

theorem slot?_of_no_template (noStatic : page.statics.get? name = none)
    (noDynamic : page.dynamics.has name = false) : page.slot? name = none := by
  rw [slot?, Table.has, noStatic]
  cases found : findOrigin page.dynamics name with
  | error error => rfl
  | ok origin => cases noDynamic.symm.trans (has_of_findOrigin found)

/-- A parse that is announced fills the slot of its name and renders what is at hand. -/
theorem parseNamed_eq (files : FileTree) (target name : Text) (append : Bool) (page : Page) :
    parseNamed files target name append page =
      (cache files name >>= fun _ => attempt (rendered target name append)) page := by
  rcases template_or_not page name with template | ⟨noStatic, noDynamic⟩
  · have similar := (caches_cache files name page).similar
    have got := templateText_eq files name page
    rw [parseNamed_of_template template]
    cases cached : cache files name page with
    | mk outcome page' =>
      rw [cached] at similar
      cases outcome with
      | error error =>
        rw [bind_of_error (bind_of_error (got.trans (bind_of_error cached))), bind_of_error cached]
      | ok value =>
        have still : page'.statics.has name = true ∨ page'.dynamics.has name = true := by
          rwa [similar.hasStatic, similar.hasDynamic]
        rw [bind_of_eq (bind_of_eq (got.trans (bind_of_ok cached))), bind_of_ok cached,
          attempt_rendered still]
  · have needless := slot?_of_no_template noStatic noDynamic
    have hidden : page.statics.has name = false := by simp [Table.has, noStatic]
    rw [parseNamed_of_no_template noStatic noDynamic, bind_of_ok (cache_of_no_slot needless),
      attempt, rendered, hidden, noDynamic]
    cases page.namespace? name <;> rfl

/-- An announcement succeeds or fails, and changes nothing but the hub. -/
theorem announced_cases (target written : Text) (page : Page) :
    (∃ event hub, loading (Loader.dispatch (parseEvent target written)) page =
        (.ok event, { page with hub := hub })) ∨
      ∃ error hub, loading (Loader.dispatch (parseEvent target written)) page =
        (.error error, { page with hub := hub }) := by
  cases sent : Loader.dispatch (parseEvent target written) page.hub with
  | mk outcome hub =>
    have announced : loading (Loader.dispatch (parseEvent target written)) page =
        (outcome, { page with hub := hub }) := by rw [loading, sent]
    cases outcome with
    | ok event => exact .inl ⟨event, hub, announced⟩
    | error error => exact .inr ⟨error, hub, announced⟩

/-- What is rendered differs from what it was rendered on in its namespaces. -/
theorem exists_rendered {target : Text} (done : rendered target name append page = .ok page') :
    ∃ namespaces last, page' = { page with namespaces := namespaces, last := last } := by
  rw [rendered] at done
  split at done
  · cases filled : page.filledAtHand name with
    | error error => rw [filled] at done; cases done
    | ok text =>
      rw [filled] at done
      cases done
      cases append <;> exact ⟨_, _, rfl⟩
  · split at done
    · cases done
      cases append <;> exact ⟨_, _, rfl⟩
    · cases done

/-- Nothing but the namespaces changes once the slot is full. -/
theorem exists_attempt (target name : Text) (append : Bool) (page : Page) :
    ∃ namespaces last, (attempt (rendered target name append) page).2 =
      { page with namespaces := namespaces, last := last } := by
  cases done : rendered target name append page with
  | error error => exact ⟨page.namespaces, page.last, by rw [attempt_of_error done]⟩
  | ok page' =>
    obtain ⟨namespaces, last, rfl⟩ := exists_rendered done
    exact ⟨namespaces, last, by rw [attempt_of_ok done]⟩

theorem slot?_hub (name : Text) (page : Page) (hub : Hub) :
    ({ page with hub := hub } : Page).slot? name = page.slot? name := rfl

/-- A parse is announced, then fills a slot and then takes what is at hand. -/
theorem parse_eq_cache (files : FileTree) (target written : Text) (page : Page) :
    parse files target written page =
      (loading (Loader.dispatch (parseEvent target written)) >>= fun _ =>
        cache files (splitName written).2 >>= fun _ =>
          attempt (rendered target (splitName written).2 (splitName written).1)) page := by
  cases announced : loading (Loader.dispatch (parseEvent target written)) page with
  | mk outcome told =>
    cases outcome with
    | error error => rw [parse_of_not_announced announced, bind_of_error announced]
    | ok event => rw [parse_of_announced announced, bind_of_ok announced, parseNamed_eq]

/-- Without listeners an announcement changes nothing. -/
theorem announced_of_silent (target written : Text) (silent : page.hub.Silent) :
    loading (Loader.dispatch (parseEvent target written)) page =
      (.ok (parseEvent target written), page) := by
  rw [loading, Loader.dispatch_of_silent (silent _)]

end Page

end PageTemplates
