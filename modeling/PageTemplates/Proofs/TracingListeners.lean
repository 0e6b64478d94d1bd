import PageTemplates.Proofs.Slots
import PageTemplates.Proofs.Differences
import PageTemplates.Proofs.LookingListeners
import PageTemplates.Render

/-!
# Listeners that only trace

A listener that traces notes what it hears and hands the event on.  With no
other listeners a dispatch comes back with the event as it was sent
(`Hub.dispatch_of_traces`), so an announced text comes back as it was announced.
This is also what happens where nobody listens and a text is not announced.

Loading therefore comes to the same whoever traces it (`Loader.unmoved_load`), and
a page that is traced goes through every parse like the same page without
listeners (`Page.Overheard.parse`).
-/

namespace PageTemplates

namespace Hub

/-! ## Dispatches that are traced -/

/-- All listeners are there to trace. -/
def Traces (hub : Hub) : Prop :=
  ∀ event, ∀ entry ∈ hub.registry.queue event,
    entry.once = false ∧ entry.listener = Listener.trace

variable {hub other : Hub}

theorem Silent.traces (silent : hub.Silent) : hub.Traces := by
  intro event entry member
  rw [silent event] at member
  cases member

theorem Traces.of_registry (traces : hub.Traces) (same : other.registry = hub.registry) :
    other.Traces := by
  intro event entry member
  rw [same] at member
  exact traces event entry member

theorem Traces.watched (traces : hub.Traces) : hub.Watched :=
  fun event entry member => (traces event entry member).2 ▸ Listener.looks_trace

/-- A dispatch to listeners that trace comes back with the event. -/
theorem dispatch_of_traces {event : Event} (traces : hub.Traces) (goesOn : event.stopped = false) :
    (dispatch event hub).1 = .ok event ∧ (dispatch event hub).2.registry = hub.registry := by
  obtain ⟨outcome, -, registry⟩ := dispatch_of_watched traces.watched goesOn
  exact ⟨outcome, registry fun entry member => (traces event.name entry member).1⟩

theorem traces_registerEach (priority : Int) (events : List Text) (traces : hub.Traces) :
    (registerEach Listener.trace priority events hub).2.Traces :=
  fun event entry member => (mem_registerEach member).elim id (traces event entry)

end Hub

/-- A rendering starts with listeners that trace, or with none. -/
theorem Render.traces_startHub (traced : Bool) : (Render.startHub traced).Traces := by
  have silent : Hub.Silent {} := fun _ => rfl
  cases traced with
  | false => exact silent.traces
  | true => exact Hub.traces_registerEach defaultPriority Render.lifecycle silent.traces

namespace Loader

/-! ## Loading that is traced -/

section

variable {α β : Type} {action : Loading α} {next : α → Loading β}

/-- An action comes to the same result whoever traces it. -/
def Unmoved (action : Loading α) : Prop :=
  ∀ hub other : Hub, hub.Traces → other.Traces →
    (action other).1 = (action hub).1 ∧ (action other).2.Traces

/-- An action whose result is known. -/
theorem Unmoved.of_result (result : Except TemplateError α)
    (comes : ∀ hub : Hub, hub.Traces → (action hub).1 = result ∧ (action hub).2.Traces) :
    Unmoved action := by
  intro hub other here there
  obtain ⟨outcome, traces⟩ := comes other there
  exact ⟨outcome.trans (comes hub here).1.symm, traces⟩

theorem Unmoved.pure (value : α) : Unmoved (Pure.pure value : Loading α) :=
  .of_result (.ok value) fun _ traces => ⟨rfl, traces⟩

theorem Unmoved.throw (error : TemplateError) : Unmoved (throw error : Loading α) :=
  .of_result (.error error) fun _ traces => ⟨rfl, traces⟩

theorem Unmoved.bind (first : Unmoved action) (second : ∀ value, Unmoved (next value)) :
    Unmoved (action >>= next) := by
  intro hub other here there
  have still := (first hub hub here here).2
  obtain ⟨same, traces⟩ := first hub other here there
  cases done : action hub with
  | mk outcome hub' =>
    cases done' : action other with
    | mk outcome' other' =>
      rw [done] at same still
      rw [done'] at same traces
      obtain rfl : outcome' = outcome := same
      cases outcome' with
      | ok value =>
        rw [bind_of_ok done, bind_of_ok done']
        exact second value hub' other' still traces
      | error error =>
        rw [bind_of_error done, bind_of_error done']
        exact ⟨rfl, traces⟩

end

theorem dispatch_of_traces {event : Event} {hub : Hub} (traces : hub.Traces)
    (goesOn : event.stopped = false) :
    (dispatch event hub).1 = .ok event ∧ (dispatch event hub).2.Traces := by
  obtain ⟨outcome, registry⟩ := Hub.dispatch_of_traces traces goesOn
  rw [dispatch_of_sent outcome]
  exact ⟨rfl, traces.of_registry registry⟩

theorem unmoved_dispatch (event : Event) (goesOn : event.stopped = false) :
    Unmoved (dispatch event) :=
  .of_result (.ok event) fun _ traces => dispatch_of_traces traces goesOn

/-- An announced text comes back as it was, and so does a text that nobody asks for. -/
theorem announce_of_traces (name path content : Text) {hub : Hub} (traces : hub.Traces) :
    (announce name path content hub).1 = .ok content ∧
      (announce name path content hub).2.Traces := by
  rw [announce, get_bind]
  split
  · obtain ⟨outcome, still⟩ := @dispatch_of_traces (contentEvent name path content) hub traces rfl
    cases sent : dispatch (contentEvent name path content) hub with
    | mk result after =>
      rw [sent] at outcome still
      obtain rfl : result = .ok (contentEvent name path content) := outcome
      rw [bind_of_ok sent]
      exact ⟨rfl, still⟩
  · exact ⟨rfl, traces⟩

theorem unmoved_announce (name path content : Text) : Unmoved (announce name path content) :=
  .of_result (.ok content) fun _ traces => announce_of_traces name path content traces

theorem closed_unmoved : Closed Unmoved where
  pure := .pure
  throw _ := .throw _
  bind := .bind
  dispatch event := unmoved_dispatch event
  announce := unmoved_announce

/-- A load comes to the same whoever traces it. -/
theorem unmoved_load (loader : Loader) (path : Text) : Unmoved (loader.load path) :=
  closed_unmoved.load loader path

end Loader

namespace Page

/-! ## Pages that are traced -/

/-- Two pages are the same but for the listeners, and those only trace. -/
inductive Overheard (page : Page) : (other : Page) → Prop where
  | intro (hub : Hub) (here : page.hub.Traces) (there : hub.Traces) :
      Overheard page { page with hub := hub }

variable {files : FileTree} {page other : Page} {target name : Text}

theorem store_hub (page : Page) (hub : Hub) (text : Text) (slot : Slot) :
    ({ page with hub := hub } : Page).store text slot = { page.store text slot with hub := hub } ∧
      (page.store text slot).hub = page.hub := by
  cases slot with
  | static name =>
    simp only [store]
    cases page.statics.get? name <;> exact ⟨rfl, rfl⟩
  | division origin => exact ⟨rfl, rfl⟩

/-- The listeners have no part in what is rendered from the texts at hand. -/
theorem rendered_hub (target name : Text) (append : Bool) (page : Page) (hub : Hub) :
    rendered target name append { page with hub := hub } =
      (rendered target name append page).map fun page => { page with hub := hub } := by
  unfold rendered
  dsimp only
  split
  · show (page.filledAtHand name).map _ = _
    cases page.filledAtHand name with
    | error error => rfl
    | ok text => cases append <;> rfl
  · rw [show Page.namespace? name { page with hub := hub } = page.namespace? name from rfl]
    cases page.namespace? name with
    | none => rfl
    | some value => cases append <;> rfl

namespace Overheard

theorem loading {α : Type} {action : Loading α} (unmoved : Loader.Unmoved action)
    (overheard : Overheard page other) : Mirrors Overheard (Page.loading action) page other := by
  obtain ⟨hub, here, there⟩ := overheard
  obtain ⟨same, traces⟩ := unmoved page.hub hub here there
  have still := (unmoved page.hub page.hub here here).2
  exact ⟨same, @Overheard.intro (Page.loading action page).2 _ still traces⟩

theorem store (overheard : Overheard page other) (text : Text) (slot : Slot) :
    Overheard (page.store text slot) (other.store text slot) := by
  obtain ⟨hub, here, there⟩ := overheard
  obtain ⟨stored, kept⟩ := store_hub page hub text slot
  rw [stored]
  exact .intro hub (kept ▸ here) there

theorem fetch (overheard : Overheard page other) (pending : Pending) :
    Mirrors Overheard (Page.fetch files pending) page other := by
  cases pending with
  | inline text => exact ⟨rfl, overheard⟩
  | file path =>
    have loads := overheard.loading (Loader.unmoved_load (page.settings.loader files) path)
    refine loads.of_eq rfl ?_
    obtain ⟨hub, here, there⟩ := overheard
    rfl

theorem cacheSlot (overheard : Overheard page other) (slot : Slot) :
    Mirrors Overheard (Page.cacheSlot files slot) page other := by
  have same : other.pending? slot = page.pending? slot := by
    obtain ⟨hub, here, there⟩ := overheard
    exact pending?_hub page hub slot
  cases empty : page.pending? slot with
  | none =>
    unfold Mirrors
    rw [cacheSlot_of_full empty, cacheSlot_of_full (same.trans empty)]
    exact ⟨rfl, overheard⟩
  | some pending =>
    refine Mirrors.of_eq ?_ (cacheSlot_of_pending empty) (cacheSlot_of_pending (same.trans empty))
    exact (overheard.fetch pending).bind fun text _ _ _ still => ⟨rfl, still.store text slot⟩

theorem cache (overheard : Overheard page other) (name : Text) :
    Mirrors Overheard (Page.cache files name) page other := by
  have same : other.slot? name = page.slot? name := by
    obtain ⟨hub, here, there⟩ := overheard
    rfl
  cases needed : page.slot? name with
  | none =>
    unfold Mirrors
    rw [cache_of_no_slot needed, cache_of_no_slot (same.trans needed)]
    exact ⟨rfl, overheard⟩
  | some slot =>
    exact (overheard.cacheSlot slot).of_eq (cache_of_slot needed)
      (cache_of_slot (same.trans needed))

theorem attempt (overheard : Overheard page other) (target name : Text) (append : Bool) :
    Mirrors Overheard (Page.attempt (rendered target name append)) page other := by
  obtain ⟨hub, here, there⟩ := overheard
  have same := rendered_hub target name append page hub
  unfold Mirrors
  cases done : rendered target name append page with
  | error error =>
    rw [done] at same
    rw [attempt_of_error done, attempt_of_error same]
    exact ⟨rfl, .intro hub here there⟩
  | ok page' =>
    rw [done] at same
    rw [attempt_of_ok done, attempt_of_ok same]
    obtain ⟨namespaces, last, rfl⟩ := exists_rendered done
    exact ⟨rfl, .intro hub here there⟩

/-- A parse comes to the same whoever traces it. -/
theorem parse (overheard : Overheard page other) (target written : Text) :
    Mirrors Overheard (Page.parse files target written) page other := by
  refine Mirrors.of_eq ?_ (parse_eq_cache files target written page)
    (parse_eq_cache files target written other)
  have announced := overheard.loading (Loader.unmoved_dispatch (parseEvent target written) rfl)
  refine announced.bind fun _ _ _ _ told => ?_
  refine (told.cache (splitName written).2).bind fun _ _ _ _ cached => ?_
  exact cached.attempt target (splitName written).2 (splitName written).1

end Overheard

end Page

end PageTemplates
