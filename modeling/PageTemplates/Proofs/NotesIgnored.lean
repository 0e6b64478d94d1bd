import PageTemplates.Event.Script
import PageTemplates.Loader
import PageTemplates.Proofs.DispatchTurns

/-!
# Notes have no effect

Listeners leave notes and the hub keeps a journal of their runs, but nothing
reads either of them.  So what an action on the hub comes to depends on the
registry alone, and so does the registry it leaves (`Hub.HeedsRegistry`).  This
holds of every dispatch (`Hub.heeds_dispatch`) and of every operation from outside
(`Hub.heeds_performOperation`), whatever the listeners are.
-/

namespace PageTemplates

namespace Hub

/-- What an action comes to depends on the registry, and so does the registry it leaves. -/
def HeedsRegistry {β : Type} (action : StateM Hub β) : Prop :=
  ∀ hub other : Hub, other.registry = hub.registry →
    (action other).1 = (action hub).1 ∧ (action other).2.registry = (action hub).2.registry

namespace HeedsRegistry

variable {β γ : Type}

theorem pure (value : β) : HeedsRegistry (Pure.pure value) := fun _ _ same => ⟨rfl, same⟩

theorem bind {action : StateM Hub β} {next : β → StateM Hub γ} (first : HeedsRegistry action)
    (second : ∀ value, HeedsRegistry (next value)) : HeedsRegistry (action >>= next) := by
  intro hub other same
  obtain ⟨outcome, still⟩ := first hub other same
  rw [bind_eq, bind_eq, outcome]
  exact second _ _ _ still

/-- A reply that is read off the registry, and a change of the registry. -/
theorem of_registry (reply : Registry Listener → β)
    (change : Registry Listener → Registry Listener) {action : StateM Hub β}
    (replies : ∀ hub, (action hub).1 = reply hub.registry)
    (changes : ∀ hub, (action hub).2.registry = change hub.registry) : HeedsRegistry action := by
  intro hub other same
  rw [replies, replies, changes, changes, same]
  exact ⟨rfl, rfl⟩

end HeedsRegistry

variable {invoke : QueueEntry Listener → Event → StateM Hub (Except Text Event)}
  {dispatch : Event → StateM Hub (Except EventError Event)}

/-! ## Turns -/

theorem registry_claimed (name : Text) (entry : QueueEntry Listener) (event : Event)
    {hub other : Hub} (same : other.registry = hub.registry) :
    (Turn.claimed name ⟨entry, event, other⟩).registry =
      (Turn.claimed name ⟨entry, event, hub⟩).registry := by
  unfold Turn.claimed
  split
  · exact congrArg (fun registry => registry.remove name entry.id) same
  · exact same

theorem heeds_deliver (each : ∀ entry event, HeedsRegistry (invoke entry event)) (name : Text)
    (queue : ListenerQueue Listener) (event : Event) :
    HeedsRegistry (deliver invoke name queue event) := by
  induction queue generalizing event with
  | nil => exact .pure _
  | cons entry rest ih =>
    intro hub other same
    have claimed := registry_claimed name entry event same
    have due : Turn.due name ⟨entry, event, other⟩ = Turn.due name ⟨entry, event, hub⟩ := by
      rw [Turn.due, Turn.due, same]
    rw [deliver_cons rfl, deliver_cons rfl, due]
    split
    · next runs =>
      rw [Turn.leaves, Turn.leaves, due, if_pos runs, if_pos runs]
      obtain ⟨outcome, left⟩ := each entry event (Turn.entered name ⟨entry, event, hub⟩)
        (Turn.entered name ⟨entry, event, other⟩) claimed
      rw [outcome]
      refine (?_ : ∀ outcome, HeedsRegistry (proceed invoke name entry.id rest outcome)) _ _ _ left
      rintro (reason | event')
      · exact .pure _
      · rw [proceed]
        split
        · exact .pure _
        · exact (ih event').bind fun _ => .pure _
    · exact ih event _ _ claimed

/-! ## Requests and programs -/

theorem heeds_registerEach (listener : Listener) (priority : Int) (events : List Text) :
    HeedsRegistry (registerEach listener priority events) := by
  induction events with
  | nil => exact .pure _
  | cons event events ih =>
    intro hub other same
    have first := congrArg (fun registry => registry.nextId) same
    have registered := congrArg
      (fun registry => registry.register event listener priority false) same
    obtain ⟨later, left⟩ := ih
      { hub with registry := hub.registry.register event listener priority false }
      { other with registry := other.registry.register event listener priority false } registered
    exact ⟨congrArg₂ List.cons first later, left⟩

theorem heeds_answer (each : ∀ event, HeedsRegistry (dispatch event)) (request : Request Listener) :
    HeedsRegistry (answer dispatch request) := by
  cases request with
  | register event listener priority once =>
    exact .of_registry (fun registry => .id registry.nextId)
      (fun registry => registry.register event listener priority once) (fun _ => rfl) fun _ => rfl
  | registerAll events listener priority =>
    exact (heeds_registerEach listener priority events).bind fun _ => .pure _
  | remove event id =>
    exact .of_registry (fun registry => .flag (registry.isRegistered event id))
      (fun registry => registry.remove event id) (fun _ => rfl) fun _ => rfl
  | clear event =>
    exact .of_registry (fun _ => .none) (fun registry => registry.unregister event) (fun _ => rfl)
      fun _ => rfl
  | unregister event =>
    exact .of_registry (fun registry => .flag (registry.hasListeners event))
      (fun registry => registry.unregister event) (fun _ => rfl) fun _ => rfl
  | has event =>
    exact .of_registry (fun registry => .flag (registry.hasListeners event)) id (fun _ => rfl)
      fun _ => rfl
  | count event =>
    exact .of_registry (fun registry => .count (registry.count event)) id (fun _ => rfl)
      fun _ => rfl
  | events =>
    exact .of_registry (fun registry => .names registry.events) id (fun _ => rfl) fun _ => rfl
  | dispatch event => exact (each event).bind fun _ => .pure _
  | share | note => exact .of_registry (fun _ => .none) id (fun _ => rfl) fun _ => rfl

theorem heeds_run (each : ∀ event, HeedsRegistry (dispatch event)) :
    (program : Program) → HeedsRegistry (run dispatch program)
  | .done outcome => by
    rw [run]
    exact .pure outcome
  | .ask request next => by
    rw [run]
    exact (heeds_answer each request).bind fun reply => heeds_run each (next reply)

/-! ## Dispatches -/

theorem heeds_dispatchWithin (depth : Nat) (event : Event) :
    HeedsRegistry (dispatchWithin depth event) := by
  induction depth generalizing event with
  | zero =>
    rw [dispatchWithin]
    exact .pure _
  | succ depth ih =>
    intro hub other same
    have invokes : ∀ entry event, HeedsRegistry (invokeWithin depth entry event) :=
      fun entry event => heeds_run ih (entry.listener event)
    obtain ⟨delivery, left⟩ := heeds_deliver invokes event.name (hub.registry.queue event.name)
      event hub other same
    rw [dispatchWithin_succ, dispatchWithin_succ, same]
    exact ⟨congrArg Delivery.outcome delivery, left⟩

theorem heeds_dispatch (event : Event) : HeedsRegistry (Hub.dispatch event) :=
  heeds_dispatchWithin depthLimit event

theorem heeds_performOperation (operation : Operation) :
    HeedsRegistry (performOperation operation) := by
  unfold performOperation
  split
  · exact heeds_answer heeds_dispatch _
  · exact .pure _

end Hub

/-- The same for the dispatches that loading makes. -/
theorem Loader.heeds_dispatch (event : Event) {hub other : Hub}
    (same : other.registry = hub.registry) :
    (Loader.dispatch event other).1 = (Loader.dispatch event hub).1 ∧
      (Loader.dispatch event other).2.registry = (Loader.dispatch event hub).2.registry := by
  obtain ⟨outcome, left⟩ := Hub.heeds_dispatch event hub other same
  unfold Loader.dispatch
  cases here : Hub.dispatch event hub with
  | mk result after =>
    cases there : Hub.dispatch event other with
    | mk result' after' =>
      rw [here, there] at outcome left
      subst outcome
      cases result' <;> exact ⟨rfl, left⟩

end PageTemplates
