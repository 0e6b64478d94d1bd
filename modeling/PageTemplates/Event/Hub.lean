import PageTemplates.Event.Listener

/-!
# Dispatching

A hub is a registry of listeners together with what the listeners left behind.
A dispatch takes the queue of the event as it stands when it starts and runs
the listeners in it one after the other on the event.

* A listener that is registered for one run is dropped just before it runs.  If
  another dispatch has dropped it by then, it is skipped.
* A failure ends the dispatch.
* The flag of the event is looked at after each run, and ends the dispatch when set.

Listeners registered or removed meanwhile count from the next dispatch on, and
renaming the event does not change which queue is served.

`Hub.deliver` is the loop.  It takes the way to run a listener as an argument.
`Hub.dispatchWithin` closes the circle: a listener may dispatch again, to a
given depth.
-/

namespace PageTemplates

/-- One run of a listener. -/
structure ListenerRun where
  /-- The event whose dispatch ran it. -/
  event : Text
  /-- The identity of the listener. -/
  id : Nat
  deriving DecidableEq, Repr

/-- A registry and what its listeners left behind. -/
structure Hub where
  registry : Registry Listener := {}
  /-- The notes, oldest first. -/
  notes : List Note := []
  /-- Every run of a listener, oldest first. -/
  journal : List ListenerRun := []

instance : Inhabited Hub := ⟨{}⟩

/-- What a dispatch did. -/
structure Delivery where
  /-- The identities of the listeners it ran, in order. -/
  invoked : List Nat
  /-- The event after the last of them, or why one failed. -/
  outcome : Except EventError Event

namespace Hub

/-! ## Serving a queue -/

/-- Drops a listener that runs once, if it is still registered. -/
def claim (event : Text) (id : Nat) : StateM Hub Bool := fun hub =>
  (hub.registry.isRegistered event id,
    { hub with registry := hub.registry.remove event id })

/-- Writes a run into the journal. -/
def record (event : Text) (id : Nat) : StateM Hub Unit :=
  modify fun hub => { hub with journal := hub.journal ++ [⟨event, id⟩] }

/-- Runs the entries of a queue on an event, in order. -/
def deliver (invoke : QueueEntry Listener → Event → StateM Hub (Except Text Event))
    (name : Text) : ListenerQueue Listener → Event → StateM Hub Delivery
  | [], event => pure ⟨[], .ok event⟩
  | entry :: rest, event => do
    let due ← if entry.once then claim name entry.id else pure true
    if due then
      record name entry.id
      match ← invoke entry event with
      | .error reason => pure ⟨[entry.id], .error (.listener name reason)⟩
      | .ok event =>
        if event.stopped then pure ⟨[entry.id], .ok event⟩
        else do
          let later ← deliver invoke name rest event
          pure { later with invoked := entry.id :: later.invoked }
    else deliver invoke name rest event

/-! ## Requests -/

/-- Registers one listener for each event of a list. -/
def registerEach (listener : Listener) (priority : Int) :
    List Text → StateM Hub (List Nat)
  | [] => pure []
  | event :: events => do
    let id := (← get).registry.nextId
    modify fun hub => { hub with registry := hub.registry.register event listener priority false }
    let ids ← registerEach listener priority events
    pure (id :: ids)

/-- Answers a request.  Events are dispatched by the given function. -/
def answer (dispatch : Event → StateM Hub (Except EventError Event)) :
    Request Listener → StateM Hub Reply
  | .register event listener priority once => do
    let id := (← get).registry.nextId
    modify fun hub => { hub with registry := hub.registry.register event listener priority once }
    pure (.id id)
  | .registerAll events listener priority => do
    let ids ← registerEach listener priority events
    pure (.ids ids)
  | .remove event id => do
    let found := (← get).registry.isRegistered event id
    modify fun hub => { hub with registry := hub.registry.remove event id }
    pure (.flag found)
  | .clear event => do
    modify fun hub => { hub with registry := hub.registry.unregister event }
    pure .none
  | .unregister event => do
    let found := (← get).registry.hasListeners event
    modify fun hub => { hub with registry := hub.registry.unregister event }
    pure (.flag found)
  | .has event => do pure (.flag ((← get).registry.hasListeners event))
  | .count event => do pure (.count ((← get).registry.count event))
  | .events => do pure (.names (← get).registry.events)
  | .dispatch event => do pure (.event (← dispatch event))
  | .share => pure .none
  | .note note => do
    modify fun hub => { hub with notes := hub.notes ++ [note] }
    pure .none

/-- Runs a program.  Events are dispatched by the given function. -/
def run (dispatch : Event → StateM Hub (Except EventError Event)) :
    Program → StateM Hub (Except Text Event)
  | .done outcome => pure outcome
  | .ask request next => do
    let reply ← answer dispatch request
    run dispatch (next reply)

/-! ## Dispatching to a given depth -/

/-- Dispatches an event.  Listeners may dispatch again, `depth` levels in all. -/
def dispatchWithin : (depth : Nat) → Event → StateM Hub (Except EventError Event)
  | 0, event => pure (.error (.tooDeep event.name))
  | depth + 1, event => do
    let queue := (← get).registry.queue event.name
    let delivery ← deliver (fun entry event => run (dispatchWithin depth) (entry.listener event))
      event.name queue event
    pure delivery.outcome

/-- How deep listeners may dispatch inside one another.  Only a dispatch that
would never end gets that far. -/
def depthLimit : Nat := 1000000000

/-- Dispatches an event. -/
def dispatch (event : Event) : StateM Hub (Except EventError Event) :=
  dispatchWithin depthLimit event

/-- Dispatches an event with the given name and parameters. -/
def dispatchNamed (name : Text) (params : Value) : StateM Hub (Except EventError Event) :=
  match Event.withParams name params with
  | .error error => pure (.error error)
  | .ok event => dispatch event

/-- Answers a request from outside. -/
def perform (request : Request Listener) : StateM Hub Reply := answer dispatch request

end Hub

end PageTemplates
