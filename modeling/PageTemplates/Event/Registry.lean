import PageTemplates.Table
import PageTemplates.Event.Queue

/-!
# Registries

A registry keeps one queue of listeners for each event name and issues the
identities 0, 1, 2, … in the order of registration.  An event whose last
listener goes is forgotten, so every event in a registry has a listener.

The registry does not look at its listeners; they may be of any type.
-/

namespace PageTemplates

/-- The listeners of all events. -/
structure Registry (α : Type _) where
  /-- The queue of each event that has listeners. -/
  queues : Table (ListenerQueue α) := []
  /-- The identity that is issued next. -/
  nextId : Nat := 0

namespace Registry

variable {α : Type _}

instance : Inhabited (Registry α) := ⟨{}⟩

/-- The listeners of an event in running order. -/
def queue (event : Text) (registry : Registry α) : ListenerQueue α :=
  (registry.queues.get? event).getD []

/-- The number of listeners of an event. -/
def count (event : Text) (registry : Registry α) : Nat := (registry.queue event).length

/-- Whether an event has a listener. -/
def hasListeners (event : Text) (registry : Registry α) : Bool := decide (0 < registry.count event)

/-- The events that have listeners, by name. -/
def events (registry : Registry α) : List Text := registry.queues.keys

/-- Registers a listener under the next identity. -/
def register (event : Text) (listener : α) (priority : Int) (once : Bool) (registry : Registry α) :
    Registry α where
  queues := registry.queues.insert event
    ((registry.queue event).insert ⟨registry.nextId, priority, once, listener⟩)
  nextId := registry.nextId + 1

/-- Whether a listener is registered for an event under this identity. -/
def isRegistered (event : Text) (id : Nat) (registry : Registry α) : Bool :=
  (registry.queue event).has id

/-- Drops the listener of an event with this identity, and the event with its last listener. -/
def remove (event : Text) (id : Nat) (registry : Registry α) : Registry α :=
  match registry.queues.get? event with
  | none => registry
  | some queue =>
    match ListenerQueue.remove id queue with
    | [] => { registry with queues := registry.queues.erase event }
    | rest => { registry with queues := registry.queues.insert event rest }

/-- Drops all listeners of an event. -/
def unregister (event : Text) (registry : Registry α) : Registry α :=
  { registry with queues := registry.queues.erase event }

end Registry

end PageTemplates
