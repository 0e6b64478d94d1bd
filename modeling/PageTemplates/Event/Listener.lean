import PageTemplates.Event.Auth
import PageTemplates.Event.Registry

/-!
# Listeners

A listener takes the dispatched event and runs a `Program`.  A program asks the
hub one request after the other, looks at each reply, and in the end hands on
the event or fails with a reason.  Requests register and drop listeners, look
into the registry, dispatch further events, or leave a note.

A program is finite along every path of replies.  A dispatch that it asks for
may run further programs, and `Hub.dispatchWithin` bounds how deep that goes.

A listener keeps no memory of its own between runs: a run depends on the event
and on the replies, and on nothing else.  A listener that is to remember something
has to put it into the registry, by registering what it will do next time and
dropping what it did so far.  `Hub.deliver`, which serves a queue, takes any way to
run a listener, so the order of turns does not rest on this.
-/

namespace PageTemplates

/-- What the hub answers to a request. -/
inductive Reply where
  | none
  | id (id : Nat)
  /-- The identities of a listener registered for several events. -/
  | ids (ids : List Nat)
  /-- Whether something is or was the case. -/
  | flag (flag : Bool)
  | count (count : Nat)
  | names (names : List Text)
  /-- The event after its dispatch, or why the dispatch failed. -/
  | event (outcome : Except EventError Event)

/-- What a listener leaves behind for whoever reads the notes. -/
inductive Note where
  /-- A label with the name and the parameters of the event at that moment. -/
  | label (label : Text) (event : Text) (params : Table Value)
  /-- The authentication result in the event at that moment. -/
  | auth (result : Except EventError (Option AuthResult))
  /-- The reply to a request. -/
  | reply (reply : Reply)
  /-- The name and the parameter names of a traced event. -/
  | traced (event : Text) (params : List Text)

/-- What can be asked of a hub whose listeners are of type `α`. -/
inductive Request (α : Type) where
  /-- Register a listener for an event. -/
  | register (event : Text) (listener : α) (priority : Int) (once : Bool)
  /-- Register one listener for several events. -/
  | registerAll (events : List Text) (listener : α) (priority : Int)
  | remove (event : Text) (id : Nat)
  /-- Drop all listeners of an event. -/
  | clear (event : Text)
  /-- Drop all listeners of an event and say whether there were any. -/
  | unregister (event : Text)
  | has (event : Text)
  | count (event : Text)
  | events
  | dispatch (event : Event)
  /-- Take another handle.  Handles share the registry, so this changes nothing. -/
  | share
  | note (note : Note)

/-- A run of a listener on an event. -/
inductive Program where
  /-- The run ends with the event as it is now, or with the reason of a failure. -/
  | done (outcome : Except Text Event)
  /-- A request to the hub, and how the run goes on with the reply. -/
  | ask (request : Request (Event → Program)) (next : Reply → Program)

/-- A listener starts a program on the event it is given, and the same one whenever it is given the
same event. -/
abbrev Listener := Event → Program

namespace Listener

/-- The listener that changes the event by a function and asks for nothing. -/
def ofChange (change : Event → Event) : Listener := fun event => .done (.ok (change event))

/-- The listener that notes the name of the event and its parameters. -/
def trace : Listener := fun event =>
  .ask (.note (.traced event.name event.params.keys)) fun _ => .done (.ok event)

end Listener

end PageTemplates
