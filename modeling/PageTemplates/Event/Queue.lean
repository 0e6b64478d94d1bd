import PageTemplates.Text

/-!
# Listener queues

The listeners of one event wait in a queue.  The highest priority is first, and
among equal priorities the smallest identity, which is the one issued first.
A queue holds at most one entry for each priority and identity.

Identities may repeat at different priorities.  `remove` then drops the entry
with the highest priority, since it is the first one in the queue.
-/

namespace PageTemplates

/-- A registered listener. -/
structure QueueEntry (α : Type _) where
  /-- The identity issued at registration. -/
  id : Nat
  /-- Higher priorities run first. -/
  priority : Int
  /-- Whether the listener is dropped before its first run. -/
  once : Bool
  /-- The listener. -/
  listener : α

/-- Entries in the order in which a dispatch runs them. -/
abbrev ListenerQueue (α : Type _) := List (QueueEntry α)

/-- The priority of a listener that is registered without one. -/
def defaultPriority : Int := 1

/-- How an identity is shown. -/
def listenerName (id : Nat) : Text := "listener-".toList ++ Text.ofNat id

namespace QueueEntry

variable {α β : Type _}

/-- Whether two entries have the same priority and identity. -/
def sameKey (a : QueueEntry α) (b : QueueEntry β) : Bool :=
  a.priority == b.priority && a.id == b.id

/-- Whether one entry runs before another. -/
def before (a : QueueEntry α) (b : QueueEntry β) : Bool :=
  decide (b.priority < a.priority) || (a.priority == b.priority && decide (a.id < b.id))

/-- An entry as shown to a developer.  The listener itself is left out. -/
def describe (entry : QueueEntry α) : Text :=
  "QueueEntry \x7b id: ListenerId(".toList ++ Text.ofNat entry.id ++ "), priority: ".toList ++
    Text.ofInt entry.priority ++ ", once: ".toList ++
    (if entry.once then "true".toList else "false".toList) ++ ", .. \x7d".toList

end QueueEntry

namespace ListenerQueue

variable {α : Type _}

/-- Puts an entry in its place, instead of one with the same priority and identity. -/
def insert (entry : QueueEntry α) : ListenerQueue α → ListenerQueue α
  | [] => [entry]
  | head :: rest =>
    if entry.sameKey head then entry :: rest
    else if entry.before head then entry :: head :: rest
    else head :: insert entry rest

/-- Whether an entry with this identity waits. -/
def has (id : Nat) (queue : ListenerQueue α) : Bool := queue.any fun entry => entry.id == id

/-- Drops the first entry with this identity. -/
def remove (id : Nat) (queue : ListenerQueue α) : ListenerQueue α :=
  queue.eraseP fun entry => entry.id == id

/-- Whether an entry with exactly this priority waits. -/
def hasPriority (priority : Int) (queue : ListenerQueue α) : Bool :=
  queue.any fun entry => entry.priority == priority

/-- The identities in running order. -/
def ids (queue : ListenerQueue α) : List Nat := queue.map QueueEntry.id

end ListenerQueue

end PageTemplates
