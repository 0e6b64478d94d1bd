import PageTemplates.Event.Script
import PageTemplates.Proofs.DispatchTurns

/-!
# Listeners that only look

A listener that only looks hands on the event as it is and asks the hub for nothing
but what it holds (`Listener.Looks`).  Listeners that trace and scripts that write
down what they see are of this kind.

If all listeners only look, a dispatch comes back with the event as it was sent, and
nothing is registered or dropped but the listeners for a single run
(`Hub.dispatch_of_watched`).
-/

namespace PageTemplates

/-! ## Listeners that only look -/

/-- A request that looks around or leaves a note. -/
def Request.Looks {α : Type} : Request α → Prop
  | .has _ | .count _ | .events | .share | .note _ => True
  | _ => False

/-- A program that looks around and hands on an event. -/
def Program.HandsOn (event : Event) : Program → Prop
  | .done outcome => outcome = .ok event
  | .ask request next => request.Looks ∧ ∀ reply, (next reply).HandsOn event

/-- A listener that looks around and hands on the event. -/
def Listener.Looks (listener : Listener) : Prop := ∀ event, (listener event).HandsOn event

theorem Listener.looks_trace : Listener.trace.Looks := fun _ => ⟨trivial, fun _ => rfl⟩

/-- A script that only writes down what it sees. -/
theorem Action.looks_log (labels : List Text) : (Action.listener (labels.map .log)).Looks := by
  intro event
  rw [listener]
  induction labels with
  | nil => exact rfl
  | cons label labels ih => exact ⟨trivial, fun _ => ih⟩

namespace Hub

/-- All listeners only look. -/
def Watched (hub : Hub) : Prop :=
  ∀ event, ∀ entry ∈ hub.registry.queue event, Listener.Looks entry.listener

variable {hub other : Hub} {dispatch : Event → StateM Hub (Except EventError Event)}

theorem Watched.of_registry (watched : hub.Watched) (same : other.registry = hub.registry) :
    other.Watched := by
  intro event entry member
  rw [same] at member
  exact watched event entry member

theorem Watched.claimed (watched : hub.Watched) (name : Text) (entry : QueueEntry Listener)
    (event : Event) : (Turn.claimed name ⟨entry, event, hub⟩).Watched := by
  unfold Turn.claimed
  split
  · intro other waiting member
    rw [Registry.queue_remove] at member
    split at member
    · exact watched name waiting (List.mem_of_mem_eraseP member)
    · exact watched other waiting member
  · exact watched

theorem registry_answer_of_looks {request : Request Listener} (looks : request.Looks) (hub : Hub) :
    (answer dispatch request hub).2.registry = hub.registry := by
  cases request with
  | has | count | events | share | note => rfl
  | register | registerAll | remove | clear | unregister | dispatch => cases looks

/-- A program that hands on an event leaves all listeners registered. -/
theorem run_of_handsOn {event : Event} :
    (program : Program) → program.HandsOn event → ∀ hub : Hub,
      (run dispatch program hub).1 = .ok event ∧
        (run dispatch program hub).2.registry = hub.registry
  | .done outcome, done, hub => by
    rw [run]
    exact ⟨done, rfl⟩
  | .ask request next, ⟨looks, goesOn⟩, hub => by
    rw [run, bind_eq]
    obtain ⟨outcome, registry⟩ := run_of_handsOn (next _) (goesOn _) (answer dispatch request hub).2
    exact ⟨outcome, registry.trans (registry_answer_of_looks looks hub)⟩

/-- A delivery to listeners that only look comes to its end.  They stay such listeners, and if
none of them is for a single run, they all stay. -/
theorem deliver_of_looks (depth : Nat) (name : Text) {queue : ListenerQueue Listener}
    {event : Event}
    (looks : ∀ entry ∈ queue, Listener.Looks entry.listener) (goesOn : event.stopped = false)
    {hub : Hub} (watched : hub.Watched) :
    (deliver (invokeWithin depth) name queue event hub).1.outcome = .ok event ∧
      (deliver (invokeWithin depth) name queue event hub).2.Watched ∧
      ((∀ entry ∈ queue, entry.once = false) →
        (deliver (invokeWithin depth) name queue event hub).2.registry = hub.registry) := by
  induction queue generalizing hub with
  | nil => exact ⟨rfl, watched, fun _ => rfl⟩
  | cons entry rest ih =>
    have others : ∀ entry ∈ rest, Listener.Looks entry.listener :=
      fun other member => looks other (List.mem_cons_of_mem entry member)
    have claimed := watched.claimed name entry event
    have kept (again : ∀ other ∈ entry :: rest, other.once = false) :
        (Turn.claimed name ⟨entry, event, hub⟩).registry = hub.registry := by
      rw [Turn.claimed, again entry (List.mem_cons_self ..)]
      rfl
    rw [deliver_cons rfl]
    split
    · next due =>
      have ran : (run (dispatchWithin depth) (entry.listener event)
            (Turn.entered name ⟨entry, event, hub⟩)).1 = .ok event ∧
          (run (dispatchWithin depth) (entry.listener event)
            (Turn.entered name ⟨entry, event, hub⟩)).2.registry =
              (Turn.claimed name ⟨entry, event, hub⟩).registry :=
        run_of_handsOn _ (looks entry (List.mem_cons_self ..) event) _
      have leaves : Turn.leaves (invokeWithin depth) name ⟨entry, event, hub⟩ =
          run (dispatchWithin depth) (entry.listener event)
            (Turn.entered name ⟨entry, event, hub⟩) := by
        rw [Turn.leaves, if_pos due, invokeWithin]
      rw [leaves, ran.1, proceed, goesOn]
      obtain ⟨outcome, still, registry⟩ := ih others (claimed.of_registry ran.2)
      refine ⟨outcome, still, fun again => ?_⟩
      have later := registry fun other member => again other (List.mem_cons_of_mem entry member)
      exact later.trans (ran.2.trans (kept again))
    · obtain ⟨outcome, still, registry⟩ := ih others claimed
      refine ⟨outcome, still, fun again => ?_⟩
      exact (registry fun other member => again other (List.mem_cons_of_mem entry member)).trans
        (kept again)

theorem Watched.registerEach {listener : Listener} (looks : listener.Looks) (priority : Int)
    (events : List Text) (watched : hub.Watched) :
    (Hub.registerEach listener priority events hub).2.Watched := by
  intro event entry member
  obtain ⟨-, new⟩ | old := mem_registerEach member
  · exact new ▸ looks
  · exact watched event entry old

/-- A dispatch to listeners that only look comes back with the event. -/
theorem dispatch_of_watched (watched : hub.Watched) {event : Event}
    (goesOn : event.stopped = false) :
    (Hub.dispatch event hub).1 = .ok event ∧ (Hub.dispatch event hub).2.Watched ∧
      ((∀ entry ∈ hub.registry.queue event.name, entry.once = false) →
        (Hub.dispatch event hub).2.registry = hub.registry) := by
  rw [Hub.dispatch, show depthLimit = 999999999 + 1 from rfl, dispatchWithin_succ]
  exact deliver_of_looks _ event.name (watched event.name) goesOn watched

end Hub

end PageTemplates
