import Mathlib.Data.List.Chain
import PageTemplates.Event.Hub
import PageTemplates.Proofs.Registrations

/-!
# What a dispatch serves

A dispatch takes the queue of its event as it stands when it starts, and gives
each entry a turn.  A `Turn` is an entry with the hub and the event that it
meets.  An entry for one run is due only if it is still registered then.  An
entry that is due is run, and the dispatch ends with the first run that fails
or leaves the flag of the event set.

`Serves` says this of a list of turns: they follow the queue, each of them
starts where the one before has left the event and the hub, and only the last
may end the dispatch.  What is invoked and what comes out can be read off them.
Every dispatch has such turns, at any depth and whatever the listeners ask of
the hub (`dispatch_serves_queue`).

Listeners change the registry only by registering and dropping.  So a registry
that came about in this way is still one when the next turn comes
(`keepsTally_dispatchWithin`), and what is registered then can be read off a
ledger.
-/

namespace PageTemplates

namespace Hub

/-! ## Registries while listeners run -/

/-- The registry of a hub came about by registering and dropping listeners. -/
def Tallied (hub : Hub) : Prop := ∃ ledger, hub.registry.Keeps ledger

/-- An action leaves such a registry if it meets one. -/
def KeepsTally {β : Type} (action : StateM Hub β) : Prop :=
  ∀ hub, Tallied hub → Tallied (action hub).2

namespace KeepsTally

variable {β γ : Type}

theorem pure (value : β) : KeepsTally (Pure.pure value) := fun _ tallied => tallied

theorem get : KeepsTally MonadState.get := fun _ tallied => tallied

theorem bind {action : StateM Hub β} {next : β → StateM Hub γ} (first : KeepsTally action)
    (second : ∀ value, KeepsTally (next value)) : KeepsTally (action >>= next) :=
  fun hub tallied => second (action hub).1 (action hub).2 (first hub tallied)

/-- A change of the registry by one of its operations. -/
theorem modify {change : Hub → Hub}
    (keeps : ∀ hub ledger, hub.registry.Keeps ledger → Tallied (change hub)) :
    KeepsTally (modify change) :=
  fun hub ⟨ledger, tallied⟩ => keeps hub ledger tallied

end KeepsTally

theorem keepsTally_register (event : Text) (listener : Listener) (priority : Int) (once : Bool) :
    KeepsTally (modify fun hub =>
      { hub with registry := hub.registry.register event listener priority once }) :=
  .modify fun _ _ keeps => ⟨_, keeps.register event listener priority once⟩

theorem keepsTally_remove (event : Text) (id : Nat) :
    KeepsTally (modify fun hub => { hub with registry := hub.registry.remove event id }) :=
  .modify fun _ _ keeps => ⟨_, keeps.remove event id⟩

theorem keepsTally_unregister (event : Text) :
    KeepsTally (modify fun hub => { hub with registry := hub.registry.unregister event }) :=
  .modify fun _ _ keeps => ⟨_, keeps.unregister event⟩

end Hub

/-! ## Turns -/

/-- The turn of an entry in a dispatch. -/
structure Turn where
  entry : QueueEntry Listener
  /-- The event as it is when the turn comes. -/
  event : Event
  /-- The hub as it is when the turn comes. -/
  hub : Hub

namespace Turn

variable (invoke : QueueEntry Listener → Event → StateM Hub (Except Text Event)) (name : Text)

/-- Whether the listener is to be run: one for a single run only while it is registered. -/
def due (turn : Turn) : Bool :=
  !turn.entry.once || turn.hub.registry.isRegistered name turn.entry.id

/-- The hub once a listener for a single run is dropped. -/
def claimed (turn : Turn) : Hub :=
  if turn.entry.once then
    { turn.hub with registry := turn.hub.registry.remove name turn.entry.id }
  else turn.hub

/-- The hub in which the listener starts: it is dropped if it is for a single
run, and the run stands in the journal. -/
def entered (turn : Turn) : Hub :=
  { turn.claimed name with journal := (turn.claimed name).journal ++ [⟨name, turn.entry.id⟩] }

/-- What a turn comes to: the run of a listener that is due, and otherwise nothing. -/
def leaves (turn : Turn) : Except Text Event × Hub :=
  if turn.due name then invoke turn.entry turn.event (turn.entered name)
  else (.ok turn.event, turn.claimed name)

/-- Whether the dispatch ends with this turn: the listener was run, and it
failed or left the flag set. -/
def ends (turn : Turn) : Bool :=
  turn.due name &&
    match (turn.leaves invoke name).1 with
    | .error _ => true
    | .ok event => event.stopped

end Turn

/-- What a dispatch comes to when its last turn comes to this. -/
def Turn.outcome (name : Text) : Except Text Event → Except EventError Event
  | .error reason => .error (.listener name reason)
  | .ok event => .ok event

namespace Hub

variable {invoke : QueueEntry Listener → Event → StateM Hub (Except Text Event)}

/-- An action goes on in the hub that the one before it leaves. -/
theorem bind_eq {β γ : Type} (action : StateM Hub β) (next : β → StateM Hub γ) (hub : Hub) :
    (action >>= next) hub = next (action hub).1 (action hub).2 := rfl

/-- How a delivery goes on once a listener has been run. -/
def proceed (invoke : QueueEntry Listener → Event → StateM Hub (Except Text Event)) (name : Text)
    (id : Nat) (rest : ListenerQueue Listener) : Except Text Event → StateM Hub Delivery
  | .error reason => pure ⟨[id], .error (.listener name reason)⟩
  | .ok event =>
    if event.stopped then pure ⟨[id], .ok event⟩
    else do
      let later ← deliver invoke name rest event
      pure { later with invoked := id :: later.invoked }

/-- A delivery gives the first entry its turn. -/
theorem deliver_cons {name : Text} {entry : QueueEntry Listener} {rest : ListenerQueue Listener}
    {event : Event} {hub : Hub} {turn : Turn} (start : turn = ⟨entry, event, hub⟩) :
    deliver invoke name (entry :: rest) event hub =
      if turn.due name then
        proceed invoke name entry.id rest (turn.leaves invoke name).1 (turn.leaves invoke name).2
      else deliver invoke name rest event (turn.claimed name) := by
  subst start
  have runs : (fun outcome => match outcome with
      | .error reason => pure ⟨[entry.id], .error (.listener name reason)⟩
      | .ok event =>
        if event.stopped then pure ⟨[entry.id], .ok event⟩
        else do
          let later ← deliver invoke name rest event
          pure { later with invoked := entry.id :: later.invoked } :
      Except Text Event → StateM Hub Delivery) = proceed invoke name entry.id rest := by
    funext outcome
    cases outcome <;> rfl
  rw [deliver]
  cases once : entry.once with
  | false =>
    simp only [Turn.due, once, Turn.leaves, Turn.entered, Turn.claimed, Bool.not_false,
      Bool.true_or, if_true, Bool.false_eq_true, if_false, ← runs]
    rfl
  | true =>
    simp only [Turn.due, once, Turn.leaves, Turn.entered, Turn.claimed, Bool.not_true,
      Bool.false_or, if_true, ← runs]
    have claims : (claim name entry.id hub).1 = hub.registry.isRegistered name entry.id := rfl
    rw [bind_eq, claims]
    cases hub.registry.isRegistered name entry.id <;> rfl

/-! ## Registries between turns -/

theorem tallied_claimed {turn : Turn} (name : Text) (tallied : Tallied turn.hub) :
    Tallied (turn.claimed name) := by
  obtain ⟨ledger, keeps⟩ := tallied
  unfold Turn.claimed
  split
  · exact ⟨_, keeps.remove name turn.entry.id⟩
  · exact ⟨_, keeps⟩

theorem tallied_leaves (each : ∀ entry event, KeepsTally (invoke entry event)) {turn : Turn}
    (name : Text) (tallied : Tallied turn.hub) : Tallied (turn.leaves invoke name).2 := by
  have claimed := tallied_claimed name tallied
  unfold Turn.leaves
  split
  · exact each turn.entry turn.event (turn.entered name) claimed
  · exact claimed

theorem keepsTally_deliver (each : ∀ entry event, KeepsTally (invoke entry event)) (name : Text)
    (queue : ListenerQueue Listener) (event : Event) :
    KeepsTally (deliver invoke name queue event) := by
  induction queue generalizing event with
  | nil => exact .pure _
  | cons entry rest ih =>
    intro hub tallied
    rw [deliver_cons rfl]
    split
    · refine (?_ : ∀ outcome, KeepsTally (proceed invoke name entry.id rest outcome)) _ _
        (tallied_leaves each name tallied)
      rintro (reason | event')
      · exact .pure _
      · rw [proceed]
        split
        · exact .pure _
        · exact (ih event').bind fun _ => .pure _
    · exact ih event _ (tallied_claimed name tallied)

theorem keepsTally_registerEach (listener : Listener) (priority : Int) (events : List Text) :
    KeepsTally (registerEach listener priority events) := by
  induction events with
  | nil => exact .pure _
  | cons event events ih =>
    refine KeepsTally.get.bind fun _ => ?_
    exact (keepsTally_register event listener priority false).bind fun _ => ih.bind fun _ => .pure _

/-- What is registered behind a registration for several events is the new listener or was there. -/
theorem mem_registerEach {listener : Listener} {priority : Int} {events : List Text} {hub : Hub}
    {name : Text} {entry : QueueEntry Listener}
    (member : entry ∈ (registerEach listener priority events hub).2.registry.queue name) :
    entry.once = false ∧ entry.listener = listener ∨ entry ∈ hub.registry.queue name := by
  induction events generalizing hub with
  | nil => exact .inr member
  | cons event events ih =>
    obtain new | old := ih member
    · exact .inl new
    · rw [Registry.queue_register] at old
      split at old
      · next same =>
        obtain rfl | old := ListenerQueue.mem_insert old
        · exact .inl ⟨rfl, rfl⟩
        · exact .inr (same ▸ old)
      · exact .inr old

section

variable {dispatch : Event → StateM Hub (Except EventError Event)}

theorem keepsTally_answer (each : ∀ event, KeepsTally (dispatch event))
    (request : Request Listener) : KeepsTally (answer dispatch request) := by
  cases request with
  | register event listener priority once =>
    refine KeepsTally.get.bind fun _ => ?_
    exact (keepsTally_register event listener priority once).bind fun _ => .pure _
  | registerAll events listener priority =>
    exact (keepsTally_registerEach listener priority events).bind fun _ => .pure _
  | remove event id =>
    refine KeepsTally.get.bind fun _ => ?_
    exact (keepsTally_remove event id).bind fun _ => .pure _
  | clear event => exact (keepsTally_unregister event).bind fun _ => .pure _
  | unregister event =>
    refine KeepsTally.get.bind fun _ => ?_
    exact (keepsTally_unregister event).bind fun _ => .pure _
  | dispatch event => exact (each event).bind fun _ => .pure _
  | has | count | events => exact KeepsTally.get.bind fun _ => .pure _
  | share => exact .pure _
  | note note =>
    refine KeepsTally.bind (.modify fun _ _ keeps => ?_) fun _ => .pure _
    exact ⟨_, keeps⟩

/-- A program asks for nothing but operations of the registry and dispatches. -/
theorem keepsTally_run (each : ∀ event, KeepsTally (dispatch event)) :
    (program : Program) → KeepsTally (run dispatch program)
  | .done outcome => by
    rw [run]
    exact .pure outcome
  | .ask request next => by
    rw [run]
    exact (keepsTally_answer each request).bind fun reply => keepsTally_run each (next reply)

end

/-- Runs the listener of an entry, which may dispatch `depth` levels deep. -/
abbrev invokeWithin (depth : Nat) (entry : QueueEntry Listener) (event : Event) :
    StateM Hub (Except Text Event) :=
  run (dispatchWithin depth) (entry.listener event)

theorem dispatchWithin_succ (depth : Nat) (event : Event) (hub : Hub) :
    dispatchWithin (depth + 1) event hub =
      ((deliver (invokeWithin depth) event.name (hub.registry.queue event.name)
        event hub).1.outcome,
        (deliver (invokeWithin depth) event.name (hub.registry.queue event.name) event hub).2) := by
  rw [dispatchWithin]
  rfl

/-- Whatever listeners do, the registry changes by its operations alone. -/
theorem keepsTally_dispatchWithin (depth : Nat) (event : Event) :
    KeepsTally (dispatchWithin depth event) := by
  induction depth generalizing event with
  | zero =>
    rw [dispatchWithin]
    exact .pure _
  | succ depth ih =>
    intro hub tallied
    rw [dispatchWithin_succ]
    exact keepsTally_deliver (fun entry event => keepsTally_run ih (entry.listener event)) _ _ _ hub
      tallied

/-- Requests from outside are operations of the registry and dispatches as well. -/
theorem keepsTally_perform (request : Request Listener) : KeepsTally (perform request) :=
  keepsTally_answer (keepsTally_dispatchWithin depthLimit) request

end Hub

/-! ## The turns of a dispatch -/

/-- These are the turns of a dispatch that serves a queue from an event and a hub on. -/
structure Serves (invoke : QueueEntry Listener → Event → StateM Hub (Except Text Event))
    (name : Text) (queue : ListenerQueue Listener) (event : Event) (hub : Hub)
    (turns : List Turn) (delivery : Delivery) (after : Hub) : Prop where
  /-- The entries get their turns in the order of the queue. -/
  inOrder : turns.map Turn.entry <+: queue
  /-- The first turn meets the event and the hub of the dispatch. -/
  starts : ∀ first, turns.head? = some first → first.event = event ∧ first.hub = hub
  /-- A turn that has a next one does not end the dispatch, and the next one
  meets the event and the hub that it leaves. -/
  goesOn : turns.IsChain fun turn next =>
    turn.ends invoke name = false ∧ turn.leaves invoke name = (.ok next.event, next.hub)
  /-- If an entry gets no turn, the last turn has ended the dispatch. -/
  cut : turns.length < queue.length →
    ∃ last, turns.getLast? = some last ∧ last.ends invoke name = true
  /-- Those that are due are invoked. -/
  invoked : delivery.invoked = (turns.filter (Turn.due name)).map fun turn => turn.entry.id
  /-- The dispatch comes to what its last turn comes to. -/
  result : (delivery.outcome, after) =
    match turns.getLast? with
    | none => (.ok event, hub)
    | some last => (Turn.outcome name (last.leaves invoke name).1, (last.leaves invoke name).2)

namespace Serves

variable {invoke : QueueEntry Listener → Event → StateM Hub (Except Text Event)} {name : Text}
  {rest : ListenerQueue Listener} {entry : QueueEntry Listener} {event : Event} {hub : Hub}

/-- An empty queue has no turns. -/
theorem empty : Serves invoke name [] event hub [] ⟨[], .ok event⟩ hub where
  inOrder := List.prefix_rfl
  starts := fun _ first => nomatch first
  goesOn := .nil
  cut := fun fewer => absurd fewer (Nat.lt_irrefl 0)
  invoked := rfl
  result := rfl

/-- A turn that ends the dispatch is the last one. -/
theorem last (rest : ListenerQueue Listener) {turn : Turn} (start : turn = ⟨entry, event, hub⟩)
    (due : turn.due name = true) (ends : turn.ends invoke name = true) :
    Serves invoke name (entry :: rest) event hub [turn]
      ⟨[entry.id], Turn.outcome name (turn.leaves invoke name).1⟩ (turn.leaves invoke name).2 where
  inOrder := by
    subst start
    exact ⟨rest, rfl⟩
  starts := by
    rintro first ⟨⟩
    subst start
    exact ⟨rfl, rfl⟩
  goesOn := .singleton turn
  cut := fun _ => ⟨turn, rfl, ends⟩
  invoked := by
    rw [List.filter_cons_of_pos due]
    simp [start]
  result := rfl

/-- A turn that does not end the dispatch is followed by the turns from what it leaves. -/
theorem cons {turn : Turn} {turns : List Turn} {later : Delivery} {after : Hub} {event' : Event}
    {hub' : Hub} (start : turn = ⟨entry, event, hub⟩) (stays : turn.ends invoke name = false)
    (leaves : turn.leaves invoke name = (.ok event', hub'))
    (serves : Serves invoke name rest event' hub' turns later after) :
    Serves invoke name (entry :: rest) event hub (turn :: turns)
      { later with invoked := (if turn.due name then [entry.id] else []) ++ later.invoked }
      after where
  inOrder := by
    subst start
    exact List.cons_prefix_cons.2 ⟨rfl, serves.inOrder⟩
  starts := by
    rintro first ⟨⟩
    subst start
    exact ⟨rfl, rfl⟩
  goesOn := by
    cases turns with
    | nil => exact .singleton turn
    | cons next more =>
      obtain ⟨sameEvent, sameHub⟩ := serves.starts next rfl
      refine .cons_cons ⟨stays, ?_⟩ serves.goesOn
      rw [leaves, sameEvent, sameHub]
  cut := by
    intro fewer
    obtain ⟨final, found, ends⟩ := serves.cut (by simpa using fewer)
    exact ⟨final, by rw [List.getLast?_cons, found]; rfl, ends⟩
  invoked := by
    rw [List.filter_cons, serves.invoked]
    cases due : turn.due name <;> simp [start]
  result := by
    have result := serves.result
    rw [List.getLast?_cons]
    cases found : turns.getLast? with
    | none =>
      rw [found] at result
      simp only [Option.getD_none, leaves, Turn.outcome]
      exact result
    | some final =>
      rw [found] at result
      exact result

end Serves

/-- Every delivery has turns, and between them the registry changes by its operations alone. -/
theorem deliver_serves {invoke : QueueEntry Listener → Event → StateM Hub (Except Text Event)}
    (each : ∀ entry event, Hub.KeepsTally (invoke entry event)) (name : Text)
    (queue : ListenerQueue Listener) (event : Event) {hub : Hub} (tallied : hub.Tallied) :
    ∃ turns, Serves invoke name queue event hub turns (Hub.deliver invoke name queue event hub).1
        (Hub.deliver invoke name queue event hub).2 ∧
      ∀ turn ∈ turns, turn.hub.Tallied := by
  induction queue generalizing event hub with
  | nil => exact ⟨[], .empty, fun _ member => (List.not_mem_nil member).elim⟩
  | cons entry rest ih =>
    obtain ⟨turn, start⟩ : ∃ turn : Turn, turn = ⟨entry, event, hub⟩ := ⟨_, rfl⟩
    have here : turn.hub.Tallied := start ▸ tallied
    have left := Hub.tallied_leaves each name here
    have alone : ∀ other ∈ [turn], other.hub.Tallied :=
      List.forall_mem_cons.2 ⟨here, fun _ none => nomatch none⟩
    rw [Hub.deliver_cons start]
    cases due : turn.due name with
    | false =>
      have leaves : turn.leaves invoke name = (.ok event, turn.claimed name) := by
        rw [Turn.leaves, due, start]
        rfl
      rw [leaves] at left
      obtain ⟨turns, serves, others⟩ := ih event left
      have stays : turn.ends invoke name = false := by simp [Turn.ends, due]
      have served := serves.cons start stays leaves
      rw [due] at served
      exact ⟨turn :: turns, served, List.forall_mem_cons.2 ⟨here, others⟩⟩
    | true =>
      rw [if_pos rfl]
      cases ran : turn.leaves invoke name with
      | mk outcome hub' =>
        rw [ran] at left
        cases outcome with
        | error reason =>
          have ends : turn.ends invoke name = true := by simp [Turn.ends, due, ran]
          have served := Serves.last rest start due ends
          rw [ran] at served
          exact ⟨[turn], served, alone⟩
        | ok event' =>
          rw [Hub.proceed]
          cases stopped : event'.stopped with
          | true =>
            have ends : turn.ends invoke name = true := by simp [Turn.ends, due, ran, stopped]
            have served := Serves.last rest start due ends
            rw [ran] at served
            exact ⟨[turn], served, alone⟩
          | false =>
            have stays : turn.ends invoke name = false := by simp [Turn.ends, due, ran, stopped]
            obtain ⟨turns, serves, others⟩ := ih event' left
            have served := serves.cons start stays ran
            rw [due] at served
            exact ⟨turn :: turns, served, List.forall_mem_cons.2 ⟨here, others⟩⟩

/-- A dispatch serves the registrations of its event by descending priority and
then by their order, as they stood when it started.  It invokes those that are
not for a single run or still registered at their turn, in the order of their
turns, and ends right behind the first that fails or leaves the flag set. -/
theorem dispatch_serves_queue {ledger : Ledger Listener} {hub : Hub}
    (keeps : hub.registry.Keeps ledger) (depth : Nat) (event : Event) :
    ∃ turns delivery after,
      Hub.deliver (Hub.invokeWithin depth) event.name (hub.registry.queue event.name) event hub =
          (delivery, after) ∧
        Hub.dispatchWithin (depth + 1) event hub = (delivery.outcome, after) ∧
        Serves (Hub.invokeWithin depth) event.name (ledger.runningOrder event.name) event hub turns
          delivery after ∧
        (∀ turn ∈ turns, ∃ standing, turn.hub.registry.Keeps standing ∧
          (turn.due event.name = true ↔ turn.entry.once = false ∨
            ∃ entry, ⟨event.name, entry⟩ ∈ standing ∧ entry.id = turn.entry.id)) ∧
        after.Tallied := by
  have each : ∀ entry event, Hub.KeepsTally (Hub.invokeWithin depth entry event) :=
    fun entry event =>
      Hub.keepsTally_run (Hub.keepsTally_dispatchWithin depth) (entry.listener event)
  obtain ⟨turns, serves, tallied⟩ :=
    deliver_serves each event.name (hub.registry.queue event.name) event ⟨ledger, keeps⟩
  refine ⟨turns, _, _, rfl, Hub.dispatchWithin_succ depth event hub, ?_, ?_, ?_⟩
  · rw [← keeps.queue_eq event.name]
    exact serves
  · intro turn member
    obtain ⟨standing, now⟩ := tallied turn member
    refine ⟨standing, now, ?_⟩
    rw [Turn.due, Bool.or_eq_true, Bool.not_eq_true', now.isRegistered_iff]
  · exact Hub.keepsTally_deliver each _ _ _ hub ⟨ledger, keeps⟩

/-! ## A listener that drops another -/

/-- Clears the flag of the event and drops the second listener. -/
def dropper : Listener := fun event =>
  .ask (.remove event.name 1) fun _ => .done (.ok { event with stopped := false })

/-- Registers a listener that fails, one for a single run and one that drops it. -/
def dropperRequests : List (Request Listener) :=
  [.register ['e'] (fun _ => .done (.error "down".toList)) 1 false,
    .register ['e'] (fun event => .done (.ok event)) 3 true, .register ['e'] dropper 5 false]

/-- The hub after these requests. -/
def dropperHub : Hub :=
  dropperRequests.foldl (fun hub request => (Hub.perform request hub).2) {}

/-- The listener for a single run is skipped, and a flag set in advance stops nothing. -/
theorem dispatch_serves_dropperHub :
    ∃ ledger, dropperHub.registry.Keeps ledger ∧ (ledger.runningOrder ['e']).ids = [2, 1, 0] ∧
      ∃ turns delivery after,
        Hub.dispatchWithin 4 { name := ['e'], stopped := true } dropperHub =
            (delivery.outcome, after) ∧
          Serves (Hub.invokeWithin 3) ['e'] (ledger.runningOrder ['e'])
            { name := ['e'], stopped := true } dropperHub turns delivery after ∧
          delivery.invoked = [2, 0] ∧
          delivery.outcome = .error (.listener ['e'] "down".toList) := by
  have tallied : dropperHub.Tallied := by
    refine List.foldlRecOn dropperRequests _ ⟨[], .empty⟩ fun hub tallied request _ => ?_
    exact Hub.keepsTally_perform request hub tallied
  obtain ⟨ledger, keeps⟩ := tallied
  obtain ⟨turns, delivery, after, delivered, dispatched, serves, -, -⟩ :=
    dispatch_serves_queue keeps 3 { name := ['e'], stopped := true }
  refine ⟨ledger, keeps, ?_, turns, delivery, after, dispatched, serves, ?_, ?_⟩
  · rw [← keeps.queue_eq]
    decide
  · have invoked : (Hub.deliver (Hub.invokeWithin 3) ['e'] (dropperHub.registry.queue ['e'])
        { name := ['e'], stopped := true } dropperHub).1.invoked = [2, 0] := by decide
    rwa [delivered] at invoked
  · have outcome : (Hub.deliver (Hub.invokeWithin 3) ['e'] (dropperHub.registry.queue ['e'])
        { name := ['e'], stopped := true } dropperHub).1.outcome =
          .error (.listener ['e'] "down".toList) := rfl
    rwa [delivered] at outcome

end PageTemplates
