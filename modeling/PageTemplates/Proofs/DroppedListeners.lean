import PageTemplates.Proofs.RegistrationSpans

/-!
# Listeners that are dropped during a dispatch

A dispatch serves the queue that its event had when it was opened.  A request
that drops an entry of this queue meanwhile, by its identity or together with
all listeners of the event, does not take it out of the queue.  The entry keeps
its turn, and dispatches that are opened later do not come to it.

What the turn comes to depends on the entry.  A listener that runs again and
again is run.  One for a single run is not: its turn looks it up in the registry,
which does not tell an entry that another dispatch has run from one that was
dropped (`dropped_keeps_turn`).
-/

namespace PageTemplates

/-- The dispatch runs the listener of an entry, unless one in front of it in the queue ends the
dispatch. -/
def Heard (trace : Trace) (opening : Nat) (queue : ListenerQueue Listener)
    (entry : QueueEntry Listener) : Prop :=
  (∃ hub event, (⟨hub, .reached opening event entry true⟩ : Moment) ∈ trace) ∨
    ∃ hub other outcome, (⟨hub, .returned opening other outcome⟩ : Moment) ∈ trace ∧
      [other, entry].Sublist queue ∧ ∀ event, outcome = .ok event → event.stopped = true

namespace Traced

variable {early later : Trace} {hub last : Hub}

/-- An entry that runs again and again is run when its turn comes. -/
theorem heard_of_served {trace : Trace} (traced : Traced trace last) {opening : Nat}
    {queue : ListenerQueue Listener} {entry : QueueEntry Listener} (again : entry.once = false)
    (served : Served trace opening queue entry) : Heard trace opening queue entry := by
  refine served.imp (fun ⟨hub, event, due, member⟩ => ?_) id
  obtain ⟨past, rest, whole⟩ := List.append_of_mem member
  have due_eq : due = true := by
    rw [whole] at traced
    obtain ⟨-, after, step, -⟩ := traced.split
    rw [step.of_reached.2, again]
    rfl
  exact ⟨hub, event, due_eq ▸ member⟩

/-- A registration that was taken does not stand again. -/
theorem not_standing_of_taken {moment : Moment} (traced : Traced (early ++ moment :: later) last)
    {registration : Registration Listener} (member : registration ∈ Trace.registered early)
    (taken : moment.happening.takes registration = true) :
    registration ∉ (Trace.roll (early ++ moment :: later)).standing := by
  rw [traced.standing_iff member, List.forall_mem_cons, taken]
  exact fun stands => Bool.false_ne_true stands.2.1.symm

/-- Once a registration is taken, its entry has turns only in dispatches that were opened before,
and is run there only if it is not for a single run. -/
theorem reached_of_taken {moment : Moment} (traced : Traced (early ++ moment :: later) last)
    {registration : Registration Listener} (member : registration ∈ Trace.registered early)
    (taken : moment.happening.takes registration = true) {opening : Nat} {event : Text}
    {entry : QueueEntry Listener} {due : Bool}
    (reached : ⟨hub, .reached opening event entry due⟩ ∈ later)
    (same : entry.id = registration.entry.id) :
    ⟨event, entry⟩ = registration ∧ due = !entry.once ∧ opening < early.length := by
  obtain ⟨middle, rest, rfl⟩ := List.append_of_mem reached
  rw [← List.cons_append, ← List.append_assoc] at traced
  obtain ⟨before, after, step, -⟩ := traced.split
  have known := Trace.registered_append member (moment :: middle)
  obtain rfl : ⟨event, entry⟩ = registration :=
    before.eq_of_id (step.registered_of_reached before) known same
  refine ⟨rfl, ?_, Nat.not_le.1 fun late => ?_⟩
  · have gone : hub.registry.isRegistered event entry.id = false := by
      rw [← Bool.not_eq_true, before.isRegistered_iff known]
      exact before.not_standing_of_taken member taken
    rw [step.of_reached.2, gone, Bool.or_false]
  · obtain ⟨⟨opener, dispatched, queue, opened, rfl, waits⟩, -⟩ := step.of_reached
    rcases Nat.eq_or_lt_of_le late with rfl | later
    · -- What takes a registration is no opening.
      rw [List.getElem?_append_right (Nat.le_refl _), Nat.sub_self] at opened
      obtain rfl := Option.some.inj opened
      exact absurd taken (by simp)
    · -- The dispatch was opened when the registration was gone.
      have stood := before.standing_of_opened opened waits
      obtain ⟨began, -⟩ := before.step_at opened
      obtain ⟨between, rfl⟩ := Nat.exists_eq_add_of_lt later
      rw [Nat.add_assoc, List.take_length_add_append, List.take_succ_cons] at began stood
      exact began.not_standing_of_taken member taken stood

end Traced

/-! ## Runs -/

/-- If an entry of the queue of a dispatch is dropped after the dispatch was opened, whether by its
identity or with all listeners of the event, the dispatch runs it nevertheless if it is not for a
single run, unless a listener in front of it fails or leaves the flag of the event set.  From then
on the entry has turns only in dispatches that were opened before it was dropped, and there it is
run exactly if it is not for a single run. -/
theorem dropped_keeps_turn {depth : Nat} {program : Program} {early middle later : Trace}
    {opener remover : Hub} {event : Event} {queue : ListenerQueue Listener}
    {entry : QueueEntry Listener} {request : Request Listener} {reply : Reply}
    (removes : Hub.trace depth program =
      early ++ ⟨opener, .opened event queue⟩ :: middle ++ ⟨remover, .asked request reply⟩ :: later)
    (waits : entry ∈ queue) (drops : request.drops event.name entry.id = true) :
    Served (Hub.trace depth program) early.length queue entry ∧
      (entry.once = false → Heard (Hub.trace depth program) early.length queue entry) ∧
      ∀ hub opening name other due, ⟨hub, .reached opening name other due⟩ ∈ later →
        other.id = entry.id →
          name = event.name ∧ other = entry ∧ due = !entry.once ∧
            opening ≤ early.length + middle.length := by
  have traced := Hub.traced_run depth program
  have opened : (Hub.trace depth program)[early.length]? = some ⟨opener, .opened event queue⟩ := by
    simp [removes]
  have served := Hub.served_run opened entry waits
  refine ⟨served, fun again => traced.heard_of_served again served, ?_⟩
  intro hub opening name other due reached same
  have made := traced.registered_of_opened opened waits
  rw [removes, List.append_assoc, List.take_left] at made
  have known := Trace.registered_append made (⟨opener, .opened event queue⟩ :: middle)
  have taken : Happening.takes ⟨event.name, entry⟩ (.asked request reply) = true := by
    rw [Happening.takes_asked, drops]
  rw [removes] at traced
  obtain ⟨own, due_eq, before⟩ := traced.reached_of_taken known taken reached same
  cases own
  rw [List.length_append, List.length_cons] at before
  exact ⟨rfl, rfl, due_eq, Nat.le_of_lt_succ before⟩

/-! ## Listeners for a single run -/

/-- Drops all listeners of its event. -/
def clearer : Listener := fun event => .ask (.clear event.name) fun _ => .done (.ok event)

/-- Registers a listener that drops all, one that runs again and again and one for a single run. -/
def clearingRequests : List (Request Listener) :=
  [.register ['e'] clearer 5 false, .register ['e'] (Listener.ofChange id) 3 false,
    .register ['e'] (Listener.ofChange id) 1 true]

/-- The queue of their event. -/
def clearingQueue : ListenerQueue Listener :=
  [⟨0, 5, false, clearer⟩, ⟨1, 3, false, Listener.ofChange id⟩, ⟨2, 1, true, Listener.ofChange id⟩]

/-- The hub after these requests. -/
def clearingHub : Hub := clearingRequests.foldl (fun hub request => (Hub.perform request hub).2) {}

/-- Asks for them, and dispatches the event twice. -/
def clearingProgram : Program :=
  clearingRequests.foldr (fun request next => .ask request fun _ => next)
    (.ask (.dispatch { name := ['e'] }) fun _ =>
      .ask (.dispatch { name := ['e'] }) fun _ => .done (.ok {}))

/-- The first listener drops all when the first dispatch has just come to it. -/
theorem trace_clearingProgram : Hub.trace 2 clearingProgram =
    (Hub.trace 2 clearingProgram).take 3 ++
        ⟨clearingHub, .opened { name := ['e'] } clearingQueue⟩ ::
          [⟨clearingHub, .reached 3 ['e'] ⟨0, 5, false, clearer⟩ true⟩] ++
      ⟨{ clearingHub with journal := [⟨['e'], 0⟩] }, .asked (.clear ['e']) .none⟩ ::
        (Hub.trace 2 clearingProgram).drop 6 := rfl

/-- The second listener is run although it was dropped, and the second dispatch finds none. -/
theorem dropped_keeps_turn_clearing : ∃ early later remover,
    Hub.trace 2 clearingProgram =
        early ++ ⟨clearingHub, .opened { name := ['e'] } clearingQueue⟩ ::
            [⟨clearingHub, .reached 3 ['e'] ⟨0, 5, false, clearer⟩ true⟩] ++
          ⟨remover, .asked (.clear ['e']) .none⟩ :: later ∧
      (∃ entry ∈ clearingQueue, entry.id = 1 ∧ entry.once = false ∧
        Heard (Hub.trace 2 clearingProgram) early.length clearingQueue entry ∧
        ∀ hub opening name other due, ⟨hub, .reached opening name other due⟩ ∈ later →
          other.id = 1 → due = true ∧ opening ≤ early.length + 1) ∧
      (Hub.final 2 clearingProgram).journal = [⟨['e'], 0⟩, ⟨['e'], 1⟩] := by
  have waits : ⟨1, 3, false, Listener.ofChange id⟩ ∈ clearingQueue :=
    List.mem_cons_of_mem _ (List.mem_cons_self ..)
  obtain ⟨-, heard, others⟩ := dropped_keeps_turn trace_clearingProgram waits rfl
  refine ⟨_, _, _, trace_clearingProgram, ⟨_, waits, rfl, rfl, heard rfl, ?_⟩, rfl⟩
  intro hub opening name other due reached same
  obtain ⟨-, rfl, due_eq, early⟩ := others hub opening name other due reached same
  exact ⟨due_eq, early⟩

/-- The third listener is for a single run.  No dispatch runs it before or after it is dropped, and
none in front of it fails or leaves the flag set.  Yet the dispatch does not run it. -/
theorem dropped_once_unheard : ∃ remover,
    (Hub.trace 2 clearingProgram)[3]? =
        some ⟨clearingHub, .opened { name := ['e'] } clearingQueue⟩ ∧
      (Hub.trace 2 clearingProgram)[4]? =
        some ⟨clearingHub, .reached 3 ['e'] ⟨0, 5, false, clearer⟩ true⟩ ∧
      (Hub.trace 2 clearingProgram)[5]? = some ⟨remover, .asked (.clear ['e']) .none⟩ ∧
      (∃ entry ∈ clearingQueue, entry.id = 2 ∧
        ¬ Heard (Hub.trace 2 clearingProgram) 3 clearingQueue entry) ∧
      (Hub.final 2 clearingProgram).journal = [⟨['e'], 0⟩, ⟨['e'], 1⟩] := by
  have waits : ⟨2, 1, true, Listener.ofChange id⟩ ∈ clearingQueue :=
    List.mem_cons_of_mem _ (List.mem_cons_of_mem _ (List.mem_cons_self ..))
  have journal : Trace.runs (Hub.trace 2 clearingProgram) = [⟨['e'], 0⟩, ⟨['e'], 1⟩] := rfl
  have handed : (Hub.trace 2 clearingProgram).all (fun moment =>
      match moment.happening with
      | .returned _ _ (.ok event) => !event.stopped
      | .returned _ _ (.error _) => false
      | _ => true) = true := rfl
  refine ⟨_, rfl, rfl, rfl, ⟨_, waits, rfl, ?_⟩, rfl⟩
  rintro (⟨hub, event, reached⟩ | ⟨hub, other, outcome, returned, -, ends⟩)
  · have run : ⟨event, 2⟩ ∈ Trace.runs (Hub.trace 2 clearingProgram) :=
      List.mem_filterMap.2 ⟨_, reached, rfl⟩
    rw [journal] at run
    simp at run
  · have goesOn := List.all_eq_true.1 handed _ returned
    cases outcome with
    | error reason => exact absurd goesOn Bool.false_ne_true
    | ok event => simp [ends event rfl] at goesOn

end PageTemplates
