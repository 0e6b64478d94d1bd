import Mathlib.Data.Char
import Mathlib.Data.List.Dedup
import Mathlib.Data.List.Lex
import PageTemplates.Proofs.RunTraces

/-!
# A registry is a list of registrations

A roll is the plain list of the registrations that stand, oldest first, with the
number of registrations there have been.  It answers every request by looking
through its list: identities are counted up, removing takes out the entry with
the identity under the event, clearing takes out the entries of the event, and
the events are the distinct names in the list, sorted.  A dispatch runs the
entries of its event by descending priority, and among equal priorities as they
stand in the list.

The registry keeps a sorted queue for each event instead.  `Traced.keeps` says
that along every trace the two belong together, and so every answer in a run is
the one that the roll gives (`trace_eq_retell`).

No event keeps a queue once its last entry is gone (`Registry.Tidy`).
-/

namespace PageTemplates

/-! ## Tables in order -/

namespace Table

variable {α : Type _}

theorem mem_insert {key : Text} {value : α} {table : Table α} {slot : Text × α}
    (member : slot ∈ table.insert key value) : slot = (key, value) ∨ slot ∈ table := by
  induction table with
  | nil => exact .inl (List.mem_singleton.1 member)
  | cons head rest ih =>
    rw [insert] at member
    split at member
    · exact (List.mem_cons.1 member).imp id (List.mem_cons_of_mem _)
    split at member
    · exact List.mem_cons.1 member
    · rcases List.mem_cons.1 member with rfl | later
      · exact .inr (List.mem_cons_self ..)
      · exact (ih later).imp id (List.mem_cons_of_mem _)

/-- The keys ascend. -/
abbrev Ascending (table : Table α) : Prop := table.Pairwise fun slot later => slot.1 < later.1

theorem ascending_insert (key : Text) (value : α) {table : Table α} (ascending : Ascending table) :
    Ascending (table.insert key value) := by
  induction table with
  | nil => exact List.pairwise_singleton _ _
  | cons head rest ih =>
    obtain ⟨front, ascending⟩ := List.pairwise_cons.1 ascending
    rw [insert]
    split
    · next same => exact List.pairwise_cons.2 ⟨fun slot later => same ▸ front slot later, ascending⟩
    split
    · next smaller =>
      refine List.pairwise_cons.2 ⟨?_, List.pairwise_cons.2 ⟨front, ascending⟩⟩
      exact List.forall_mem_cons.2 ⟨smaller, fun slot later => smaller.trans (front slot later)⟩
    · next differ larger =>
      have before : head.1 < key := lt_of_le_of_ne (not_lt.1 larger) differ
      refine List.pairwise_cons.2 ⟨fun slot member => ?_, ih ascending⟩
      rcases mem_insert member with rfl | later
      · exact before
      · exact front slot later

theorem get?_of_mem {table : Table α} (ascending : Ascending table) {slot : Text × α}
    (member : slot ∈ table) : table.get? slot.1 = some slot.2 := by
  induction table with
  | nil => exact absurd member List.not_mem_nil
  | cons head rest ih =>
    obtain ⟨front, ascending⟩ := List.pairwise_cons.1 ascending
    rw [get?]
    rcases List.mem_cons.1 member with rfl | later
    · rw [if_pos rfl]
    · rw [if_neg (front slot later).ne, ih ascending later]

end Table

theorem ListenerQueue.insert_ne_nil {α : Type _} (entry : QueueEntry α) (queue : ListenerQueue α) :
    queue.insert entry ≠ [] := by
  cases queue with
  | nil => exact List.cons_ne_nil _ _
  | cons head rest =>
    rw [insert]
    split
    · exact List.cons_ne_nil _ _
    · split <;> exact List.cons_ne_nil _ _

/-! ## Registries in order -/

/-- The events of a registry ascend, and each of them has a listener. -/
structure Registry.Tidy {α : Type _} (registry : Registry α) : Prop where
  ascending : registry.queues.Ascending
  /-- No event has an empty queue. -/
  filled : ∀ slot ∈ registry.queues, slot.2 ≠ []

namespace Registry

variable {α : Type _} {ledger : Ledger α} {registry : Registry α}

theorem tidy_insert {event : Text} {queue : ListenerQueue α} {nextId : Nat} (tidy : registry.Tidy)
    (filled : queue ≠ []) : Tidy ⟨registry.queues.insert event queue, nextId⟩ where
  ascending := Table.ascending_insert event queue tidy.ascending
  filled := by
    intro slot member
    rcases Table.mem_insert member with rfl | old
    · exact filled
    · exact tidy.filled slot old

theorem tidy_erase (event : Text) (tidy : registry.Tidy) :
    Tidy ⟨registry.queues.erase event, registry.nextId⟩ where
  ascending := tidy.ascending.sublist List.filter_sublist
  filled := fun slot member => tidy.filled slot (List.mem_filter.1 member).1

theorem Keeps.tidy (keeps : Keeps ledger registry) : registry.Tidy := by
  induction keeps with
  | empty => exact ⟨.nil, fun _ member => absurd member List.not_mem_nil⟩
  | register _ event listener priority once ih =>
    exact tidy_insert ih (ListenerQueue.insert_ne_nil _ _)
  | remove _ event id ih =>
    rw [Registry.remove]
    split
    · exact ih
    · split
      · exact tidy_erase event ih
      · next rest left => exact tidy_insert ih fun none => left none
  | unregister _ event ih => exact tidy_erase event ih

namespace Keeps

theorem count_eq (keeps : Keeps ledger registry) (event : Text) :
    registry.count event = ledger.countP fun registration => registration.event = event := by
  rw [count, (keeps.tallies.perm event).length_eq, Ledger.entries, List.length_map,
    List.countP_eq_length_filter]

theorem hasListeners_eq (keeps : Keeps ledger registry) (event : Text) :
    registry.hasListeners event = ledger.any fun registration => registration.event = event := by
  rw [Bool.eq_iff_iff, hasListeners, keeps.count_eq, decide_eq_true_eq, List.countP_pos_iff,
    List.any_eq_true]

theorem isRegistered_eq (keeps : Keeps ledger registry) (event : Text) (id : Nat) :
    registry.isRegistered event id = ledger.any fun registration =>
      registration.event = event ∧ registration.entry.id = id := by
  rw [Bool.eq_iff_iff, keeps.isRegistered_iff, List.any_eq_true]
  constructor
  · rintro ⟨entry, member, same⟩
    exact ⟨⟨event, entry⟩, member, decide_eq_true ⟨rfl, same⟩⟩
  · rintro ⟨⟨event, entry⟩, member, found⟩
    obtain ⟨rfl, same⟩ := of_decide_eq_true found
    exact ⟨entry, member, same⟩

/-- An event is listed exactly when a registration for it stands. -/
theorem mem_events (keeps : Keeps ledger registry) (event : Text) :
    event ∈ registry.events ↔ event ∈ ledger.map Registration.event := by
  have waiting : registry.hasListeners event = true ↔ event ∈ ledger.map Registration.event := by
    simp [keeps.hasListeners_eq]
  rw [← waiting, hasListeners, decide_eq_true_eq, count, List.length_pos_iff]
  constructor
  · intro listed
    obtain ⟨slot, member, rfl⟩ := List.mem_map.1 listed
    rw [queue, Table.get?_of_mem keeps.tidy.ascending member]
    exact keeps.tidy.filled slot member
  · intro filled
    cases known : registry.queues.get? event with
    | none =>
      rw [queue, known] at filled
      exact absurd rfl filled
    | some queue => exact Table.mem_keys_of_get? known

/-- The events of a registry are the distinct events of its registrations, sorted. -/
theorem events_eq (keeps : Keeps ledger registry) :
    registry.events =
      (ledger.map Registration.event).dedup.mergeSort fun name later => name ≤ later := by
  have ascending : registry.events.Pairwise (· < ·) := List.pairwise_map.2 keeps.tidy.ascending
  have sorted : ((ledger.map Registration.event).dedup.mergeSort fun name later =>
      name ≤ later).Pairwise fun name later => decide (name ≤ later) = true := by
    refine List.pairwise_mergeSort (fun first second third early late => ?_)
      (fun first second => by simpa using le_total first second) _
    rw [decide_eq_true_eq] at early late ⊢
    exact early.trans late
  have members : registry.events.Perm (ledger.map Registration.event).dedup := by
    refine (List.perm_ext_iff_of_nodup (ascending.imp fun less => less.ne)
      (List.nodup_dedup _)).2 fun event => ?_
    rw [keeps.mem_events, List.mem_dedup]
  refine List.Perm.eq_of_pairwise (fun name later _ _ => le_antisymm)
    (ascending.imp le_of_lt) (sorted.imp of_decide_eq_true)
    (members.trans (List.mergeSort_perm _ _).symm)

end Keeps

end Registry

/-! ## Rolls -/

/-- The registrations that a request makes when the next identity is `next`. -/
def Request.registrations (next : Nat) : Request Listener → Ledger Listener
  | .register event listener priority once => [⟨event, ⟨next, priority, once, listener⟩⟩]
  | .registerAll names listener priority =>
    (names.zipIdx next).map fun named => ⟨named.1, ⟨named.2, priority, false, listener⟩⟩
  | _ => []

/-- Whether a request drops the listener of an event with this identity. -/
def Request.drops (event : Text) (id : Nat) : Request Listener → Bool
  | .remove other number => event = other ∧ id = number
  | .clear other | .unregister other => event = other
  | _ => false

/-- The registrations that stand, oldest first, and how many there have been. -/
structure Roll where
  standing : Ledger Listener := []
  issued : Nat := 0

namespace Roll

/-- What a request other than a dispatch is answered. -/
def reply (roll : Roll) : Request Listener → Reply
  | .register _ _ _ _ => .id roll.issued
  | .registerAll names _ _ => .ids (List.range' roll.issued names.length)
  | .remove event id =>
    .flag (roll.standing.any fun registration =>
      registration.event = event ∧ registration.entry.id = id)
  | .unregister event | .has event =>
    .flag (roll.standing.any fun registration => registration.event = event)
  | .count event => .count (roll.standing.countP fun registration => registration.event = event)
  | .events =>
    .names ((roll.standing.map Registration.event).dedup.mergeSort fun name later => name ≤ later)
  | .clear _ | .share | .note _ | .dispatch _ => .none

/-- The roll behind a request other than a dispatch. -/
def behind (roll : Roll) (request : Request Listener) : Roll where
  standing := (roll.standing.filter fun registration =>
    !request.drops registration.event registration.entry.id) ++ request.registrations roll.issued
  issued := roll.issued + (request.registrations roll.issued).length

section

variable (roll : Roll)

theorem behind_register (event : Text) (listener : Listener) (priority : Int) (once : Bool) :
    roll.behind (.register event listener priority once) =
      ⟨roll.standing ++ [⟨event, ⟨roll.issued, priority, once, listener⟩⟩], roll.issued + 1⟩ := by
  simp [behind, Request.drops, Request.registrations]

theorem behind_registerAll (names : List Text) (listener : Listener) (priority : Int) :
    roll.behind (.registerAll names listener priority) =
      ⟨roll.standing ++ (names.zipIdx roll.issued).map fun named =>
        ⟨named.1, ⟨named.2, priority, false, listener⟩⟩, roll.issued + names.length⟩ := by
  simp [behind, Request.drops, Request.registrations]

theorem behind_remove (event : Text) (id : Nat) :
    roll.behind (.remove event id) = { roll with standing := roll.standing.drop event id } := by
  simp [behind, Request.drops, Request.registrations, Ledger.drop]

theorem behind_unregister (event : Text) :
    roll.behind (.unregister event) = { roll with standing := roll.standing.clear event } := by
  simp [behind, Request.drops, Request.registrations, Ledger.clear]

theorem behind_clear (event : Text) :
    roll.behind (.clear event) = { roll with standing := roll.standing.clear event } :=
  roll.behind_unregister event

/-- A request that neither drops nor registers a listener leaves the roll as it is. -/
theorem behind_eq_self (request : Request Listener)
    (keeps : ∀ event id, request.drops event id = false)
    (none : ∀ next, request.registrations next = []) : roll.behind request = roll := by
  simp [behind, keeps, none]

end

/-- What happens, as the roll has it answered. -/
def retold (roll : Roll) : Happening → Happening
  | .asked request _ => .asked request (roll.reply request)
  | .opened event _ => .opened event (roll.standing.runningOrder event.name)
  | .reached opening event entry _ =>
    .reached opening event entry (!entry.once ||
      roll.standing.any fun registration =>
        registration.event = event ∧ registration.entry.id = entry.id)
  | other => other

/-- The roll behind what happens.  A turn of an entry for a single run drops it. -/
def after (roll : Roll) : Happening → Roll
  | .asked request _ => roll.behind request
  | .reached _ event entry _ =>
    if entry.once then { roll with standing := roll.standing.drop event entry.id } else roll
  | _ => roll

/-- What happens in a run, with the answers that a roll gives. -/
def retell (roll : Roll) : List Happening → List Happening
  | [] => []
  | now :: later => roll.retold now :: retell (roll.after now) later

end Roll

/-! ## The roll of a registry -/

/-- The roll has the registrations of the registry, and it will issue the same identity next. -/
structure Roll.Describes (roll : Roll) (registry : Registry Listener) : Prop where
  keeps : registry.Keeps roll.standing
  issued : registry.nextId = roll.issued

namespace Roll.Describes

variable {roll : Roll} {registry : Registry Listener} {hub : Hub}

theorem start : Describes {} {} := ⟨.empty, rfl⟩

theorem register (describes : Describes roll registry) (event : Text) (listener : Listener)
    (priority : Int) (once : Bool) :
    Describes ⟨roll.standing ++ [⟨event, ⟨roll.issued, priority, once, listener⟩⟩], roll.issued + 1⟩
      (registry.register event listener priority once) where
  keeps := by
    rw [← describes.issued]
    exact describes.keeps.register event listener priority once
  issued := congrArg (· + 1) describes.issued

theorem remove (describes : Describes roll registry) (event : Text) (id : Nat) :
    Describes { roll with standing := roll.standing.drop event id } (registry.remove event id) :=
  ⟨describes.keeps.remove event id,
    (Registry.nextId_remove event id registry).trans describes.issued⟩

theorem unregister (describes : Describes roll registry) (event : Text) :
    Describes { roll with standing := roll.standing.clear event } (registry.unregister event) :=
  ⟨describes.keeps.unregister event, describes.issued⟩

/-- A listener for several events is registered for one after the other. -/
theorem registerEach (listener : Listener) (priority : Int) (names : List Text)
    (describes : Describes roll hub.registry) :
    (Hub.registerEach listener priority names hub).1 = List.range' roll.issued names.length ∧
      Describes ⟨roll.standing ++ (names.zipIdx roll.issued).map fun named =>
          ⟨named.1, ⟨named.2, priority, false, listener⟩⟩, roll.issued + names.length⟩
        (Hub.registerEach listener priority names hub).2.registry := by
  induction names generalizing roll hub with
  | nil =>
    refine ⟨rfl, ?_⟩
    simp only [List.zipIdx_nil, List.map_nil, List.append_nil, List.length_nil, Nat.add_zero]
    exact describes
  | cons event names ih =>
    let next : Hub := { hub with registry := hub.registry.register event listener priority false }
    have first : Describes _ next.registry := describes.register event listener priority false
    obtain ⟨ids, later⟩ := ih first
    have answered : Hub.registerEach listener priority (event :: names) hub =
        (hub.registry.nextId :: (Hub.registerEach listener priority names next).1,
          (Hub.registerEach listener priority names next).2) := rfl
    rw [answered, ids, describes.issued]
    refine ⟨rfl, ?_⟩
    simp only [List.zipIdx_cons, List.map_cons, List.length_cons]
    rw [List.append_assoc, List.singleton_append, Nat.add_assoc, Nat.add_comm 1] at later
    exact later

/-- The roll answers like the hub, and goes on to describe its registry. -/
theorem answer (dispatch : Event → StateM Hub (Except EventError Event))
    {request : Request Listener} (plain : ∀ event, request ≠ .dispatch event)
    (describes : Describes roll hub.registry) :
    (Hub.answer dispatch request hub).1 = roll.reply request ∧
      Describes (roll.behind request) (Hub.answer dispatch request hub).2.registry := by
  cases request with
  | dispatch event => exact absurd rfl (plain event)
  | register event listener priority once =>
    refine ⟨congrArg Reply.id describes.issued, ?_⟩
    rw [behind_register]
    exact describes.register event listener priority once
  | registerAll names listener priority =>
    obtain ⟨ids, registered⟩ := describes.registerEach listener priority names
    refine ⟨congrArg Reply.ids ids, ?_⟩
    rw [behind_registerAll]
    exact registered
  | remove event id =>
    refine ⟨congrArg Reply.flag (describes.keeps.isRegistered_eq event id), ?_⟩
    rw [behind_remove]
    exact describes.remove event id
  | clear event =>
    refine ⟨rfl, ?_⟩
    rw [behind_clear]
    exact describes.unregister event
  | unregister event =>
    refine ⟨congrArg Reply.flag (describes.keeps.hasListeners_eq event), ?_⟩
    rw [behind_unregister]
    exact describes.unregister event
  | has event =>
    refine ⟨congrArg Reply.flag (describes.keeps.hasListeners_eq event), ?_⟩
    rw [behind_eq_self _ _ (fun _ _ => rfl) fun _ => rfl]
    exact describes
  | count event =>
    refine ⟨congrArg Reply.count (describes.keeps.count_eq event), ?_⟩
    rw [behind_eq_self _ _ (fun _ _ => rfl) fun _ => rfl]
    exact describes
  | events =>
    refine ⟨congrArg Reply.names describes.keeps.events_eq, ?_⟩
    rw [behind_eq_self _ _ (fun _ _ => rfl) fun _ => rfl]
    exact describes
  | share | note =>
    refine ⟨rfl, ?_⟩
    rw [behind_eq_self _ _ (fun _ _ => rfl) fun _ => rfl]
    exact describes

end Roll.Describes

/-! ## Runs -/

/-- What happened in a run, without the hubs. -/
def Trace.happenings (trace : Trace) : List Happening := trace.map Moment.happening

/-- The roll behind a trace. -/
def Trace.roll (trace : Trace) : Roll := trace.happenings.foldl Roll.after {}

theorem Trace.roll_concat (past : Trace) (moment : Moment) :
    Trace.roll (past ++ [moment]) = (Trace.roll past).after moment.happening := by
  simp [Trace.roll, Trace.happenings]

theorem Roll.retell_concat (roll : Roll) (happenings : List Happening) (last : Happening) :
    roll.retell (happenings ++ [last]) =
      roll.retell happenings ++ [(happenings.foldl Roll.after roll).retold last] := by
  induction happenings generalizing roll with
  | nil => rfl
  | cons now later ih => rw [List.cons_append, retell, ih, retell, List.foldl_cons]; rfl

/-- A turn of an entry for a single run drops it, whether it is due or not. -/
theorem Turn.registry_begun (name : Text) (turn : Turn) :
    (turn.begun name).registry =
      if turn.entry.once then turn.hub.registry.remove name turn.entry.id
      else turn.hub.registry := by
  have claimed : (turn.begun name).registry = (turn.claimed name).registry := by
    rw [Turn.begun]
    split <;> rfl
  rw [claimed, Turn.claimed]
  split <;> rfl

/-- If the roll describes the registry, it does so behind whatever happens next. -/
theorem Trace.Step.describes {past : Trace} {moment : Moment} {after : Hub}
    (step : Trace.Step past moment after) {roll : Roll}
    (describes : roll.Describes moment.hub.registry) :
    (roll.after moment.happening).Describes after.registry := by
  cases step with
  | asked hub dispatch plain => exact (describes.answer dispatch plain).2
  | opened | returned | closed => exact describes
  | reached turn known next =>
    rw [Turn.registry_begun, Turn.reach, Roll.after]
    split
    · exact describes.remove _ turn.entry.id
    · exact describes

/-- The roll gives the answers that the hub gives. -/
theorem Trace.Step.retold_eq {past : Trace} {moment : Moment} {after : Hub}
    (step : Trace.Step past moment after) {roll : Roll}
    (describes : roll.Describes moment.hub.registry) :
    roll.retold moment.happening = moment.happening := by
  cases step with
  | asked hub dispatch plain => rw [Roll.retold, (describes.answer dispatch plain).1]
  | opened => rw [Roll.retold, describes.keeps.queue_eq]
  | @reached opening opener event queue turn known next =>
    have registered := describes.keeps.isRegistered_eq event.name turn.entry.id
    rw [Turn.reach, Roll.retold, ← registered]
    rfl
  | returned | closed => rfl

namespace Traced

variable {past : Trace} {hub : Hub}

/-- Along a trace the roll describes the registry. -/
theorem describes (traced : Traced past hub) : (Trace.roll past).Describes hub.registry := by
  induction traced with
  | start => exact .start
  | next traced step ih =>
    rw [Trace.roll_concat]
    exact step.describes ih

theorem retell_eq (traced : Traced past hub) :
    Roll.retell {} (Trace.happenings past) = Trace.happenings past := by
  induction traced with
  | start => rfl
  | next traced step ih =>
    rw [Trace.happenings, List.map_append, List.map_singleton, Roll.retell_concat]
    exact congrArg₂ (· ++ [·]) ih (step.retold_eq traced.describes)

end Traced

/-! ## All registrations of a run -/

/-- The registrations that are made when this happens and the next identity is `next`. -/
def Happening.registrations (next : Nat) : Happening → Ledger Listener
  | .asked request _ => request.registrations next
  | _ => []

/-- The registrations that are made at a moment. -/
def Moment.registrations (moment : Moment) : Ledger Listener :=
  moment.happening.registrations moment.hub.registry.nextId

/-- The registrations that were made in a run, whether they still stand or not. -/
def Trace.registered (past : Trace) : Ledger Listener := past.flatMap Moment.registrations

/-- The identities of registrations. -/
def Ledger.ids {α : Type _} (ledger : Ledger α) : List Nat :=
  ledger.map fun registration => registration.entry.id

theorem Trace.registered_concat (past : Trace) (moment : Moment) :
    Trace.registered (past ++ [moment]) = Trace.registered past ++ moment.registrations := by
  simp [Trace.registered]

/-- What is registered at once gets the next identities. -/
theorem Request.ids_registrations (next : Nat) (request : Request Listener) :
    (request.registrations next).ids = List.range' next (request.registrations next).length := by
  cases request with
  | registerAll names listener priority =>
    rw [registrations, Ledger.ids, List.map_map, List.length_map, List.length_zipIdx]
    exact List.zipIdx_map_snd next names
  | register => rfl
  | remove | clear | unregister | has | count | events | dispatch | share | note => rfl

theorem Roll.issued_after (roll : Roll) (happening : Happening) :
    (roll.after happening).issued =
      roll.issued + (happening.registrations roll.issued).length := by
  cases happening with
  | asked request reply => rfl
  | reached opening event entry due =>
    rw [after]
    split <;> rfl
  | opened | returned | closed => rfl

/-- Identities are issued in ascending order from zero, and none of them twice. -/
theorem Traced.ids_registered {past : Trace} {hub : Hub} (traced : Traced past hub) :
    (Trace.registered past).ids = List.range hub.registry.nextId := by
  induction traced with
  | start => rfl
  | @next past moment after traced step ih =>
    have issued := (step.describes traced.describes).issued
    rw [Roll.issued_after, ← traced.describes.issued] at issued
    have now : moment.registrations.ids =
        List.range' moment.hub.registry.nextId moment.registrations.length := by
      rw [Moment.registrations]
      cases moment.happening with
      | asked request reply => exact request.ids_registrations _
      | opened | reached | returned | closed => rfl
    rw [issued, Trace.registered_concat, Ledger.ids, List.map_append]
    rw [Ledger.ids] at ih now
    rw [ih, now, List.range_eq_range', List.range_eq_range', ← List.range'_append_1, Nat.zero_add]
    rfl

/-! ## Runs -/

/-- In a run of any program, with listeners that do whatever they like, every
answer is the one that the plain list of registrations gives.  A dispatch comes
to the entries of its event in the list by descending priority, oldest first
among equal priorities.  Identities are counted up from zero.  At no moment
does the registry hold an event without listeners. -/
theorem trace_eq_retell (depth : Nat) (program : Program) :
    Roll.retell {} (Trace.happenings (Hub.trace depth program)) =
        Trace.happenings (Hub.trace depth program) ∧
      (∀ opening opener event queue,
        (Hub.trace depth program)[opening]? = some ⟨opener, .opened event queue⟩ →
          Trace.turns opening (Hub.trace depth program) <+:
            (Trace.roll ((Hub.trace depth program).take opening)).standing.runningOrder
              event.name) ∧
      (Trace.registered (Hub.trace depth program)).ids =
        List.range (Hub.final depth program).registry.nextId ∧
      (∀ moment ∈ Hub.trace depth program, ∀ slot ∈ moment.hub.registry.queues, slot.2 ≠ []) ∧
      ∀ slot ∈ (Hub.final depth program).registry.queues, slot.2 ≠ [] := by
  have traced := Hub.traced_run depth program
  refine ⟨traced.retell_eq, ?_, traced.ids_registered, ?_, traced.describes.keeps.tidy.filled⟩
  · intro opening opener event queue opened
    rw [← (traced.step_at opened).1.describes.keeps.queue_eq, ← traced.queue_of_opened opened]
    exact traced.inOrder _ _ _ _ opened
  · intro moment member
    obtain ⟨past, rest, whole⟩ := List.append_of_mem member
    rw [whole] at traced
    exact traced.split.1.describes.keeps.tidy.filled

end PageTemplates
