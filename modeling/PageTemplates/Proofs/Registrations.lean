import PageTemplates.Event.Registry

/-!
# Registrations in order

A ledger is the list of the registrations that stand, oldest first.  It knows
nothing of queues: registering adds to its end, and dropping a listener takes
entries out.  `Registry.Keeps` relates a ledger to the registry that came about
by the same operations.

The queue of an event is then the stable sort of its entries in the ledger by
descending priority (`Registry.Keeps.queue_eq`), so listeners of equal priority
stand in the order of their registration.  A listener is registered exactly
when the ledger has it (`Registry.Keeps.isRegistered_iff`).

Identities are issued in ascending order.  A queue is sorted by priority and
identity, and every operation keeps that (`ListenerQueue.sorted_insert`), so
the two orders agree.
-/

namespace PageTemplates

variable {α : Type _}

/-! ## The running order -/

namespace QueueEntry

theorem before_iff {entry other : QueueEntry α} : entry.before other = true ↔
    other.priority < entry.priority ∨
      (entry.priority = other.priority ∧ entry.id < other.id) := by
  simp [before]

theorem sameKey_iff {entry other : QueueEntry α} : entry.sameKey other = true ↔
    entry.priority = other.priority ∧ entry.id = other.id := by
  simp [sameKey]

theorem before_trans {first second third : QueueEntry α} (early : first.before second = true)
    (late : second.before third = true) : first.before third = true := by
  rw [before_iff] at early late ⊢
  omega

/-- Of two entries with different keys one runs before the other. -/
theorem before_of_not_before {entry other : QueueEntry α} (differ : entry.sameKey other ≠ true)
    (later : entry.before other ≠ true) : other.before entry = true := by
  rw [ne_eq, sameKey_iff] at differ
  rw [ne_eq, before_iff] at later
  rw [before_iff]
  omega

end QueueEntry

namespace ListenerQueue

/-- Entries stand in the order in which they run. -/
abbrev Sorted (queue : ListenerQueue α) : Prop :=
  queue.Pairwise fun entry later => entry.before later = true

/-- What is inserted runs behind all that runs before both it and the rest. -/
theorem before_insert {head entry : QueueEntry α} {queue : ListenerQueue α}
    (front : head.before entry = true) (others : ∀ later ∈ queue, head.before later = true) :
    ∀ later ∈ insert entry queue, head.before later = true := by
  induction queue with
  | nil => simpa [insert] using front
  | cons first rest ih =>
    obtain ⟨next, behind⟩ := List.forall_mem_cons.1 others
    simp only [insert]
    split
    · exact List.forall_mem_cons.2 ⟨front, behind⟩
    split
    · exact List.forall_mem_cons.2 ⟨front, others⟩
    · exact List.forall_mem_cons.2 ⟨next, ih behind⟩

/-- Inserting keeps a queue sorted. -/
theorem sorted_insert (entry : QueueEntry α) {queue : ListenerQueue α} (sorted : Sorted queue) :
    Sorted (insert entry queue) := by
  induction queue with
  | nil => simp [insert, Sorted]
  | cons head rest ih =>
    obtain ⟨front, sorted⟩ := List.pairwise_cons.1 sorted
    simp only [insert]
    split
    · next same =>
      -- An entry that takes the place of one with its key runs before what that one ran before.
      rw [QueueEntry.sameKey_iff] at same
      refine List.pairwise_cons.2 ⟨fun later member => ?_, sorted⟩
      have behind := front later member
      rw [QueueEntry.before_iff] at behind ⊢
      omega
    split
    · next first =>
      have behind : ∀ later ∈ head :: rest, entry.before later = true :=
        List.forall_mem_cons.2
          ⟨first, fun later member => QueueEntry.before_trans first (front later member)⟩
      exact List.pairwise_cons.2 ⟨behind, List.pairwise_cons.2 ⟨front, sorted⟩⟩
    · next differ later =>
      have next := QueueEntry.before_of_not_before differ later
      exact List.pairwise_cons.2 ⟨before_insert next front, ih sorted⟩

/-- A new identity adds its entry to the queue and replaces none. -/
theorem insert_perm {entry : QueueEntry α} {queue : ListenerQueue α}
    (new : ∀ other ∈ queue, other.id ≠ entry.id) : (insert entry queue).Perm (entry :: queue) := by
  induction queue with
  | nil => exact .refl _
  | cons head rest ih =>
    obtain ⟨differs, new⟩ := List.forall_mem_cons.1 new
    have differ : entry.sameKey head ≠ true := by
      rw [ne_eq, QueueEntry.sameKey_iff]
      exact fun same => differs same.2.symm
    simp only [insert, differ, Bool.false_eq_true, if_false]
    split
    · exact .refl _
    · exact ((ih new).cons head).trans (.swap entry head rest)

/-- Among distinct identities, removing one keeps all the others. -/
theorem remove_eq_filter {queue : ListenerQueue α} (distinct : queue.ids.Nodup) (id : Nat) :
    remove id queue = queue.filter fun entry => entry.id ≠ id := by
  induction queue with
  | nil => rfl
  | cons head rest ih =>
    obtain ⟨alone, distinct⟩ := List.nodup_cons.1 distinct
    by_cases hit : head.id = id
    · have others : ∀ entry ∈ rest, entry.id ≠ id := by
        rintro entry member rfl
        exact alone (hit ▸ List.mem_map_of_mem member)
      have kept : rest.filter (fun entry => entry.id ≠ id) = rest :=
        List.filter_eq_self.2 fun entry member => decide_eq_true (others entry member)
      rw [List.filter_cons_of_neg (by simpa using hit), kept]
      simp [remove, hit]
    · have later : remove id (head :: rest) = head :: remove id rest := by simp [remove, hit]
      rw [later, ih distinct]
      simp [hit]

theorem has_iff {queue : ListenerQueue α} {id : Nat} :
    queue.has id = true ↔ ∃ entry ∈ queue, entry.id = id := by
  simp [has]

/-- What stands in a queue behind an insertion is the new entry or an old one. -/
theorem mem_insert {entry other : QueueEntry α} {queue : ListenerQueue α}
    (member : other ∈ insert entry queue) : other = entry ∨ other ∈ queue := by
  induction queue with
  | nil => exact .inl (List.mem_singleton.1 member)
  | cons head rest ih =>
    simp only [insert] at member
    split at member
    · exact (List.mem_cons.1 member).imp_right (List.mem_cons_of_mem head)
    split at member
    · exact List.mem_cons.1 member
    · obtain rfl | later := List.mem_cons.1 member
      · exact .inr (List.mem_cons_self ..)
      · exact (ih later).imp_right (List.mem_cons_of_mem head)

end ListenerQueue

/-! ## The queues of a registry -/

namespace Registry

theorem queue_register (event other : Text) (listener : α) (priority : Int) (once : Bool)
    (registry : Registry α) :
    (registry.register event listener priority once).queue other =
      if other = event then
        (registry.queue event).insert ⟨registry.nextId, priority, once, listener⟩
      else registry.queue other := by
  simp only [queue, register, Table.get?_insert]
  split <;> rfl

theorem queue_unregister (event other : Text) (registry : Registry α) :
    (registry.unregister event).queue other =
      if other = event then [] else registry.queue other := by
  simp only [queue, unregister, Table.get?_erase]
  split <;> rfl

theorem queue_remove (event other : Text) (id : Nat) (registry : Registry α) :
    (registry.remove event id).queue other =
      if other = event then ListenerQueue.remove id (registry.queue event)
      else registry.queue other := by
  unfold remove
  cases known : registry.queues.get? event with
  | none =>
    simp only [queue, known]
    split
    · next same => simp [same, known, ListenerQueue.remove]
    · rfl
  | some waiting =>
    cases left : ListenerQueue.remove id waiting with
    | nil =>
      simp only [queue, known, Table.get?_erase, Option.getD_some, left]
      split <;> rfl
    | cons entry rest =>
      simp only [queue, known, Table.get?_insert, Option.getD_some, left]
      split <;> rfl

theorem nextId_remove (event : Text) (id : Nat) (registry : Registry α) :
    (registry.remove event id).nextId = registry.nextId := by
  unfold remove
  split
  · rfl
  · split <;> rfl

end Registry

/-! ## Ledgers -/

/-- A registration: the event and what waits in its queue. -/
structure Registration (α : Type _) where
  event : Text
  entry : QueueEntry α

/-- The registrations that stand, oldest first. -/
abbrev Ledger (α : Type _) := List (Registration α)

namespace Ledger

/-- The entries of an event, oldest first. -/
def entries (event : Text) (ledger : Ledger α) : List (QueueEntry α) :=
  (ledger.filter fun registration => registration.event = event).map Registration.entry

/-- The entries of an event by descending priority, oldest first among equal priorities. -/
def runningOrder (event : Text) (ledger : Ledger α) : ListenerQueue α :=
  (ledger.entries event).mergeSort fun entry later => decide (later.priority ≤ entry.priority)

/-- The ledger without the listener of an event with this identity. -/
def drop (event : Text) (id : Nat) (ledger : Ledger α) : Ledger α :=
  ledger.filter fun registration => ¬ (registration.event = event ∧ registration.entry.id = id)

/-- The ledger without the listeners of an event. -/
def clear (event : Text) (ledger : Ledger α) : Ledger α :=
  ledger.filter fun registration => registration.event ≠ event

theorem mem_entries {event : Text} {ledger : Ledger α} {entry : QueueEntry α} :
    entry ∈ ledger.entries event ↔ ⟨event, entry⟩ ∈ ledger := by
  simp only [entries, List.mem_map, List.mem_filter, decide_eq_true_eq]
  constructor
  · rintro ⟨⟨_, _⟩, ⟨member, rfl⟩, rfl⟩
    exact member
  · exact fun member => ⟨⟨event, entry⟩, ⟨member, rfl⟩, rfl⟩

theorem entries_concat (event other : Text) (entry : QueueEntry α) (ledger : Ledger α) :
    entries other (ledger ++ [⟨event, entry⟩]) =
      if other = event then ledger.entries other ++ [entry] else ledger.entries other := by
  simp only [entries, List.filter_append, List.map_append]
  split
  · next same => simp [same]
  · next differ => simp [Ne.symm differ]

theorem entries_drop (event other : Text) (id : Nat) (ledger : Ledger α) :
    entries other (ledger.drop event id) =
      if other = event then (ledger.entries other).filter fun entry => entry.id ≠ id
      else ledger.entries other := by
  simp only [entries, drop, List.filter_filter, List.filter_map]
  split
  · next same =>
    subst same
    congr 1
    refine List.filter_congr fun registration _ => ?_
    by_cases here : registration.event = other <;> simp [here]
  · next differ =>
    congr 1
    refine List.filter_congr fun registration _ => ?_
    by_cases here : registration.event = other <;> simp [here, differ]

theorem entries_clear (event other : Text) (ledger : Ledger α) :
    entries other (ledger.clear event) = if other = event then [] else ledger.entries other := by
  simp only [entries, clear, List.filter_filter]
  split
  · next same => simp [same]
  · next differ =>
    congr 1
    refine List.filter_congr fun registration _ => ?_
    by_cases here : registration.event = other <;> simp [here, differ]

end Ledger

/-- A registry that came about by registering and dropping listeners, and the
registrations among them that stand. -/
inductive Registry.Keeps : Ledger α → Registry α → Prop where
  | empty : Keeps [] {}
  | register {ledger : Ledger α} {registry : Registry α} (keeps : Keeps ledger registry)
      (event : Text) (listener : α) (priority : Int) (once : Bool) :
      Keeps (ledger ++ [⟨event, ⟨registry.nextId, priority, once, listener⟩⟩])
        (registry.register event listener priority once)
  | remove {ledger : Ledger α} {registry : Registry α} (keeps : Keeps ledger registry)
      (event : Text) (id : Nat) : Keeps (ledger.drop event id) (registry.remove event id)
  | unregister {ledger : Ledger α} {registry : Registry α} (keeps : Keeps ledger registry)
      (event : Text) : Keeps (ledger.clear event) (registry.unregister event)

namespace Registry

/-! ## The invariant -/

/-- Identities ascend along the ledger, and each queue is its part of the ledger, sorted. -/
structure Tallies (ledger : Ledger α) (registry : Registry α) : Prop where
  /-- Every identity has been issued. -/
  issued : ∀ registration ∈ ledger, registration.entry.id < registry.nextId
  /-- An older registration has a smaller identity. -/
  ascending : ledger.Pairwise fun older newer => older.entry.id < newer.entry.id
  /-- A queue has the entries of its event. -/
  perm : ∀ event, (registry.queue event).Perm (ledger.entries event)
  /-- A queue is sorted. -/
  sorted : ∀ event, (registry.queue event).Sorted

namespace Tallies

variable {ledger : Ledger α} {registry : Registry α}

theorem entries_ascending (tallies : Tallies ledger registry) (event : Text) :
    (ledger.entries event).Pairwise fun older newer => older.id < newer.id :=
  List.pairwise_map.2 (tallies.ascending.sublist List.filter_sublist)

theorem ids_nodup (tallies : Tallies ledger registry) (event : Text) :
    (registry.queue event).ids.Nodup := by
  have distinct : ((ledger.entries event).map QueueEntry.id).Nodup :=
    List.pairwise_map.2 ((tallies.entries_ascending event).imp fun smaller => Nat.ne_of_lt smaller)
  exact ((tallies.perm event).map QueueEntry.id).nodup_iff.2 distinct

theorem register (tallies : Tallies ledger registry) (event : Text) (listener : α)
    (priority : Int) (once : Bool) :
    Tallies (ledger ++ [⟨event, ⟨registry.nextId, priority, once, listener⟩⟩])
      (registry.register event listener priority once) where
  issued := by
    intro registration member
    show registration.entry.id < registry.nextId + 1
    rcases List.mem_append.1 member with old | new
    · exact Nat.lt_succ_of_lt (tallies.issued registration old)
    · obtain rfl := List.mem_singleton.1 new
      exact Nat.lt_succ_self _
  ascending := by
    refine List.pairwise_append.2 ⟨tallies.ascending, List.pairwise_singleton _ _, ?_⟩
    intro older member newer new
    obtain rfl := List.mem_singleton.1 new
    exact tallies.issued older member
  perm := by
    intro other
    rw [queue_register, Ledger.entries_concat]
    split
    · next same =>
      subst same
      have new : ∀ entry ∈ registry.queue other, entry.id ≠ registry.nextId := by
        intro entry member
        have old := Ledger.mem_entries.1 ((tallies.perm other).mem_iff.1 member)
        exact Nat.ne_of_lt (tallies.issued _ old)
      exact (ListenerQueue.insert_perm new).trans
        (((tallies.perm other).cons _).trans (List.perm_append_singleton _ _).symm)
    · exact tallies.perm other
  sorted := by
    intro other
    rw [queue_register]
    split
    · exact ListenerQueue.sorted_insert _ (tallies.sorted event)
    · exact tallies.sorted other

theorem remove (tallies : Tallies ledger registry) (event : Text) (id : Nat) :
    Tallies (ledger.drop event id) (registry.remove event id) where
  issued := by
    intro registration member
    rw [nextId_remove]
    exact tallies.issued registration (List.mem_filter.1 member).1
  ascending := tallies.ascending.sublist List.filter_sublist
  perm := by
    intro other
    rw [queue_remove, Ledger.entries_drop]
    split
    · next same =>
      subst same
      rw [ListenerQueue.remove_eq_filter (tallies.ids_nodup other)]
      exact (tallies.perm other).filter _
    · exact tallies.perm other
  sorted := by
    intro other
    rw [queue_remove]
    split
    · exact (tallies.sorted event).sublist List.eraseP_sublist
    · exact tallies.sorted other

theorem unregister (tallies : Tallies ledger registry) (event : Text) :
    Tallies (ledger.clear event) (registry.unregister event) where
  issued := fun registration member =>
    tallies.issued registration (List.mem_filter.1 member).1
  ascending := tallies.ascending.sublist List.filter_sublist
  perm := by
    intro other
    rw [queue_unregister, Ledger.entries_clear]
    split
    · exact .refl _
    · exact tallies.perm other
  sorted := by
    intro other
    rw [queue_unregister]
    split
    · exact List.Pairwise.nil
    · exact tallies.sorted other

end Tallies

/-- Every operation keeps the invariant. -/
theorem Keeps.tallies {ledger : Ledger α} {registry : Registry α} (keeps : Keeps ledger registry) :
    Tallies ledger registry := by
  induction keeps with
  | empty =>
    exact ⟨fun _ member => (List.not_mem_nil member).elim, List.Pairwise.nil, fun _ => .refl _,
      fun _ => List.Pairwise.nil⟩
  | register _ event listener priority once ih => exact ih.register event listener priority once
  | remove _ event id ih => exact ih.remove event id
  | unregister _ event ih => exact ih.unregister event

/-! ## Queues as sorted ledgers -/

/-- Descending priority is transitive. -/
theorem descending_trans (first second third : QueueEntry α)
    (early : decide (second.priority ≤ first.priority) = true)
    (late : decide (third.priority ≤ second.priority) = true) :
    decide (third.priority ≤ first.priority) = true := by
  rw [decide_eq_true_eq] at early late ⊢
  omega

/-- Descending priority is total. -/
theorem descending_total (first second : QueueEntry α) :
    (decide (second.priority ≤ first.priority) || decide (first.priority ≤ second.priority)) =
      true := by
  simp only [Bool.or_eq_true, decide_eq_true_eq]
  omega

/-- Sorting by descending priority leaves the entries of one priority in their order. -/
theorem filter_runningOrder (event : Text) (ledger : Ledger α) (priority : Int) :
    (ledger.runningOrder event).filter (fun entry => entry.priority = priority) =
      (ledger.entries event).filter fun entry => entry.priority = priority := by
  have equals : ((ledger.entries event).filter fun entry => entry.priority = priority).Pairwise
      fun entry later => decide (later.priority ≤ entry.priority) = true := by
    refine List.pairwise_filter.2 (List.pairwise_of_forall fun entry later here there => ?_)
    rw [decide_eq_true_eq] at here there ⊢
    omega
  have within := (List.sublist_mergeSort descending_trans descending_total equals
    List.filter_sublist).filter fun entry => entry.priority = priority
  rw [List.filter_filter, List.filter_congr fun _ _ => Bool.and_self _] at within
  refine (within.eq_of_length ?_).symm
  exact ((List.mergeSort_perm (ledger.entries event) _).filter _).length_eq.symm

/-- The stable sort of ascending identities is sorted by priority and identity. -/
theorem Tallies.sorted_runningOrder {ledger : Ledger α} {registry : Registry α}
    (tallies : Tallies ledger registry) (event : Text) :
    ListenerQueue.Sorted (ledger.runningOrder event) := by
  refine List.pairwise_iff_forall_sublist.2 fun {entry later} placed => ?_
  have fits := List.pairwise_iff_forall_sublist.1
    (List.pairwise_mergeSort descending_trans descending_total (ledger.entries event)) placed
  rw [decide_eq_true_eq] at fits
  rw [QueueEntry.before_iff]
  refine (Int.lt_or_eq_of_le fits).imp id fun same => ⟨same.symm, ?_⟩
  have among := placed.filter fun other => other.priority = entry.priority
  rw [filter_runningOrder] at among
  have inLedger : [entry, later].Sublist (ledger.entries event) := by
    simpa [same] using among.trans List.filter_sublist
  exact List.pairwise_iff_forall_sublist.1 (tallies.entries_ascending event) inLedger

namespace Keeps

variable {ledger : Ledger α} {registry : Registry α}

/-- A queue holds the registrations of its event, sorted by descending priority. -/
theorem queue_eq (keeps : Keeps ledger registry) (event : Text) :
    registry.queue event = ledger.runningOrder event := by
  have tallies := keeps.tallies
  refine List.Perm.eq_of_pairwise ?_ (tallies.sorted event) (tallies.sorted_runningOrder event)
    ((tallies.perm event).trans (List.mergeSort_perm _ _).symm)
  intro entry other _ _ before after
  rw [QueueEntry.before_iff] at before after
  omega

/-- A listener is registered exactly when the ledger has it. -/
theorem isRegistered_iff (keeps : Keeps ledger registry) {event : Text} {id : Nat} :
    registry.isRegistered event id = true ↔ ∃ entry, ⟨event, entry⟩ ∈ ledger ∧ entry.id = id := by
  simp only [isRegistered, ListenerQueue.has_iff, (keeps.tallies.perm event).mem_iff,
    Ledger.mem_entries]

end Keeps

end Registry

end PageTemplates
