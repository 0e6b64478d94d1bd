import Mathlib.Data.Set.Card
import PageTemplates.Proofs.Registrations

/-!
# A queue is a sorted set

Requests to insert and to remove come in any order, with any identities and
priorities.  What waits after some requests is said by a set that knows nothing
of an order (`QueueRequest.waiting`): an entry that is inserted takes the place
of the one with its priority and identity, and removing an identity takes out the
entry that leads it, the one with the highest priority.

The queue is that set in running order (`ListenerQueue.Lists`).  An insertion
changes it at one place (`ListenerQueue.Inserts`), and so does a removal
(`ListenerQueue.Removes`), which comes to the entries of one identity by
descending priority.  So one request keeps the two together (`Lists.serve`), and
after all of them every question to the queue is answered as by the set
(`queue_lists_waiting`).
-/

namespace PageTemplates

/-- A change asked of a queue. -/
inductive QueueRequest (α : Type _) where
  | insert (entry : QueueEntry α)
  | remove (id : Nat)

variable {α : Type _}

/-! ## What waits -/

/-- No entry of the same identity has a higher priority. -/
def QueueEntry.Leads (waiting : Set (QueueEntry α)) (entry : QueueEntry α) : Prop :=
  ∀ other ∈ waiting, other.id = entry.id → other.priority ≤ entry.priority

namespace QueueRequest

/-- What waits after a request. -/
def change (waiting : Set (QueueEntry α)) : QueueRequest α → Set (QueueEntry α)
  | .insert entry => {other | other = entry ∨ (other ∈ waiting ∧ other.sameKey entry = false)}
  | .remove id => {entry | entry ∈ waiting ∧ ¬ (entry.id = id ∧ entry.Leads waiting)}

/-- What waits after some requests, when nothing waits at the start. -/
def waiting (requests : List (QueueRequest α)) : Set (QueueEntry α) := requests.foldl change ∅

end QueueRequest

namespace ListenerQueue

/-- The queue after a request. -/
def serve (queue : ListenerQueue α) : QueueRequest α → ListenerQueue α
  | .insert entry => queue.insert entry
  | .remove id => queue.remove id

/-- The queue after some requests, empty at the start. -/
def after (requests : List (QueueRequest α)) : ListenerQueue α := requests.foldl serve []

variable {queue : ListenerQueue α} {waiting : Set (QueueEntry α)} {entry : QueueEntry α} {id : Nat}

/-! ## Sorted queues -/

theorem not_before_self (entry : QueueEntry α) : entry.before entry ≠ true := by
  rw [ne_eq, QueueEntry.before_iff]
  omega

theorem Sorted.nodup (sorted : Sorted queue) : queue.Nodup := by
  refine List.Pairwise.imp (fun early same => ?_) sorted
  subst same
  exact not_before_self _ early

/-- A key stands once in a sorted queue. -/
theorem Sorted.sameKey_iff_eq (sorted : Sorted queue) {other : QueueEntry α}
    (member : entry ∈ queue) (there : other ∈ queue) :
    entry.sameKey other = true ↔ entry = other := by
  rw [QueueEntry.sameKey_iff]
  refine ⟨fun same => ?_, fun same => same ▸ ⟨rfl, rfl⟩⟩
  by_contra differ
  have apart : entry.before other = true ∨ other.before entry = true := by
    obtain ⟨front, behind, rfl⟩ := List.append_of_mem member
    obtain ⟨-, later, between⟩ := List.pairwise_append.1 sorted
    rcases List.mem_append.1 there with early | late
    · exact .inr (between other early entry List.mem_cons_self)
    · rcases List.mem_cons.1 late with rfl | late
      · exact absurd rfl differ
      · exact .inl ((List.pairwise_cons.1 later).1 other late)
  rw [QueueEntry.before_iff, QueueEntry.before_iff] at apart
  omega

/-- Taking out one entry leaves the others. -/
theorem mem_append_iff_of_nodup {front behind : List (QueueEntry α)} {other : QueueEntry α}
    (nodup : (front ++ entry :: behind).Nodup) :
    other ∈ front ++ behind ↔ other ∈ front ++ entry :: behind ∧ other ≠ entry := by
  have unrepeated := List.nodup_cons.1 (List.nodup_middle.1 nodup)
  constructor
  · intro member
    refine ⟨?_, fun same => unrepeated.1 (same ▸ member)⟩
    rw [List.mem_append] at member ⊢
    exact member.imp_right (List.mem_cons_of_mem entry)
  · rintro ⟨member, differ⟩
    rw [List.mem_append, List.mem_cons] at member
    rw [List.mem_append]
    exact member.imp_right fun later => later.resolve_left differ

/-! ## One insertion -/

/-- The entry stands in the next queue at one place more, or in place of the one with its key.  The
others stay as they are. -/
def Inserts (entry : QueueEntry α) (queue next : ListenerQueue α) : Prop :=
  ∃ front behind, next = front ++ entry :: behind ∧
    ((∃ old, old.sameKey entry = true ∧ queue = front ++ old :: behind) ∨
      ((∀ other ∈ queue, other.sameKey entry = false) ∧ queue = front ++ behind))

theorem sameKey_comm (entry other : QueueEntry α) : entry.sameKey other = other.sameKey entry := by
  rw [Bool.eq_iff_iff, QueueEntry.sameKey_iff, QueueEntry.sameKey_iff]
  omega

theorem sameKey_eq_false_of_before {other : QueueEntry α} (early : entry.before other = true) :
    other.sameKey entry = false := by
  rw [Bool.eq_false_iff, ne_eq, QueueEntry.sameKey_iff]
  rw [QueueEntry.before_iff] at early
  omega

theorem insert_inserts (entry : QueueEntry α) (sorted : Sorted queue) :
    Inserts entry queue (queue.insert entry) := by
  induction queue with
  | nil => exact ⟨[], [], rfl, .inr ⟨by simp, rfl⟩⟩
  | cons head rest ih =>
    obtain ⟨front, sorted⟩ := List.pairwise_cons.1 sorted
    rw [insert]
    split
    · next same => exact ⟨[], rest, rfl, .inl ⟨head, sameKey_comm entry head ▸ same, rfl⟩⟩
    split
    · next first =>
      refine ⟨[], head :: rest, rfl, .inr ⟨List.forall_mem_cons.2 ⟨?_, fun other later => ?_⟩, rfl⟩⟩
      · exact sameKey_eq_false_of_before first
      · exact sameKey_eq_false_of_before (QueueEntry.before_trans first (front other later))
    · next differ _ =>
      obtain ⟨early, behind, next, shape⟩ := ih sorted
      refine ⟨head :: early, behind, by rw [next, List.cons_append], ?_⟩
      rcases shape with ⟨old, same, rfl⟩ | ⟨new, rfl⟩
      · exact .inl ⟨old, same, rfl⟩
      · refine .inr ⟨List.forall_mem_cons.2 ⟨?_, new⟩, rfl⟩
        rw [sameKey_comm]
        exact Bool.eq_false_iff.2 differ

/-- Only the entry with the key of the new one goes. -/
theorem mem_insert_iff {other : QueueEntry α} (sorted : Sorted queue) :
    other ∈ queue.insert entry ↔
      other = entry ∨ (other ∈ queue ∧ other.sameKey entry = false) := by
  obtain ⟨front, behind, next, shape⟩ := insert_inserts entry sorted
  have kept : other ∈ front ++ behind ↔ other ∈ queue ∧ other.sameKey entry = false := by
    rcases shape with ⟨old, same, rfl⟩ | ⟨new, rfl⟩
    · rw [mem_append_iff_of_nodup sorted.nodup]
      refine and_congr_right fun member => ?_
      rw [ne_eq, ← sorted.sameKey_iff_eq member (by simp), Bool.not_eq_true]
      rw [QueueEntry.sameKey_iff] at same
      simp only [QueueEntry.sameKey, same]
    · exact (and_iff_left_of_imp (new other)).symm
  rw [next, List.mem_append, List.mem_cons, or_left_comm, ← List.mem_append, kept]

/-! ## One removal -/

/-- The entry that leads the identity is taken out of the queue and the answer is yes, or there is
no such entry, the queue stays as it is and the answer is no. -/
def Removes (id : Nat) (queue next : ListenerQueue α) (answer : Bool) : Prop :=
  (answer = true ∧ ∃ front entry behind, queue = front ++ entry :: behind ∧ entry.id = id ∧
      entry.Leads {other | other ∈ queue} ∧ next = front ++ behind) ∨
    (answer = false ∧ (∀ entry ∈ queue, entry.id ≠ id) ∧ next = queue)

theorem remove_removes (id : Nat) (sorted : Sorted queue) :
    Removes id queue (queue.remove id) (queue.has id) := by
  by_cases known : queue.has id = true
  · obtain ⟨entry, member, hit⟩ := has_iff.1 known
    obtain ⟨first, front, behind, others, hit, rfl, erased⟩ :=
      List.exists_of_eraseP (p := fun entry => entry.id == id) member (beq_iff_eq.2 hit)
    refine .inl ⟨known, front, first, behind, rfl, beq_iff_eq.1 hit, ?_, erased⟩
    intro other there same
    rcases List.mem_append.1 there with early | late
    · exact absurd (beq_iff_eq.2 (same.trans (beq_iff_eq.1 hit))) (others other early)
    · rcases List.mem_cons.1 late with rfl | late
      · exact le_refl _
      · obtain ⟨-, sorted, -⟩ := List.pairwise_append.1 sorted
        have runs := (List.pairwise_cons.1 sorted).1 other late
        rw [QueueEntry.before_iff] at runs
        omega
  · have none : ∀ entry ∈ queue, entry.id ≠ id :=
      fun entry member hit => known (has_iff.2 ⟨entry, member, hit⟩)
    refine .inr ⟨Bool.eq_false_iff.2 known, none, ?_⟩
    exact List.eraseP_of_forall_not fun entry member => by simpa using none entry member

/-! ## The queue and the set -/

/-- The queue has what waits, in running order. -/
structure Lists (queue : ListenerQueue α) (waiting : Set (QueueEntry α)) : Prop where
  sorted : Sorted queue
  members : waiting = {entry | entry ∈ queue}

theorem lists_nil : Lists ([] : ListenerQueue α) ∅ := ⟨.nil, by simp⟩

theorem Lists.insert (lists : Lists queue waiting) (entry : QueueEntry α) :
    Lists (queue.insert entry) (QueueRequest.change waiting (.insert entry)) := by
  obtain ⟨sorted, rfl⟩ := lists
  exact ⟨sorted_insert entry sorted, Set.ext fun other => (mem_insert_iff sorted).symm⟩

theorem Lists.remove (lists : Lists queue waiting) (id : Nat) :
    Lists (queue.remove id) (QueueRequest.change waiting (.remove id)) := by
  obtain ⟨sorted, rfl⟩ := lists
  refine ⟨sorted.sublist List.eraseP_sublist, Set.ext fun other => ?_⟩
  rcases remove_removes id sorted with ⟨-, front, entry, behind, rfl, hit, leads, next⟩ |
    ⟨-, none, next⟩
  · show _ ↔ other ∈ ListenerQueue.remove id (front ++ entry :: behind)
    rw [next, mem_append_iff_of_nodup sorted.nodup]
    refine and_congr_right fun member => not_congr ⟨?_, ?_⟩
    · rintro ⟨hitOther, leadsOther⟩
      -- Two entries that lead one identity have one key.
      refine (sorted.sameKey_iff_eq member (by simp)).1 (QueueEntry.sameKey_iff.2 ⟨?_, ?_⟩)
      · exact le_antisymm (leads other member (hitOther.trans hit.symm))
          (leadsOther entry (by simp) (hit.trans hitOther.symm))
      · exact hitOther.trans hit.symm
    · rintro rfl
      exact ⟨hit, leads⟩
  · show _ ↔ other ∈ ListenerQueue.remove id queue
    rw [next]
    exact and_iff_left_of_imp fun member both => none other member both.1

theorem Lists.serve (lists : Lists queue waiting) (request : QueueRequest α) :
    Lists (queue.serve request) (request.change waiting) := by
  cases request with
  | insert entry => exact lists.insert entry
  | remove id => exact lists.remove id

theorem lists_after (requests : List (QueueRequest α)) :
    Lists (after requests) (QueueRequest.waiting requests) := by
  have run : ∀ {queue : ListenerQueue α} {waiting : Set (QueueEntry α)}, Lists queue waiting →
      Lists (requests.foldl ListenerQueue.serve queue)
        (requests.foldl QueueRequest.change waiting) := by
    induction requests with
    | nil => exact id
    | cons request requests ih => exact fun lists => ih (lists.serve request)
  exact run lists_nil

/-- There are as many entries in the queue as wait. -/
theorem Lists.ncard_eq (lists : Lists queue waiting) : waiting.ncard = queue.length := by
  classical
  rw [lists.members, ← List.toFinset_card_of_nodup lists.sorted.nodup, ← Set.ncard_coe_finset,
    List.coe_toFinset]

end ListenerQueue

/-- After any requests the queue lists what waits, by descending priority and then by ascending
identity, and so each entry once.  An insertion replaces the entry of the same priority and identity
only, and a removal takes out the one entry of the identity with the highest priority, or nothing.
Its length, whether it is empty, and whether it has a priority are as of what waits. -/
theorem queue_lists_waiting (requests : List (QueueRequest α)) :
    let queue := ListenerQueue.after requests
    let waiting := QueueRequest.waiting requests
    (∀ entry, entry ∈ queue ↔ entry ∈ waiting) ∧
      (queue.Pairwise fun entry later => later.priority < entry.priority ∨
        (entry.priority = later.priority ∧ entry.id < later.id)) ∧
      (∀ entry, ListenerQueue.Inserts entry queue (queue.insert entry)) ∧
      (∀ id, ListenerQueue.Removes id queue (queue.remove id) (queue.has id)) ∧
      queue.length = waiting.ncard ∧ (queue.isEmpty = true ↔ waiting = ∅) ∧
      ∀ priority, queue.hasPriority priority = true ↔
        ∃ entry ∈ waiting, entry.priority = priority := by
  intro queue waiting
  have lists : ListenerQueue.Lists queue waiting := ListenerQueue.lists_after requests
  have members : ∀ entry, entry ∈ queue ↔ entry ∈ waiting := by
    rw [lists.members]
    exact fun entry => Iff.rfl
  refine ⟨members, lists.sorted.imp QueueEntry.before_iff.1,
    fun entry => ListenerQueue.insert_inserts entry lists.sorted,
    fun id => ListenerQueue.remove_removes id lists.sorted, lists.ncard_eq.symm, ?_, ?_⟩
  · rw [List.isEmpty_iff, List.eq_nil_iff_forall_not_mem, Set.eq_empty_iff_forall_notMem]
    exact forall_congr' fun entry => not_congr (members entry)
  · intro priority
    simp [ListenerQueue.hasPriority, members]

end PageTemplates
