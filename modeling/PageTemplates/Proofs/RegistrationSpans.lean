import PageTemplates.Proofs.Rolls

/-!
# How long a registration stands

Identities are issued once, so a registration is known by its identity for the
whole run.  It stands from the moment it is made until a request drops it or,
if it is for a single run, until it is run (`Traced.standing_iff`).

Several dispatches that are nested in one another may hold the same entry in
their queues.  A turn of an entry for a single run drops it before its listener
starts, and only a registered entry is due.  So at every moment the runs that it
has had and the registration that it still has make at most one
(`Traced.runs_add_standing`), and in the whole run it is run at most once
(`once_runs_once`).
-/

namespace PageTemplates

/-! ## What takes a registration -/

namespace Happening

/-- The run of a listener, if that is what begins. -/
def run? : Happening → Option ListenerRun
  | .reached _ event entry due => if due then some ⟨event, entry.id⟩ else none
  | _ => none

/-- Whether the listener with this identity is run. -/
def runs (id : Nat) (happening : Happening) : Bool :=
  happening.run?.any fun run => run.id = id

theorem runs_iff {id : Nat} {happening : Happening} : happening.runs id = true ↔
    ∃ opening event entry, happening = .reached opening event entry true ∧ entry.id = id := by
  constructor
  · intro runs
    cases happening with
    | asked | opened | returned | closed => exact absurd runs Bool.false_ne_true
    | reached opening event entry due =>
      cases due with
      | false => exact absurd runs Bool.false_ne_true
      | true => exact ⟨opening, event, entry, rfl, of_decide_eq_true runs⟩
  · rintro ⟨opening, event, entry, rfl, same⟩
    exact decide_eq_true same

/-- Whether a request drops the listener of an event with this identity. -/
def drops (event : Text) (id : Nat) : Happening → Bool
  | .asked request _ => request.drops event id
  | _ => false

/-- Whether a registration stands no longer once this has happened. -/
def takes (registration : Registration Listener) (happening : Happening) : Bool :=
  happening.drops registration.event registration.entry.id ||
    registration.entry.once && happening.runs registration.entry.id

theorem takes_asked (registration : Registration Listener) (request : Request Listener)
    (reply : Reply) : takes registration (.asked request reply) =
      request.drops registration.event registration.entry.id := by
  simp [takes, drops, runs, run?]

theorem takes_reached (registration : Registration Listener) (opening : Nat) (event : Text)
    (entry : QueueEntry Listener) (due : Bool) :
    takes registration (.reached opening event entry due) =
      (registration.entry.once && (due && decide (entry.id = registration.entry.id))) := by
  cases due <;> rfl

@[simp] theorem takes_opened (registration : Registration Listener) (event : Event)
    (queue : ListenerQueue Listener) : takes registration (.opened event queue) = false :=
  Bool.and_false _

end Happening

/-- The runs of listeners in a trace, oldest first. -/
def Trace.runs (past : Trace) : List ListenerRun :=
  past.filterMap fun moment => moment.happening.run?

theorem Trace.runs_concat (past : Trace) (moment : Moment) :
    Trace.runs (past ++ [moment]) = Trace.runs past ++ moment.happening.run?.toList := by
  rw [runs, List.filterMap_append]
  cases run : moment.happening.run? <;> simp [runs, run]

/-- How often the listener with this identity is run. -/
def Trace.timesRun (id : Nat) (past : Trace) : Nat :=
  (Trace.runs past).countP fun run => run.id = id

theorem Trace.timesRun_concat (id : Nat) (past : Trace) (moment : Moment) :
    Trace.timesRun id (past ++ [moment]) =
      Trace.timesRun id past + (moment.happening.runs id).toNat := by
  rw [timesRun, runs_concat, List.countP_append, timesRun, Happening.runs]
  cases moment.happening.run? with
  | none => rfl
  | some run => by_cases same : run.id = id <;> simp [same]

/-! ## The journal -/

namespace Hub

theorem journal_registerEach (listener : Listener) (priority : Int) (names : List Text)
    (hub : Hub) : (registerEach listener priority names hub).2.journal = hub.journal := by
  induction names generalizing hub with
  | nil => rfl
  | cons event names ih => exact ih _

/-- A request other than a dispatch runs no listener. -/
theorem journal_answer (dispatch : Event → StateM Hub (Except EventError Event))
    {request : Request Listener} (plain : ∀ event, request ≠ .dispatch event) (hub : Hub) :
    (answer dispatch request hub).2.journal = hub.journal := by
  cases request with
  | dispatch event => exact absurd rfl (plain event)
  | registerAll names listener priority => exact journal_registerEach listener priority names hub
  | register | remove | clear | unregister | has | count | events | share | note => rfl

end Hub

/-- The journal of a hub has the runs of the trace that leads to it. -/
theorem Traced.journal_eq {past : Trace} {hub : Hub} (traced : Traced past hub) :
    hub.journal = Trace.runs past := by
  induction traced with
  | start => rfl
  | next traced step ih =>
    rw [Trace.runs_concat, ← ih]
    cases step with
    | asked hub dispatch plain =>
      rw [Hub.journal_answer dispatch plain]
      exact (List.append_nil _).symm
    | opened | returned | closed => exact (List.append_nil _).symm
    | @reached opening opener event queue turn known next =>
      have claimed : (turn.claimed event.name).journal = turn.hub.journal := by
        rw [Turn.claimed]
        split <;> rfl
      cases due : turn.due event.name <;>
        simp [Turn.begun, Turn.entered, Turn.reach, Happening.run?, due, claimed]

/-! ## Registrations of a run -/

namespace Traced

variable {past : Trace} {hub : Hub} {registration : Registration Listener}

/-- What stands was registered in the run. -/
theorem registered_of_standing (traced : Traced past hub)
    (stands : registration ∈ (Trace.roll past).standing) :
    registration ∈ Trace.registered past := by
  induction traced with
  | start => exact stands
  | @next past moment after traced step ih =>
    rw [Trace.roll_concat] at stands
    rw [Trace.registered_concat]
    cases step with
    | asked hub dispatch plain =>
      refine List.mem_append.2 ((List.mem_append.1 stands).imp (fun old => ?_) fun new => ?_)
      · exact ih (List.mem_filter.1 old).1
      · rwa [← traced.describes.issued] at new
    | opened | returned | closed => exact List.mem_append_left _ (ih stands)
    | reached turn known next =>
      refine List.mem_append_left _ (ih ?_)
      rw [Turn.reach, Roll.after] at stands
      split at stands
      · exact (List.mem_filter.1 stands).1
      · exact stands

/-- A registration is known by its identity. -/
theorem eq_of_id (traced : Traced past hub) {other : Registration Listener}
    (member : registration ∈ Trace.registered past) (otherMember : other ∈ Trace.registered past)
    (same : registration.entry.id = other.entry.id) : registration = other := by
  have distinct : (Trace.registered past).ids.Nodup := by
    rw [traced.ids_registered]
    exact List.nodup_range
  exact List.inj_on_of_nodup_map distinct member otherMember same

/-- A registration stands exactly if its identity is registered for its event. -/
theorem isRegistered_iff (traced : Traced past hub)
    (member : registration ∈ Trace.registered past) :
    hub.registry.isRegistered registration.event registration.entry.id = true ↔
      registration ∈ (Trace.roll past).standing := by
  rw [traced.describes.keeps.isRegistered_iff]
  constructor
  · rintro ⟨entry, stands, same⟩
    rwa [← traced.eq_of_id (traced.registered_of_standing stands) member same]
  · exact fun stands => ⟨registration.entry, stands, rfl⟩

/-- What is registered at one moment was not there before. -/
theorem id_lt (traced : Traced past hub) (member : registration ∈ Trace.registered past) :
    registration.entry.id < hub.registry.nextId := by
  rw [← List.mem_range, ← traced.ids_registered]
  exact List.mem_map_of_mem member

end Traced

/-- The identities that are issued at a moment are new. -/
theorem Moment.nextId_le {moment : Moment} {registration : Registration Listener}
    (member : registration ∈ moment.registrations) :
    moment.hub.registry.nextId ≤ registration.entry.id := by
  have issued : registration.entry.id ∈ moment.registrations.ids := List.mem_map_of_mem member
  rw [Moment.registrations] at issued
  cases happening : moment.happening with
  | asked request reply =>
    rw [happening, Happening.registrations, Request.ids_registrations] at issued
    exact (List.mem_range'_1.1 issued).1
  | opened | reached | returned | closed =>
    rw [happening] at issued
    exact absurd issued List.not_mem_nil

/-- What was registered early in a run was registered in the run. -/
theorem Trace.registered_append {early : Trace} {registration : Registration Listener}
    (member : registration ∈ Trace.registered early) (later : Trace) :
    registration ∈ Trace.registered (early ++ later) := by
  rw [Trace.registered, List.flatMap_append]
  exact List.mem_append_left _ member

/-- A turn is one of an entry in the queue of its dispatch, and it is due exactly if the entry runs
again and again or is still registered. -/
theorem Trace.Step.of_reached {past : Trace} {opening : Nat} {name : Text}
    {entry : QueueEntry Listener} {due : Bool} {hub after : Hub}
    (step : Trace.Step past ⟨hub, .reached opening name entry due⟩ after) :
    (∃ opener event queue, past[opening]? = some ⟨opener, .opened event queue⟩ ∧
        event.name = name ∧ entry ∈ queue) ∧
      due = (!entry.once || hub.registry.isRegistered name entry.id) := by
  generalize same : (⟨hub, .reached opening name entry due⟩ : Moment) = moment at step
  cases step with
  | asked | opened | returned | closed => cases same
  | @reached _ opener event queue turn known next =>
    cases same
    have waits : turn.entry ∈ queue :=
      next.subset (List.mem_append_right _ (List.mem_singleton_self _))
    exact ⟨⟨opener, event, queue, known, rfl, waits⟩, rfl⟩

/-- An entry that waits in the queue of a dispatch was registered when it was opened. -/
theorem Traced.standing_of_opened {past : Trace} {hub : Hub} (traced : Traced past hub)
    {opening : Nat} {opener : Hub} {event : Event} {queue : ListenerQueue Listener}
    (opened : past[opening]? = some ⟨opener, .opened event queue⟩) {entry : QueueEntry Listener}
    (waits : entry ∈ queue) : ⟨event.name, entry⟩ ∈ (Trace.roll (past.take opening)).standing := by
  obtain ⟨before, -⟩ := traced.step_at opened
  rwa [traced.queue_of_opened opened, (before.describes.keeps.tallies.perm _).mem_iff,
    Ledger.mem_entries] at waits

/-- It was registered before that. -/
theorem Traced.registered_of_opened {past : Trace} {hub : Hub} (traced : Traced past hub)
    {opening : Nat} {opener : Hub} {event : Event} {queue : ListenerQueue Listener}
    (opened : past[opening]? = some ⟨opener, .opened event queue⟩) {entry : QueueEntry Listener}
    (waits : entry ∈ queue) : ⟨event.name, entry⟩ ∈ Trace.registered (past.take opening) :=
  (traced.step_at opened).1.registered_of_standing (traced.standing_of_opened opened waits)

/-- A registration is made before the turns of its entry. -/
theorem Trace.Step.registered_of_reached {past : Trace} {opening : Nat} {name : Text}
    {entry : QueueEntry Listener} {due : Bool} {hub after : Hub} (traced : Traced past hub)
    (step : Trace.Step past ⟨hub, .reached opening name entry due⟩ after) :
    ⟨name, entry⟩ ∈ Trace.registered past := by
  obtain ⟨⟨opener, event, queue, opened, rfl, waits⟩, -⟩ := step.of_reached
  rw [← List.take_append_drop opening past]
  exact Trace.registered_append (traced.registered_of_opened opened waits) _

/-! ## From moment to moment -/

/-- A request takes what it drops. -/
theorem Traced.standing_behind {past : Trace} {hub : Hub} (traced : Traced past hub)
    {registration : Registration Listener} (member : registration ∈ Trace.registered past)
    (request : Request Listener) :
    registration ∈ ((Trace.roll past).behind request).standing ↔
      registration ∈ (Trace.roll past).standing ∧
        request.drops registration.event registration.entry.id = false := by
  have old : registration ∉ request.registrations (Trace.roll past).issued := by
    intro new
    rw [← traced.describes.issued] at new
    have made : registration ∈ (⟨hub, .asked request .none⟩ : Moment).registrations := new
    exact Nat.not_lt.2 (Moment.nextId_le made) (traced.id_lt member)
  rw [Roll.behind, List.mem_append, or_iff_left old, List.mem_filter, Bool.not_eq_true']

/-- A turn takes what it runs if that is for a single run. -/
theorem Trace.Step.standing_of_reached {past : Trace} {opening : Nat} {event : Text}
    {entry : QueueEntry Listener} {due : Bool} {hub after : Hub}
    (step : Trace.Step past ⟨hub, .reached opening event entry due⟩ after)
    (traced : Traced past hub) {registration : Registration Listener}
    (member : registration ∈ Trace.registered past) :
    registration ∈ ((Trace.roll past).after (.reached opening event entry due)).standing ↔
      registration ∈ (Trace.roll past).standing ∧
        (registration.entry.once &&
          (due && decide (entry.id = registration.entry.id))) = false := by
  rw [Roll.after]
  by_cases same : entry.id = registration.entry.id
  · obtain rfl : ⟨event, entry⟩ = registration :=
      traced.eq_of_id (step.registered_of_reached traced) member same
    cases once : entry.once with
    | false => simp
    | true =>
      -- The turn drops the entry, and it is due only if there is something to drop.
      have due_eq := step.of_reached.2
      rw [once, Bool.not_true, Bool.false_or] at due_eq
      subst due_eq
      simp [Ledger.drop, ← traced.isRegistered_iff member]
  · have stays : registration ∈ (Trace.roll past).standing.drop event entry.id ↔
        registration ∈ (Trace.roll past).standing := by
      simp [Ledger.drop, Ne.symm same]
    cases entry.once <;> simp [same, stays]

/-- A registration that stands goes on to do so unless what happens takes it. -/
theorem Trace.Step.standing_iff {past : Trace} {moment : Moment} {after : Hub}
    (step : Trace.Step past moment after) (traced : Traced past moment.hub)
    {registration : Registration Listener} (member : registration ∈ Trace.registered past) :
    registration ∈ (Trace.roll (past ++ [moment])).standing ↔
      registration ∈ (Trace.roll past).standing ∧ moment.happening.takes registration = false := by
  rw [Trace.roll_concat]
  obtain ⟨hub, happening⟩ := moment
  cases happening with
  | asked request reply =>
    rw [Happening.takes_asked]
    exact traced.standing_behind member request
  | reached opening event entry due =>
    rw [Happening.takes_reached]
    exact step.standing_of_reached traced member
  | opened | returned | closed =>
    simp [Roll.after, Happening.takes, Happening.drops, Happening.runs, Happening.run?]

/-- A registration that is made at one moment stands at the next. -/
theorem Trace.Step.standing_of_made {past : Trace} {moment : Moment} {after : Hub}
    (step : Trace.Step past moment after) (traced : Traced past moment.hub)
    {registration : Registration Listener} (made : registration ∈ moment.registrations) :
    registration ∈ (Trace.roll (past ++ [moment])).standing := by
  rw [Trace.roll_concat]
  cases step with
  | asked hub dispatch plain =>
    rw [Moment.registrations, traced.describes.issued] at made
    exact List.mem_append_right _ made
  | opened | reached | returned | closed => exact absurd made List.not_mem_nil

namespace Traced

/-- A registration stands until something takes it. -/
theorem standing_iff {early middle : Trace} {hub : Hub} (traced : Traced (early ++ middle) hub)
    {registration : Registration Listener} (member : registration ∈ Trace.registered early) :
    registration ∈ (Trace.roll (early ++ middle)).standing ↔
      registration ∈ (Trace.roll early).standing ∧
        ∀ moment ∈ middle, moment.happening.takes registration = false := by
  induction middle using List.reverseRecOn generalizing hub with
  | nil => simp
  | append_singleton middle moment ih =>
    rw [← List.append_assoc] at traced ⊢
    obtain ⟨before, after, step, -⟩ := traced.split
    rw [step.standing_iff before (Trace.registered_append member middle), ih before, and_assoc]
    simp [or_imp, forall_and]

/-- A listener is run only after it is registered. -/
theorem timesRun_of_unissued {past : Trace} {hub : Hub} (traced : Traced past hub) {id : Nat}
    (unissued : id ∉ (Trace.registered past).ids) : Trace.timesRun id past = 0 := by
  induction traced with
  | start => rfl
  | @next past moment after traced step ih =>
    rw [Trace.registered_concat, Ledger.ids, List.map_append, List.mem_append, not_or] at unissued
    have still : moment.happening.runs id = false := by
      rw [← Bool.not_eq_true, Happening.runs_iff]
      rintro ⟨opening, event, entry, reached, rfl⟩
      obtain ⟨hub, happening⟩ := moment
      subst reached
      exact unissued.1 (List.mem_map_of_mem (step.registered_of_reached traced))
    rw [Trace.timesRun_concat, ih unissued.1, still]
    rfl

/-- Only a registration that stands is run, if it is for a single run. -/
theorem registered_of_runs {past : Trace} {moment : Moment} {after : Hub}
    (traced : Traced past moment.hub) (step : Trace.Step past moment after)
    {registration : Registration Listener} (member : registration ∈ Trace.registered past)
    (once : registration.entry.once = true)
    (runs : moment.happening.runs registration.entry.id = true) :
    moment.hub.registry.isRegistered registration.event registration.entry.id = true := by
  obtain ⟨opening, event, entry, reached, same⟩ := Happening.runs_iff.1 runs
  obtain ⟨hub, happening⟩ := moment
  subst reached
  obtain rfl : ⟨event, entry⟩ = registration :=
    traced.eq_of_id (step.registered_of_reached traced) member same
  have due := step.of_reached.2
  rwa [once, Bool.not_true, Bool.false_or, eq_comm] at due

/-- The runs that a registration for a single run has had, and the one that it still waits for,
make at most one. -/
theorem runs_add_standing {past : Trace} {hub : Hub} (traced : Traced past hub)
    {registration : Registration Listener} (member : registration ∈ Trace.registered past)
    (once : registration.entry.once = true) :
    Trace.timesRun registration.entry.id past +
      (hub.registry.isRegistered registration.event registration.entry.id).toNat ≤ 1 := by
  induction traced with
  | start => exact absurd member List.not_mem_nil
  | @next past moment after traced step ih =>
    have whole := traced.next step
    rw [Trace.timesRun_concat]
    rw [Trace.registered_concat] at member
    rcases List.mem_append.1 member with old | new
    · -- A run needs the registration and takes it.
      have bound := ih old
      have goesOn := step.standing_iff traced old
      rw [← traced.isRegistered_iff old, ← whole.isRegistered_iff (Trace.registered_append old _)]
        at goesOn
      cases runs : moment.happening.runs registration.entry.id with
      | false =>
        cases stands : after.registry.isRegistered registration.event registration.entry.id with
        | false => exact (Nat.le_add_right _ _).trans bound
        | true =>
          rw [(goesOn.1 stands).1] at bound
          exact bound
      | true =>
        have stood := traced.registered_of_runs step old once runs
        have takes : moment.happening.takes registration = true := by
          simp [Happening.takes, once, runs]
        have gone : after.registry.isRegistered registration.event registration.entry.id =
            false := by
          rw [← Bool.not_eq_true, goesOn, takes]
          exact fun both => Bool.false_ne_true both.2.symm
        rw [stood] at bound
        rw [gone]
        exact bound
    · have unissued : registration.entry.id ∉ (Trace.registered past).ids := by
        rw [traced.ids_registered, List.mem_range]
        exact Nat.not_lt.2 (Moment.nextId_le new)
      have still : moment.happening.runs registration.entry.id = false := by
        rw [← Bool.not_eq_true, Happening.runs_iff]
        rintro ⟨opening, event, entry, reached, -⟩
        rw [Moment.registrations, reached] at new
        exact List.not_mem_nil new
      rw [traced.timesRun_of_unissued unissued, still, Bool.toNat_false, Nat.zero_add]
      exact Bool.toNat_le _

/-- A registration that was made in a run is still registered if nothing has taken it since. -/
theorem registered_iff {early middle : Trace} {moment : Moment} {hub : Hub}
    (traced : Traced (early ++ moment :: middle) hub) {registration : Registration Listener}
    (made : registration ∈ moment.registrations) :
    hub.registry.isRegistered registration.event registration.entry.id = true ↔
      ∀ later ∈ middle, later.happening.takes registration = false := by
  obtain ⟨before, after, step, -⟩ := traced.split
  rw [List.append_cons] at traced
  have member : registration ∈ Trace.registered (early ++ [moment]) := by
    rw [Trace.registered_concat]
    exact List.mem_append_right _ made
  rw [traced.isRegistered_iff (Trace.registered_append member middle), traced.standing_iff member,
    and_iff_right (step.standing_of_made before made)]

/-- A listener for a single run starts in a hub where it is no longer registered. -/
theorem registered_entered {past : Trace} {hub : Hub} (traced : Traced past hub) (event : Text)
    {entry : QueueEntry Listener} (once : entry.once = true) (dispatched : Event) :
    (Turn.entered event ⟨entry, dispatched, hub⟩).registry.isRegistered event entry.id = false := by
  have starts : (Turn.entered event ⟨entry, dispatched, hub⟩).registry =
      hub.registry.remove event entry.id := by
    rw [Turn.entered, Turn.claimed, if_pos once]
  rw [starts, ← Bool.not_eq_true, (traced.describes.keeps.remove event entry.id).isRegistered_iff]
  rintro ⟨other, stands, same⟩
  exact of_decide_eq_true (List.mem_filter.1 stands).2 ⟨rfl, same⟩

end Traced

/-! ## Runs -/

/-- How a registration for a single run fares in a run that goes on with `later` once it is made and
leaves the hub `last`.  The trace has `start` moments in front of `later`. -/
structure RunsOnce (registration : Registration Listener) (start : Nat) (later : Trace)
    (last : Hub) : Prop where
  /-- Its listener is run at most once in the whole run. -/
  single : last.journal.countP (fun run => run.id = registration.entry.id) ≤ 1
  /-- It is registered at a moment exactly if it has neither been dropped nor run before. -/
  stands : ∀ middle moment rest, later = middle ++ moment :: rest →
    (moment.hub.registry.isRegistered registration.event registration.entry.id = true ↔
      ∀ before ∈ middle, before.happening.takes registration = false)
  /-- The same holds when the run is over. -/
  lasts : last.registry.isRegistered registration.event registration.entry.id = true ↔
    ∀ before ∈ later, before.happening.takes registration = false
  /-- If a dispatch comes to it, it is a dispatch of its event, and it runs the listener exactly if
  it is registered then.  The listener starts in a hub where it is not. -/
  reached : ∀ middle hub opening event entry due rest,
    later = middle ++ ⟨hub, .reached opening event entry due⟩ :: rest →
      entry.id = registration.entry.id →
        ⟨event, entry⟩ = registration ∧ due = hub.registry.isRegistered event entry.id ∧
          ∀ dispatched, (Turn.entered event ⟨entry, dispatched, hub⟩).registry.isRegistered event
            entry.id = false
  /-- A dispatch that begins while it is registered leaves it registered, unless it is dropped or
  run meanwhile. -/
  outlasts : ∀ front opener dispatched queue inside closing outcome rest,
    later = front ++ ⟨opener, .opened dispatched queue⟩ ::
        (inside ++ ⟨closing, .closed (start + front.length) outcome⟩ :: rest) →
      opener.registry.isRegistered registration.event registration.entry.id = true →
        (closing.registry.isRegistered registration.event registration.entry.id = true ↔
          ∀ before ∈ inside, before.happening.takes registration = false)

/-- Every registration for a single run fares like this. -/
theorem Traced.runsOnce {early later : Trace} {moment : Moment} {last : Hub}
    (traced : Traced (early ++ moment :: later) last) {registration : Registration Listener}
    (made : registration ∈ moment.registrations) (once : registration.entry.once = true) :
    RunsOnce registration (early.length + 1) later last := by
  have member : ∀ middle, registration ∈ Trace.registered (early ++ moment :: middle) := by
    intro middle
    rw [Trace.registered, List.flatMap_append, List.flatMap_cons]
    exact List.mem_append_right _ (List.mem_append_left _ made)
  have stands : ∀ middle now rest, later = middle ++ now :: rest →
      (now.hub.registry.isRegistered registration.event registration.entry.id = true ↔
        ∀ before ∈ middle, before.happening.takes registration = false) := by
    rintro middle now rest rfl
    rw [← List.cons_append, ← List.append_assoc] at traced
    exact traced.split.1.registered_iff made
  refine ⟨?_, stands, traced.registered_iff made, ?_, ?_⟩
  · rw [traced.journal_eq]
    exact (Nat.le_add_right _ _).trans (traced.runs_add_standing (member later) once)
  · rintro middle hub opening event entry due rest rfl same
    rw [← List.cons_append, ← List.append_assoc] at traced
    obtain ⟨before, after, step, -⟩ := traced.split
    have own : ⟨event, entry⟩ = registration :=
      before.eq_of_id (step.registered_of_reached before) (member middle) same
    subst own
    have due_eq := step.of_reached.2
    rw [once, Bool.not_true, Bool.false_or] at due_eq
    exact ⟨rfl, due_eq, before.registered_entered event once⟩
  · rintro front opener dispatched queue inside closing outcome rest whole stood
    have untouched := (stands _ _ _ whole).1 stood
    rw [← List.cons_append, ← List.append_assoc] at whole
    rw [stands _ _ _ whole, List.forall_mem_append, List.forall_mem_cons]
    constructor
    · exact fun others => others.2.2
    · exact fun others => ⟨untouched, Happening.takes_opened _ _ _, others⟩

/-- In a run of any program, with listeners that do whatever they like, a listener that is
registered for a single run is run at most once.  It is run by the first dispatch of its event that
comes to it while it is registered, and it is registered until it is dropped or run. -/
theorem once_runs_once {depth : Nat} {program : Program} {early later : Trace} {hub : Hub}
    {event : Text} {listener : Listener} {priority : Int} {id : Nat}
    (registers : Hub.trace depth program =
      early ++ ⟨hub, .asked (.register event listener priority true) (.id id)⟩ :: later) :
    RunsOnce ⟨event, ⟨id, priority, true, listener⟩⟩ (early.length + 1) later
      (Hub.final depth program) := by
  have traced := Hub.traced_run depth program
  rw [registers] at traced
  obtain ⟨-, after, step, -⟩ := traced.split
  refine traced.runsOnce ?_ rfl
  cases step
  exact List.mem_singleton_self _

/-- Dispatches its event once more. -/
def again : Listener := fun event => .ask (.dispatch event) fun _ => .done (.ok event)

/-- Registers two listeners for a single run, and dispatches their event. -/
def nestedProgram : Program :=
  .ask (.register ['e'] again 5 true) fun _ =>
    .ask (.register ['e'] (fun _ => .done (.error "down".toList)) 1 true) fun _ =>
      .ask (.dispatch { name := ['e'] }) fun _ => .done (.ok {})

/-- The second listener waits in two dispatches.  It is run by the inner one, where it fails. -/
theorem once_runs_once_nestedProgram : ∃ early later hub,
    Hub.trace 3 nestedProgram = early ++
        ⟨hub, .asked (.register ['e'] (fun _ => .done (.error "down".toList)) 1 true) (.id 1)⟩ ::
          later ∧
      RunsOnce ⟨['e'], ⟨1, 1, true, fun _ => .done (.error "down".toList)⟩⟩ (early.length + 1) later
        (Hub.final 3 nestedProgram) ∧
      (Trace.turns 2 (Hub.trace 3 nestedProgram)).ids = [0, 1] ∧
      (Trace.turns 4 (Hub.trace 3 nestedProgram)).ids = [1] ∧
      (Hub.final 3 nestedProgram).journal = [⟨['e'], 0⟩, ⟨['e'], 1⟩] := by
  have registers : Hub.trace 3 nestedProgram = (Hub.trace 3 nestedProgram).take 1 ++
      ⟨(Hub.perform (.register ['e'] again 5 true) {}).2,
        .asked (.register ['e'] (fun _ => .done (.error "down".toList)) 1 true) (.id 1)⟩ ::
          (Hub.trace 3 nestedProgram).drop 2 := rfl
  exact ⟨_, _, _, registers, once_runs_once registers, rfl, rfl, rfl⟩

end PageTemplates
