import PageTemplates.Proofs.DispatchTurns

/-!
# Traces of runs

Whoever works with a hub does so by a program, and so does every listener that
a dispatch runs.  The trace of a run lists what happened in it, in order: the
requests with their replies, the dispatches from their opening to their end, and
every turn of an entry, wherever in the nest of dispatches it took place.  Each
`Moment` keeps the hub as it was then.

A dispatch is known by its place in the trace, which is the number of moments
before its opening.

The traces are read off the functions that run (`Hub.run`, `Hub.deliver`,
`Hub.dispatchWithin`).  `Traced` says in what ways a trace can go on, one step
at a time, and which hub each step leaves.  The trace of a run is such a trace
and leads to the hub that the run leaves (`Hub.traced_run`).  So what every step
keeps is kept by whole runs, however deep the dispatches are nested.

No dispatch drops an entry silently.  Once it is opened every entry of its queue
has its turn, unless a listener in front of it fails or leaves the flag of the
event set (`Served`).
-/

namespace PageTemplates

/-! ## Moments -/

/-- Something that happens while a program runs. -/
inductive Happening where
  /-- A request other than a dispatch is answered. -/
  | asked (request : Request Listener) (reply : Reply)
  /-- A dispatch takes the queue of its event. -/
  | opened (event : Event) (queue : ListenerQueue Listener)
  /-- A dispatch comes to an entry of its queue and finds it due or not. -/
  | reached (opening : Nat) (event : Text) (entry : QueueEntry Listener) (due : Bool)
  /-- A listener that a dispatch has run hands on the event or fails. -/
  | returned (opening : Nat) (entry : QueueEntry Listener) (outcome : Except Text Event)
  /-- A dispatch ends. -/
  | closed (opening : Nat) (outcome : Except EventError Event)

/-- Something that happens, and the hub as it is when that begins. -/
structure Moment where
  hub : Hub
  happening : Happening

/-- What happens in a run, oldest first. -/
abbrev Trace := List Moment

/-- The entry that a dispatch comes to, if that is what happens. -/
def Happening.turn? (opening : Nat) : Happening → Option (QueueEntry Listener)
  | .reached other _ entry _ => if other = opening then some entry else none
  | _ => none

/-- The entries that a dispatch comes to, in order. -/
def Trace.turns (opening : Nat) (trace : Trace) : ListenerQueue Listener :=
  (trace.drop opening).filterMap fun moment => moment.happening.turn? opening

namespace Turn

/-- The hub in which the listener starts, or in which the dispatch goes on without it. -/
def begun (name : Text) (turn : Turn) : Hub :=
  if turn.due name then turn.entered name else turn.claimed name

/-- The event as the next turn meets it. -/
def passed (invoke : QueueEntry Listener → Event → StateM Hub (Except Text Event)) (name : Text)
    (turn : Turn) : Event :=
  match (turn.leaves invoke name).1 with
  | .ok event => event
  | .error _ => turn.event

/-- The moment in which a dispatch comes to an entry. -/
def reach (opening : Nat) (name : Text) (turn : Turn) : Moment :=
  ⟨turn.hub, .reached opening name turn.entry (turn.due name)⟩

end Turn

/-! ## The trace of a run -/

namespace Hub

section

variable (dispatch : Event → StateM Hub (Except EventError Event))
  (within : Event → Hub → Trace → Trace)

/-- The trace behind the answer to a request. -/
def traceAnswer (request : Request Listener) (hub : Hub) (past : Trace) : Trace :=
  match request with
  | .dispatch event => within event hub past
  | plain => past ++ [⟨hub, .asked plain (answer dispatch plain hub).1⟩]

/-- The trace behind the run of a program. -/
def traceRun : Program → Hub → Trace → Trace
  | .done _, _, past => past
  | .ask request next, hub, past =>
    traceRun (next (answer dispatch request hub).1) (answer dispatch request hub).2
      (traceAnswer dispatch within request hub past)

end

section

variable (invoke : QueueEntry Listener → Event → StateM Hub (Except Text Event))
  (within : QueueEntry Listener → Event → Hub → Trace → Trace) (opening : Nat) (name : Text)

/-- The trace behind a turn of a dispatch. -/
def traceTurn (turn : Turn) (past : Trace) : Trace :=
  if turn.due name then
    within turn.entry turn.event (turn.entered name) (past ++ [turn.reach opening name]) ++
      [⟨(turn.leaves invoke name).2, .returned opening turn.entry (turn.leaves invoke name).1⟩]
  else past ++ [turn.reach opening name]

/-- The trace behind the turns of a dispatch. -/
def traceDelivery : ListenerQueue Listener → Event → Hub → Trace → Trace
  | [], _, _, past => past
  | entry :: rest, event, hub, past =>
    let turn : Turn := ⟨entry, event, hub⟩
    let behind := traceTurn invoke within opening name turn past
    if turn.ends invoke name then behind
    else traceDelivery rest (turn.passed invoke name) (turn.leaves invoke name).2 behind

end

/-- The trace behind a dispatch.  One that is nested too deeply is refused and leaves no trace. -/
def traceDispatch : (depth : Nat) → Event → Hub → Trace → Trace
  | 0, _, _, past => past
  | depth + 1, event, hub, past =>
    let queue := hub.registry.queue event.name
    let turns := traceDelivery (invokeWithin depth)
      (fun entry event =>
        traceRun (dispatchWithin depth) (traceDispatch depth) (entry.listener event))
      past.length event.name queue event hub (past ++ [⟨hub, .opened event queue⟩])
    turns ++ [⟨(dispatchWithin (depth + 1) event hub).2,
      .closed past.length (dispatchWithin (depth + 1) event hub).1⟩]

/-- The trace of a program that is the first to work with its hub.  Dispatches nest `depth` levels
deep. -/
def trace (depth : Nat) (program : Program) : Trace :=
  traceRun (dispatchWithin depth) (traceDispatch depth) program {} []

/-- The hub that such a program leaves. -/
def final (depth : Nat) (program : Program) : Hub := (run (dispatchWithin depth) program {}).2

end Hub

/-! ## Steps of a trace -/

/-- What can happen next in a trace, and the hub that it leaves. -/
inductive Trace.Step : Trace → Moment → Hub → Prop where
  | asked (past : Trace) (hub : Hub) (dispatch : Event → StateM Hub (Except EventError Event))
      {request : Request Listener} (plain : ∀ event, request ≠ .dispatch event) :
      Step past ⟨hub, .asked request (Hub.answer dispatch request hub).1⟩
        (Hub.answer dispatch request hub).2
  | opened (past : Trace) (hub : Hub) (event : Event) :
      Step past ⟨hub, .opened event (hub.registry.queue event.name)⟩ hub
  /-- A dispatch that is known comes to the next entry of its queue. -/
  | reached {past : Trace} {opening : Nat} {opener : Hub} {event : Event}
      {queue : ListenerQueue Listener} (turn : Turn)
      (known : past[opening]? = some ⟨opener, .opened event queue⟩)
      (next : Trace.turns opening past ++ [turn.entry] <+: queue) :
      Step past (turn.reach opening event.name) (turn.begun event.name)
  | returned (past : Trace) (hub : Hub) (opening : Nat) (entry : QueueEntry Listener)
      (outcome : Except Text Event) : Step past ⟨hub, .returned opening entry outcome⟩ hub
  | closed (past : Trace) (hub : Hub) (opening : Nat) (outcome : Except EventError Event) :
      Step past ⟨hub, .closed opening outcome⟩ hub

/-- This trace can lead from a new hub to this one. -/
inductive Traced : Trace → Hub → Prop where
  | start : Traced [] {}
  | next {past : Trace} {moment : Moment} {after : Hub} (traced : Traced past moment.hub)
      (step : Trace.Step past moment after) : Traced (past ++ [moment]) after

/-- Every moment of a trace is a step from what was before it. -/
theorem Traced.split {past : Trace} {moment : Moment} {rest : Trace} {hub : Hub}
    (traced : Traced (past ++ moment :: rest) hub) :
    Traced past moment.hub ∧ ∃ after, Trace.Step past moment after ∧
      Traced (past ++ [moment]) after := by
  induction rest using List.reverseRecOn generalizing hub with
  | nil =>
    generalize whole : past ++ [moment] = trace at traced
    cases traced with
    | start => exact absurd whole (List.append_ne_nil_of_right_ne_nil _ (List.cons_ne_nil _ _))
    | next traced step =>
      obtain ⟨rfl, rfl⟩ := List.append_singleton_inj.1 whole
      exact ⟨traced, _, step, traced.next step⟩
  | append_singleton rest last ih =>
    rw [← List.cons_append, ← List.append_assoc] at traced
    generalize whole : past ++ moment :: rest ++ [last] = trace at traced
    cases traced with
    | start => exact absurd whole (List.append_ne_nil_of_right_ne_nil _ (List.cons_ne_nil _ _))
    | next traced step =>
      obtain ⟨rfl, rfl⟩ := List.append_singleton_inj.1 whole
      exact ih traced

/-- The moment at a place of a trace, with what is in front of it. -/
theorem Traced.step_at {trace : Trace} {hub : Hub} (traced : Traced trace hub) {place : Nat}
    {moment : Moment} (known : (trace)[place]? = some moment) :
    Traced (trace.take place) moment.hub ∧ ∃ after, Trace.Step (trace.take place) moment after ∧
      Traced (trace.take place ++ [moment]) after := by
  obtain ⟨within, here⟩ := List.getElem?_eq_some_iff.1 known
  rw [← List.take_append_drop place trace, List.drop_eq_getElem_cons within, here] at traced
  exact traced.split

/-- A dispatch takes the queue that its event has then. -/
theorem Traced.queue_of_opened {trace : Trace} {hub : Hub} (traced : Traced trace hub)
    {opening : Nat} {opener : Hub} {event : Event} {queue : ListenerQueue Listener}
    (opened : (trace)[opening]? = some ⟨opener, .opened event queue⟩) :
    queue = opener.registry.queue event.name := by
  obtain ⟨-, after, step, -⟩ := traced.step_at opened
  cases step
  rfl

/-- The entry has its turn, or a listener in front of it in the queue ends the dispatch. -/
def Served (trace : Trace) (opening : Nat) (queue : ListenerQueue Listener)
    (entry : QueueEntry Listener) : Prop :=
  (∃ hub event due, (⟨hub, .reached opening event entry due⟩ : Moment) ∈ trace) ∨
    ∃ hub other outcome, (⟨hub, .returned opening other outcome⟩ : Moment) ∈ trace ∧
      [other, entry].Sublist queue ∧ ∀ event, outcome = .ok event → event.stopped = true

namespace Served

variable {trace : Trace} {opening : Nat} {queue : ListenerQueue Listener}
  {entry : QueueEntry Listener}

theorem mono {longer : Trace} (served : Served trace opening queue entry)
    (grows : trace <+: longer) : Served longer opening queue entry := by
  obtain ⟨hub, event, due, member⟩ | ⟨hub, other, outcome, member, behind⟩ := served
  · exact .inl ⟨hub, event, due, grows.subset member⟩
  · exact .inr ⟨hub, other, outcome, grows.subset member, behind⟩

theorem cons (served : Served trace opening queue entry) (first : QueueEntry Listener) :
    Served trace opening (first :: queue) entry := by
  obtain turn | ⟨hub, other, outcome, member, behind, ends⟩ := served
  · exact .inl turn
  · exact .inr ⟨hub, other, outcome, member, behind.cons first, ends⟩

end Served

/-- What stands in a trace stands there still when it goes on. -/
theorem getElem?_of_prefix {past longer : Trace} {place : Nat} {moment : Moment}
    (grows : past <+: longer) (known : past[place]? = some moment) :
    longer[place]? = some moment := by
  obtain ⟨more, rfl⟩ := grows
  rw [List.getElem?_append_left (List.getElem?_eq_some_iff.1 known).1, known]

theorem turns_concat {past : Trace} {opening : Nat} (known : opening ≤ past.length)
    (moment : Moment) :
    Trace.turns opening (past ++ [moment]) =
      Trace.turns opening past ++ (moment.happening.turn? opening).toList := by
  rw [Trace.turns, List.drop_append_of_le_length known, List.filterMap_append]
  cases turn : moment.happening.turn? opening <;> simp [Trace.turns, turn]

/-- A way in which a trace goes on during a turn of a dispatch, or outside of dispatches. -/
structure Settles (own : Nat) (record : Trace → Trace) : Prop where
  grows : ∀ past, past <+: record past
  /-- The other dispatches that are open meanwhile come to no entry. -/
  waits : ∀ {past opening}, opening < past.length → opening ≠ own →
    Trace.turns opening (record past) = Trace.turns opening past
  /-- A dispatch that is opened meanwhile serves its queue. -/
  serves : ∀ {past opening opener event queue}, past.length ≤ opening →
    (record past)[opening]? = some ⟨opener, .opened event queue⟩ →
      ∀ entry ∈ queue, Served (record past) opening queue entry

namespace Settles

variable {own : Nat}

/-- Nothing happens. -/
theorem refl : Settles own fun past => past where
  grows := fun _ => List.prefix_rfl
  waits := fun _ _ => rfl
  serves := by
    intro past opening opener event queue late known
    exact absurd (List.getElem?_eq_some_iff.1 known).1 (Nat.not_lt.2 late)

theorem comp {first second : Trace → Trace} (earlier : Settles own first)
    (later : Settles own second) : Settles own fun past => second (first past) where
  grows := fun past => (earlier.grows past).trans (later.grows _)
  waits := by
    intro past opening early other
    have still := Nat.lt_of_lt_of_le early (earlier.grows past).length_le
    rw [later.waits still other, earlier.waits early other]
  serves := by
    intro past opening opener event queue late known entry waits
    rcases Nat.lt_or_ge opening (first past).length with before | after
    · obtain ⟨more, goesOn⟩ := later.grows (first past)
      rw [← goesOn, List.getElem?_append_left before] at known
      exact (earlier.serves late known entry waits).mono (later.grows _)
    · exact later.serves after known entry waits

/-- Something happens that opens no dispatch and is no turn of another one. -/
theorem concat {moment : Moment} (other : ∀ event queue, moment.happening ≠ .opened event queue)
    (idle : ∀ opening, opening ≠ own → moment.happening.turn? opening = none) :
    Settles own fun past => past ++ [moment] where
  grows := fun _ => List.prefix_append _ _
  waits := by
    intro past opening early differs
    rw [turns_concat (Nat.le_of_lt early), idle opening differs, Option.toList_none,
      List.append_nil]
  serves := by
    intro past opening opener event queue late known
    rw [List.getElem?_append_right late] at known
    have last := List.mem_singleton.1 (List.mem_of_getElem? known)
    exact absurd (congrArg Moment.happening last.symm) (other event queue)

end Settles

/-! ## The trace of a run is a trace -/

namespace Hub

section

variable {dispatch : Event → StateM Hub (Except EventError Event)}
  {within : Event → Hub → Trace → Trace} {own : Nat}

theorem settles_traceAnswer (each : ∀ event hub, Settles own (within event hub))
    (request : Request Listener) (hub : Hub) :
    Settles own (traceAnswer dispatch within request hub) := by
  cases request with
  | dispatch event => exact each event hub
  | register | registerAll | remove | clear | unregister | has | count | events | share | note =>
    exact .concat (fun _ _ => nofun) fun _ _ => rfl

theorem settles_traceRun (each : ∀ event hub, Settles own (within event hub)) :
    (program : Program) → (hub : Hub) → Settles own (traceRun dispatch within program hub)
  | .done _, _ => .refl
  | .ask request _, hub =>
    (settles_traceAnswer each request hub).comp (settles_traceRun each _ _)

theorem traced_traceAnswer
    (each : ∀ event {hub past},
      Traced past hub → Traced (within event hub past) (dispatch event hub).2)
    (request : Request Listener) {hub : Hub} {past : Trace} (traced : Traced past hub) :
    Traced (traceAnswer dispatch within request hub past) (answer dispatch request hub).2 := by
  cases request with
  | dispatch event => exact each event traced
  | register | registerAll | remove | clear | unregister | has | count | events | share | note =>
    exact traced.next (.asked past hub dispatch fun _ => nofun)

theorem traced_traceRun
    (each : ∀ event {hub past},
      Traced past hub → Traced (within event hub past) (dispatch event hub).2) :
    (program : Program) → {hub : Hub} → {past : Trace} → Traced past hub →
      Traced (traceRun dispatch within program hub past) (run dispatch program hub).2
  | .done outcome, _, _, traced => by
    rw [run]
    exact traced
  | .ask request next, hub, past, traced => by
    rw [run, bind_eq, traceRun]
    exact traced_traceRun each (next _) (traced_traceAnswer each request traced)

end

section

variable {invoke : QueueEntry Listener → Event → StateM Hub (Except Text Event)}
  {within : QueueEntry Listener → Event → Hub → Trace → Trace} {opening : Nat} {name : Text}

/-! ### Turns -/

theorem settles_traceTurn (each : ∀ entry event hub, Settles opening (within entry event hub))
    (turn : Turn) : Settles opening (traceTurn invoke within opening name turn) := by
  have reached : Settles opening fun past => past ++ [turn.reach opening name] :=
    .concat (fun _ _ => nofun) fun other differs => if_neg (Ne.symm differs)
  cases due : turn.due name with
  | false =>
    have skips : traceTurn invoke within opening name turn =
        fun past => past ++ [turn.reach opening name] := by
      funext past
      rw [traceTurn, due]
      rfl
    rw [skips]
    exact reached
  | true =>
    have runs : traceTurn invoke within opening name turn = fun past =>
        within turn.entry turn.event (turn.entered name) (past ++ [turn.reach opening name]) ++
          [⟨(turn.leaves invoke name).2,
            .returned opening turn.entry (turn.leaves invoke name).1⟩] := by
      funext past
      rw [traceTurn, if_pos due]
    have returned : Settles opening fun past => past ++ [⟨(turn.leaves invoke name).2,
        .returned opening turn.entry (turn.leaves invoke name).1⟩] :=
      .concat (fun _ _ => nofun) fun _ _ => rfl
    rw [runs]
    exact (reached.comp (each turn.entry turn.event (turn.entered name))).comp returned

/-- A turn is one turn of its dispatch, whatever its listener does. -/
theorem turns_traceTurn (each : ∀ own entry event hub, Settles own (within entry event hub))
    (turn : Turn) {past : Trace} (early : opening < past.length) :
    Trace.turns opening (traceTurn invoke within opening name turn past) =
      Trace.turns opening past ++ [turn.entry] := by
  have reached : Trace.turns opening (past ++ [turn.reach opening name]) =
      Trace.turns opening past ++ [turn.entry] := by
    rw [turns_concat (Nat.le_of_lt early)]
    simp [Turn.reach, Happening.turn?]
  have longer : opening < (past ++ [turn.reach opening name]).length := by
    rw [List.length_append]
    exact Nat.lt_add_right _ early
  rw [traceTurn]
  split
  · have inside := each (opening + 1) turn.entry turn.event (turn.entered name)
    have still := Nat.lt_of_lt_of_le longer (inside.grows _).length_le
    rw [turns_concat (Nat.le_of_lt still), inside.waits longer (Nat.ne_of_lt (Nat.lt_succ_self _)),
      reached]
    exact List.append_nil _
  · exact reached

/-- A turn leads to the hub that it leaves. -/
theorem traced_traceTurn
    (each : ∀ entry event {hub past}, Traced past hub →
      Traced (within entry event hub past) (invoke entry event hub).2)
    {turn : Turn} {past : Trace} (traced : Traced past turn.hub) {opener : Hub} {event : Event}
    {queue : ListenerQueue Listener} (known : past[opening]? = some ⟨opener, .opened event queue⟩)
    (next : Trace.turns opening past ++ [turn.entry] <+: queue) :
    Traced (traceTurn invoke within opening event.name turn past)
      (turn.leaves invoke event.name).2 := by
  have reached := Traced.next traced (.reached turn known next)
  rw [Turn.begun] at reached
  rw [traceTurn, Turn.leaves]
  split
  · next due =>
    rw [if_pos due] at reached
    exact (each _ _ reached).next (.returned _ _ opening turn.entry _)
  · next due =>
    rw [if_neg due] at reached
    exact reached

/-- The entry whose turn it is has it. -/
theorem served_traceTurn (each : ∀ own entry event hub, Settles own (within entry event hub))
    (turn : Turn) (past : Trace) (queue : ListenerQueue Listener) :
    Served (traceTurn invoke within opening name turn past) opening queue turn.entry := by
  refine .inl ⟨turn.hub, name, turn.due name, ?_⟩
  have reached : turn.reach opening name ∈ past ++ [turn.reach opening name] :=
    List.mem_append_right _ (List.mem_singleton_self _)
  rw [traceTurn]
  split
  · exact List.mem_append_left _ (((each opening _ _ _).grows _).subset reached)
  · exact reached

/-- A turn that ends the dispatch is a reason for those behind it to have none. -/
theorem served_of_ends {turn : Turn} (ends : turn.ends invoke name = true) (past : Trace)
    {rest : ListenerQueue Listener} {entry : QueueEntry Listener} (waits : entry ∈ rest) :
    Served (traceTurn invoke within opening name turn past) opening (turn.entry :: rest) entry := by
  rw [Turn.ends, Bool.and_eq_true] at ends
  obtain ⟨due, ends⟩ := ends
  refine .inr ⟨(turn.leaves invoke name).2, turn.entry, (turn.leaves invoke name).1, ?_,
    (List.singleton_sublist.2 waits).cons_cons turn.entry, ?_⟩
  · rw [traceTurn, if_pos due]
    exact List.mem_append_right _ (List.mem_singleton_self _)
  · intro event handed
    rwa [handed] at ends

/-! ### Dispatches -/

theorem settles_traceDelivery (each : ∀ entry event hub, Settles opening (within entry event hub))
    (queue : ListenerQueue Listener) (event : Event) (hub : Hub) :
    Settles opening (traceDelivery invoke within opening name queue event hub) := by
  induction queue generalizing event hub with
  | nil => exact .refl
  | cons entry rest ih =>
    have turn : Settles opening (traceTurn invoke within opening name ⟨entry, event, hub⟩) :=
      settles_traceTurn each _
    cases ends : Turn.ends invoke name ⟨entry, event, hub⟩ with
    | true =>
      have last : traceDelivery invoke within opening name (entry :: rest) event hub =
          traceTurn invoke within opening name ⟨entry, event, hub⟩ := by
        funext past
        rw [traceDelivery, if_pos ends]
      rw [last]
      exact turn
    | false =>
      have goesOn : traceDelivery invoke within opening name (entry :: rest) event hub =
          fun past => traceDelivery invoke within opening name rest
            (Turn.passed invoke name ⟨entry, event, hub⟩)
            (Turn.leaves invoke name ⟨entry, event, hub⟩).2
            (traceTurn invoke within opening name ⟨entry, event, hub⟩ past) := by
        funext past
        rw [traceDelivery, ends]
        rfl
      rw [goesOn]
      exact turn.comp (ih _ _)

/-- Whoever waits in the queue has its turn or a reason to have none. -/
theorem served_traceDelivery (each : ∀ own entry event hub, Settles own (within entry event hub))
    (queue : ListenerQueue Listener) (event : Event) (hub : Hub) (past : Trace) :
    ∀ entry ∈ queue,
      Served (traceDelivery invoke within opening name queue event hub past) opening queue
        entry := by
  induction queue generalizing event hub past with
  | nil => exact fun _ none => nomatch none
  | cons entry rest ih =>
    have here : Served (traceTurn invoke within opening name ⟨entry, event, hub⟩ past) opening
        (entry :: rest) entry := served_traceTurn each _ past _
    rw [traceDelivery]
    split
    · next ends =>
      exact List.forall_mem_cons.2 ⟨here, fun _ waits => served_of_ends ends past waits⟩
    · refine List.forall_mem_cons.2
        ⟨here.mono ((settles_traceDelivery (each opening) _ _ _).grows _), ?_⟩
      exact fun other waits => (ih _ _ _ other waits).cons entry

/-- A delivery leaves what its last turn leaves. -/
theorem deliver_cons_after {turn : Turn} {entry : QueueEntry Listener}
    {rest : ListenerQueue Listener} {event : Event} {hub : Hub}
    (start : turn = ⟨entry, event, hub⟩) :
    (deliver invoke name (entry :: rest) event hub).2 =
      if turn.ends invoke name then (turn.leaves invoke name).2
      else (deliver invoke name rest (turn.passed invoke name) (turn.leaves invoke name).2).2 := by
  have same : turn.event = event := by rw [start]
  rw [deliver_cons start, Turn.ends, Turn.passed]
  cases due : turn.due name with
  | false =>
    rw [Turn.leaves, due, same]
    rfl
  | true =>
    cases (turn.leaves invoke name).1 with
    | error reason => rfl
    | ok event' =>
      simp only [if_true, Bool.true_and, proceed]
      split
      · rfl
      · rfl

/-- The turns of a dispatch lead from the hub it meets to the hub it leaves. -/
theorem traced_traceDelivery
    (settles : ∀ own entry event hub, Settles own (within entry event hub))
    (each : ∀ entry event {hub past}, Traced past hub →
      Traced (within entry event hub past) (invoke entry event hub).2)
    {opener : Hub} {opened : Event} {full : ListenerQueue Listener}
    (queue : ListenerQueue Listener) (event : Event) {hub : Hub} {past : Trace}
    (traced : Traced past hub) (known : past[opening]? = some ⟨opener, .opened opened full⟩)
    (left : Trace.turns opening past ++ queue = full) :
    Traced (traceDelivery invoke within opening opened.name queue event hub past)
      (deliver invoke opened.name queue event hub).2 := by
  induction queue generalizing event hub past with
  | nil => exact traced
  | cons entry rest ih =>
    have early := (List.getElem?_eq_some_iff.1 known).1
    rw [← List.singleton_append, ← List.append_assoc] at left
    have turn : Traced (traceTurn invoke within opening opened.name ⟨entry, event, hub⟩ past)
        (Turn.leaves invoke opened.name ⟨entry, event, hub⟩).2 :=
      traced_traceTurn each traced known ⟨rest, left⟩
    rw [traceDelivery, deliver_cons_after rfl]
    split
    · exact turn
    · refine ih _ turn ?_ ?_
      · exact getElem?_of_prefix ((settles_traceTurn (settles opening) _).grows past) known
      · rw [turns_traceTurn settles _ early]
        exact left

end

/-- The listeners of a dispatch are traced like programs. -/
abbrev traceWithin (depth : Nat) (entry : QueueEntry Listener) (event : Event) (hub : Hub)
    (past : Trace) : Trace :=
  traceRun (dispatchWithin depth) (traceDispatch depth) (entry.listener event) hub past

theorem settles_traceDispatch (depth own : Nat) (event : Event) (hub : Hub) :
    Settles own (traceDispatch depth event hub) := by
  induction depth generalizing own event hub with
  | zero => exact .refl
  | succ depth ih =>
    have each : ∀ own entry event hub, Settles own (traceWithin depth entry event hub) :=
      fun own entry event hub => settles_traceRun (ih own) (entry.listener event) hub
    -- What follows the opening belongs to this dispatch.
    have settles : ∀ opening, Settles opening fun past =>
        traceDelivery (invokeWithin depth) (traceWithin depth) opening event.name
            (hub.registry.queue event.name) event hub past ++
          [⟨(dispatchWithin (depth + 1) event hub).2,
            .closed opening (dispatchWithin (depth + 1) event hub).1⟩] := by
      intro opening
      refine (settles_traceDelivery (each opening) _ event hub).comp (.concat ?_ fun _ _ => rfl)
      exact fun _ _ => nofun
    have opens : ∀ past : Trace,
        (past ++ [(⟨hub, .opened event (hub.registry.queue event.name)⟩ : Moment)]).length =
          past.length + 1 := fun _ => List.length_append
    refine ⟨fun past => ?_, fun {past opening} early _ => ?_,
      fun {past opening opener other queue} late known entry waits => ?_⟩
    · exact (List.prefix_append _ _).trans ((settles past.length).grows _)
    · refine ((settles past.length).waits (Nat.lt_of_lt_of_eq (Nat.lt_succ_of_lt early)
        (opens past).symm) (Nat.ne_of_lt early)).trans ?_
      rw [turns_concat (Nat.le_of_lt early)]
      exact List.append_nil _
    · -- The dispatch is one of those nested in this one, or it is this one.
      rcases Nat.lt_or_eq_of_le late with later | rfl
      · exact (settles past.length).serves ((opens past).trans_le later) known entry waits
      · have grows := (settles past.length).grows
          (past ++ [⟨hub, .opened event (hub.registry.queue event.name)⟩])
        have here := getElem?_of_prefix grows List.getElem?_concat_length
        cases here.symm.trans known
        exact (served_traceDelivery each _ event hub _ entry waits).mono (List.prefix_append _ _)

theorem traced_traceDispatch (depth : Nat) (event : Event) {hub : Hub} {past : Trace}
    (traced : Traced past hub) :
    Traced (traceDispatch depth event hub past) (dispatchWithin depth event hub).2 := by
  induction depth generalizing event hub past with
  | zero =>
    rw [dispatchWithin]
    exact traced
  | succ depth ih =>
    have settles : ∀ own entry event hub, Settles own (traceWithin depth entry event hub) :=
      fun own entry event hub =>
        settles_traceRun (settles_traceDispatch depth own) (entry.listener event) hub
    have fresh : Trace.turns past.length
        (past ++ [⟨hub, .opened event (hub.registry.queue event.name)⟩]) = [] := by
      rw [turns_concat (Nat.le_refl _), Trace.turns, List.drop_length]
      rfl
    have turns : Traced (traceDelivery (invokeWithin depth) (traceWithin depth) past.length
        event.name (hub.registry.queue event.name) event hub
        (past ++ [⟨hub, .opened event (hub.registry.queue event.name)⟩])) _ :=
      traced_traceDelivery settles
        (fun entry event _ _ traced => traced_traceRun ih (entry.listener event) traced) _ event
        (traced.next (.opened past hub event)) List.getElem?_concat_length
        (by rw [fresh, List.nil_append])
    rw [traceDispatch, dispatchWithin_succ]
    exact turns.next (.closed _ _ past.length _)

/-! ## Whole runs -/

/-- The trace of a run leads from a new hub to the hub that the run leaves. -/
theorem traced_run (depth : Nat) (program : Program) :
    Traced (trace depth program) (final depth program) :=
  traced_traceRun (fun event _ _ => traced_traceDispatch depth event) program .start

/-- Every entry of a queue that a dispatch takes has its turn, or a reason to have none. -/
theorem served_run {depth : Nat} {program : Program} {opening : Nat} {opener : Hub} {event : Event}
    {queue : ListenerQueue Listener}
    (opened : (trace depth program)[opening]? = some ⟨opener, .opened event queue⟩) :
    ∀ entry ∈ queue, Served (trace depth program) opening queue entry :=
  (settles_traceRun (settles_traceDispatch depth 0) program {}).serves (Nat.zero_le _) opened

end Hub

/-! ## Turns in order -/

/-- The dispatches of a trace come to the entries of their queues in order. -/
def Trace.InOrder (past : Trace) : Prop :=
  ∀ (opening : Nat) (opener : Hub) (event : Event) (queue : ListenerQueue Listener),
    past[opening]? = some ⟨opener, .opened event queue⟩ → Trace.turns opening past <+: queue

/-- They still do when the next turn is the turn of the next entry. -/
theorem Trace.InOrder.concat {past : Trace} {moment : Moment} (inOrder : Trace.InOrder past)
    (next : ∀ opening opener event queue entry,
      past[opening]? = some ⟨opener, .opened event queue⟩ →
        moment.happening.turn? opening = some entry →
          Trace.turns opening past ++ [entry] <+: queue) :
    Trace.InOrder (past ++ [moment]) := by
  intro opening opener event queue known
  rcases Nat.lt_or_ge opening past.length with early | late
  · rw [List.getElem?_append_left early] at known
    rw [turns_concat (Nat.le_of_lt early)]
    cases turn : moment.happening.turn? opening with
    | none =>
      rw [Option.toList_none, List.append_nil]
      exact inOrder _ _ _ _ known
    | some entry => exact next _ _ _ _ _ known turn
  · rw [List.getElem?_append_right late] at known
    have last : opening - past.length < 1 := (List.getElem?_eq_some_iff.1 known).1
    obtain rfl : opening = past.length := by omega
    obtain rfl := List.mem_singleton.1 (List.mem_of_getElem? known)
    rw [turns_concat (Nat.le_refl _), Trace.turns, List.drop_length]
    exact List.nil_prefix

theorem Traced.inOrder {past : Trace} {hub : Hub} (traced : Traced past hub) :
    Trace.InOrder past := by
  induction traced with
  | start => exact fun _ _ _ _ => nofun
  | next traced step ih =>
    refine ih.concat fun opening opener event queue entry opened turn => ?_
    cases step with
    | asked | opened | returned | closed => cases turn
    | reached other known next =>
      obtain ⟨rfl, rfl⟩ : _ = opening ∧ _ = entry := by
        simpa [Turn.reach, Happening.turn?] using turn
      cases known.symm.trans opened
      exact next

end PageTemplates
