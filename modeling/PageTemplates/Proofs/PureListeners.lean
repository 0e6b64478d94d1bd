import PageTemplates.Event.Script
import PageTemplates.Proofs.Actions
import PageTemplates.Proofs.DispatchTurns

/-!
# Listeners that only change the event

A pure listener changes the event by a function and asks the hub for nothing.
A dispatch that meets only such listeners changes the event by their functions,
one after the other, and leaves the registry as it is
(`Hub.dispatch_of_changes`).

Of the listeners that loading knows, those that rewrite a text are pure.  What
an announcement makes of a text is then a function of the path and the text
(`Loader.yields_announce`).  So loading comes to a result that depends on the
registry alone, whatever was noted or journaled before.  `Yields` says so of an
action, and its lemmas take actions apart.
-/

namespace PageTemplates

/-! ## Pure listeners -/

/-- The event behind changes, one after the other.  One that leaves the flag set is the last. -/
def Event.through (event : Event) : List (Event → Event) → Event
  | [] => event
  | change :: rest => if (change event).stopped then change event else (change event).through rest

/-- The listeners of a queue change the event by these functions, in every dispatch. -/
def ListenerQueue.Changes (queue : ListenerQueue Listener) (changes : List (Event → Event)) :
    Prop :=
  List.Forall₂ (fun entry change => entry.once = false ∧ entry.listener = Listener.ofChange change)
    queue changes

namespace Hub

theorem deliver_of_changes (depth : Nat) (name : Text) {queue : ListenerQueue Listener}
    {changes : List (Event → Event)} (pure : queue.Changes changes) (event : Event) (hub : Hub) :
    (deliver (invokeWithin depth) name queue event hub).1.outcome = .ok (event.through changes) ∧
      (deliver (invokeWithin depth) name queue event hub).2.registry = hub.registry := by
  induction pure generalizing event hub with
  | nil => exact ⟨rfl, rfl⟩
  | @cons entry change rest changes changing others ih =>
    obtain ⟨again, listens⟩ := changing
    have due : Turn.due name ⟨entry, event, hub⟩ = true := by
      rw [Turn.due, again]
      rfl
    have leaves : Turn.leaves (invokeWithin depth) name ⟨entry, event, hub⟩ =
        (.ok (change event), Turn.entered name ⟨entry, event, hub⟩) := by
      rw [Turn.leaves, if_pos due, invokeWithin, listens]
      rfl
    have kept : (Turn.entered name ⟨entry, event, hub⟩).registry = hub.registry := by
      rw [Turn.entered, Turn.claimed, again]
      rfl
    rw [deliver_cons rfl, if_pos due, leaves, proceed, Event.through]
    split
    · exact ⟨rfl, kept⟩
    · obtain ⟨outcome, registry⟩ := ih (change event) (Turn.entered name ⟨entry, event, hub⟩)
      exact ⟨outcome, registry.trans kept⟩

/-- A dispatch to pure listeners changes the event by their functions. -/
theorem dispatch_of_changes {event : Event} {hub : Hub} {changes : List (Event → Event)}
    (pure : (hub.registry.queue event.name).Changes changes) :
    (dispatch event hub).1 = .ok (event.through changes) ∧
      (dispatch event hub).2.registry = hub.registry := by
  rw [dispatch, show depthLimit = 999999999 + 1 from rfl, dispatchWithin_succ]
  exact deliver_of_changes _ event.name pure event hub

end Hub

/-! ## Results that depend on the registry -/

section

variable {α β : Type} {registry : Registry Listener} {action : Loading α} {next : α → Loading β}

/-- With these listeners an action comes to this result, and it leaves them registered. -/
def Yields (registry : Registry Listener) (action : Loading α) (result : Except TemplateError α) :
    Prop :=
  ∀ hub : Hub, hub.registry = registry →
    (action hub).1 = result ∧ (action hub).2.registry = registry

namespace Yields

theorem pure (value : α) : Yields registry (Pure.pure value) (.ok value) :=
  fun _ same => ⟨rfl, same⟩

theorem throw (error : TemplateError) :
    Yields registry (throw error : Loading α) (.error error) :=
  fun _ same => ⟨rfl, same⟩

theorem bind {value : α} {result : Except TemplateError β}
    (first : Yields registry action (.ok value))
    (second : Yields registry (next value) result) :
    Yields registry (action >>= next) result := by
  intro hub same
  obtain ⟨done, kept⟩ := first hub same
  rw [bind_of_ok (Prod.ext done rfl)]
  exact second _ kept

theorem fail {error : TemplateError} (first : Yields registry action (.error error)) :
    Yields registry (action >>= next) (.error error) := by
  intro hub same
  obtain ⟨failed, kept⟩ := first hub same
  rw [bind_of_error (Prod.ext failed rfl)]
  exact ⟨rfl, kept⟩

/-- What follows an action and cannot fail is applied to its result. -/
theorem map {change : α → β} {result : Except TemplateError α}
    (first : Yields registry action result)
    (second : ∀ value, Yields registry (next value) (.ok (change value))) :
    Yields registry (action >>= next) (result.map change) := by
  cases result with
  | ok value => exact first.bind (second value)
  | error error => exact first.fail

end Yields

end

/-! ## Listeners that rewrite -/

/-- Rewrites the text in an event that announces one. -/
def Event.rewritten (rewrite : Text → Text → Text) (event : Event) : Event :=
  event.setParam Loader.contentParam
    (.text (rewrite (event.textParam Loader.pathParam) (event.textParam Loader.contentParam)))

/-- The listeners of a queue rewrite a text, one after the other, and together they do so by this
function of the path and the text. -/
def ListenerQueue.Rewrites (queue : ListenerQueue Listener) (rewrite : Text → Text → Text) : Prop :=
  ∃ rewrites : List (Text → Text → Text), queue.Changes (rewrites.map Event.rewritten) ∧
    ∀ path text, rewrite path text = rewrites.foldl (fun text change => change path text) text

/-- The listeners that loading meets are pure.  Those of the events that follow a step rewrite the
text by these functions. -/
structure Registry.Rewrites (registry : Registry Listener) (loaded assembled : Text → Text → Text) :
    Prop where
  beforeAssemble : ∃ changes, (registry.queue EventName.beforeAssemble).Changes changes
  beforeLoad : ∃ changes, (registry.queue EventName.beforeLoad).Changes changes
  afterLoad : (registry.queue EventName.afterLoad).Rewrites loaded
  afterAssemble : (registry.queue EventName.afterAssemble).Rewrites assembled

theorem Event.param?_through_rewritten (rewrites : List (Text → Text → Text)) {event : Event}
    {path text : Text} (goesOn : event.stopped = false)
    (ofPath : event.param? Loader.pathParam = some (.text path))
    (content : event.param? Loader.contentParam = some (.text text)) :
    (event.through (rewrites.map Event.rewritten)).param? Loader.contentParam =
      some (.text (rewrites.foldl (fun text change => change path text) text)) := by
  induction rewrites generalizing event text with
  | nil => exact content
  | cons rewrite rest ih =>
    have rewritten : event.rewritten rewrite =
        event.setParam Loader.contentParam (.text (rewrite path text)) := by
      rw [Event.rewritten, textParam, textParam, ofPath, content]
      rfl
    rw [List.map_cons, through, rewritten, List.foldl_cons]
    have runs : (event.setParam Loader.contentParam (.text (rewrite path text))).stopped = false :=
      goesOn
    rw [runs]
    refine ih runs ?_ ?_
    · rw [param?, setParam, Table.get?_insert, if_neg (by decide)]
      exact ofPath
    · rw [param?, setParam, Table.get?_insert, if_pos rfl]

namespace Loader

variable {registry : Registry Listener}

theorem yields_dispatch {event : Event} {changes : List (Event → Event)}
    (pure : (registry.queue event.name).Changes changes) :
    Yields registry (dispatch event) (.ok (event.through changes)) := by
  rintro hub rfl
  obtain ⟨sent, kept⟩ := Hub.dispatch_of_changes pure
  rw [dispatch_of_sent sent]
  exact ⟨rfl, kept⟩

/-- An announced text comes back rewritten. -/
theorem yields_announce {name : Text} {rewrite : Text → Text → Text}
    (rewrites : (registry.queue name).Rewrites rewrite) (path content : Text) :
    Yields registry (announce name path content) (.ok (rewrite path content)) := by
  rintro hub rfl
  obtain ⟨changes, pure, composed⟩ := rewrites
  rw [announce, get_bind]
  split
  · have carries : ((contentEvent name path content).through
        (changes.map Event.rewritten)).param? contentParam =
          some (.text (rewrite path content)) := by
      rw [composed]
      exact Event.param?_through_rewritten changes rfl rfl rfl
    refine (yields_dispatch pure).bind ?_ hub rfl
    rw [carries]
    exact .pure _
  · next silent =>
    -- Without listeners there is nothing that rewrites.
    have empty : hub.registry.queue name = [] := by
      rw [Registry.hasListeners, decide_eq_true_eq, Registry.count, Nat.not_lt, Nat.le_zero,
        List.length_eq_zero_iff] at silent
      exact silent
    rw [empty] at pure
    obtain rfl := List.map_eq_nil_iff.1 (List.forall₂_nil_left_iff.1 pure)
    rw [composed]
    exact ⟨rfl, rfl⟩

end Loader

end PageTemplates
