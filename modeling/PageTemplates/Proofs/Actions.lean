import PageTemplates.Loader

/-!
# Actions that may fail

Loading works on a hub and rendering on a page, and both stop at the first
failure.  `bind_of_ok` and `bind_of_error` take such actions apart one after the
other.

`Raises` bounds the failures of an action by those of its parts, and `Preserves`
says what lasts through an action if it lasts through its parts.

A load is put together from dispatches, announcements and failures.  A property
that these have and that lasts when one action follows another is one of every
load (`Loader.Closed.load`).  So loading a template never reports a missing block,
since it knows nothing of blocks (`Loader.raises_load`).
-/

namespace PageTemplates

section

variable {ε σ α β : Type} {action : ExceptT ε (StateM σ) α} {next : α → ExceptT ε (StateM σ) β}
  {state state' : σ}

theorem bind_of_ok {value : α} (done : action state = (.ok value, state')) :
    (action >>= next) state = next value state' := by
  show (let (outcome, state') := action state; ExceptT.bindCont next outcome state') = _
  rw [done]
  rfl

theorem bind_of_error {error : ε} (failed : action state = (.error error, state')) :
    (action >>= next) state = (.error error, state') := by
  show (let (outcome, state') := action state; ExceptT.bindCont next outcome state') = _
  rw [failed]
  rfl

/-- What follows an action depends only on what the action does to the state at hand. -/
theorem bind_of_eq {other : ExceptT ε (StateM σ) α}
    (same : action state = other state') : (action >>= next) state = (other >>= next) state' := by
  show (let (outcome, state') := action state; ExceptT.bindCont next outcome state') = _
  rw [same]
  rfl

/-- An action that succeeds has parts that succeed. -/
theorem parts_of_bind_ok {last : β} (done : (action >>= next) state = (.ok last, state')) :
    ∃ value between, action state = (.ok value, between) ∧
      next value between = (.ok last, state') := by
  cases first : action state with
  | mk outcome between =>
    cases outcome with
    | ok value => exact ⟨value, between, rfl, (bind_of_ok first).symm.trans done⟩
    | error error =>
      rw [bind_of_error first] at done
      cases done

theorem eq_ok_of_toOption {outcome : Except ε α} {value : α}
    (done : outcome.toOption = some value) : outcome = .ok value := by
  cases outcome with
  | error error => cases done
  | ok other =>
    cases done
    rfl

/-- The action that looks at the state leaves it. -/
theorem get_bind {next : σ → ExceptT ε (StateM σ) β} :
    (get >>= next) state = next state state := rfl

end

section

variable {σ α β : Type} {action : ExceptT TemplateError (StateM σ) α}
  {next : α → ExceptT TemplateError (StateM σ) β}

/-! ## Failures -/

/-- Every failure of an action is one that is allowed. -/
def Raises (allowed : TemplateError → Prop) (action : ExceptT TemplateError (StateM σ) α) : Prop :=
  ∀ state error, (action state).1 = .error error → allowed error

variable {allowed : TemplateError → Prop}

theorem Raises.pure (value : α) :
    Raises allowed (Pure.pure value : ExceptT TemplateError (StateM σ) α) := by
  intro state error failed
  cases failed

theorem Raises.throw {error : TemplateError} (fits : allowed error) :
    Raises allowed (throw error : ExceptT TemplateError (StateM σ) α) := by
  intro state other failed
  cases failed
  exact fits

theorem Raises.get : Raises allowed (MonadState.get : ExceptT TemplateError (StateM σ) σ) := by
  intro state error failed
  cases failed

theorem Raises.bind (first : Raises allowed action)
    (second : ∀ value, Raises allowed (next value)) : Raises allowed (action >>= next) := by
  intro state error failed
  cases done : action state with
  | mk outcome state' =>
    cases outcome with
    | ok value =>
      rw [bind_of_ok done] at failed
      exact second value state' error failed
    | error cause =>
      rw [bind_of_error done] at failed
      cases failed
      exact first state error (by rw [done])

/-! ## What lasts -/

/-- An action leaves a property of states true. -/
def Preserves (holds : σ → Prop) (action : ExceptT TemplateError (StateM σ) α) : Prop :=
  ∀ state, holds state → holds (action state).2

variable {holds : σ → Prop}

theorem Preserves.pure (value : α) :
    Preserves holds (Pure.pure value : ExceptT TemplateError (StateM σ) α) := fun _ before => before

theorem Preserves.throw (error : TemplateError) :
    Preserves holds (throw error : ExceptT TemplateError (StateM σ) α) := fun _ before => before

theorem Preserves.get :
    Preserves holds (MonadState.get : ExceptT TemplateError (StateM σ) σ) := fun _ before => before

theorem Preserves.bind (first : Preserves holds action)
    (second : ∀ value, Preserves holds (next value)) : Preserves holds (action >>= next) := by
  intro state before
  have between := first state before
  cases done : action state with
  | mk outcome state' =>
    rw [done] at between
    cases outcome with
    | ok value =>
      rw [bind_of_ok done]
      exact second value state' between
    | error error =>
      rw [bind_of_error done]
      exact between

end

/-- Whether a failure is about a block that its template does not have. -/
def TemplateError.isUndefinedBlock : TemplateError → Bool
  | .undefinedBlock _ _ => true
  | _ => false

/-- An event without listeners comes back as it is. -/
theorem Hub.dispatch_of_silent {event : Event} {hub : Hub}
    (silent : hub.registry.queue event.name = []) : Hub.dispatch event hub = (.ok event, hub) := by
  rw [Hub.dispatch, show Hub.depthLimit = 999999999 + 1 from rfl, Hub.dispatchWithin]
  show (let (delivery, hub) := Hub.deliver _ event.name (hub.registry.queue event.name) event hub
    (delivery.outcome, hub)) = _
  rw [silent]
  rfl

namespace Loader

/-- A failure that is not about a block. -/
abbrev NoBlock (error : TemplateError) : Prop := error.isUndefinedBlock = false

theorem dispatch_of_sent {event back : Event} {hub : Hub}
    (sent : (Hub.dispatch event hub).1 = .ok back) :
    dispatch event hub = (.ok back, (Hub.dispatch event hub).2) := by
  rw [dispatch]
  cases dispatched : Hub.dispatch event hub with
  | mk outcome after =>
    rw [dispatched] at sent
    obtain rfl : outcome = .ok back := sent
    rfl

theorem dispatch_of_silent {event : Event} {hub : Hub}
    (silent : hub.registry.queue event.name = []) : dispatch event hub = (.ok event, hub) := by
  rw [dispatch, Hub.dispatch_of_silent silent]

/-- A property of actions that all parts of a load have and that lasts when one follows another. -/
structure Closed (holds : {α : Type} → Loading α → Prop) : Prop where
  pure {α : Type} (value : α) : holds (Pure.pure value : Loading α)
  throw {α : Type} {error : TemplateError} (noBlock : NoBlock error) :
    holds (MonadExcept.throw error : Loading α)
  bind {α β : Type} {action : Loading α} {next : α → Loading β} (first : holds action)
    (second : ∀ value, holds (next value)) : holds (action >>= next)
  dispatch (event : Event) (goesOn : event.stopped = false) : holds (Loader.dispatch event)
  announce (name path content : Text) : holds (Loader.announce name path content)

section

variable {holds : {α : Type} → Loading α → Prop} (closed : Closed @holds)

include closed

theorem Closed.readTemplate (loader : Loader) (path : TemplatePath) :
    holds (loader.readTemplate path) := by
  unfold Loader.readTemplate
  dsimp only
  split
  · refine closed.bind (closed.dispatch _ rfl) fun _ => ?_
    split
    · exact closed.announce _ _ _
    · exact closed.throw rfl
  · exact closed.throw rfl

theorem Closed.expand {load : TemplatePath → Loading Text} (each : ∀ path, holds (load path))
    (directory : TemplatePath) (segments : List Segment) :
    holds (Loader.expand load directory segments) := by
  induction segments with
  | nil => exact closed.pure _
  | cons segment rest ih =>
    cases segment with
    | plain chars => exact closed.bind ih fun _ => closed.pure _
    | directive target =>
      rw [Loader.expand]
      split
      · exact closed.throw rfl
      · exact closed.bind (each _) fun _ => closed.bind ih fun _ => closed.pure _

theorem Closed.loadFile (loader : Loader) (levels : Nat) (chain : List TemplatePath)
    (path : TemplatePath) : holds (loader.loadFile levels chain path) := by
  induction levels generalizing chain path with
  | zero =>
    rw [Loader.loadFile]
    split
    · exact closed.throw rfl
    · exact closed.throw rfl
  | succ levels ih =>
    rw [Loader.loadFile]
    split
    · exact closed.throw rfl
    · refine closed.bind (closed.readTemplate loader path) fun content => ?_
      refine closed.bind (closed.expand (ih _) _ _) fun assembled => ?_
      exact closed.announce _ _ _

/-- A load has every property that its parts have. -/
theorem Closed.load (loader : Loader) (path : Text) : holds (loader.load path) := by
  unfold Loader.load
  split
  · exact closed.throw rfl
  · exact closed.bind (closed.dispatch _ rfl) fun _ => closed.loadFile loader _ _ _

end

theorem raises_dispatch (event : Event) : Raises NoBlock (dispatch event) := by
  intro hub error failed
  unfold dispatch at failed
  cases sent : Hub.dispatch event hub with
  | mk outcome hub' =>
    rw [sent] at failed
    cases outcome with
    | ok event => cases failed
    | error cause =>
      cases failed
      rfl

theorem raises_announce (name path content : Text) :
    Raises NoBlock (announce name path content) := by
  refine Raises.get.bind fun hub => ?_
  split
  · refine (raises_dispatch _).bind fun event => ?_
    split
    · exact .pure _
    · exact .pure _
  · exact .pure _

theorem closed_raises : Closed (Raises NoBlock) where
  pure := .pure
  throw := .throw
  bind := .bind
  dispatch event _ := raises_dispatch event
  announce := raises_announce

theorem raises_load (loader : Loader) (path : Text) : Raises NoBlock (loader.load path) :=
  closed_raises.load loader path

end Loader

end PageTemplates
