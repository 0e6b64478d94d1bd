import PageTemplates.Event.Hub

/-!
# Scripted listeners

A script is a list of actions.  It is a listener that can be written down as
data: each action changes the event, leaves a note, decides between two
scripts, or asks something of the hub.  `Action.listener` is the listener of a
script, and `Operation.request` the request of an operation.

An operation that dispatches fails the listener when the dispatch fails, unless
the call catches the failure.
-/

namespace PageTemplates

/-- An authentication result as a script describes it. -/
inductive AuthReport where
  /-- A success for an identity.  The code is checked and then ignored. -/
  | success (code : Int) (identity : Value)
  /-- A failure with one message. -/
  | failure (code : Int) (message : Text)
  /-- All three parts. -/
  | result (code : Int) (identity : Option Value) (messages : List Text)

namespace AuthReport

/-- The result described, if its code is known. -/
def toResult : AuthReport → Except ReadError AuthResult
  | .success code identity => do
    let _ ← AuthCode.read (.int code)
    .ok (AuthResult.success identity)
  | .failure code message => do
    let code ← AuthCode.read (.int code)
    .ok (AuthResult.failure code message)
  | .result code identity messages => do
    let code ← AuthCode.read (.int code)
    .ok ⟨code, identity, messages⟩

end AuthReport

/-- A test of a parameter. -/
inductive Condition where
  /-- The parameter equals a value; an absent one counts as null. -/
  | equals (value : Value)
  /-- The parameter is a text that ends in a word. -/
  | endsIn (word : Text)

/-- Whether a parameter passes a test. -/
def Condition.holds (param : Option Value) : Condition → Bool
  | .equals value => (param.getD .null) == value
  | .endsIn word =>
    match param with
    | some (.text chars) => Text.endsIn word chars
    | _ => false

mutual

/-- A step of a script. -/
inductive Action where
  /-- Note a label with the name and parameters of the event. -/
  | log (label : Text)
  /-- Store a parameter. -/
  | set (key : Text) (value : Value)
  /-- Drop a parameter. -/
  | unset (key : Text)
  /-- Replace all parameters. -/
  | setParams (params : Value)
  /-- Rename the event. -/
  | rename (name : Text)
  /-- Set or clear the flag that stops the dispatch. -/
  | stop (flag : Bool)
  /-- Fail. -/
  | fail (reason : Text)
  /-- Append to a text parameter.  A parameter of another kind counts as the empty text. -/
  | append (key : Text) (more : Text)
  /-- Replace a word wherever it occurs in a text parameter. -/
  | replace (key : Text) (old new : Text)
  /-- Store an authentication result. -/
  | setAuth (report : AuthReport)
  /-- Note the authentication result. -/
  | auth
  /-- Go on with one script or the other. -/
  | branch (key : Text) (condition : Condition) (yes no : List Action)
  /-- Ask the hub and note the reply. -/
  | call (operation : Operation) (catches : Bool)

/-- What a script can ask of the hub. -/
inductive Operation where
  /-- Register a script for an event. -/
  | register (event : Text) (actions : List Action) (priority : Int) (once : Bool)
  /-- Register a script for several events. -/
  | registerAll (events : List Text) (actions : List Action) (priority : Int)
  | remove (event : Text) (id : Nat)
  /-- Drop all listeners of an event. -/
  | clear (event : Text)
  /-- Drop all listeners of an event and say whether there were any. -/
  | unregister (event : Text)
  | has (event : Text)
  | count (event : Text)
  | events
  /-- Dispatch an event with its flag preset. -/
  | dispatch (event : Text) (params : Value) (stopped : Bool)
  /-- Take another handle and let go of it. -/
  | share

end

instance : Inhabited Action := ⟨.auth⟩

instance : Inhabited Operation := ⟨.events⟩

/-- The text parameter of an event, empty when absent or of another kind. -/
def Event.textParam (key : Text) (event : Event) : Text :=
  ((event.param? key).bind Value.text?).getD []

mutual

/-- Runs an action and goes on with the changed event. -/
def Action.start : Action → Event → (Event → Program) → Program
  | .log label, event, next =>
    .ask (.note (.label label event.name event.params)) fun _ => next event
  | .set key value, event, next => next (event.setParam key value)
  | .unset key, event, next => next (event.removeParam key)
  | .setParams params, event, next =>
    match event.setParams params with
    | .ok event => next event
    | .error error => .done (.error error.message)
  | .rename name, event, next => next { event with name := name }
  | .stop flag, event, next => next { event with stopped := flag }
  | .fail reason, _, _ => .done (.error reason)
  | .append key more, event, next => next (event.setParam key (.text (event.textParam key ++ more)))
  | .replace key old new, event, next =>
    next (event.setParam key (.text (Text.replaceAll old new (event.textParam key))))
  | .setAuth report, event, next =>
    match report.toResult with
    | .ok result => next (event.setAuthResult result)
    | .error cause => .done (.error cause.message)
  | .auth, event, next => .ask (.note (.auth event.authResult?)) fun _ => next event
  | .branch key condition yes no, event, next =>
    if condition.holds (event.param? key) then Action.startAll yes event next
    else Action.startAll no event next
  | .call operation catches, event, next =>
    let goOn (reply : Reply) : Program :=
      match reply, catches with
      | .event (.error error), false => .done (.error error.message)
      | reply, _ => .ask (.note (.reply reply)) fun _ => next event
    match operation.request with
    | .ok request => .ask request goOn
    | .error error => goOn (.event (.error error))

/-- Runs actions one after the other. -/
def Action.startAll : List Action → Event → (Event → Program) → Program
  | [], event, next => next event
  | action :: rest, event, next => action.start event fun event => Action.startAll rest event next

/-- The request of an operation.  An event with parameters of the wrong kind cannot be built. -/
def Operation.request : Operation → Except EventError (Request Listener)
  | .register event actions priority once =>
    .ok (.register event (fun event => Action.startAll actions event fun event => .done (.ok event))
      priority once)
  | .registerAll events actions priority =>
    .ok (.registerAll events
      (fun event => Action.startAll actions event fun event => .done (.ok event)) priority)
  | .remove event id => .ok (.remove event id)
  | .clear event => .ok (.clear event)
  | .unregister event => .ok (.unregister event)
  | .has event => .ok (.has event)
  | .count event => .ok (.count event)
  | .events => .ok .events
  | .dispatch name params stopped =>
    match Event.withParams name params with
    | .ok event => .ok (.dispatch { event with stopped := stopped })
    | .error error => .error error
  | .share => .ok .share

end

/-- The listener of a script. -/
def Action.listener (actions : List Action) : Listener := fun event =>
  Action.startAll actions event fun event => .done (.ok event)

/-- Answers an operation from outside. -/
def Hub.performOperation (operation : Operation) : StateM Hub Reply :=
  match operation.request with
  | .ok request => Hub.perform request
  | .error error => pure (.event (.error error))

end PageTemplates
