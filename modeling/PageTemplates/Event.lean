import PageTemplates.Value.Read

/-!
# Events

An event is a name, a table of parameters and a flag that tells the dispatch
to stop.  Listeners read and change all three.  Parameters are given as a
record or as null; any other value is refused.

Reading a parameter as typed data tells three cases apart: the parameter is
absent or null, it has the wanted shape, or it fails with the reason.
-/

namespace PageTemplates

/-- Why an event operation or a dispatch failed. -/
inductive EventError where
  /-- The parameters are neither a record nor null. -/
  | invalidParams (got : Value.Kind)
  /-- A listener of the named event failed for a reason in its own words. -/
  | listener (event : Text) (reason : Text)
  /-- A parameter does not have the shape it is read or stored as. -/
  | param (name : Text) (cause : ReadError)
  /-- A listener dispatched again deeper than the library follows. -/
  | tooDeep (event : Text)

/-- The wording of a failed event operation. -/
def EventError.message : EventError → Text
  | .invalidParams got => "event parameters must be an object, got ".toList ++ got.name
  | .listener event reason =>
    "listener for event '".toList ++ event ++ "' failed: ".toList ++ reason
  | .param name cause =>
    "invalid value for parameter '".toList ++ name ++ "': ".toList ++ cause.message
  | .tooDeep event => "dispatch nested too deeply at event '".toList ++ event ++ ['\'']

/-- A named event with its parameters. -/
structure Event where
  name : Text := []
  params : Table Value := []
  /-- Whether the remaining listeners are to be skipped. -/
  stopped : Bool := false
  deriving Inhabited

namespace Event

/-- Replaces all parameters. -/
def setParams (params : Value) (event : Event) : Except EventError Event :=
  match params with
  | .record fields => .ok { event with params := fields }
  | .null => .ok { event with params := [] }
  | other => .error (.invalidParams other.kind)

/-- A new event with the given parameters. -/
def withParams (name : Text) (params : Value) : Except EventError Event :=
  setParams params { name := name }

/-- A parameter, if present. -/
def param? (name : Text) (event : Event) : Option Value := event.params.get? name

/-- A parameter, or the default when it is absent or null. -/
def paramOr (name : Text) (default : Value) (event : Event) : Value :=
  match event.param? name with
  | none | some .null => default
  | some value => value

/-- Stores a parameter. -/
def setParam (name : Text) (value : Value) (event : Event) : Event :=
  { event with params := event.params.insert name value }

/-- Drops a parameter. -/
def removeParam (name : Text) (event : Event) : Event :=
  { event with params := event.params.erase name }

/-- A parameter as typed data.  An absent or null parameter reads as none. -/
def paramAs {α : Type _} (read : Value.Reader α) (name : Text) (event : Event) :
    Except EventError (Option α) :=
  match event.param? name with
  | none | some .null => .ok none
  | some value =>
    match read value with
    | .ok data => .ok (some data)
    | .error cause => .error (.param name cause)

/-- Stores data under a parameter, if its encoding succeeds. -/
def setParamAs (encoded : Except ReadError Value) (name : Text) (event : Event) :
    Except EventError Event :=
  match encoded with
  | .ok value => .ok (event.setParam name value)
  | .error cause => .error (.param name cause)

end Event

end PageTemplates
