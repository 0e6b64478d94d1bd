import PageTemplates.Event

/-!
# Database statements

Events around a database statement carry its text and its bound values as
parameters.  The view takes both from any event; what is missing or of another
kind reads as absent.
-/

namespace PageTemplates

/-- What an event says about a database statement. -/
structure Statement where
  /-- The name of the event. -/
  name : Text
  /-- The text of the statement. -/
  query : Option Text
  /-- The bound values. -/
  params : List Value

namespace Statement

/-- The parameter that holds the text. -/
def queryParam : Text := "queryString".toList

/-- The parameter that holds the bound values. -/
def boundParam : Text := "params".toList

/-- The view of an event as a statement. -/
def ofEvent (event : Event) : Statement where
  name := event.name
  query := (event.param? queryParam).bind Value.text?
  params :=
    match event.param? boundParam with
    | some (.list items) => items
    | _ => []

end Statement

end PageTemplates
