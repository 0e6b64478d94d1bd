import PageTemplates.Path

/-!
# Include directives

`<!-- INCLUDE "path" -->` stands for the file at that path.  The path has at
least one character and no double quote.

`Segment.ofText` cuts a text at its directives, leftmost first.  Nothing of the
text between two directives is looked at again, so what replaces a directive
cannot form a new one.
-/

namespace PageTemplates

/-- A directive found in a text, and the text around it. -/
structure FoundInclude where
  before : Text
  target : Text
  rest : Text
  deriving DecidableEq, Repr

namespace FoundInclude

/-- What a directive starts with. -/
def opening : Text := "<!-- INCLUDE \"".toList

/-- What a directive ends with. -/
def closing : Text := "\" -->".toList

/-- Reads a path and the end of the directive behind it. -/
def readTarget? (text : Text) : Option (Text × Text) :=
  let target := text.takeWhile (· ≠ '"')
  if target.isEmpty then none
  else (Text.after? closing (text.dropWhile (· ≠ '"'))).map fun rest => (target, rest)

/-- Reads a directive at the head of a text. -/
def read? (text : Text) : Option (Text × Text) := (Text.after? opening text).bind readTarget?

/-- Finds the first directive in a text. -/
def find? : Text → Option FoundInclude
  | [] => none
  | c :: text =>
    match read? (c :: text) with
    | some (target, rest) => some ⟨[], target, rest⟩
    | none => (find? text).map fun found => { found with before := c :: found.before }

theorem read?_eq_some {text target rest : Text} (read : read? text = some (target, rest)) :
    text = opening ++ (target ++ (closing ++ rest)) := by
  simp only [read?, Option.bind_eq_some_iff] at read
  obtain ⟨behind, after, named⟩ := read
  rw [Text.after?_eq_some_iff.1 after]
  simp only [readTarget?] at named
  split at named
  · cases named
  · simp only [Option.map_eq_some_iff, Prod.mk.injEq] at named
    obtain ⟨tail, close, rfl, rfl⟩ := named
    rw [← Text.after?_eq_some_iff.1 close, List.takeWhile_append_dropWhile]

theorem find?_eq_some {text : Text} {found : FoundInclude} (search : find? text = some found) :
    text = found.before ++ (opening ++ (found.target ++ (closing ++ found.rest))) := by
  induction text generalizing found with
  | nil => cases search
  | cons c text ih =>
    simp only [find?] at search
    split at search
    · next target rest read =>
      simp only [Option.some.injEq] at search
      subst search
      rw [read?_eq_some read, List.nil_append]
    · simp only [Option.map_eq_some_iff] at search
      obtain ⟨deeper, search, rfl⟩ := search
      rw [List.cons_append, ← ih search]

/-- What is left behind a directive is shorter than the text searched. -/
theorem rest_length_of_find? {text : Text} {found : FoundInclude}
    (search : find? text = some found) : found.rest.length < text.length := by
  have size : opening.length = 14 := rfl
  rw [find?_eq_some search]
  simp only [List.length_append, size]
  omega

end FoundInclude

/-- A part of a text. -/
inductive Segment where
  | plain (chars : Text)
  | directive (target : Text)
  deriving DecidableEq, Repr

/-- The parts of a text in order. -/
def Segment.ofText (text : Text) : List Segment :=
  match _search : FoundInclude.find? text with
  | none => [.plain text]
  | some found => .plain found.before :: .directive found.target :: Segment.ofText found.rest
termination_by text.length
decreasing_by exact FoundInclude.rest_length_of_find? _search

end PageTemplates
