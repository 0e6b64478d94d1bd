import PageTemplates.Name

/-!
# Block markers

A block of a template stands between two markers, which look like comments:
`<!-- BDP: name -->` begins the block of that name and `<!-- EDP: name -->` ends
it.  Anything that deviates from this form by a single character is ordinary
text.

`Marker.read?` reads a marker at the head of a text and `Marker.find?` finds the
first one anywhere in it.  A marker may start inside a comment that was never
closed, so every position is tried.
-/

namespace PageTemplates

/-- Which end of a block a marker stands at. -/
inductive MarkerKind where
  | begins
  | ends
  deriving DecidableEq, Repr

/-- One end of a block. -/
structure Marker where
  kind : MarkerKind
  name : Text
  deriving DecidableEq, Repr

/-- A marker found in a text, and the text around it. -/
structure FoundMarker where
  before : Text
  marker : Marker
  rest : Text
  deriving DecidableEq, Repr

/-- What a marker of this kind starts with. -/
def MarkerKind.opening : MarkerKind → Text
  | .begins => "<!-- BDP: ".toList
  | .ends => "<!-- EDP: ".toList

namespace Marker

/-- What every marker ends with. -/
def closing : Text := " -->".toList

/-- A marker as it is written. -/
def text (marker : Marker) : Text := marker.kind.opening ++ (marker.name ++ closing)

/-- Reads a block name and the end of the marker behind it. -/
def readName? (text : Text) : Option (Text × Text) :=
  let name := text.takeWhile Name.isBlockChar
  if Name.isBlock name then
    (Text.after? closing (text.dropWhile Name.isBlockChar)).map fun rest => (name, rest)
  else none

/-- Reads a marker of one kind at the head of a text. -/
def readKind? (kind : MarkerKind) (text : Text) : Option (Marker × Text) :=
  ((Text.after? kind.opening text).bind readName?).map fun read => (⟨kind, read.1⟩, read.2)

/-- Reads a marker at the head of a text. -/
def read? (text : Text) : Option (Marker × Text) :=
  (readKind? .begins text).or (readKind? .ends text)

/-- Finds the first marker in a text. -/
def find? : Text → Option FoundMarker
  | [] => none
  | c :: text =>
    match read? (c :: text) with
    | some (marker, rest) => some ⟨[], marker, rest⟩
    | none => (find? text).map fun found => { found with before := c :: found.before }

/-! ## What is read stands in the text -/

theorem readName?_eq_some {text name rest : Text} (read : readName? text = some (name, rest)) :
    Name.isBlock name = true ∧ text = name ++ (closing ++ rest) := by
  simp only [readName?] at read
  split at read
  · next block =>
    simp only [Option.map_eq_some_iff, Prod.mk.injEq] at read
    obtain ⟨tail, after, rfl, rfl⟩ := read
    refine ⟨block, ?_⟩
    rw [← Text.after?_eq_some_iff.1 after, List.takeWhile_append_dropWhile]
  · cases read

theorem readKind?_eq_some {kind : MarkerKind} {text rest : Text} {marker : Marker}
    (read : readKind? kind text = some (marker, rest)) :
    marker.kind = kind ∧ Name.isBlock marker.name = true ∧ text = marker.text ++ rest := by
  simp only [readKind?, Option.map_eq_some_iff, Option.bind_eq_some_iff, Prod.mk.injEq] at read
  obtain ⟨⟨name, tail⟩, ⟨behind, after, named⟩, rfl, rfl⟩ := read
  obtain ⟨block, rfl⟩ := readName?_eq_some named
  refine ⟨rfl, block, ?_⟩
  rw [Text.after?_eq_some_iff.1 after]
  simp [Marker.text]

theorem read?_eq_some {text rest : Text} {marker : Marker}
    (read : read? text = some (marker, rest)) :
    Name.isBlock marker.name = true ∧ text = marker.text ++ rest := by
  rcases Option.or_eq_some_iff.1 read with begins | ⟨_, ends⟩
  · exact (readKind?_eq_some begins).2
  · exact (readKind?_eq_some ends).2

theorem find?_eq_some {text : Text} {found : FoundMarker} (search : find? text = some found) :
    Name.isBlock found.marker.name = true ∧
      text = found.before ++ (found.marker.text ++ found.rest) := by
  induction text generalizing found with
  | nil => cases search
  | cons c text ih =>
    simp only [find?] at search
    split at search
    · next marker rest read =>
      simp only [Option.some.injEq] at search
      subst search
      obtain ⟨block, shape⟩ := read?_eq_some read
      exact ⟨block, by rw [shape, List.nil_append]⟩
    · simp only [Option.map_eq_some_iff] at search
      obtain ⟨deeper, search, rfl⟩ := search
      simpa using ih search

theorem length_opening (kind : MarkerKind) : kind.opening.length = 10 := by
  cases kind <;> rfl

theorem length_text_pos (marker : Marker) : 0 < marker.text.length := by
  simp only [text, List.length_append, length_opening]
  omega

/-- What is left behind a marker is shorter than the text searched. -/
theorem rest_length_of_find? {text : Text} {found : FoundMarker}
    (search : find? text = some found) : found.rest.length < text.length := by
  have shape := (find?_eq_some search).2
  have positive := length_text_pos found.marker
  rw [shape]
  simp only [List.length_append]
  omega

end Marker

end PageTemplates
