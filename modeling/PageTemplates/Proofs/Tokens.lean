import PageTemplates.Marker

/-!
# Markers as tokens

A text is a sequence of tokens: the block markers in it, leftmost first and not
overlapping, and the characters between them.  `Token.ofText` reads the text
once from left to right and never goes back.

`Token.Leftmost` says what that means without the reader: the tokens spell the
text, every marker among them has a block name, and no marker starts at a
character.  `Token.ofText_of_find?_eq_some` ties the tokens to the search for
the next marker.
-/

namespace PageTemplates

/-! ## Markers at the head of a text -/

namespace Marker

theorem not_isBlockChar_closing : Name.isBlockChar ' ' = false := by decide

theorem readName?_append {name : Text} (block : Name.isBlock name = true) (rest : Text) :
    readName? (name ++ (closing ++ rest)) = some (name, rest) := by
  have all : ∀ c ∈ name, Name.isBlockChar c = true := fun c => Name.isBlockChar_of_mem block
  have ends : closing ++ rest = ' ' :: ("-->".toList ++ rest) := rfl
  have taken : (name ++ (closing ++ rest)).takeWhile Name.isBlockChar = name := by
    rw [List.takeWhile_append_of_pos all, ends]
    simp [not_isBlockChar_closing]
  have left : (name ++ (closing ++ rest)).dropWhile Name.isBlockChar = closing ++ rest := by
    rw [List.dropWhile_append_of_pos all, ends]
    simp [not_isBlockChar_closing]
  simp only [readName?, taken, left, block, if_true, Text.after?_append, Option.map_some]

theorem readKind?_text {marker : Marker} (block : Name.isBlock marker.name = true) (rest : Text) :
    readKind? marker.kind (marker.text ++ rest) = some (marker, rest) := by
  simp only [readKind?, text, List.append_assoc, Text.after?_append, Option.bind_some,
    readName?_append block, Option.map_some]

/-- What is read at the head of a text is the marker that stands there. -/
theorem read?_eq_some_iff {text rest : Text} {marker : Marker} :
    read? text = some (marker, rest) ↔
      Name.isBlock marker.name = true ∧ text = marker.text ++ rest := by
  refine ⟨read?_eq_some, ?_⟩
  rintro ⟨block, rfl⟩
  cases marker with
  | mk kind name =>
    have read : readKind? kind ((Marker.mk kind name).text ++ rest) = some (⟨kind, name⟩, rest) :=
      readKind?_text block rest
    cases kind with
    | begins => simp only [read?, read, Option.some_or]
    | ends =>
      have other : readKind? .begins ((Marker.mk .ends name).text ++ rest) = none := rfl
      simp only [read?, other, read, Option.none_or]

end Marker

/-! ## Tokens -/

/-- A part of a text. -/
inductive Token where
  | plain (c : Char)
  | mark (marker : Marker)
  deriving DecidableEq, Repr

namespace Token

/-- A token as it is written. -/
def text : Token → Text
  | .plain c => [c]
  | .mark marker => marker.text

/-- The text that tokens make up. -/
def spelling (tokens : List Token) : Text := tokens.flatMap Token.text

@[simp] theorem spelling_cons (token : Token) (tokens : List Token) :
    spelling (token :: tokens) = token.text ++ spelling tokens := by
  simp [spelling]

/-- The tokens of a text, read from left to right. -/
def ofText : Text → List Token
  | [] => []
  | c :: text =>
    match _read : Marker.read? (c :: text) with
    | some (marker, rest) => .mark marker :: ofText rest
    | none => .plain c :: ofText text
termination_by text => text.length
decreasing_by
  · rw [(Marker.read?_eq_some _read).2, List.length_append]
    exact Nat.lt_add_of_pos_left (Marker.length_text_pos marker)
  · simp

/-- The tokens spell the text, and the markers among them are the leftmost ones
that do not overlap. -/
structure Leftmost (text : Text) (tokens : List Token) : Prop where
  /-- Nothing is lost and nothing is added. -/
  spells : spelling tokens = text
  /-- Every marker has a block name. -/
  named : ∀ marker : Marker, .mark marker ∈ tokens → Name.isBlock marker.name = true
  /-- No marker starts at a character. -/
  bare : ∀ front c behind, tokens = front ++ .plain c :: behind →
    ∀ (marker : Marker) (rest : Text), Name.isBlock marker.name = true →
      spelling (.plain c :: behind) ≠ marker.text ++ rest

theorem ofText_nil : ofText [] = [] := by rw [ofText]

theorem ofText_of_read?_eq_some {text rest : Text} {marker : Marker}
    (read : Marker.read? text = some (marker, rest)) :
    ofText text = .mark marker :: ofText rest := by
  cases text with
  | nil => cases read
  | cons c text =>
    rw [ofText]
    split <;> simp_all

theorem ofText_of_read?_eq_none {c : Char} {text : Text}
    (read : Marker.read? (c :: text) = none) : ofText (c :: text) = .plain c :: ofText text := by
  rw [ofText]
  split <;> simp_all

theorem leftmost_ofText (text : Text) : Leftmost text (ofText text) := by
  induction text using ofText.induct with
  | case1 =>
    rw [ofText_nil]
    exact ⟨rfl, by simp, by simp⟩
  | case2 c text marker rest read ih =>
    rw [ofText_of_read?_eq_some read]
    obtain ⟨block, shape⟩ := Marker.read?_eq_some read
    refine ⟨by rw [shape, spelling_cons, ih.spells]; rfl, ?_, ?_⟩
    · intro other member
      rcases List.mem_cons.1 member with same | later
      · cases same
        exact block
      · exact ih.named other later
    · intro front d behind same
      cases front with
      | nil => cases same
      | cons token front => exact ih.bare front d behind (List.cons.inj same).2
  | case3 c text read ih =>
    rw [ofText_of_read?_eq_none read]
    refine ⟨by rw [spelling_cons, ih.spells]; rfl, ?_, ?_⟩
    · intro other member
      rcases List.mem_cons.1 member with same | later
      · cases same
      · exact ih.named other later
    · intro front d behind same
      cases front with
      | nil =>
        obtain ⟨first, rfl⟩ := List.cons.inj same
        cases first
        intro marker rest block shape
        rw [spelling_cons, ih.spells] at shape
        have found := Marker.read?_eq_some_iff.2 ⟨block, shape⟩
        rw [show Token.text (.plain c) ++ text = c :: text from rfl, read] at found
        cases found
      | cons token front => exact ih.bare front d behind (List.cons.inj same).2

/-! ## The next marker -/

theorem ofText_of_find?_eq_none {text : Text} (search : Marker.find? text = none) :
    ofText text = text.map .plain := by
  induction text with
  | nil => exact ofText_nil
  | cons c text ih =>
    simp only [Marker.find?] at search
    split at search
    · cases search
    · next read =>
      rw [ofText_of_read?_eq_none read, ih (Option.map_eq_none_iff.1 search), List.map_cons]

theorem ofText_of_find?_eq_some {text : Text} {found : FoundMarker}
    (search : Marker.find? text = some found) :
    ofText text = found.before.map .plain ++ .mark found.marker :: ofText found.rest := by
  induction text generalizing found with
  | nil => cases search
  | cons c text ih =>
    simp only [Marker.find?] at search
    split at search
    · next marker rest read =>
      obtain rfl := Option.some.inj search
      exact ofText_of_read?_eq_some read
    · next read =>
      obtain ⟨deeper, found, rfl⟩ := Option.map_eq_some_iff.1 search
      rw [ofText_of_read?_eq_none read, ih found]
      rfl

end Token

end PageTemplates
