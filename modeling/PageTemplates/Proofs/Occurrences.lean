import PageTemplates.Proofs.Tokens

/-!
# Where markers occur

Two texts that stand side by side can form a marker that neither of them holds.
They cannot if the second one begins with the first character of a marker, or with
a character that stands in none, or is empty (`Marker.Barrier`).  Then the tokens
of both are those of the one and those of the other (`Token.ofText_append`).  The
same is so for whatever stands behind a text that ends in a marker or in a
placeholder (`Token.Sealed`).

`Marker.occurrences` lists the markers among the tokens with the number of bytes in
front of each.  They are all the markers that stand anywhere in the text
(`Marker.mem_occurrences_iff`), from the front to the end
(`Marker.ascending_occurrences`).
-/

namespace PageTemplates

/-! ## Texts side by side -/

/-- A word does not begin in one text and end in the next, if the next is empty or begins with a
character that stands in the word at its front at most. -/
theorem not_isPrefix_append {first : Char} {word run behind : Text} (begun : run ≠ [])
    (absent : ¬ first :: word <+: run) (edge : ∀ c, behind.head? = some c → c ∉ word) :
    ¬ first :: word <+: run ++ behind := by
  rintro ⟨rest, same⟩
  rcases List.append_eq_append_iff.1 same with ⟨gap, longer, -⟩ | ⟨gap, shorter, next⟩
  · exact absent ⟨gap, longer.symm⟩
  · cases gap with
    | nil =>
      rw [List.append_nil] at shorter
      exact absent (shorter ▸ List.prefix_refl _)
    | cons c gap =>
      have foreign : c ∉ word := edge c (by simp [next])
      obtain ⟨d, run, rfl⟩ := List.exists_cons_of_ne_nil begun
      obtain ⟨-, rfl⟩ := List.cons.inj shorter
      simp at foreign

namespace Marker

/-- A marker has one opening angle and no brace. -/
theorem exists_text_eq_cons {marker : Marker} (named : Name.isBlock marker.name = true) :
    ∃ word, marker.text = '<' :: word ∧ '<' ∉ word ∧ '{' ∉ word := by
  obtain ⟨kind, name⟩ := marker
  have foreign : ∀ c, Name.isBlockChar c = false → c ∉ name := by
    intro c other member
    rw [Name.isBlockChar_of_mem named member] at other
    cases other
  have angle : '<' ∉ name := foreign _ (by decide)
  have brace : '{' ∉ name := foreign _ (by decide)
  cases kind with
  | begins =>
    exact ⟨"!-- BDP: ".toList ++ (name ++ closing), rfl, by simp [angle, closing],
      by simp [brace, closing]⟩
  | ends =>
    exact ⟨"!-- EDP: ".toList ++ (name ++ closing), rfl, by simp [angle, closing],
      by simp [brace, closing]⟩

theorem utf8Length_text_pos (marker : Marker) : 0 < Text.utf8Length marker.text := by
  obtain ⟨kind, name⟩ := marker
  cases kind <;> exact Nat.lt_of_lt_of_le (Char.utf8Size_pos '<') (Nat.le_add_right _ _)

/-- No marker goes on into the text. -/
def Barrier (text : Text) : Prop := ∀ c, text.head? = some c → c = '<' ∨ c = '{'

theorem barrier_nil : Barrier [] := nofun

theorem barrier_text (marker : Marker) (rest : Text) : Barrier (marker.text ++ rest) := by
  obtain ⟨kind, name⟩ := marker
  intro c head
  left
  cases kind <;> exact (Option.some.inj head).symm

theorem barrier_placeholder (name rest : Text) : Barrier (Name.placeholder name ++ rest) := by
  intro c head
  right
  exact (Option.some.inj head).symm

/-- A marker at the head of a text with a barrier behind it stands in that text. -/
theorem read?_append {text behind : Text} (begun : text ≠ []) (barrier : Barrier behind) :
    read? (text ++ behind) = (read? text).map fun found => (found.1, found.2 ++ behind) := by
  cases alone : read? text with
  | some found =>
    obtain ⟨named, rfl⟩ := read?_eq_some alone
    exact read?_eq_some_iff.2 ⟨named, by simp⟩
  | none =>
    cases read : read? (text ++ behind) with
    | none => rfl
    | some found =>
      obtain ⟨named, shape⟩ := read?_eq_some read
      obtain ⟨word, spelled, angle, brace⟩ := exists_text_eq_cons named
      have absent : ¬ '<' :: word <+: text := by
        rintro ⟨rest, shape⟩
        rw [← spelled] at shape
        rw [read?_eq_some_iff.2 ⟨named, shape.symm⟩] at alone
        cases alone
      have edge : ∀ c, behind.head? = some c → c ∉ word := by
        intro c head
        rcases barrier c head with rfl | rfl
        · exact angle
        · exact brace
      exact absurd ⟨found.2, by rw [← spelled, ← shape]⟩ (not_isPrefix_append begun absent edge)

end Marker

/-! ## Texts without markers -/

/-- No marker stands in a text. -/
def Unmarked (text : Text) : Prop :=
  ∀ marker : Marker, Name.isBlock marker.name = true → ¬ marker.text <:+: text

/-- A text is unmarked if the search for a marker finds none. -/
theorem Marker.find?_eq_none_iff {text : Text} : find? text = none ↔ Unmarked text := by
  constructor
  · rintro search marker named ⟨before, rest, rfl⟩
    induction before with
    | nil =>
      have read : read? (marker.text ++ rest) = some (marker, rest) :=
        read?_eq_some_iff.2 ⟨named, rfl⟩
      obtain ⟨word, spelled, -⟩ := exists_text_eq_cons named
      rw [spelled, List.cons_append] at read
      rw [List.nil_append, spelled, List.cons_append, find?, read] at search
      cases search
    | cons c before ih =>
      rw [List.cons_append, List.cons_append, find?] at search
      split at search
      · cases search
      · exact ih (Option.map_eq_none_iff.1 search)
  · intro unmarked
    cases search : find? text with
    | none => rfl
    | some found =>
      obtain ⟨named, shape⟩ := find?_eq_some search
      have within : found.marker.text <:+: text := ⟨found.before, found.rest, by simp [shape]⟩
      exact absurd within (unmarked found.marker named)

theorem Unmarked.of_append {first second : Text} (unmarked : Unmarked (first ++ second)) :
    Unmarked second :=
  fun marker named within => unmarked marker named (within.trans (List.suffix_append _ _).isInfix)

/-! ## Tokens side by side -/

namespace Token

theorem ofText_unmarked {text : Text} (unmarked : Unmarked text) :
    ofText text = text.map .plain :=
  ofText_of_find?_eq_none (Marker.find?_eq_none_iff.2 unmarked)

theorem ofText_marker {marker : Marker} (named : Name.isBlock marker.name = true) (rest : Text) :
    ofText (marker.text ++ rest) = .mark marker :: ofText rest :=
  ofText_of_read?_eq_some (Marker.read?_eq_some_iff.2 ⟨named, rfl⟩)

/-- The tokens of two texts are those of the first and those of the second, if there is a barrier
between them. -/
theorem ofText_append (text : Text) {behind : Text} (barrier : Marker.Barrier behind) :
    ofText (text ++ behind) = ofText text ++ ofText behind := by
  induction text using ofText.induct with
  | case1 => simp [ofText_nil]
  | case2 c text marker rest read ih =>
    have whole := Marker.read?_append (List.cons_ne_nil c text) barrier
    rw [read] at whole
    rw [ofText_of_read?_eq_some read, ofText_of_read?_eq_some whole, ih, List.cons_append]
  | case3 c text read ih =>
    have whole := Marker.read?_append (List.cons_ne_nil c text) barrier
    rw [read] at whole
    have unread : Marker.read? (c :: (text ++ behind)) = none := whole
    rw [ofText_of_read?_eq_none read, List.cons_append, ofText_of_read?_eq_none unread, ih,
      List.cons_append]

/-- Characters that start no marker are tokens of their own. -/
theorem ofText_foreign {chars : Text} (foreign : '<' ∉ chars) (behind : Text) :
    ofText (chars ++ behind) = chars.map .plain ++ ofText behind := by
  induction chars with
  | nil => rfl
  | cons c chars ih =>
    rw [List.mem_cons, not_or] at foreign
    have unread : Marker.read? (c :: (chars ++ behind)) = none := by
      cases read : Marker.read? (c :: (chars ++ behind)) with
      | none => rfl
      | some found =>
        obtain ⟨named, shape⟩ := Marker.read?_eq_some read
        obtain ⟨word, spelled, -⟩ := Marker.exists_text_eq_cons named
        rw [spelled, List.cons_append] at shape
        exact absurd (List.cons.inj shape).1.symm foreign.1
    rw [List.cons_append, ofText_of_read?_eq_none unread, ih foreign.2]
    rfl

theorem ofText_placeholder {name : Text} (named : Name.isBlock name = true) (behind : Text) :
    ofText (Name.placeholder name ++ behind) =
      (Name.placeholder name).map .plain ++ ofText behind := by
  refine ofText_foreign ?_ behind
  have angle : '<' ∉ Name.upper name := by
    intro member
    have char := Name.isVariableChar_of_mem (Name.isVariable_upper named) member
    revert char
    decide
  simp [Name.placeholder, angle]

/-- No marker begins in the text and ends behind it, whatever stands there. -/
def Sealed (text : Text) : Prop := ∀ behind, ofText (text ++ behind) = ofText text ++ ofText behind

theorem sealed_nil : Sealed [] := fun behind => by simp [ofText_nil]

/-- A text that is read in the same way whatever stands behind it is sealed. -/
theorem sealed_of_reads {text : Text} {tokens : List Token}
    (reads : ∀ behind, ofText (text ++ behind) = tokens ++ ofText behind) : Sealed text := by
  intro behind
  have alone := reads []
  rw [List.append_nil, ofText_nil, List.append_nil] at alone
  rw [reads, alone]

/-- The end of a text seals all of it, if there is a barrier in front of this end. -/
theorem Sealed.append {chunk : Text} (closed : Sealed chunk)
    (barrier : ∀ behind, Marker.Barrier (chunk ++ behind)) (text : Text) :
    Sealed (text ++ chunk) := by
  intro behind
  have front := barrier []
  rw [List.append_nil] at front
  rw [List.append_assoc, ofText_append text (barrier behind), closed behind,
    ofText_append text front,
    List.append_assoc]

theorem sealed_append_marker (text : Text) {marker : Marker}
    (named : Name.isBlock marker.name = true) : Sealed (text ++ marker.text) := by
  have alone : ∀ behind, ofText (marker.text ++ behind) = [.mark marker] ++ ofText behind :=
    ofText_marker named
  exact (sealed_of_reads alone).append (Marker.barrier_text marker) text

theorem sealed_append_placeholder (text : Text) {name : Text}
    (named : Name.isBlock name = true) : Sealed (text ++ Name.placeholder name) :=
  (sealed_of_reads (ofText_placeholder named)).append (Marker.barrier_placeholder name) text

/-! ## Places -/

/-- The marker that a token is, if it is one. -/
def mark? : Token → Option Marker
  | .plain _ => none
  | .mark marker => some marker

theorem filterMap_mark?_plain (chars : Text) :
    (chars.map Token.plain).filterMap mark? = [] := by
  rw [List.filterMap_map]
  exact List.filterMap_eq_nil_iff.2 fun _ _ => rfl

/-- The markers among tokens with the bytes in front of them, when `start` bytes stand in front of
all. -/
def places : (start : Nat) → List Token → List (Nat × Marker)
  | _, [] => []
  | start, .plain c :: tokens => places (start + c.utf8Size) tokens
  | start, .mark marker :: tokens =>
    (start, marker) :: places (start + Text.utf8Length marker.text) tokens

theorem places_append (start : Nat) (first second : List Token) :
    places start (first ++ second) =
      places start first ++ places (start + Text.utf8Length (spelling first)) second := by
  induction first generalizing start with
  | nil => rfl
  | cons token first ih =>
    cases token <;> simp [places, ih, Token.text, Text.utf8Length, Nat.add_assoc]

theorem map_snd_places (start : Nat) (tokens : List Token) :
    (places start tokens).map Prod.snd = tokens.filterMap mark? := by
  induction tokens generalizing start with
  | nil => rfl
  | cons token tokens ih =>
    cases token with
    | plain c => exact ih _
    | mark marker => rw [places, List.map_cons, ih]; rfl

/-- A marker has the place that the tokens in front of it lead to. -/
theorem exists_of_mem_places {start : Nat} {place : Nat × Marker} {tokens : List Token}
    (member : place ∈ places start tokens) :
    ∃ front behind, tokens = front ++ .mark place.2 :: behind ∧
      place.1 = start + Text.utf8Length (spelling front) := by
  induction tokens generalizing start with
  | nil => cases member
  | cons token tokens ih =>
    -- What is found among the later tokens has one more token in front of it.
    have deeper : ∀ {next}, place ∈ places next tokens →
        next = start + Text.utf8Length token.text →
        ∃ front behind, token :: tokens = front ++ .mark place.2 :: behind ∧
          place.1 = start + Text.utf8Length (spelling front) := by
      rintro next member rfl
      obtain ⟨front, behind, rfl, offset⟩ := ih member
      refine ⟨token :: front, behind, rfl, ?_⟩
      rw [offset, spelling_cons, Text.utf8Length_append, Nat.add_assoc]
    cases token with
    | plain c => exact deeper member (by simp [Token.text, Text.utf8Length])
    | mark marker =>
      rcases List.mem_cons.1 member with rfl | later
      · exact ⟨[], tokens, rfl, rfl⟩
      · exact deeper later rfl

theorem ascending_places (start : Nat) (tokens : List Token) :
    (places start tokens).Pairwise fun place later => place.1 < later.1 := by
  induction tokens generalizing start with
  | nil => exact .nil
  | cons token tokens ih =>
    cases token with
    | plain c => exact ih _
    | mark marker =>
      refine .cons (fun place later => ?_) (ih _)
      obtain ⟨front, behind, -, offset⟩ := exists_of_mem_places later
      have positive := Marker.utf8Length_text_pos marker
      show start < place.1
      omega

end Token

namespace Marker

/-- The markers in a text, from the front to the end. -/
def all (text : Text) : List Marker := (Token.ofText text).filterMap Token.mark?

/-- The markers in a text with the bytes in front of them. -/
def occurrences (text : Text) : List (Nat × Marker) := Token.places 0 (Token.ofText text)

theorem map_snd_occurrences (text : Text) : (occurrences text).map Prod.snd = all text :=
  Token.map_snd_places 0 _

theorem length_occurrences (text : Text) :
    (occurrences text).length = (all text).length := by
  rw [← map_snd_occurrences, List.length_map]

theorem ascending_occurrences (text : Text) :
    (occurrences text).Pairwise fun place later => place.1 < later.1 :=
  Token.ascending_places 0 _

/-- A marker that stands anywhere in a text is one of its tokens. -/
theorem ofText_around {marker : Marker} (named : Name.isBlock marker.name = true)
    (before rest : Text) :
    Token.ofText (before ++ (marker.text ++ rest)) =
      Token.ofText before ++ .mark marker :: Token.ofText rest := by
  rw [Token.ofText_append before (barrier_text marker rest), Token.ofText_marker named]

/-- The occurrences are all places where a marker stands in the text. -/
theorem mem_occurrences_iff {text : Text} {offset : Nat} {marker : Marker} :
    (offset, marker) ∈ occurrences text ↔
      Name.isBlock marker.name = true ∧ ∃ before rest, text = before ++ (marker.text ++ rest) ∧
        offset = Text.utf8Length before := by
  have leftmost := Token.leftmost_ofText text
  constructor
  · intro member
    obtain ⟨front, behind, tokens, offset⟩ := Token.exists_of_mem_places member
    refine ⟨leftmost.named marker (by simp [tokens]), Token.spelling front, Token.spelling behind,
      ?_, by simpa using offset⟩
    rw [← leftmost.spells, tokens]
    simp [Token.spelling, Token.text]
  · rintro ⟨named, before, rest, rfl, rfl⟩
    rw [occurrences, ofText_around named, Token.places_append,
      (Token.leftmost_ofText before).spells, Nat.zero_add]
    exact List.mem_append_right _ List.mem_cons_self

/-- A marker behind a text comes after the markers in the text. -/
theorem all_append_text (text : Text) {marker : Marker}
    (named : Name.isBlock marker.name = true) :
    all (text ++ marker.text) = all text ++ [marker] := by
  have around := ofText_around named text []
  rw [List.append_nil, Token.ofText_nil] at around
  rw [all, around, List.filterMap_append]
  rfl

/-- A placeholder behind a text makes up no marker with it. -/
theorem all_append_placeholder (text : Text) {name : Text} (named : Name.isBlock name = true) :
    all (text ++ Name.placeholder name) = all text := by
  have barrier := barrier_placeholder name []
  have alone := Token.ofText_placeholder named []
  rw [List.append_nil] at barrier alone
  rw [Token.ofText_nil, List.append_nil] at alone
  rw [all, Token.ofText_append text barrier, alone, List.filterMap_append,
    Token.filterMap_mark?_plain, List.append_nil]
  rfl

/-- No marker is made up of the end of a sealed text and the text behind it. -/
theorem all_append_of_sealed {text : Text} (closed : Token.Sealed text) (behind : Text) :
    all (text ++ behind) = all text ++ all behind := by
  rw [all, closed behind, List.filterMap_append]
  rfl

theorem mem_all_iff {text : Text} {marker : Marker} :
    marker ∈ all text ↔ Name.isBlock marker.name = true ∧ marker.text <:+: text := by
  rw [← map_snd_occurrences, List.mem_map]
  constructor
  · rintro ⟨⟨offset, marker⟩, member, rfl⟩
    obtain ⟨named, before, rest, rfl, -⟩ := mem_occurrences_iff.1 member
    exact ⟨named, before, rest, by simp⟩
  · rintro ⟨named, before, rest, rfl⟩
    exact ⟨_, mem_occurrences_iff.2 ⟨named, before, rest, by simp, rfl⟩, rfl⟩

theorem all_eq_nil_iff {text : Text} : all text = [] ↔ Unmarked text := by
  rw [List.eq_nil_iff_forall_not_mem]
  simp only [mem_all_iff, not_and]
  rfl

end Marker

/-- No marker stands in front of the first one. -/
theorem Marker.unmarked_of_find? {text : Text} {found : FoundMarker}
    (search : Marker.find? text = some found) : Unmarked found.before := by
  obtain ⟨named, shape⟩ := Marker.find?_eq_some search
  have tokens := Token.ofText_of_find?_eq_some search
  rw [shape, Marker.ofText_around named] at tokens
  have before : Token.ofText found.before = found.before.map .plain :=
    List.append_cancel_right tokens
  rw [← Marker.all_eq_nil_iff, Marker.all, before, Token.filterMap_mark?_plain]

/-- A text is unmarked, or it is an unmarked text with a marker and another text behind it. -/
theorem Text.induction_on_markers {holds : Text → Prop}
    (last : ∀ text, Unmarked text → holds text)
    (more : ∀ before (marker : Marker) rest, Unmarked before →
      Name.isBlock marker.name = true → holds rest → holds (before ++ (marker.text ++ rest)))
    (text : Text) : holds text := by
  cases search : Marker.find? text with
  | none => exact last text (Marker.find?_eq_none_iff.1 search)
  | some found =>
    obtain ⟨named, shape⟩ := Marker.find?_eq_some search
    rw [shape]
    exact more _ _ _ (Marker.unmarked_of_find? search) named
      (Text.induction_on_markers last more found.rest)
termination_by text.length
decreasing_by exact Marker.rest_length_of_find? search

end PageTemplates
