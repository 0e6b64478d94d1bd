import PageTemplates.Proofs.Occurrences
import PageTemplates.Proofs.ListingReach

/-!
# Seeking the next marker

A search that counts bytes looks at comments only: it goes to the next opening of
a comment, takes what stands between it and the next closing, wherever that is,
and sees if it is a block marker.  If not it goes on one byte behind the opening.
When no closing follows it stops.  `Marker.seek` is this search, and it says so
if it asks for a part of the text that is not there.

It finds what `Marker.find?` finds, which tries every position
(`Marker.seek_eq`).  The closing behind a marker's opening is its own, since no
blank in front of it goes on as a closing, so no marker is passed
(`Marker.read?_opening_iff`), and a text without a closing has no marker.  So
the search always returns the leftmost marker from its start on, or nothing if
there is none (`seek_leftmost`).
-/

namespace PageTemplates

/-! ## Counting bytes -/

namespace Text

/-- The texts in front of and behind a number of bytes, if they end at a character. -/
def cutBytes? (bytes : Nat) : Text → Option (Text × Text)
  | [] => if bytes = 0 then some ([], []) else none
  | c :: text =>
    if bytes = 0 then some ([], c :: text)
    else if c.utf8Size ≤ bytes then
      (cutBytes? (bytes - c.utf8Size) text).map fun cut => (c :: cut.1, cut.2)
    else none

/-- The text from a byte on. -/
def fromByte? (start : Nat) (text : Text) : Option Text := (cutBytes? start text).map Prod.snd

/-- The text between two bytes. -/
def slice? (start stop : Nat) (text : Text) : Option Text :=
  if start ≤ stop then
    (fromByte? start text).bind fun behind => (cutBytes? (stop - start) behind).map Prod.fst
  else none

/-- The text with a new one in place of what stands between two bytes. -/
def replaceBytes? (start stop : Nat) (new text : Text) : Option Text :=
  if start ≤ stop then
    (cutBytes? start text).bind fun front =>
      (cutBytes? (stop - start) front.2).map fun middle => front.1 ++ (new ++ middle.2)
  else none

/-- The number of bytes in front of the first occurrence of a word. -/
def byteOf? (word text : Text) : Option Nat :=
  (firstSplit? word text).map fun split => utf8Length split.1

theorem utf8Length_eq_zero_iff {text : Text} : utf8Length text = 0 ↔ text = [] := by
  cases text with
  | nil => simp [utf8Length]
  | cons c text =>
    have positive := Char.utf8Size_pos c
    simp only [utf8Length, reduceCtorEq, iff_false]
    omega

theorem cutBytes?_append (front behind : Text) :
    cutBytes? (utf8Length front) (front ++ behind) = some (front, behind) := by
  induction front with
  | nil => cases behind <;> rfl
  | cons c front ih =>
    have positive := Char.utf8Size_pos c
    rw [List.cons_append, utf8Length, cutBytes?, if_neg (by omega), if_pos (by omega),
      Nat.add_sub_cancel_left, ih]
    rfl

theorem fromByte?_append (front behind : Text) :
    fromByte? (utf8Length front) (front ++ behind) = some behind := by
  rw [fromByte?, cutBytes?_append]
  rfl

theorem slice?_append (front middle behind : Text) :
    slice? (utf8Length front) (utf8Length (front ++ middle)) (front ++ (middle ++ behind)) =
      some middle := by
  have length : utf8Length (front ++ middle) - utf8Length front = utf8Length middle := by simp
  rw [slice?, if_pos (by simp), fromByte?_append, Option.bind_some, length, cutBytes?_append]
  rfl

theorem replaceBytes?_append (front middle behind new : Text) :
    replaceBytes? (utf8Length front) (utf8Length (front ++ middle)) new
        (front ++ (middle ++ behind)) =
      some (front ++ (new ++ behind)) := by
  have length : utf8Length (front ++ middle) - utf8Length front = utf8Length middle := by simp
  rw [replaceBytes?, if_pos (by simp), cutBytes?_append, Option.bind_some, length, cutBytes?_append]
  rfl

/-- What is cut makes up the text. -/
theorem append_of_cutBytes? {bytes : Nat} {text front behind : Text}
    (cut : cutBytes? bytes text = some (front, behind)) :
    text = front ++ behind ∧ bytes = utf8Length front := by
  induction text generalizing bytes front with
  | nil =>
    rw [cutBytes?] at cut
    split at cut
    · cases cut
      exact ⟨rfl, by assumption⟩
    · cases cut
  | cons c text ih =>
    rw [cutBytes?] at cut
    split at cut
    · cases cut
      exact ⟨rfl, by assumption⟩
    split at cut
    · obtain ⟨⟨front, tail⟩, later, same⟩ := Option.map_eq_some_iff.1 cut
      cases same
      obtain ⟨rfl, size⟩ : text = front ++ tail ∧ bytes - c.utf8Size = utf8Length front := ih later
      have length : bytes = c.utf8Size + utf8Length front := by omega
      exact ⟨rfl, length⟩
    · cases cut

theorem exists_of_fromByte? {start : Nat} {text behind : Text}
    (there : fromByte? start text = some behind) :
    ∃ front, text = front ++ behind ∧ start = utf8Length front := by
  obtain ⟨⟨front, _⟩, cut, rfl⟩ := Option.map_eq_some_iff.1 there
  exact ⟨front, append_of_cutBytes? cut⟩

/-- A text has no part from a byte behind its end. -/
theorem le_utf8Length_of_fromByte? {start : Nat} {text behind : Text}
    (there : fromByte? start text = some behind) : start ≤ utf8Length text := by
  obtain ⟨front, rfl, rfl⟩ := exists_of_fromByte? there
  rw [utf8Length_append]
  exact Nat.le_add_right _ _

/-- A text keeps the bytes behind what is replaced. -/
theorem utf8Length_of_replaceBytes? {start stop : Nat} {new text replaced : Text}
    (done : replaceBytes? start stop new text = some replaced) :
    utf8Length replaced + stop = utf8Length text + (start + utf8Length new) := by
  rw [replaceBytes?] at done
  split at done
  · obtain ⟨⟨front, rest⟩, cutFront, done⟩ := Option.bind_eq_some_iff.1 done
    obtain ⟨⟨middle, behind⟩, cutMiddle, rfl⟩ := Option.map_eq_some_iff.1 done
    obtain ⟨rfl, rfl⟩ := append_of_cutBytes? cutFront
    obtain ⟨rfl, length⟩ : rest = middle ++ behind ∧ stop - _ = utf8Length middle :=
      append_of_cutBytes? cutMiddle
    simp only [utf8Length_append]
    omega
  · cases done

/-- Of two parts in front of one text the one with more bytes is the longer one. -/
theorem exists_append_of_le {front behind before rest : Text}
    (same : front ++ behind = before ++ rest) (le : utf8Length front ≤ utf8Length before) :
    ∃ more, before = front ++ more ∧ behind = more ++ rest := by
  rcases List.append_eq_append_iff.1 same with ⟨more, longer, next⟩ | ⟨gap, shorter, next⟩
  · exact ⟨more, longer, next⟩
  · have none : gap = [] := by
      rw [shorter, utf8Length_append] at le
      exact utf8Length_eq_zero_iff.1 (by omega)
    subst none
    exact ⟨[], by simpa using shorter.symm, by simpa using next.symm⟩

end Text

/-! ## The search -/

/-- A marker with the bytes in front of it and up to its end. -/
@[ext]
structure PlacedMarker where
  marker : Marker
  start : Nat
  stop : Nat
  deriving DecidableEq, Repr

/-- The marker stands in the text, there and as it is written. -/
def PlacedMarker.Stands (text : Text) (placed : PlacedMarker) : Prop :=
  Name.isBlock placed.marker.name = true ∧
    ∃ before rest, text = before ++ (placed.marker.text ++ rest) ∧
      placed.start = Text.utf8Length before ∧
      placed.stop = Text.utf8Length (before ++ placed.marker.text)

/-- What a search ends with. -/
inductive Sought where
  | found (placed : PlacedMarker)
  | nothing
  /-- A part of the text was asked for that is not there. -/
  | outOfRange
  deriving DecidableEq, Repr

/-- What a search tells that finds this marker behind the text `front`, or none. -/
def Sought.ofFound (front : Text) : Option FoundMarker → Sought
  | none => .nothing
  | some next => .found ⟨next.marker, Text.utf8Length (front ++ next.before),
      Text.utf8Length (front ++ next.before ++ next.marker.text)⟩

/-- What a look at the next comment leads to. -/
inductive Look where
  | ends (sought : Sought)
  /-- The search goes on from a byte. -/
  | onward (start : Nat)
  deriving DecidableEq, Repr

namespace Marker

/-- What every comment starts with. -/
def commentOpening : Text := "<!-- ".toList

/-- What tells the two kinds of marker apart. -/
def kindWord : MarkerKind → Text
  | .begins => "BDP: ".toList
  | .ends => "EDP: ".toList

/-- A marker without the ends of its comment. -/
def inside (marker : Marker) : Text := kindWord marker.kind ++ marker.name

/-- Reads a marker without the ends of its comment. -/
def readInside? (text : Text) : Option Marker :=
  match Text.after? (kindWord .begins) text with
  | some name => if Name.isBlock name then some ⟨.begins, name⟩ else none
  | none =>
    match Text.after? (kindWord .ends) text with
    | some name => if Name.isBlock name then some ⟨.ends, name⟩ else none
    | none => none

/-- Looks at the next comment from a byte on. -/
def look (text : Text) (start : Nat) : Look :=
  match (Text.fromByte? start text).bind (Text.byteOf? commentOpening) with
  | none => .ends .nothing
  | some ahead =>
    let opening := start + ahead
    match Text.fromByte? (opening + 1) text with
    | none => .ends .outOfRange
    | some behind =>
      match Text.byteOf? closing behind with
      | none => .ends .nothing
      | some length =>
        let close := opening + 1 + length
        let inside := opening + Text.utf8Length commentOpening
        if inside ≤ close then
          match Text.slice? inside close text with
          | none => .ends .outOfRange
          | some chars =>
            match readInside? chars with
            | some marker => .ends (.found ⟨marker, opening, close + Text.utf8Length closing⟩)
            | none => .onward (opening + 1)
        else .onward (opening + 1)

theorem lt_of_look_onward {text : Text} {start next : Nat}
    (looked : look text start = .onward next) :
    start < next ∧ next ≤ Text.utf8Length text := by
  rw [look] at looked
  split at looked
  · cases looked
  next ahead _ =>
  dsimp only at looked
  split at looked
  · cases looked
  next behind there =>
  have within := Text.le_utf8Length_of_fromByte? there
  have bound : start < start + ahead + 1 ∧ start + ahead + 1 ≤ Text.utf8Length text :=
    ⟨by omega, within⟩
  split at looked
  · cases looked
  split at looked
  · split at looked
    · cases looked
    split at looked
    · cases looked
    · cases looked
      exact bound
  · cases looked
    exact bound

/-- Looks at one comment after the other. -/
def seek (text : Text) (start : Nat) : Sought :=
  match _looked : look text start with
  | .ends sought => sought
  | .onward next => seek text next
termination_by Text.utf8Length text - start
decreasing_by
  have bound := lt_of_look_onward _looked
  omega

theorem seek_of_ends {text : Text} {start : Nat} {sought : Sought}
    (looked : look text start = .ends sought) : seek text start = sought := by
  rw [seek]
  split <;> simp_all

theorem seek_of_onward {text : Text} {start next : Nat} (looked : look text start = .onward next) :
    seek text start = seek text next := by
  rw [seek]
  split <;> simp_all

/-! ## Comments and markers -/

variable {text rest : Text} {marker : Marker}

theorem text_eq_inside (marker : Marker) :
    marker.text = commentOpening ++ (marker.inside ++ closing) := by
  obtain ⟨kind, name⟩ := marker
  cases kind <;> rfl

theorem readInside?_eq_some_iff :
    readInside? text = some marker ↔ Name.isBlock marker.name = true ∧ text = marker.inside := by
  obtain ⟨kind, name⟩ := marker
  constructor
  · intro read
    rw [readInside?] at read
    split at read
    · next behind begins =>
      split at read
      · next named =>
        cases read
        exact ⟨named, Text.after?_eq_some_iff.1 begins⟩
      · cases read
    · split at read
      · next behind ends =>
        split at read
        · next named =>
          cases read
          exact ⟨named, Text.after?_eq_some_iff.1 ends⟩
        · cases read
      · cases read
  · rintro ⟨named, rfl⟩
    cases kind with
    | begins =>
      rw [readInside?, inside, Text.after?_append]
      exact if_pos named
    | ends =>
      have other : Text.after? (kindWord .begins) (inside ⟨.ends, name⟩) = none := rfl
      rw [readInside?, other, inside, Text.after?_append]
      exact if_pos named

/-- No closing begins in a word without blanks. -/
theorem firstSplit?_closing_solid {word : Text} (solid : ' ' ∉ word) (text : Text) :
    Text.firstSplit? closing (word ++ text) =
      (Text.firstSplit? closing text).map fun split => (word ++ split.1, split.2) := by
  induction word with
  | nil => simp
  | cons c word ih =>
    rw [List.mem_cons, not_or] at solid
    have passed : Text.after? closing (c :: (word ++ text)) = none := if_neg solid.1
    rw [List.cons_append, Text.firstSplit?, passed, ih solid.2, Option.map_map]
    rfl

/-- No closing begins at a blank in front of another character than a dash. -/
theorem firstSplit?_closing_blank {c : Char} (dash : '-' ≠ c) (text : Text) :
    Text.firstSplit? closing (' ' :: c :: text) =
      (Text.firstSplit? closing (c :: text)).map fun split => (' ' :: split.1, split.2) := by
  have passed : Text.after? closing (' ' :: c :: text) = none := if_neg dash
  rw [Text.firstSplit?, passed]

/-- The first closing behind the opening of a marker is its own. -/
theorem firstSplit?_closing_inside (named : Name.isBlock marker.name = true) (rest : Text) :
    Text.firstSplit? closing ("!-- ".toList ++ (marker.inside ++ (closing ++ rest))) =
      some ("!-- ".toList ++ marker.inside, rest) := by
  obtain ⟨kind, name⟩ := marker
  have foreign : ∀ c, Name.isBlockChar c = false → c ∉ name := by
    intro c other member
    rw [Name.isBlockChar_of_mem named member] at other
    cases other
  have solid : ' ' ∉ name := foreign _ not_isBlockChar_closing
  have bare : '-' ∉ name := foreign _ (by decide)
  obtain ⟨c, word, rfl⟩ : ∃ c word, name = c :: word :=
    List.exists_cons_of_ne_nil (by rintro rfl; cases named)
  have last : Text.firstSplit? closing (c :: (word ++ (closing ++ rest))) =
      some (c :: word, rest) := by
    rw [← List.cons_append, firstSplit?_closing_solid solid]
    simp [closing, Text.firstSplit?, Text.after?]
  obtain ⟨letter, shape, dash, blank⟩ : ∃ letter, kindWord kind = letter :: "DP: ".toList ∧
      '-' ≠ letter ∧ ' ' ∉ letter :: "DP:".toList := by
    cases kind
    · exact ⟨'B', rfl, by decide, by decide⟩
    · exact ⟨'E', rfl, by decide, by decide⟩
  -- The two blanks in front of the name are the places where a closing could begin.
  have split : "!-- ".toList ++ (inside ⟨kind, c :: word⟩ ++ (closing ++ rest)) =
      "!--".toList ++ ' ' ::
        ((letter :: "DP:".toList) ++ ' ' :: c :: (word ++ (closing ++ rest))) := by
    simp [inside, shape]
  rw [split, firstSplit?_closing_solid (by decide), List.cons_append,
    firstSplit?_closing_blank dash, ← List.cons_append, firstSplit?_closing_solid blank,
    firstSplit?_closing_blank (List.ne_of_not_mem_cons bare), last]
  simp [inside, shape]

/-- No marker stands in front of the next opening of a comment. -/
theorem read?_eq_none (unopened : Text.after? commentOpening text = none) : read? text = none := by
  cases read : read? text with
  | none => rfl
  | some found =>
    obtain ⟨-, rfl⟩ := read?_eq_some read
    rw [text_eq_inside, List.append_assoc, Text.after?_append] at unopened
    cases unopened

theorem find?_of_no_opening (unopened : Text.firstSplit? commentOpening text = none) :
    find? text = none := by
  induction text with
  | nil => rfl
  | cons c text ih =>
    rw [Text.firstSplit?] at unopened
    split at unopened
    · cases unopened
    · next here =>
      rw [find?, read?_eq_none here, ih (Option.map_eq_none_iff.1 unopened)]
      rfl

/-- The search begins at the next opening. -/
theorem find?_of_opening {gap : Text}
    (opened : Text.firstSplit? commentOpening text = some (gap, rest)) :
    find? text = (find? (commentOpening ++ rest)).map fun found =>
      { found with before := gap ++ found.before } := by
  induction text generalizing gap with
  | nil => cases opened
  | cons c text ih =>
    rw [Text.firstSplit?] at opened
    split at opened
    · next here =>
      cases opened
      rw [← Text.after?_eq_some_iff.1 here]
      simp
    · next here =>
      obtain ⟨split, later, same⟩ := Option.map_eq_some_iff.1 opened
      cases same
      rw [find?, read?_eq_none here, ih later, Option.map_map]
      rfl

/-- Without a closing there is no marker. -/
theorem find?_of_no_closing
    (unclosed : Text.firstSplit? closing ("!-- ".toList ++ rest) = none) :
    find? (commentOpening ++ rest) = none := by
  cases search : find? (commentOpening ++ rest) with
  | none => rfl
  | some found =>
    obtain ⟨-, shape⟩ := find?_eq_some search
    have closes : closing <:+: "!-- ".toList ++ rest := by
      have tail : "!-- ".toList ++ rest = (commentOpening ++ rest).tail := rfl
      have later : closing <:+: (found.marker.text ++ found.rest).tail :=
        ⟨"!-- ".toList ++ found.marker.inside, found.rest, by simp [text_eq_inside, commentOpening]⟩
      rw [tail, shape]
      cases found.before with
      | nil => exact later
      | cons c before =>
        refine later.trans (List.IsInfix.trans (List.tail_suffix _).isInfix ?_)
        exact (List.suffix_append before _).isInfix
    have there := Text.isSome_firstSplit? closes
    rw [unclosed] at there
    cases there

/-- A marker stands at an opening exactly if the text up to the next closing is one. -/
theorem read?_opening_iff {middle tail behind : Text}
    (closed : Text.firstSplit? closing ("!-- ".toList ++ rest) = some (middle, tail)) :
    read? (commentOpening ++ rest) = some (marker, behind) ↔
      ∃ chars, middle = "!-- ".toList ++ chars ∧ readInside? chars = some marker ∧
        behind = tail := by
  simp only [read?_eq_some_iff, readInside?_eq_some_iff]
  constructor
  · rintro ⟨named, shape⟩
    rw [text_eq_inside, List.append_assoc, List.append_right_inj, List.append_assoc] at shape
    subst shape
    have own := firstSplit?_closing_inside named behind
    rw [own] at closed
    cases closed
    exact ⟨_, rfl, ⟨named, rfl⟩, rfl⟩
  · rintro ⟨chars, rfl, ⟨named, rfl⟩, rfl⟩
    have whole := Text.append_of_firstSplit?_eq_some closed
    rw [List.append_assoc, List.append_right_inj] at whole
    exact ⟨named, by rw [whole, text_eq_inside, List.append_assoc, List.append_assoc]⟩

/-- A marker that is read at the next opening is the next one. -/
theorem find?_of_read {gap behind : Text}
    (opened : Text.firstSplit? commentOpening text = some (gap, rest))
    (read : read? (commentOpening ++ rest) = some (marker, behind)) :
    find? text = some ⟨gap, marker, behind⟩ := by
  have here : find? (commentOpening ++ rest) = some ⟨[], marker, behind⟩ := by
    rw [show commentOpening = '<' :: "!-- ".toList from rfl, List.cons_append] at read ⊢
    rw [find?, read]
  rw [find?_of_opening opened, here, Option.map_some, List.append_nil]

/-- If none is read there, the next one begins behind the angle. -/
theorem find?_of_unread {gap : Text}
    (opened : Text.firstSplit? commentOpening text = some (gap, rest))
    (unread : read? (commentOpening ++ rest) = none) :
    find? text = (find? ("!-- ".toList ++ rest)).map fun found =>
      { found with before := gap ++ ['<'] ++ found.before } := by
  have later : find? (commentOpening ++ rest) = (find? ("!-- ".toList ++ rest)).map fun found =>
      { found with before := '<' :: found.before } := by
    rw [show commentOpening = '<' :: "!-- ".toList from rfl, List.cons_append] at unread ⊢
    rw [find?, unread]
  rw [find?_of_opening opened, later, Option.map_map]
  congr 1
  funext found
  simp

/-! ## One look -/

theorem byteOf?_of_firstSplit? {word before behind : Text}
    (split : Text.firstSplit? word text = some (before, behind)) :
    Text.byteOf? word text = some (Text.utf8Length before) := by
  rw [Text.byteOf?, split]
  rfl

theorem byteOf?_of_none {word : Text} (absent : Text.firstSplit? word text = none) :
    Text.byteOf? word text = none := by
  rw [Text.byteOf?, absent]
  rfl

theorem look_of_no_opening {front behind : Text}
    (unopened : Text.firstSplit? commentOpening behind = none) :
    look (front ++ behind) (Text.utf8Length front) = .ends .nothing := by
  simp only [look, Text.fromByte?_append, Option.bind_some, byteOf?_of_none unopened]

section

variable {front gap : Text}

/-- The bytes up to the angle that opens a comment. -/
theorem utf8Length_angle (front gap : Text) :
    Text.utf8Length front + Text.utf8Length gap + 1 =
      Text.utf8Length (front ++ (gap ++ ['<'])) := by
  rw [Text.utf8Length_append, Text.utf8Length_append, Nat.add_assoc]
  rfl

theorem fromByte?_angle (front gap rest : Text) :
    Text.fromByte? (Text.utf8Length (front ++ (gap ++ ['<'])))
      (front ++ (gap ++ (commentOpening ++ rest))) = some ("!-- ".toList ++ rest) := by
  have split : front ++ (gap ++ (commentOpening ++ rest)) =
      (front ++ (gap ++ ['<'])) ++ ("!-- ".toList ++ rest) := by
    simp [commentOpening]
  rw [split, Text.fromByte?_append]

theorem look_of_no_closing
    (opened : Text.firstSplit? commentOpening (gap ++ (commentOpening ++ rest)) = some (gap, rest))
    (unclosed : Text.firstSplit? closing ("!-- ".toList ++ rest) = none) :
    look (front ++ (gap ++ (commentOpening ++ rest))) (Text.utf8Length front) = .ends .nothing := by
  simp only [look, Text.fromByte?_append, Option.bind_some, byteOf?_of_firstSplit? opened,
    utf8Length_angle, fromByte?_angle, byteOf?_of_none unclosed]

/-- A closing that overlaps the opening ends no marker. -/
theorem look_of_overlap {middle tail : Text}
    (opened : Text.firstSplit? commentOpening (gap ++ (commentOpening ++ rest)) = some (gap, rest))
    (closed : Text.firstSplit? closing ("!-- ".toList ++ rest) = some (middle, tail))
    (short : Text.utf8Length middle < 4) :
    look (front ++ (gap ++ (commentOpening ++ rest))) (Text.utf8Length front) =
      .onward (Text.utf8Length (front ++ (gap ++ ['<']))) := by
  have overlap : ¬ Text.utf8Length front + Text.utf8Length gap + Text.utf8Length commentOpening ≤
      Text.utf8Length (front ++ (gap ++ ['<'])) + Text.utf8Length middle := by
    have length : Text.utf8Length commentOpening = 5 := rfl
    rw [← utf8Length_angle]
    omega
  simp only [look, Text.fromByte?_append, Option.bind_some, byteOf?_of_firstSplit? opened,
    utf8Length_angle, fromByte?_angle, byteOf?_of_firstSplit? closed, if_neg overlap]

/-- What stands up to the closing is read. -/
theorem look_of_closing {chars tail : Text}
    (opened : Text.firstSplit? commentOpening
      (gap ++ (commentOpening ++ (chars ++ (closing ++ tail)))) =
      some (gap, chars ++ (closing ++ tail)))
    (closed : Text.firstSplit? closing ("!-- ".toList ++ (chars ++ (closing ++ tail))) =
      some ("!-- ".toList ++ chars, tail)) :
    look (front ++ (gap ++ (commentOpening ++ (chars ++ (closing ++ tail)))))
        (Text.utf8Length front) =
      match readInside? chars with
      | some marker => .ends (.found ⟨marker, Text.utf8Length (front ++ gap),
          Text.utf8Length (front ++ gap ++ (commentOpening ++ (chars ++ closing)))⟩)
      | none => .onward (Text.utf8Length (front ++ (gap ++ ['<']))) := by
  have opening : Text.utf8Length front + Text.utf8Length gap + Text.utf8Length commentOpening =
      Text.utf8Length (front ++ gap ++ commentOpening) := by
    simp [Nat.add_assoc]
  have close : Text.utf8Length (front ++ (gap ++ ['<'])) +
      Text.utf8Length ("!-- ".toList ++ chars) =
      Text.utf8Length (front ++ gap ++ commentOpening ++ chars) := by
    have lengths : Text.utf8Length commentOpening = 1 + Text.utf8Length "!-- ".toList := rfl
    rw [← utf8Length_angle]
    simp only [Text.utf8Length_append]
    omega
  have split : front ++ gap ++ commentOpening ++ (chars ++ (closing ++ tail)) =
      front ++ (gap ++ (commentOpening ++ (chars ++ (closing ++ tail)))) := by
    simp
  have sliced := Text.slice?_append (front ++ gap ++ commentOpening) chars (closing ++ tail)
  rw [split] at sliced
  simp only [look, Text.fromByte?_append, Option.bind_some, byteOf?_of_firstSplit? opened,
    utf8Length_angle, fromByte?_angle, byteOf?_of_firstSplit? closed, opening, close, sliced]
  rw [if_pos (by simp)]
  split
  · simp [Nat.add_assoc]
  · rfl

end

/-- A look finds the next marker, or there is none, or it passes a piece of the text in which none
begins. -/
theorem look_cases (front behind : Text) :
    look (front ++ behind) (Text.utf8Length front) = .ends (.ofFound front (find? behind)) ∨
      ∃ passed left, behind = passed ++ left ∧ left.length < behind.length ∧
        look (front ++ behind) (Text.utf8Length front) =
          .onward (Text.utf8Length (front ++ passed)) ∧
        find? behind = (find? left).map fun found =>
          { found with before := passed ++ found.before } := by
  cases opened : Text.firstSplit? commentOpening behind with
  | none =>
    rw [look_of_no_opening opened, find?_of_no_opening opened]
    exact .inl rfl
  | some split =>
    obtain ⟨gap, rest⟩ := split
    obtain rfl := Text.append_of_firstSplit?_eq_some opened
    cases closed : Text.firstSplit? closing ("!-- ".toList ++ rest) with
    | none =>
      rw [look_of_no_closing opened closed, find?_of_opening opened, find?_of_no_closing closed]
      exact .inl rfl
    | some split =>
      obtain ⟨middle, tail⟩ := split
      have split : gap ++ (commentOpening ++ rest) = (gap ++ ['<']) ++ ("!-- ".toList ++ rest) := by
        simp [commentOpening]
      have shorter : ("!-- ".toList ++ rest).length < (gap ++ (commentOpening ++ rest)).length := by
        simp [commentOpening]
        omega
      by_cases short : Text.utf8Length middle < 4
      · have unread : read? (commentOpening ++ rest) = none := by
          by_contra there
          obtain ⟨⟨marker, behind⟩, read⟩ := Option.ne_none_iff_exists'.1 there
          obtain ⟨chars, rfl, -⟩ := (read?_opening_iff closed).1 read
          have long : 4 + Text.utf8Length chars < 4 := by rwa [Text.utf8Length_append] at short
          omega
        exact .inr ⟨_, _, split, shorter, look_of_overlap opened closed short,
          find?_of_unread opened unread⟩
      · have whole := Text.append_of_firstSplit?_eq_some closed
        obtain ⟨chars, rfl, rfl⟩ := Text.exists_append_of_le whole (Nat.not_lt.1 short)
        rw [look_of_closing opened closed]
        cases read : readInside? chars with
        | none =>
          have unread : read? (commentOpening ++ (chars ++ (closing ++ tail))) = none := by
            by_contra there
            obtain ⟨⟨marker, behind⟩, found⟩ := Option.ne_none_iff_exists'.1 there
            obtain ⟨again, same, inside, -⟩ := (read?_opening_iff closed).1 found
            rw [List.append_right_inj] at same
            rw [← same, read] at inside
            cases inside
          exact .inr ⟨_, _, split, shorter, rfl, find?_of_unread opened unread⟩
        | some marker =>
          have found := (read?_opening_iff closed).2 ⟨chars, rfl, read, rfl⟩
          obtain ⟨-, rfl⟩ := readInside?_eq_some_iff.1 read
          rw [find?_of_read opened found, ← text_eq_inside]
          exact .inl rfl

/-- Looking on finds the first marker behind the start. -/
theorem seek_eq (front behind : Text) :
    seek (front ++ behind) (Text.utf8Length front) = .ofFound front (find? behind) := by
  induction size : behind.length using Nat.strongRecOn generalizing front behind with
  | _ size ih =>
    rcases look_cases front behind with ended | ⟨passed, left, rfl, shorter, onward, search⟩
    · exact seek_of_ends ended
    · rw [seek_of_onward onward, search, ← List.append_assoc,
        ih left.length (size ▸ shorter) (front ++ passed) left rfl]
      cases find? left with
      | none => rfl
      | some next => simp [Sought.ofFound]

/-! ## The leftmost marker -/

/-- Every marker in a text begins where the first one does or behind it. -/
theorem isPrefix_of_find? {found : FoundMarker} (search : find? text = some found)
    {before : Text} (named : Name.isBlock marker.name = true)
    (shape : text = before ++ (marker.text ++ rest)) : found.before <+: before := by
  induction text generalizing found before with
  | nil => cases search
  | cons c text ih =>
    rw [find?] at search
    split at search
    · cases search
      exact List.nil_prefix
    · next unread =>
      obtain ⟨deeper, further, rfl⟩ := Option.map_eq_some_iff.1 search
      cases before with
      | nil =>
        rw [read?_eq_some_iff.2 ⟨named, shape⟩] at unread
        cases unread
      | cons d before =>
        obtain ⟨rfl, later⟩ := List.cons.inj shape
        exact (List.prefix_cons_inj _).2 (ih further later)

end Marker

/-- Two markers that start at one byte are the same. -/
theorem PlacedMarker.Stands.unique {text : Text} {placed other : PlacedMarker}
    (stands : placed.Stands text) (there : other.Stands text) (same : placed.start = other.start) :
    placed = other := by
  obtain ⟨named, before, rest, shape, start, stop⟩ := stands
  obtain ⟨namedOther, front, behind, split, startOther, stopOther⟩ := there
  obtain ⟨more, longer, next⟩ :=
    Text.exists_append_of_le (shape.symm.trans split) (by omega)
  have none : more = [] := by
    rw [longer, Text.utf8Length_append] at startOther
    exact Text.utf8Length_eq_zero_iff.1 (by omega)
  subst none
  rw [List.append_nil] at longer
  subst longer
  have read : Marker.read? (placed.marker.text ++ rest) = some (placed.marker, rest) :=
    Marker.read?_eq_some_iff.2 ⟨named, rfl⟩
  have again : Marker.read? (placed.marker.text ++ rest) = some (other.marker, behind) :=
    Marker.read?_eq_some_iff.2 ⟨namedOther, next⟩
  have marker : placed.marker = other.marker :=
    (Prod.mk.inj (Option.some.inj (read.symm.trans again))).1
  have end_eq : placed.stop = other.stop := by rw [stop, stopOther, marker]
  exact PlacedMarker.ext marker same end_eq

/-- From the end of any text `front` on, the search ends and asks for no part that is not there.  It
finds a marker exactly if this is the leftmost one that starts there or later, with its bytes, and
nothing exactly if there is none.  This is the marker that dividing a text goes on with. -/
theorem seek_leftmost (front behind : Text) :
    let text := front ++ behind
    let start := Text.utf8Length front
    (∀ placed, Marker.seek text start = .found placed ↔
      placed.Stands text ∧ start ≤ placed.start ∧
        ∀ other : PlacedMarker, other.Stands text → start ≤ other.start →
          placed.start ≤ other.start) ∧
    (Marker.seek text start = .nothing ↔
      ∀ placed : PlacedMarker, placed.Stands text → placed.start < start) ∧
    Marker.seek text start ≠ .outOfRange ∧
    Marker.seek text start = .ofFound front (Marker.find? behind) := by
  intro text start
  have found := Marker.seek_eq front behind
  have within : ∀ placed : PlacedMarker, placed.Stands text → start ≤ placed.start →
      ∃ more rest, behind = more ++ (placed.marker.text ++ rest) ∧
        placed.start = Text.utf8Length (front ++ more) := by
    rintro placed ⟨-, before, rest, shape, place, -⟩ later
    obtain ⟨more, rfl, next⟩ := Text.exists_append_of_le shape (by omega)
    exact ⟨more, rest, next, place⟩
  cases search : Marker.find? behind with
  | none =>
    rw [search] at found
    have unmarked := Marker.find?_eq_none_iff.1 search
    have none : ∀ placed : PlacedMarker, placed.Stands text → placed.start < start := by
      intro placed stands
      by_contra later
      obtain ⟨more, rest, shape, -⟩ := within placed stands (Nat.not_lt.1 later)
      exact unmarked placed.marker stands.1 ⟨more, rest, by simp [shape]⟩
    refine ⟨fun placed => ⟨fun other => ?_, fun ⟨stands, later, _⟩ => ?_⟩, ?_, ?_, found⟩
    · cases found.symm.trans other
    · exact absurd (none placed stands) (Nat.not_lt.2 later)
    · exact iff_of_true found none
    · rw [found]
      exact nofun
  | some next =>
    rw [search] at found
    obtain ⟨named, shape⟩ := Marker.find?_eq_some search
    let first : PlacedMarker := ⟨next.marker, Text.utf8Length (front ++ next.before),
      Text.utf8Length (front ++ next.before ++ next.marker.text)⟩
    have stands : first.Stands text :=
      ⟨named, front ++ next.before, next.rest, by simp [text, shape, first], rfl, rfl⟩
    have behindStart : start ≤ first.start := by simp [first, start]
    have leftmost : ∀ other : PlacedMarker, other.Stands text → start ≤ other.start →
        first.start ≤ other.start := by
      intro other there later
      obtain ⟨more, rest, split, place⟩ := within other there later
      obtain ⟨gap, rfl⟩ := Marker.isPrefix_of_find? search there.1 split
      simp [first, place]
    refine ⟨fun placed => ⟨fun same => ?_, fun ⟨there, later, least⟩ => ?_⟩, ?_, ?_, found⟩
    · obtain rfl : first = placed := Sought.found.inj (found.symm.trans same)
      exact ⟨stands, behindStart, leftmost⟩
    · have same : first = placed := stands.unique there
        (Nat.le_antisymm (leftmost placed there later) (least first stands behindStart))
      exact found.trans (congrArg Sought.found same)
    · refine iff_of_false (fun nothing => ?_) fun none => ?_
      · cases found.symm.trans nothing
      · exact absurd (none first stands) (Nat.not_lt.2 behindStart)
    · rw [found]
      exact nofun

end PageTemplates
