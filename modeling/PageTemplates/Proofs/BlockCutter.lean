import PageTemplates.Proofs.Nesting
import PageTemplates.Proofs.MarkerSearch

/-!
# Cutting in place

A template can be divided as one text with positions that count bytes.  A
`Cutter` remembers where each open begin marker starts and stops.  When the end
marker of the innermost one is found, the body is sliced out between the two,
and the whole block is replaced by its placeholder.  `Cutter.step` says so if
it asks for a part of the text that is not there.

A replacement changes the length of the text, and it is done behind all begin
markers that stay open.  So a cutter does what a divider does, which keeps the
read part and the unread part apart (`Divider.step_cutter`).  The begin markers
stand where the nesting of the divider puts them (`Nesting.exists_of_mem_positions`),
so their positions are right at every moment and no part is asked for in vain.
Reading goes on behind a marker each time, and what has not been read is never
rewritten.  `divide_in_range` puts this together.
-/

namespace PageTemplates

/-! ## Cutters -/

/-- A template that is divided in place. -/
structure Cutter where
  /-- The whole text as it is now. -/
  text : Text
  /-- How many bytes have been read. -/
  read : Nat
  /-- The begin markers that wait, innermost first. -/
  opened : List PlacedMarker
  blocks : List Block
  /-- The end markers that stayed so far. -/
  warnings : List MarkerWarning
  deriving DecidableEq, Repr

namespace Cutter

/-- What one move of a cutter leads to. -/
inductive Move where
  /-- There is no other marker. -/
  | finished
  | onward (next : Cutter)
  /-- A part of the text was asked for that is not there. -/
  | outOfRange
  deriving DecidableEq, Repr

/-- Nothing has been read. -/
def start (text : Text) : Cutter := ⟨text, 0, [], [], []⟩

/-- Reads a begin marker. -/
def push (placed : PlacedMarker) (cutter : Cutter) : Cutter :=
  { cutter with read := placed.stop, opened := placed :: cutter.opened }

/-- Leaves an end marker in the text and reports it. -/
def leave (placed : PlacedMarker) (cutter : Cutter) : Cutter :=
  { cutter with
    read := placed.stop
    warnings := cutter.warnings ++ [⟨.unmatchedEnd, placed.marker.name, placed.start⟩] }

/-- Cuts the block between two markers. -/
def cut? (opening : PlacedMarker) (outer : List PlacedMarker) (placed : PlacedMarker)
    (cutter : Cutter) : Option Cutter :=
  (Text.slice? opening.stop placed.start cutter.text).bind fun body =>
    let placeholder := Name.placeholder placed.marker.name
    (Text.replaceBytes? opening.start placed.stop placeholder cutter.text).map fun text =>
      { cutter with
        text := text
        read := opening.start + Text.utf8Length placeholder
        opened := outer
        blocks := cutter.blocks ++ [⟨placed.marker.name, body⟩] }

/-- Reads the marker found next. -/
def meet (placed : PlacedMarker) (cutter : Cutter) : Move :=
  match placed.marker.kind with
  | .begins => .onward (cutter.push placed)
  | .ends =>
    match cutter.opened with
    | opening :: outer =>
      if opening.marker.name = placed.marker.name then
        match cutter.cut? opening outer placed with
        | some next => .onward next
        | none => .outOfRange
      else .onward (cutter.leave placed)
    | [] => .onward (cutter.leave placed)

/-- One move of a cutter. -/
def step (cutter : Cutter) : Move :=
  match Marker.seek cutter.text cutter.read with
  | .found placed => cutter.meet placed
  | .nothing => .finished
  | .outOfRange => .outOfRange

/-! ## Every move reads on -/

end Cutter

namespace Marker

variable {text : Text} {start : Nat} {placed : PlacedMarker}

theorem bounds_of_look (looked : look text start = .ends (.found placed)) :
    start < placed.stop ∧ start < Text.utf8Length text := by
  rw [look] at looked
  split at looked
  · cases looked
  next ahead _ =>
  dsimp only at looked
  split at looked
  · cases looked
  next behind there =>
  have within := Text.le_utf8Length_of_fromByte? there
  split at looked
  · cases looked
  split at looked
  · split at looked
    · cases looked
    split at looked
    · cases looked
      constructor
      · show start < start + ahead + 1 + _ + _
        omega
      · omega
    · cases looked
  · cases looked

/-- A search that finds a marker has something to read and ends further on. -/
theorem bounds_of_seek (sought : seek text start = .found placed) :
    start < placed.stop ∧ start < Text.utf8Length text := by
  induction start using seek.induct text with
  | case1 start ends looked =>
    rw [seek_of_ends looked] at sought
    exact bounds_of_look (looked.trans (congrArg Look.ends sought))
  | case2 start next looked ih =>
    rw [seek_of_onward looked] at sought
    have later := lt_of_look_onward looked
    have bounds := ih sought
    omega

end Marker

namespace Cutter

variable {cutter next : Cutter}

/-- A move reads a begin marker, leaves an end marker or cuts a block. -/
theorem cases_of_onward (move : cutter.step = .onward next) :
    ∃ placed, Marker.seek cutter.text cutter.read = .found placed ∧
      (next = cutter.push placed ∨ next = cutter.leave placed ∨
        ∃ opening outer, cutter.cut? opening outer placed = some next) := by
  rw [step] at move
  split at move
  · next placed sought =>
    refine ⟨placed, sought, ?_⟩
    rw [meet] at move
    split at move
    · exact .inl (Move.onward.inj move).symm
    split at move
    · next opening outer opened =>
      split at move
      · split at move
        · next cut => exact .inr (.inr ⟨opening, outer, Move.onward.inj move ▸ cut⟩)
        · cases move
      · exact .inr (.inl (Move.onward.inj move).symm)
    · exact .inr (.inl (Move.onward.inj move).symm)
  · cases move
  · cases move

/-- How many bytes are left to read. -/
def left (cutter : Cutter) : Nat := Text.utf8Length cutter.text - cutter.read

theorem left_lt_of_cut? {opening placed : PlacedMarker} {outer : List PlacedMarker}
    (later : cutter.read < placed.stop) (within : cutter.read < Text.utf8Length cutter.text)
    (cut : cutter.cut? opening outer placed = some next) : next.left < cutter.left := by
  obtain ⟨body, -, rest⟩ := Option.bind_eq_some_iff.1 cut
  obtain ⟨text, replaced, rfl⟩ := Option.map_eq_some_iff.1 rest
  have whole := Text.utf8Length_of_replaceBytes? replaced
  simp only [left]
  omega

/-- A move leaves fewer bytes to read. -/
theorem left_lt_of_onward (move : cutter.step = .onward next) : next.left < cutter.left := by
  obtain ⟨placed, sought, moves⟩ := cases_of_onward move
  obtain ⟨later, within⟩ := Marker.bounds_of_seek sought
  have passed : Text.utf8Length cutter.text - placed.stop < cutter.left := by
    rw [left]
    omega
  rcases moves with rfl | rfl | ⟨opening, outer, cut⟩
  · exact passed
  · exact passed
  · exact left_lt_of_cut? later within cut

/-- The warnings for the begin markers that still wait, outermost first. -/
def unclosed (cutter : Cutter) : List MarkerWarning :=
  cutter.opened.reverse.map fun opening =>
    ⟨.unclosedBegin, opening.marker.name, opening.start⟩

/-- Divides to the end, if no part of the text is asked for in vain. -/
def run (cutter : Cutter) : Option Division :=
  match _move : cutter.step with
  | .finished => some ⟨cutter.text, cutter.blocks, cutter.warnings ++ cutter.unclosed⟩
  | .onward next => next.run
  | .outOfRange => none
termination_by cutter.left
decreasing_by exact left_lt_of_onward _move

theorem run_of_finished (move : cutter.step = .finished) :
    cutter.run = some ⟨cutter.text, cutter.blocks, cutter.warnings ++ cutter.unclosed⟩ := by
  rw [run]
  split <;> simp_all

theorem run_of_onward (move : cutter.step = .onward next) : cutter.run = next.run := by
  rw [run]
  split <;> simp_all

theorem meet_of_cut {opening placed : PlacedMarker} {outer : List PlacedMarker}
    (ends : placed.marker.kind = .ends) (opened : cutter.opened = opening :: outer)
    (same : opening.marker.name = placed.marker.name)
    (cut : cutter.cut? opening outer placed = some next) : cutter.meet placed = .onward next := by
  simp [meet, ends, opened, same, cut]

theorem meet_of_ne {placed : PlacedMarker} (ends : placed.marker.kind = .ends)
    (other : cutter.opened.head?.map (fun opening => opening.marker.name) ≠
      some placed.marker.name) :
    cutter.meet placed = .onward (cutter.leave placed) := by
  cases opened : cutter.opened <;> simp_all [meet]

/-- A block that stands between its markers is cut. -/
theorem cut?_eq_some {opening placed : PlacedMarker} {outer : List PlacedMarker}
    {outside begins body ends rest : Text}
    (shape : cutter.text = outside ++ (begins ++ (body ++ (ends ++ rest))))
    (start : opening.start = Text.utf8Length outside)
    (stop : opening.stop = Text.utf8Length (outside ++ begins))
    (close : placed.start = Text.utf8Length (outside ++ begins ++ body))
    (behind : placed.stop = Text.utf8Length (outside ++ (begins ++ (body ++ ends)))) :
    cutter.cut? opening outer placed = some
      { cutter with
        text := outside ++ (Name.placeholder placed.marker.name ++ rest)
        read := Text.utf8Length outside + Text.utf8Length (Name.placeholder placed.marker.name)
        opened := outer
        blocks := cutter.blocks ++ [⟨placed.marker.name, body⟩] } := by
  have sliced := Text.slice?_append (outside ++ begins) body (ends ++ rest)
  have replaced := Text.replaceBytes?_append outside (begins ++ (body ++ ends)) rest
    (Name.placeholder placed.marker.name)
  simp only [List.append_assoc] at sliced replaced stop close
  rw [cut?, stop, close, start, behind, shape, sliced, Option.bind_some]
  simp only [replaced, Option.map_some]

end Cutter

/-! ## Where the open markers stand -/

/-- An open marker with its bytes. -/
def OpenMarker.placed (opening : OpenMarker) : PlacedMarker :=
  ⟨⟨.begins, opening.name⟩, opening.offset,
    opening.offset + Text.utf8Length (Marker.mk .begins opening.name).text⟩

namespace Nesting

variable {outside : Text} {frames : List Frame} {opening : OpenMarker}

/-- An open marker stands behind the bytes that it is known by. -/
theorem exists_of_mem_positions (member : opening ∈ positions outside frames) :
    ∃ front behind, flatten outside frames =
        front ++ ((Marker.mk .begins opening.name).text ++ behind) ∧
      opening.offset = Text.utf8Length front := by
  induction frames with
  | nil => cases member
  | cons frame outer ih =>
    rcases List.mem_cons.1 member with rfl | further
    · exact ⟨flatten outside outer, frame.text, rfl, rfl⟩
    · obtain ⟨front, behind, shape, offset⟩ := ih further
      exact ⟨front, behind ++ (frame.opening ++ frame.text), by simp [flatten, shape], offset⟩

theorem stop_le_of_mem_positions (member : opening ∈ positions outside frames) :
    opening.placed.stop ≤ Text.utf8Length (flatten outside frames) := by
  obtain ⟨front, behind, shape, offset⟩ := exists_of_mem_positions member
  rw [OpenMarker.placed, offset, shape]
  simp only [Text.utf8Length_append]
  omega

/-- An open marker starts where those further out have stopped. -/
theorem pairwise_positions (outside : Text) (frames : List Frame) :
    (positions outside frames).Pairwise fun inner outer =>
      outer.placed.stop ≤ inner.placed.start := by
  induction frames with
  | nil => exact .nil
  | cons frame outer ih => exact .cons (fun further member => stop_le_of_mem_positions member) ih

end Nesting

/-! ## The divider in place -/

namespace Divider

/-- What a divider is in one text. -/
def cutter (divider : Divider) : Cutter :=
  ⟨divider.text, divider.bytes, divider.opened.map OpenMarker.placed, divider.blocks,
    divider.warnings⟩

variable {divider : Divider} {nesting : Nesting} {found : FoundMarker}

theorem Follows.text (follows : divider.Follows nesting) :
    divider.text = nesting.outline ++ divider.rest := by
  rw [Divider.text, follows.scanned, List.reverse_reverse]

/-- Where a divider finds a marker. -/
def place (found : FoundMarker) (divider : Divider) : PlacedMarker :=
  ⟨found.marker, divider.bytes + Text.utf8Length found.before,
    divider.bytes + Text.utf8Length found.before + Text.utf8Length found.marker.text⟩

theorem Follows.seek_cutter (follows : divider.Follows nesting) :
    Marker.seek divider.cutter.text divider.cutter.read =
      match Marker.find? divider.rest with
      | some found => .found (divider.place found)
      | none => .nothing := by
  have sought := Marker.seek_eq nesting.outline divider.rest
  rw [cutter, follows.text, follows.bytes, sought]
  cases Marker.find? divider.rest with
  | none => rfl
  | some found => simp [Sought.ofFound, place, follows.bytes, Nat.add_assoc]

theorem Follows.stands_place (follows : divider.Follows nesting)
    (search : Marker.find? divider.rest = some found) :
    (divider.place found).Stands divider.cutter.text := by
  obtain ⟨named, shape⟩ := Marker.find?_eq_some search
  refine ⟨named, nesting.outline ++ found.before, found.rest, ?_, ?_, ?_⟩
  · rw [cutter, follows.text, shape, place, List.append_assoc]
  · rw [place, follows.bytes, Text.utf8Length_append]
  · simp only [place, follows.bytes, Text.utf8Length_append]

theorem push_cutter {before name rest : Text}
    (shape : divider.rest = before ++ ((Marker.mk .begins name).text ++ rest)) :
    divider.cutter.push (divider.place ⟨before, ⟨.begins, name⟩, rest⟩) =
      (divider.openBlock before name rest).cutter := by
  simp [Cutter.push, cutter, place, openBlock, append, text, OpenMarker.placed, shape]

theorem leave_cutter {before name rest : Text}
    (shape : divider.rest = before ++ ((Marker.mk .ends name).text ++ rest)) :
    divider.cutter.leave (divider.place ⟨before, ⟨.ends, name⟩, rest⟩) =
      (divider.leave before name rest).cutter := by
  simp [Cutter.leave, cutter, place, leave, append, text, shape]

variable {opening : OpenMarker} {outer : List OpenMarker} {before rest : Text}

/-- Behind the innermost open marker stands what is sliced out, and in front of it what is kept. -/
theorem Follows.exists_of_opened (follows : divider.Follows nesting)
    (opened : divider.opened = opening :: outer) :
    ∃ outside body, nesting.outline = outside ++ ((Marker.mk .begins opening.name).text ++ body) ∧
      opening.offset = Text.utf8Length outside ∧ divider.body opening = body ∧
      (divider.retreat opening).scanned = outside.reverse := by
  cases frames : nesting.frames with
  | nil =>
    rw [follows.opened, Nesting.waiting, frames] at opened
    cases opened
  | cons frame further =>
    rw [follows.opened, Nesting.waiting_eq_cutFrame frames] at opened
    obtain ⟨rfl, rfl⟩ := List.cons.inj opened
    exact ⟨(nesting.cutFrame frame further).outline, frame.text,
      Nesting.outline_eq_cutFrame frames, rfl, follows.body frames, follows.retreat frames⟩

/-- The block is sliced out and replaced in the one text as in the two parts of the divider. -/
theorem Follows.cut_cutter (follows : divider.Follows nesting)
    (opened : divider.opened = opening :: outer)
    (shape : divider.rest = before ++ ((Marker.mk .ends opening.name).text ++ rest)) :
    divider.cutter.cut? opening.placed (outer.map OpenMarker.placed)
        (divider.place ⟨before, ⟨.ends, opening.name⟩, rest⟩) =
      some (divider.cut opening outer before rest).cutter := by
  obtain ⟨outside, body, front, offset, sliced, kept⟩ :=
    (follows.append before).exists_of_opened opened
  rw [Nesting.outline_write] at front
  have whole : divider.cutter.text = outside ++ ((Marker.mk .begins opening.name).text ++
      (body ++ ((Marker.mk .ends opening.name).text ++ rest))) := by
    rw [cutter, follows.text, shape, ← List.append_assoc, front]
    simp
  have close : divider.bytes + Text.utf8Length before =
      Text.utf8Length (outside ++ (Marker.mk .begins opening.name).text ++ body) := by
    rw [follows.bytes, ← Text.utf8Length_append, front, List.append_assoc]
  have replaced : (divider.cut opening outer before rest).text =
      outside ++ (Name.placeholder opening.name ++ rest) := by
    show ((Name.placeholder opening.name).reverse ++
      ((divider.append before).retreat opening).scanned).reverse ++ rest = _
    rw [kept]
    simp
  rw [Cutter.cut?_eq_some whole offset (by simp [OpenMarker.placed, offset]) close
    (by simp only [place, close, Text.utf8Length_append, Nat.add_assoc]), ← offset, cutter, cutter,
    replaced, ← sliced]
  rfl

/-- A marker does the same to a cutter and to its divider. -/
theorem Follows.meet_cutter (follows : divider.Follows nesting)
    (search : Marker.find? divider.rest = some found) :
    divider.cutter.meet (divider.place found) = .onward (divider.meet found).cutter := by
  obtain ⟨-, shape⟩ := Marker.find?_eq_some search
  obtain ⟨before, ⟨kind, name⟩, rest⟩ := found
  cases kind with
  | begins => exact congrArg Cutter.Move.onward (push_cutter shape)
  | ends =>
    by_cases same : divider.opened.head?.map OpenMarker.name = some name
    · obtain ⟨opening, innermost, rfl⟩ := Option.map_eq_some_iff.1 same
      obtain ⟨outer, opened⟩ := List.head?_eq_some_iff.1 innermost
      have cut := follows.cut_cutter opened shape
      have waiting : divider.cutter.opened = opening.placed :: outer.map OpenMarker.placed := by
        rw [cutter, opened, List.map_cons]
      have kind : (divider.place ⟨before, ⟨.ends, opening.name⟩, rest⟩).marker.kind = .ends := rfl
      rw [meet_end opened]
      exact Cutter.meet_of_cut kind waiting rfl cut
    · rw [meet_end_of_ne same, ← leave_cutter shape]
      refine Cutter.meet_of_ne rfl ?_
      rw [cutter, List.head?_map, Option.map_map]
      exact same

/-- A cutter moves as its divider goes from marker to marker. -/
theorem Follows.step_cutter (follows : divider.Follows nesting) :
    divider.cutter.step =
      match Marker.find? divider.rest with
      | some found => .onward (divider.meet found).cutter
      | none => .finished := by
  rw [Cutter.step, follows.seek_cutter]
  cases search : Marker.find? divider.rest with
  | none => rfl
  | some found => exact follows.meet_cutter search

theorem unclosed_cutter (divider : Divider) : divider.cutter.unclosed = divider.unclosed := by
  simp [Cutter.unclosed, unclosed, cutter, OpenMarker.placed, ← List.map_reverse]

/-- A cutter ends with the division that its divider ends with. -/
theorem Follows.run_cutter (follows : divider.Follows nesting) :
    divider.cutter.run = some divider.run.finish := by
  have move := follows.step_cutter
  induction divider using Divider.run.induct generalizing nesting with
  | case1 divider search =>
    rw [search] at move
    rw [Cutter.run_of_finished move, unclosed_cutter, Divider.run]
    split
    · rfl
    · simp_all
  | case2 divider found search ih =>
    rw [search] at move
    rw [Cutter.run_of_onward move, Divider.run]
    split
    · simp_all
    · next other search' =>
      obtain rfl := Option.some.inj (search.symm.trans search')
      have next := follows.meet found
      exact ih next next.step_cutter

/-- The dividers on the way through a template. -/
inductive Reached (template : Text) : Divider → Prop where
  | start : Reached template (start template)
  | meet {divider : Divider} {found : FoundMarker} (reached : Reached template divider)
      (search : Marker.find? divider.rest = some found) : Reached template (divider.meet found)

variable {template : Text}

theorem Reached.exists_follows (reached : Reached template divider) :
    ∃ nesting, divider.Follows nesting := by
  induction reached with
  | start => exact ⟨.start, follows_start template⟩
  | meet reached search ih =>
    obtain ⟨nesting, follows⟩ := ih
    exact ⟨_, follows.meet _⟩

theorem Reached.suffix (reached : Reached template divider) : divider.rest <:+ template := by
  induction reached with
  | start => exact List.suffix_refl template
  | @meet divider found reached search ih =>
    obtain ⟨-, shape⟩ := Marker.find?_eq_some search
    rw [meet_rest]
    refine List.IsSuffix.trans ⟨found.before ++ found.marker.text, ?_⟩ ih
    rw [shape, List.append_assoc]

/-- Of the open markers one may be new. -/
theorem name_of_mem_opened_meet (found : FoundMarker)
    (member : opening ∈ (divider.meet found).opened) :
    opening.name = found.marker.name ∨ opening ∈ divider.opened := by
  rw [meet] at member
  split at member
  · rcases List.mem_cons.1 member with rfl | old
    · exact .inl rfl
    · exact .inr old
  · split at member
    · next innermost outer opened =>
      split at member
      · exact .inr (opened ▸ List.mem_cons_of_mem _ member)
      · exact .inr member
    · exact .inr member

/-- Every open marker has been found. -/
theorem Reached.named (reached : Reached template divider) :
    ∀ opening ∈ divider.opened, Name.isBlock opening.name = true := by
  induction reached with
  | start => nofun
  | @meet divider found reached search ih =>
    obtain ⟨named, -⟩ := Marker.find?_eq_some search
    intro opening member
    rcases name_of_mem_opened_meet found member with same | old
    · rw [same]
      exact named
    · exact ih opening old

end Divider

/-! ## What holds at every moment -/

namespace Cutter

/-- What has not been read. -/
def unread? (cutter : Cutter) : Option Text := Text.fromByte? cutter.read cutter.text

/-- The cutters on the way through a template. -/
inductive Reached (template : Text) : Cutter → Prop where
  | start : Reached template (start template)
  | onward {cutter next : Cutter} (reached : Reached template cutter)
      (move : cutter.step = .onward next) : Reached template next

/-- The positions of a cutter are right. -/
structure Sound (template : Text) (cutter : Cutter) : Prop where
  /-- What has not been read begins at a character and is the end of the template. -/
  unread : ∃ rest, cutter.unread? = some rest ∧ rest <:+ template
  /-- The open markers stand in the text as it is now. -/
  stands : ∀ opening ∈ cutter.opened,
    opening.marker.kind = .begins ∧ opening.Stands cutter.text
  /-- They have been read. -/
  scanned : ∀ opening ∈ cutter.opened, opening.stop ≤ cutter.read
  /-- Each of them starts where those further out have stopped. -/
  apart : cutter.opened.Pairwise fun inner outer => outer.stop ≤ inner.start

/-- Every moment of a cutter is one of a divider. -/
theorem Reached.exists_divider {template : Text} {cutter : Cutter}
    (reached : Reached template cutter) :
    ∃ divider, Divider.Reached template divider ∧ cutter = divider.cutter := by
  induction reached with
  | start => exact ⟨_, .start, rfl⟩
  | @onward _ next _ move ih =>
    obtain ⟨divider, reached, rfl⟩ := ih
    obtain ⟨nesting, follows⟩ := reached.exists_follows
    rw [follows.step_cutter] at move
    cases search : Marker.find? divider.rest with
    | none =>
      rw [search] at move
      cases move
    | some found =>
      rw [search] at move
      obtain rfl := Move.onward.inj move
      exact ⟨_, reached.meet search, rfl⟩

end Cutter

namespace Divider

variable {divider : Divider} {template : Text}

theorem Reached.unread_cutter (reached : Reached template divider) :
    divider.cutter.unread? = some divider.rest := by
  obtain ⟨nesting, follows⟩ := reached.exists_follows
  rw [Cutter.unread?, cutter, follows.text, follows.bytes]
  exact Text.fromByte?_append nesting.outline divider.rest

theorem Reached.sound_cutter (reached : Reached template divider) :
    divider.cutter.Sound template := by
  obtain ⟨nesting, follows⟩ := reached.exists_follows
  have waiting : ∀ placed ∈ divider.cutter.opened, ∃ opening ∈ nesting.waiting,
      opening.placed = placed := by
    intro placed member
    rw [cutter, follows.opened] at member
    exact List.mem_map.1 member
  refine ⟨⟨divider.rest, reached.unread_cutter, reached.suffix⟩, ?_, ?_, ?_⟩
  · intro placed member
    obtain ⟨opening, there, rfl⟩ := waiting placed member
    have named := reached.named opening (follows.opened ▸ there)
    obtain ⟨front, behind, shape, offset⟩ := Nesting.exists_of_mem_positions there
    refine ⟨rfl, named, front, behind ++ divider.rest, ?_, offset, ?_⟩
    · rw [cutter, follows.text, Nesting.outline, shape]
      simp [OpenMarker.placed]
    · rw [OpenMarker.placed, offset, Text.utf8Length_append]
  · intro placed member
    obtain ⟨opening, there, rfl⟩ := waiting placed member
    rw [cutter, follows.bytes]
    exact Nesting.stop_le_of_mem_positions there
  · rw [cutter, follows.opened, List.pairwise_map]
    exact Nesting.pairwise_positions nesting.outside nesting.frames

end Divider

/-- Dividing a template in place ends with the division of the template and asks for no part of the
text that is not there.  At every moment of it the open markers stand in the text as it is now, in
the part that has been read, and they do not overlap.  The marker that is found next, and so each
end marker of a block, starts where they have stopped or behind.  What has not been read is the end
of the template, and every move leaves less of it. -/
theorem divide_in_range (template : Text) :
    (Cutter.start template).run = some (divide template) ∧
      ∀ cutter, Cutter.Reached template cutter →
        cutter.Sound template ∧
        cutter.step ≠ .outOfRange ∧
        (∀ placed, Marker.seek cutter.text cutter.read = .found placed →
          placed.Stands cutter.text ∧ cutter.read ≤ placed.start ∧
            ∀ opening ∈ cutter.opened, opening.stop ≤ placed.start) ∧
        (∀ next, cutter.step = .onward next → ∃ passed rest,
          cutter.unread? = some (passed ++ rest) ∧ next.unread? = some rest ∧ passed ≠ []) ∧
        ∃ divider, Divider.Reached template divider ∧ cutter = divider.cutter := by
  refine ⟨(Divider.follows_start template).run_cutter, fun cutter reached => ?_⟩
  obtain ⟨divider, way, rfl⟩ := reached.exists_divider
  obtain ⟨nesting, follows⟩ := way.exists_follows
  have sound := way.sound_cutter
  have move := follows.step_cutter
  have sought := follows.seek_cutter
  cases search : Marker.find? divider.rest with
  | none =>
    rw [search] at move sought
    rw [move, sought]
    exact ⟨sound, nofun, nofun, nofun, divider, way, rfl⟩
  | some found =>
    rw [search] at move sought
    obtain ⟨-, shape⟩ := Marker.find?_eq_some search
    rw [move, sought]
    refine ⟨sound, nofun, ?_, ?_, divider, way, rfl⟩
    · intro placed same
      obtain rfl := Sought.found.inj same
      have later : divider.cutter.read ≤ (divider.place found).start := Nat.le_add_right _ _
      exact ⟨follows.stands_place search, later,
        fun opening member => Nat.le_trans (sound.scanned opening member) later⟩
    · intro next same
      obtain rfl := Cutter.Move.onward.inj same
      refine ⟨found.before ++ found.marker.text, found.rest, ?_, ?_, ?_⟩
      · rw [way.unread_cutter, shape, List.append_assoc]
      · rw [(way.meet search).unread_cutter, Divider.meet_rest]
      · intro none
        have positive := Marker.length_text_pos found.marker
        rw [(List.append_eq_nil_iff.1 none).2] at positive
        exact absurd positive (Nat.lt_irrefl 0)

/-- A block in another one, with characters of two bytes around the markers. -/
def accentedRow : Text :=
  "é<!-- BDP: row -->é<!-- BDP: inner -->ü<!-- EDP: inner -->ß<!-- EDP: row -->".toList

/-- The row waits, and the block in it has been cut. -/
def accentedCut : Cutter where
  text := "é<!-- BDP: row -->é\x7bINNER\x7dß<!-- EDP: row -->".toList
  read := 28
  opened := [⟨⟨.begins, "row".toList⟩, 2, 19⟩]
  blocks := [⟨"inner".toList, "ü".toList⟩]
  warnings := []

theorem divide_in_range_accentedCut :
    Cutter.Reached accentedRow accentedCut ∧ accentedCut.Sound accentedRow ∧
      accentedCut.step ≠ .outOfRange := by
  let row : PlacedMarker := ⟨⟨.begins, "row".toList⟩, 2, 19⟩
  let inner : PlacedMarker := ⟨⟨.begins, "inner".toList⟩, 21, 40⟩
  have first : (Cutter.start accentedRow).step = .onward ⟨accentedRow, 19, [row], [], []⟩ := by
    decide +kernel
  have second : Cutter.step ⟨accentedRow, 19, [row], [], []⟩ =
      .onward ⟨accentedRow, 40, [inner, row], [], []⟩ := by decide +kernel
  have third : Cutter.step ⟨accentedRow, 40, [inner, row], [], []⟩ = .onward accentedCut := by
    decide +kernel
  have reached : Cutter.Reached accentedRow accentedCut :=
    .onward (.onward (.onward .start first) second) third
  obtain ⟨sound, inRange, -⟩ := (divide_in_range accentedRow).2 accentedCut reached
  exact ⟨reached, sound, inRange⟩

end PageTemplates
