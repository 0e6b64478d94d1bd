import PageTemplates.Division
import PageTemplates.Proofs.Tokens

/-!
# Reading blocks in one pass

`Nesting` reads the tokens of a template once and never rewrites its text.  A
begin marker opens a frame.  An end marker that names the innermost frame
closes it: the frame becomes a block, and what stands for the block goes to the
frame around it.  Everything else goes to the innermost frame as it is written.
At the end the frames that are still open are put back, begin markers included.

What stands for a block is a parameter.  With the placeholder of the block the
reading is the division (`divide_eq_reading`).  With its written form, markers
and body, the reading gives the template back (`outline_reading_written`).

A divider rewrites its text in place and remembers where the open markers
stand.  `Divider.Follows` ties it to a nesting: the text it has read is that of
the frames put back, and each position it remembers is the length of the text
in front of the frame.  A block is cut at the end of that text, so the
positions further out stay right.
-/

namespace PageTemplates

/-- A block that has been opened. -/
structure Frame where
  name : Text
  /-- What has been read behind the begin marker. -/
  text : Text
  deriving DecidableEq, Repr

/-- The begin marker of a frame as it is written. -/
def Frame.opening (frame : Frame) : Text := (Marker.mk .begins frame.name).text

/-- A block as it is written. -/
def Block.written (block : Block) : Text :=
  (Marker.mk .begins block.name).text ++ (block.body ++ (Marker.mk .ends block.name).text)

/-- What has been read of a template. -/
structure Nesting where
  /-- What stands outside of all frames. -/
  outside : Text
  /-- The frames that are open, innermost first. -/
  frames : List Frame
  /-- The blocks in the order in which they were closed. -/
  blocks : List Block
  deriving DecidableEq, Repr

namespace Nesting

/-- Nothing has been read. -/
def start : Nesting := ⟨[], [], []⟩

/-- Adds a text to the innermost frame. -/
def write (chars : Text) (nesting : Nesting) : Nesting :=
  match nesting.frames with
  | [] => { nesting with outside := nesting.outside ++ chars }
  | frame :: outer =>
    { nesting with frames := { frame with text := frame.text ++ chars } :: outer }

/-- Opens a frame. -/
def openFrame (name : Text) (nesting : Nesting) : Nesting :=
  { nesting with frames := ⟨name, []⟩ :: nesting.frames }

/-- Takes the innermost frame away and keeps it as a block. -/
def cutFrame (frame : Frame) (outer : List Frame) (nesting : Nesting) : Nesting :=
  { nesting with frames := outer, blocks := nesting.blocks ++ [⟨frame.name, frame.text⟩] }

/-- Closes the innermost frame and lets `stands` say what stands for the block. -/
def closeFrame (stands : Block → Text) (frame : Frame) (outer : List Frame) (nesting : Nesting) :
    Nesting :=
  (nesting.cutFrame frame outer).write (stands ⟨frame.name, frame.text⟩)

/-- Reads a token. -/
def step (stands : Block → Text) (nesting : Nesting) : Token → Nesting
  | .plain c => nesting.write [c]
  | .mark ⟨.begins, name⟩ => nesting.openFrame name
  | .mark ⟨.ends, name⟩ =>
    match nesting.frames with
    | frame :: outer =>
      if frame.name = name then nesting.closeFrame stands frame outer
      else nesting.write (Marker.mk .ends name).text
    | [] => nesting.write (Marker.mk .ends name).text

/-- Reads the tokens of a text. -/
def reading (stands : Block → Text) (text : Text) : Nesting :=
  (Token.ofText text).foldl (step stands) start

/-- Puts frames back behind the text outside of them. -/
def flatten (outside : Text) : List Frame → Text
  | [] => outside
  | frame :: outer => flatten outside outer ++ (frame.opening ++ frame.text)

/-- The text with the open frames put back. -/
def outline (nesting : Nesting) : Text := flatten nesting.outside nesting.frames

/-! ## Writing -/

@[simp] theorem outline_write (chars : Text) (nesting : Nesting) :
    (nesting.write chars).outline = nesting.outline ++ chars := by
  unfold write
  split
  · next none => simp [outline, none, flatten]
  · next frame outer some => simp [outline, some, flatten, Frame.opening]

@[simp] theorem blocks_write (chars : Text) (nesting : Nesting) :
    (nesting.write chars).blocks = nesting.blocks := by
  unfold write
  split <;> rfl

theorem write_write (first second : Text) (nesting : Nesting) :
    (nesting.write first).write second = nesting.write (first ++ second) := by
  obtain ⟨outside, frames, blocks⟩ := nesting
  cases frames <;> simp [write]

theorem write_nil (nesting : Nesting) : nesting.write [] = nesting := by
  unfold write
  split <;> next shape => simp [← shape]

/-- Characters between two markers are written as they are. -/
theorem foldl_plain (stands : Block → Text) (chars : Text) (nesting : Nesting) :
    (chars.map Token.plain).foldl (step stands) nesting = nesting.write chars := by
  induction chars generalizing nesting with
  | nil => exact (write_nil nesting).symm
  | cons c chars ih =>
    rw [List.map_cons, List.foldl_cons, ih]
    exact write_write [c] chars nesting

/-! ## Opening and closing -/

@[simp] theorem outline_openFrame (name : Text) (nesting : Nesting) :
    (nesting.openFrame name).outline = nesting.outline ++ (Marker.mk .begins name).text := by
  simp [outline, openFrame, flatten, Frame.opening]

/-- The innermost frame stands at the end of the outline. -/
theorem outline_eq_cutFrame {nesting : Nesting} {frame : Frame} {outer : List Frame}
    (frames : nesting.frames = frame :: outer) :
    nesting.outline = (nesting.cutFrame frame outer).outline ++ (frame.opening ++ frame.text) := by
  simp [outline, cutFrame, frames, flatten]

theorem step_end {stands : Block → Text} {nesting : Nesting} {frame : Frame} {outer : List Frame}
    (frames : nesting.frames = frame :: outer) :
    nesting.step stands (.mark ⟨.ends, frame.name⟩) = nesting.closeFrame stands frame outer := by
  simp [step, frames]

theorem step_end_of_ne {stands : Block → Text} {nesting : Nesting} {name : Text}
    (other : nesting.frames.head?.map Frame.name ≠ some name) :
    nesting.step stands (.mark ⟨.ends, name⟩) = nesting.write (Marker.mk .ends name).text := by
  cases frames : nesting.frames <;> simp_all [step]

/-- A marker opens a frame, or it closes the innermost one, or it ends a block that is not the
innermost one. -/
theorem mark_cases (nesting : Nesting) (marker : Marker) :
    (∃ name, marker = ⟨.begins, name⟩) ∨
      (∃ frame outer, nesting.frames = frame :: outer ∧ marker = ⟨.ends, frame.name⟩) ∨
      (∃ name, nesting.frames.head?.map Frame.name ≠ some name ∧ marker = ⟨.ends, name⟩) := by
  obtain ⟨kind, name⟩ := marker
  cases kind with
  | begins => exact .inl ⟨name, rfl⟩
  | ends =>
    right
    by_cases same : nesting.frames.head?.map Frame.name = some name
    · obtain ⟨frame, innermost, rfl⟩ := Option.map_eq_some_iff.1 same
      obtain ⟨outer, frames⟩ := List.head?_eq_some_iff.1 innermost
      exact .inl ⟨frame, outer, frames, rfl⟩
    · exact .inr ⟨name, same, rfl⟩

/-- With blocks as they are written, nothing is lost and nothing is added. -/
theorem outline_step_written (nesting : Nesting) (token : Token) :
    (nesting.step Block.written token).outline = nesting.outline ++ token.text := by
  cases token with
  | plain c => exact outline_write [c] nesting
  | mark marker =>
    obtain ⟨name, rfl⟩ | ⟨frame, outer, frames, rfl⟩ | ⟨name, other, rfl⟩ :=
      nesting.mark_cases marker
    · exact outline_openFrame name nesting
    · rw [step_end frames, closeFrame, outline_write, outline_eq_cutFrame frames]
      simp [Block.written, Frame.opening, Token.text]
    · rw [step_end_of_ne other, outline_write]
      rfl

theorem outline_foldl_written (tokens : List Token) (nesting : Nesting) :
    (tokens.foldl (step Block.written) nesting).outline =
      nesting.outline ++ Token.spelling tokens := by
  induction tokens generalizing nesting with
  | nil => simp [Token.spelling]
  | cons token tokens ih => simp [ih, outline_step_written]

/-- Putting every block back as it is written gives the template back. -/
theorem outline_reading_written (text : Text) : (reading Block.written text).outline = text := by
  rw [reading, outline_foldl_written, (Token.leftmost_ofText text).spells]
  rfl

/-! ## The positions of the begin markers -/

/-- Where the begin marker of a frame stands behind a text. -/
def position (front : Text) (frame : Frame) : OpenMarker :=
  ⟨frame.name, front.length, (front ++ frame.opening).length, Text.utf8Length front⟩

/-- Where the begin markers of frames stand when the frames are put back, innermost first. -/
def positions (outside : Text) : List Frame → List OpenMarker
  | [] => []
  | frame :: outer => position (flatten outside outer) frame :: positions outside outer

/-- Where the open begin markers stand. -/
def waiting (nesting : Nesting) : List OpenMarker := positions nesting.outside nesting.frames

@[simp] theorem waiting_write (chars : Text) (nesting : Nesting) :
    (nesting.write chars).waiting = nesting.waiting := by
  obtain ⟨outside, frames, blocks⟩ := nesting
  cases frames <;> rfl

@[simp] theorem waiting_openFrame (name : Text) (nesting : Nesting) :
    (nesting.openFrame name).waiting =
      position nesting.outline ⟨name, []⟩ :: nesting.waiting := rfl

/-- The innermost begin marker stands behind what is left when its frame is cut. -/
theorem waiting_eq_cutFrame {nesting : Nesting} {frame : Frame} {outer : List Frame}
    (frames : nesting.frames = frame :: outer) :
    nesting.waiting = position (nesting.cutFrame frame outer).outline frame ::
      (nesting.cutFrame frame outer).waiting := by
  rw [waiting, frames]
  rfl

theorem waiting_head_name (nesting : Nesting) :
    nesting.waiting.head?.map OpenMarker.name = nesting.frames.head?.map Frame.name := by
  rw [waiting]
  cases nesting.frames <;> rfl

end Nesting

/-! ## The divider follows -/

namespace Divider

/-- A divider has read what a nesting has read. -/
structure Follows (divider : Divider) (nesting : Nesting) : Prop where
  /-- The text read is that of the frames put back. -/
  scanned : divider.scanned = nesting.outline.reverse
  /-- The size is the number of characters read. -/
  size : divider.size = nesting.outline.length
  /-- The bytes are those of the characters read. -/
  bytes : divider.bytes = Text.utf8Length nesting.outline
  /-- The open markers stand where the frames put them. -/
  opened : divider.opened = nesting.waiting
  /-- The same blocks have been cut. -/
  blocks : divider.blocks = nesting.blocks

theorem follows_start (text : Text) : (start text).Follows Nesting.start :=
  ⟨rfl, rfl, rfl, rfl, rfl⟩

theorem Follows.append {divider : Divider} {nesting : Nesting} (follows : divider.Follows nesting)
    (chars : Text) : (divider.append chars).Follows (nesting.write chars) where
  scanned := by simp [Divider.append, follows.scanned]
  size := by simp [Divider.append, follows.size]
  bytes := by simp [Divider.append, follows.bytes]
  opened := by simp [Divider.append, follows.opened]
  blocks := by simp [Divider.append, follows.blocks]

theorem Follows.openBlock {divider : Divider} {nesting : Nesting}
    (follows : divider.Follows nesting) (before name rest : Text) :
    (divider.openBlock before name rest).Follows ((nesting.write before).openFrame name) := by
  have front := follows.append before
  have whole := front.append (Marker.mk .begins name).text
  constructor
  · rw [Nesting.outline_openFrame, ← Nesting.outline_write]
    exact whole.scanned
  · rw [Nesting.outline_openFrame, ← Nesting.outline_write]
    exact whole.size
  · rw [Nesting.outline_openFrame, ← Nesting.outline_write]
    exact whole.bytes
  · have stop := whole.size
    have opened := whole.opened
    rw [Nesting.outline_write] at stop
    rw [Nesting.waiting_write] at opened
    simp only [Divider.openBlock, Nesting.waiting_openFrame, Nesting.position, Frame.opening,
      front.size, front.bytes, stop, opened]
  · exact front.blocks

variable {divider : Divider} {nesting : Nesting} {frame : Frame} {outer : List Frame}

/-- What has been read since the innermost begin marker is the text of its frame. -/
theorem Follows.body (follows : divider.Follows nesting)
    (frames : nesting.frames = frame :: outer) :
    divider.body (Nesting.position (nesting.cutFrame frame outer).outline frame) = frame.text := by
  have size : divider.size - ((nesting.cutFrame frame outer).outline ++ frame.opening).length =
      frame.text.length := by
    rw [follows.size, Nesting.outline_eq_cutFrame frames]
    simp only [List.length_append]
    omega
  rw [Divider.body, Nesting.position, size, follows.scanned, Nesting.outline_eq_cutFrame frames]
  simp

/-- Going back to the innermost begin marker leaves what stands in front of its frame. -/
theorem Follows.retreat (follows : divider.Follows nesting)
    (frames : nesting.frames = frame :: outer) :
    (divider.retreat (Nesting.position (nesting.cutFrame frame outer).outline frame)).scanned =
      (nesting.cutFrame frame outer).outline.reverse := by
  have size : divider.size - (nesting.cutFrame frame outer).outline.length =
      (frame.opening ++ frame.text).length := by
    rw [follows.size, Nesting.outline_eq_cutFrame frames]
    simp only [List.length_append]
    omega
  rw [Divider.retreat, Nesting.position, size, follows.scanned, Nesting.outline_eq_cutFrame frames,
    List.reverse_append, ← List.length_reverse, List.drop_left]

/-- A block is cut where its frame is closed. -/
theorem Follows.cut (follows : divider.Follows nesting) (before rest : Text)
    (frames : (nesting.write before).frames = frame :: outer) :
    (divider.cut (Nesting.position ((nesting.write before).cutFrame frame outer).outline frame)
        ((nesting.write before).cutFrame frame outer).waiting before rest).Follows
      ((nesting.write before).closeFrame Block.placeholder frame outer) := by
  have whole := follows.append before
  have blocks : divider.blocks ++ [⟨frame.name, frame.text⟩] =
      ((nesting.write before).cutFrame frame outer).blocks := by
    rw [follows.blocks, Nesting.cutFrame, Nesting.blocks_write]
  have left : Follows { (divider.append before).retreat
      (Nesting.position ((nesting.write before).cutFrame frame outer).outline frame) with
        rest := rest
        opened := ((nesting.write before).cutFrame frame outer).waiting
        blocks := divider.blocks ++ [⟨frame.name, frame.text⟩] }
      ((nesting.write before).cutFrame frame outer) :=
    ⟨whole.retreat frames, rfl, rfl, rfl, blocks⟩
  have cut := left.append (Name.placeholder frame.name)
  rw [← whole.body frames] at cut
  exact cut

/-- An end marker that closes nothing is written. -/
theorem Follows.leave (follows : divider.Follows nesting) (before name rest : Text) :
    (divider.leave before name rest).Follows
      ((nesting.write before).write (Marker.mk .ends name).text) := by
  have whole := (follows.append before).append (Marker.mk .ends name).text
  exact ⟨whole.scanned, whole.size, whole.bytes, whole.opened, whole.blocks⟩

theorem meet_end {opening : OpenMarker} {outer : List OpenMarker} {before rest : Text}
    (opened : divider.opened = opening :: outer) :
    divider.meet ⟨before, ⟨.ends, opening.name⟩, rest⟩ =
      divider.cut opening outer before rest := by
  simp [Divider.meet, opened]

theorem meet_end_of_ne {before name rest : Text}
    (other : divider.opened.head?.map OpenMarker.name ≠ some name) :
    divider.meet ⟨before, ⟨.ends, name⟩, rest⟩ = divider.leave before name rest := by
  cases opened : divider.opened <;> simp_all [Divider.meet]

/-- A marker does the same to both. -/
theorem Follows.meet (follows : divider.Follows nesting) (found : FoundMarker) :
    (divider.meet found).Follows
      ((nesting.write found.before).step Block.placeholder (.mark found.marker)) := by
  obtain ⟨before, marker, rest⟩ := found
  have opened : divider.opened = (nesting.write before).waiting := (follows.append before).opened
  obtain ⟨name, rfl⟩ | ⟨frame, outer, frames, rfl⟩ | ⟨name, other, rfl⟩ :=
    (nesting.write before).mark_cases marker
  · exact follows.openBlock before name rest
  · rw [Nesting.waiting_eq_cutFrame frames] at opened
    rw [Nesting.step_end frames]
    exact (meet_end opened).symm ▸ follows.cut before rest frames
  · rw [Nesting.step_end_of_ne other]
    rw [← Nesting.waiting_head_name, ← opened] at other
    rw [meet_end_of_ne other]
    exact follows.leave before name rest

/-- A divider that has read all markers of its text has read what a nesting reads. -/
theorem Follows.run (follows : divider.Follows nesting) :
    (divider.run.append divider.run.rest).Follows
      ((Token.ofText divider.rest).foldl (Nesting.step Block.placeholder) nesting) := by
  induction divider using Divider.run.induct generalizing nesting with
  | case1 divider search =>
    rw [Divider.run]
    split
    · rw [Token.ofText_of_find?_eq_none search, Nesting.foldl_plain]
      exact follows.append divider.rest
    · next found => simp_all
  | case2 divider found search ih =>
    rw [Divider.run]
    split
    · simp_all
    · next other search' =>
      obtain rfl := Option.some.inj (search.symm.trans search')
      rw [Token.ofText_of_find?_eq_some search, List.foldl_append, Nesting.foldl_plain,
        List.foldl_cons, ← Divider.meet_rest found divider]
      exact ih (follows.meet found)

end Divider

/-! ## Dividing in one pass -/

/-- At the end a divider has read what the reading of the whole text has read. -/
theorem follows_divide (text : Text) :
    ((Divider.start text).run.append (Divider.start text).run.rest).Follows
      (Nesting.reading Block.placeholder text) :=
  (Divider.follows_start text).run

theorem outline_divide (text : Text) :
    (divide text).outline = (Nesting.reading Block.placeholder text).outline := by
  have scanned := congrArg List.reverse (follows_divide text).scanned
  simpa [Divider.append, divide, Divider.finish, Divider.text] using scanned

theorem blocks_divide (text : Text) :
    (divide text).blocks = (Nesting.reading Block.placeholder text).blocks :=
  (follows_divide text).blocks

/-- The end marker of a block is one of the tokens. -/
theorem Nesting.mark_of_mem_blocks {stands : Block → Text} {tokens : List Token}
    {nesting : Nesting} {block : Block}
    (member : block ∈ (tokens.foldl (Nesting.step stands) nesting).blocks) :
    block ∈ nesting.blocks ∨ .mark ⟨.ends, block.name⟩ ∈ tokens := by
  induction tokens generalizing nesting with
  | nil => exact .inl member
  | cons token tokens ih =>
    rcases ih member with here | later
    · cases token with
      | plain c =>
        rw [step, blocks_write] at here
        exact .inl here
      | mark marker =>
        obtain ⟨name, rfl⟩ | ⟨frame, outer, frames, rfl⟩ | ⟨name, other, rfl⟩ :=
          nesting.mark_cases marker
        · exact .inl here
        · rw [step_end frames, closeFrame, blocks_write, cutFrame, List.mem_append,
            List.mem_singleton] at here
          rcases here with old | rfl
          · exact .inl old
          · exact .inr List.mem_cons_self
        · rw [step_end_of_ne other, blocks_write] at here
          exact .inl here
    · exact .inr (List.mem_cons_of_mem _ later)

/-- Every block that is cut has a block name. -/
theorem isBlock_of_mem_divide {text : Text} {block : Block}
    (member : block ∈ (divide text).blocks) :
    Name.isBlock block.name = true := by
  rw [blocks_divide] at member
  rcases Nesting.mark_of_mem_blocks member with none | mark
  · cases none
  · exact (Token.leftmost_ofText text).named _ mark

/-- Dividing in place gives what one pass over the tokens of the text gives, the
tokens being its leftmost markers and the characters between them. -/
theorem divide_eq_reading (text : Text) :
    Token.Leftmost text (Token.ofText text) ∧
      (divide text).outline = (Nesting.reading Block.placeholder text).outline ∧
      (divide text).blocks = (Nesting.reading Block.placeholder text).blocks :=
  ⟨Token.leftmost_ofText text, outline_divide text, blocks_divide text⟩

end PageTemplates
