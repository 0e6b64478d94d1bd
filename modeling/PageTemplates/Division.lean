import PageTemplates.Marker

/-!
# Division

Dividing a template cuts every block out of the text around it and leaves the
placeholder of its name behind.  Blocks nest: an inner block is cut first, so
the body of the outer one holds the placeholder of the inner one.

The text is rewritten as it is read.  `Divider` is the text cut at the reading
position, with the begin markers that are still open and what has been found so
far.  An end marker that names the innermost open block cuts that block.  Any
other end marker stays and is reported, and so are the begin markers that are
still open at the end.

Positions of open markers count the characters in front of them.  Warnings show
positions in bytes.  The part that has been read is kept last character first,
together with its size, so a block is cut from the end of it.
-/

namespace PageTemplates

/-- A block cut out of a template. -/
structure Block where
  /-- The name in its markers. -/
  name : Text
  /-- The text between the markers, inner blocks already cut. -/
  body : Text
  deriving DecidableEq, Repr

/-- What stands in place of a block. -/
def Block.placeholder (block : Block) : Text := Name.placeholder block.name

/-- What stands in place of a block of any name, which `upperCase` takes to upper case character by
character.  It is the placeholder if the name is a block name. -/
def Block.placeholderBy (upperCase : Char → Text) (block : Block) : Text :=
  '{' :: block.name.flatMap upperCase ++ ['}']

/-- Why a marker stayed in the text. -/
inductive MarkerFault where
  /-- It ends a block that is not the innermost open one. -/
  | unmatchedEnd
  /-- It begins a block that is never ended. -/
  | unclosedBegin
  deriving DecidableEq, Repr

/-- The wording of a fault. -/
def MarkerFault.message : MarkerFault → Text
  | .unmatchedEnd => "unmatched block end marker".toList
  | .unclosedBegin => "unclosed block begin marker".toList

/-- A marker that stayed in the text. -/
structure MarkerWarning where
  /-- Why it stayed. -/
  fault : MarkerFault
  block : Text
  /-- Where it starts, in bytes from the start of the text as rewritten by then. -/
  offset : Nat
  deriving DecidableEq, Repr

/-- A divided template. -/
structure Division where
  /-- The text with a placeholder in place of each outermost block. -/
  outline : Text
  /-- The blocks in the order of their end markers. -/
  blocks : List Block
  /-- The markers that stayed. -/
  warnings : List MarkerWarning
  deriving DecidableEq, Repr

/-- The first block of a name. -/
def Division.block? (name : Text) (division : Division) : Option Block :=
  division.blocks.find? fun block => block.name = name

/-- A begin marker that waits for its end marker. -/
structure OpenMarker where
  name : Text
  /-- How many characters stand in front of it. -/
  start : Nat
  /-- How many characters stand in front of its body. -/
  stop : Nat
  /-- How many bytes stand in front of it. -/
  offset : Nat
  deriving DecidableEq, Repr

/-- A template on its way to being divided. -/
structure Divider where
  /-- The part that has been read, blocks already replaced, last character first. -/
  scanned : Text
  /-- How many characters that part has. -/
  size : Nat
  /-- How many bytes that part has. -/
  bytes : Nat
  rest : Text
  /-- The begin markers that wait, innermost first. -/
  opened : List OpenMarker
  blocks : List Block
  /-- The end markers that stayed so far. -/
  warnings : List MarkerWarning
  deriving Repr

namespace Divider

/-- Nothing has been read. -/
def start (text : Text) : Divider := ⟨[], 0, 0, text, [], [], []⟩

/-- The whole text as it is now. -/
def text (divider : Divider) : Text := divider.scanned.reverse ++ divider.rest

/-- Adds to the end of the part that has been read. -/
def append (chars : Text) (divider : Divider) : Divider :=
  { divider with
    scanned := chars.reverse ++ divider.scanned
    size := divider.size + chars.length
    bytes := divider.bytes + Text.utf8Length chars }

/-- Reads a begin marker behind the text `before`. -/
def openBlock (before name rest : Text) (divider : Divider) : Divider :=
  let front := divider.append before
  let whole := front.append (Marker.mk .begins name).text
  { whole with
    rest := rest
    opened := ⟨name, front.size, whole.size, front.bytes⟩ :: whole.opened }

/-- What has been read behind an open begin marker. -/
def body (opening : OpenMarker) (divider : Divider) : Text :=
  (divider.scanned.take (divider.size - opening.stop)).reverse

/-- Forgets what has been read from an open begin marker on. -/
def retreat (opening : OpenMarker) (divider : Divider) : Divider :=
  { divider with
    scanned := divider.scanned.drop (divider.size - opening.start)
    size := opening.start
    bytes := opening.offset }

/-- Cuts the block between an open begin marker and the end marker just read. -/
def cut (opening : OpenMarker) (outer : List OpenMarker) (before rest : Text)
    (divider : Divider) : Divider :=
  let whole := divider.append before
  { (whole.retreat opening).append (Name.placeholder opening.name) with
    rest := rest
    opened := outer
    blocks := divider.blocks ++ [⟨opening.name, whole.body opening⟩] }

/-- Leaves an end marker in the text and reports it. -/
def leave (before name rest : Text) (divider : Divider) : Divider :=
  let front := divider.append before
  { front.append (Marker.mk .ends name).text with
    rest := rest
    warnings := divider.warnings ++ [⟨.unmatchedEnd, name, front.bytes⟩] }

/-- Reads the marker found next. -/
def meet (found : FoundMarker) (divider : Divider) : Divider :=
  match found.marker.kind with
  | .begins => divider.openBlock found.before found.marker.name found.rest
  | .ends =>
    match divider.opened with
    | opening :: outer =>
      if opening.name = found.marker.name then divider.cut opening outer found.before found.rest
      else divider.leave found.before found.marker.name found.rest
    | [] => divider.leave found.before found.marker.name found.rest

@[simp] theorem meet_rest (found : FoundMarker) (divider : Divider) :
    (divider.meet found).rest = found.rest := by
  unfold meet
  split
  · rfl
  · split
    · split <;> rfl
    · rfl

/-- Reads on until no marker is left. -/
def run (divider : Divider) : Divider :=
  match _search : Marker.find? divider.rest with
  | none => divider
  | some found => (divider.meet found).run
termination_by divider.rest.length
decreasing_by simpa using Marker.rest_length_of_find? _search

/-- The warnings for the begin markers that still wait, outermost first. -/
def unclosed (divider : Divider) : List MarkerWarning :=
  divider.opened.reverse.map fun opening =>
    ⟨.unclosedBegin, opening.name, opening.offset⟩

/-- The division reached when all has been read. -/
def finish (divider : Divider) : Division :=
  ⟨divider.text, divider.blocks, divider.warnings ++ divider.unclosed⟩

end Divider

/-- Divides a template into its outline and its blocks. -/
def divide (text : Text) : Division := (Divider.start text).run.finish

end PageTemplates
