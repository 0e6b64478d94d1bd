import PageTemplates.Division

/-!
# Block listings

The listing of a divided template names its blocks with the depth at which they
stand.  A block stands in a text if its placeholder occurs there.  Blocks of
one text are listed in the order of their first occurrence, each followed by
the blocks in its own body.

A body may hold the placeholder of a block around it, or of the block itself.
A block whose name is already on the way down is not listed again, and that
bounds the depth: `Listing.collectBy` goes down with the blocks whose names are
not yet on the way.

How a placeholder is spelled depends on the case map only for names that are no
block names, and no template has such blocks.  So the map is a parameter in
`Listing.ofDivisionBy`, which lists any division, and none in
`Listing.ofDivision`, which lists the division of a template.

A listing is printed as indented lines or as a list of records.
-/

namespace PageTemplates

/-- A line of a listing. -/
structure ListingEntry where
  name : Text
  /-- How many blocks it stands in. -/
  depth : Nat
  deriving DecidableEq, Repr

/-- The forms a listing is printed in. -/
inductive ListingFormat where
  /-- One indented line for each block. -/
  | text
  | json
  deriving DecidableEq, Repr

namespace Listing

/-- The blocks that stand in a text, each with the position of its placeholder. -/
def occurrencesBy (spell : Block → Text) (free : List Block) (text : Text) : List (Nat × Block) :=
  free.filterMap fun block => (Text.position? (spell block) text).map fun place => (place, block)

/-- Drops every block that follows one of the same name.  `last` is the name in front. -/
def dropRepeats : (last : Option Text) → List Block → List Block
  | _, [] => []
  | last, block :: rest =>
    if last = some block.name then dropRepeats last rest
    else block :: dropRepeats (some block.name) rest

/-- The blocks that stand in a text in the order of their placeholders, each name once. -/
def childrenBy (spell : Block → Text) (free : List Block) (text : Text) : List Block :=
  dropRepeats none
    (((occurrencesBy spell free text).mergeSort fun a b => decide (a.1 ≤ b.1)).map Prod.snd)

/-- The blocks of other names. -/
def without (name : Text) (free : List Block) : List Block :=
  free.filter fun block => block.name ≠ name

theorem dropRepeats_sublist (last : Option Text) (blocks : List Block) :
    (dropRepeats last blocks).Sublist blocks := by
  induction blocks generalizing last with
  | nil => exact List.Sublist.slnil
  | cons block rest ih =>
    simp only [dropRepeats]
    split
    · exact (ih last).cons block
    · exact (ih _).cons_cons block

theorem mem_occurrencesBy {spell : Block → Text} {free : List Block} {text : Text}
    {entry : Nat × Block} : entry ∈ occurrencesBy spell free text ↔
      entry.2 ∈ free ∧ Text.position? (spell entry.2) text = some entry.1 := by
  simp only [occurrencesBy, List.mem_filterMap, Option.map_eq_some_iff]
  constructor
  · rintro ⟨block, member, place, found, rfl⟩
    exact ⟨member, found⟩
  · rintro ⟨member, found⟩
    exact ⟨entry.2, member, entry.1, found, rfl⟩

/-- A block that is listed below a text is found in it. -/
theorem exists_position_of_mem_childrenBy {spell : Block → Text} {free : List Block} {text : Text}
    {block : Block} (member : block ∈ childrenBy spell free text) :
    ∃ place, block ∈ free ∧ Text.position? (spell block) text = some place := by
  have listed := (dropRepeats_sublist _ _).subset member
  simp only [List.mem_map, List.mem_mergeSort] at listed
  obtain ⟨entry, placed, rfl⟩ := listed
  exact ⟨entry.1, mem_occurrencesBy.1 placed⟩

theorem mem_of_mem_childrenBy {spell : Block → Text} {free : List Block} {text : Text}
    {block : Block} (member : block ∈ childrenBy spell free text) : block ∈ free :=
  (exists_position_of_mem_childrenBy member).elim fun _ found => found.1

theorem length_without_lt {free : List Block} {block : Block} (member : block ∈ free) :
    (without block.name free).length < free.length := by
  refine Nat.lt_of_le_of_ne (List.length_filter_le _ _) fun same => ?_
  have all := List.length_filter_eq_length_iff.1 same block member
  simp at all

/-- The listing of a text, going down with the blocks in `free`. -/
def collectBy (spell : Block → Text) (depth : Nat) (free : List Block) (text : Text) :
    List ListingEntry :=
  (childrenBy spell free text).attach.flatMap fun child =>
    ⟨child.1.name, depth⟩ ::
      collectBy spell (depth + 1) (without child.1.name free) child.1.body
termination_by free.length
decreasing_by exact length_without_lt (mem_of_mem_childrenBy child.2)

theorem collectBy_eq (spell : Block → Text) (depth : Nat) (free : List Block) (text : Text) :
    collectBy spell depth free text = (childrenBy spell free text).flatMap fun child =>
      ⟨child.name, depth⟩ :: collectBy spell (depth + 1) (without child.name free) child.body := by
  rw [collectBy]
  simp

/-- The listing of a division whose blocks may have any names, as `upperCase` takes them to upper
case. -/
def ofDivisionBy (upperCase : Char → Text) (division : Division) : List ListingEntry :=
  collectBy (Block.placeholderBy upperCase) 0 division.blocks division.outline

/-! ## Blocks of templates

The blocks that are cut out of a template have block names, and their
placeholders are those that are left in it.
-/

/-- The blocks that stand in a text, each with the position of its placeholder. -/
def occurrences (free : List Block) (text : Text) : List (Nat × Block) :=
  occurrencesBy Block.placeholder free text

/-- The blocks that stand in a text in the order of their placeholders, each name once. -/
def children (free : List Block) (text : Text) : List Block :=
  childrenBy Block.placeholder free text

/-- The listing of a text, going down with the blocks in `free`. -/
def collect (depth : Nat) (free : List Block) (text : Text) : List ListingEntry :=
  collectBy Block.placeholder depth free text

/-- The listing of a divided template. -/
def ofDivision (division : Division) : List ListingEntry :=
  collect 0 division.blocks division.outline

variable {free : List Block} {text : Text}

theorem mem_occurrences {entry : Nat × Block} : entry ∈ occurrences free text ↔
    entry.2 ∈ free ∧ Text.position? entry.2.placeholder text = some entry.1 := mem_occurrencesBy

theorem occurrences_eq (free : List Block) (text : Text) : occurrences free text =
    free.filterMap fun block =>
      (Text.position? block.placeholder text).map fun place => (place, block) := rfl

theorem children_eq (free : List Block) (text : Text) : children free text =
    dropRepeats none
      (((occurrences free text).mergeSort fun a b => decide (a.1 ≤ b.1)).map Prod.snd) := rfl

theorem mem_of_mem_children {block : Block} (member : block ∈ children free text) : block ∈ free :=
  mem_of_mem_childrenBy member

theorem collect_eq (depth : Nat) (free : List Block) (text : Text) :
    collect depth free text = (children free text).flatMap fun child =>
      ⟨child.name, depth⟩ :: collect (depth + 1) (without child.name free) child.body :=
  collectBy_eq Block.placeholder depth free text

/-! ## Printing -/

/-- The blanks in front of a line, two for each block around it.  They are counted in a machine
word. -/
def indent (depth : Nat) : Nat := 2 * depth % UInt64.size

/-- A block on a line of its own. -/
def line (entry : ListingEntry) : Text :=
  List.replicate (indent entry.depth) ' ' ++ entry.name ++ ['\n']

/-- A block as an indented record.  Block names need no escapes. -/
def recordText (entry : ListingEntry) : Text :=
  "  \x7b\n    \"name\": \"".toList ++ entry.name ++ "\",\n    \"depth\": ".toList ++
    Text.ofNat entry.depth ++ "\n  \x7d".toList

/-- A listing in one of the two forms. -/
def print (entries : List ListingEntry) : ListingFormat → Text
  | .text => entries.flatMap line
  | .json =>
    if entries.isEmpty then "[]\n".toList
    else "[\n".toList ++ Text.join ",\n".toList (entries.map recordText) ++ "\n]\n".toList

end Listing

end PageTemplates
