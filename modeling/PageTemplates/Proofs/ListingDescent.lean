import Mathlib.Data.Finset.Card
import PageTemplates.Proofs.ListingReach

/-!
# Listings end

A division may hold any blocks: bodies with the placeholders of blocks around
them, placeholders that stand for no cut block, several blocks of one name,
names that are no block names.  The listing goes from placeholder to placeholder
and not into smaller and smaller texts, so what ends it are the names on the way
down, however their placeholders are spelled.

`Listing.descend` goes down with the names on the way and gives up when too many
texts are open at once.  It never does if it is allowed one more text than there
are names (`Listing.descend_eq`).  `Listing.shown` is what it returns: the lines
of the listing, each with the block it shows.

The lines around a line can be found again by their depths (`Listing.around`).
`Listing.Arranged` says of a list of lines that this leads upwards through
different names to the text the descent began with, each placeholder standing in
the body of the line around it.  A line in front of arranged lines and arranged
lines side by side are arranged, which makes a listing so (`listing_bounded`).

This holds for every case map.  All that go on from the one for ASCII letters give
the listing of a template (`Listing.ofDivisionBy_divide`).
-/

namespace PageTemplates

namespace Listing

/-! ## Going down -/

/-- A line of a listing with the block it shows. -/
structure Line where
  block : Block
  /-- How many lines stand around it. -/
  depth : Nat
  deriving DecidableEq, Repr

/-- A line as it is listed. -/
def Line.entry (line : Line) : ListingEntry := ⟨line.block.name, line.depth⟩

/-- The blocks whose names are not on the way. -/
def offWay (way : List Text) (blocks : List Block) : List Block :=
  blocks.filter fun block => block.name ∉ way

/-- Goes down from a text below the names on the way, with at most `texts` texts open at once.
Nothing is returned if there would be more. -/
def descend (spell : Block → Text) (blocks : List Block) :
    (texts : Nat) → (way : List Text) → Text → Option (List Line)
  | 0, _, _ => none
  | texts + 1, way, text =>
    ((childrenBy spell (offWay way blocks) text).mapM fun child =>
      (descend spell blocks texts (child.name :: way) child.body).map fun below =>
        (⟨child, way.length⟩ : Line) :: below).map List.flatten

/-- The lines below a text, going down with the blocks in `free`. -/
def lines (spell : Block → Text) (depth : Nat) (free : List Block) (text : Text) : List Line :=
  (childrenBy spell free text).attach.flatMap fun child =>
    ⟨child.1, depth⟩ :: lines spell (depth + 1) (without child.1.name free) child.1.body
termination_by free.length
decreasing_by exact length_without_lt (mem_of_mem_childrenBy child.2)

/-- The lines of a listing. -/
def shown (upperCase : Char → Text) (division : Division) : List Line :=
  lines (Block.placeholderBy upperCase) 0 division.blocks division.outline

/-- The names of some blocks. -/
def names (blocks : List Block) : Finset Text := (blocks.map Block.name).toFinset

variable {spell : Block → Text} {free blocks : List Block} {text : Text} {depth : Nat}

theorem mem_names {name : Text} : name ∈ names blocks ↔ ∃ block ∈ blocks, block.name = name := by
  simp [names]

theorem lines_eq (spell : Block → Text) (depth : Nat) (free : List Block) (text : Text) :
    lines spell depth free text = (childrenBy spell free text).flatMap fun child =>
      ⟨child, depth⟩ :: lines spell (depth + 1) (without child.name free) child.body := by
  rw [lines]
  simp

/-- The lines are the entries of the listing. -/
theorem map_entry_lines (depth : Nat) (free : List Block) (text : Text) :
    (lines spell depth free text).map Line.entry = collectBy spell depth free text := by
  induction size : free.length using Nat.strongRecOn generalizing free text depth with
  | _ size ih =>
    rw [lines_eq, collectBy_eq, List.map_flatMap]
    refine List.flatMap_congr fun child member => ?_
    rw [List.map_cons, ih _ (size ▸ length_without_lt (mem_of_mem_childrenBy member)) _ _ _ rfl]
    rfl

theorem offWay_cons (name : Text) (way : List Text) (blocks : List Block) :
    offWay (name :: way) blocks = without name (offWay way blocks) := by
  simp [offWay, without, List.filter_filter]

/-- Below a block fewer names are left. -/
theorem card_names_without_lt {block : Block} (member : block ∈ free) :
    (names (without block.name free)).card < (names free).card := by
  refine Finset.card_lt_card (Finset.ssubset_iff_of_subset ?_ |>.2 ⟨block.name, ?_, ?_⟩)
  · intro name named
    obtain ⟨other, kept, rfl⟩ := mem_names.1 named
    exact mem_names.2 ⟨other, List.mem_of_mem_filter kept, rfl⟩
  · exact mem_names.2 ⟨block, member, rfl⟩
  · intro named
    obtain ⟨other, kept, same⟩ := mem_names.1 named
    exact absurd same (by simpa using (List.mem_filter.1 kept).2)

/-- A function that succeeds on every member of a list maps it. -/
theorem mapM_eq_some {α β : Type} {f : α → Option β} {g : α → β} {items : List α}
    (succeeds : ∀ item ∈ items, f item = some (g item)) : items.mapM f = some (items.map g) := by
  induction items with
  | nil => rfl
  | cons item items ih =>
    obtain ⟨first, others⟩ := List.forall_mem_cons.1 succeeds
    rw [List.mapM_cons, first, ih others]
    rfl

/-- The descent succeeds if it may open more texts than there are names off the way. -/
theorem descend_eq {texts : Nat} {way : List Text}
    (enough : (names (offWay way blocks)).card < texts) (text : Text) :
    descend spell blocks texts way text =
      some (lines spell way.length (offWay way blocks) text) := by
  induction texts generalizing way text with
  | zero => exact absurd enough (Nat.not_lt_zero _)
  | succ texts ih =>
    have below : ∀ child ∈ childrenBy spell (offWay way blocks) text,
        (descend spell blocks texts (child.name :: way) child.body).map
            (fun below => (⟨child, way.length⟩ : Line) :: below) =
          some (⟨child, way.length⟩ ::
            lines spell (way.length + 1) (without child.name (offWay way blocks)) child.body) := by
      intro child member
      have fewer := card_names_without_lt (mem_of_mem_childrenBy member)
      rw [← offWay_cons] at fewer ⊢
      rw [ih (by omega), List.length_cons]
      rfl
    rw [descend, mapM_eq_some below, lines_eq, List.flatMap]
    rfl

/-! ## The lines around a line -/

/-- The lines around a line of this depth, innermost first.  `above` are the lines above it, the
nearest first. -/
def around : (depth : Nat) → (above : List Line) → List Line
  | 0, _ => []
  | _ + 1, [] => []
  | depth + 1, line :: above =>
    if line.depth = depth then line :: around depth above else around (depth + 1) above

/-- The text in which the placeholder of a line stands, given the lines around it. -/
def textAround (text : Text) : (lines : List Line) → Text
  | [] => text
  | parent :: _ => parent.block.body

theorem around_nil (depth : Nat) : around depth [] = [] := by cases depth <;> rfl

theorem around_append (depth : Nat) (near far : List Line) :
    around depth (near ++ far) =
      around depth near ++ around (depth - (around depth near).length) far := by
  induction near generalizing depth with
  | nil => simp [around_nil]
  | cons line near ih =>
    cases depth with
    | zero => simp [around]
    | succ depth =>
      rw [List.cons_append, around, around]
      split
      · rw [ih, List.length_cons, Nat.add_sub_add_right, List.cons_append]
      · exact ih (depth + 1)

/-- Lines as deep as a line do not stand around it. -/
theorem around_eq_nil {above : List Line} (deep : ∀ line ∈ above, depth ≤ line.depth) :
    around depth above = [] := by
  induction above with
  | nil => exact around_nil depth
  | cons line above ih =>
    cases depth with
    | zero => rfl
    | succ depth =>
      obtain ⟨here, later⟩ := List.forall_mem_cons.1 deep
      rw [around, if_neg (by omega)]
      exact ih later

theorem textAround_append (text : Text) (near : List Line) (outermost : Line) :
    textAround text (near ++ [outermost]) = textAround outermost.block.body near := by
  cases near <;> rfl

/-- What holds of a line below a text, given the lines above it.  Those around it lead to the text
in as many steps as it is deep, with a new name at each. -/
structure Fitting (spell : Block → Text) (depth : Nat) (free : List Block) (text : Text)
    (above : List Line) (line : Line) : Prop where
  steps : (around line.depth above).length + depth = line.depth
  known : ∀ other ∈ line :: around line.depth above, other.block ∈ free
  apart : ((line :: around line.depth above).map fun other => other.block.name).Nodup
  stands : spell line.block <:+: textAround text (around line.depth above)

/-- Every line fits below the text. -/
def Arranged (spell : Block → Text) (depth : Nat) (free : List Block) (text : Text)
    (lines : List Line) : Prop :=
  ∀ above line below, lines = above ++ line :: below →
    Fitting spell depth free text above.reverse line

theorem arranged_nil : Arranged spell depth free text [] := by
  intro above line below split
  simp at split

theorem Arranged.le_depth {lines : List Line} (arranged : Arranged spell depth free text lines)
    {line : Line} (member : line ∈ lines) : depth ≤ line.depth := by
  obtain ⟨above, below, split⟩ := List.append_of_mem member
  exact Nat.le.intro ((Nat.add_comm _ _).trans (arranged above line below split).steps)

/-- Lines as deep as the first ones add nothing to what stands around the later ones. -/
theorem Arranged.append {first second : List Line} (arranged : Arranged spell depth free text first)
    (later : Arranged spell depth free text second) :
    Arranged spell depth free text (first ++ second) := by
  intro above line below split
  have behind : ∀ gap, second = gap ++ line :: below →
      Fitting spell depth free text (first ++ gap).reverse line := by
    intro gap rest
    obtain ⟨steps, known, apart, stands⟩ := later gap line below rest
    have far : around (line.depth - (around line.depth gap.reverse).length) first.reverse = [] := by
      refine around_eq_nil fun other member => ?_
      have deep := arranged.le_depth (List.mem_reverse.1 member)
      omega
    have same : around line.depth (first ++ gap).reverse = around line.depth gap.reverse := by
      rw [List.reverse_append, around_append, far, List.append_nil]
    constructor <;> rwa [same]
  rcases List.append_eq_append_iff.1 split with ⟨gap, rfl, rest⟩ | ⟨gap, rfl, rest⟩
  · exact behind gap rest
  · cases gap with
    | nil => simpa using behind [] rest.symm
    | cons other gap =>
      obtain ⟨rfl, -⟩ := List.cons.inj rest
      exact arranged above line gap rfl

/-- The lines below the body of a block stand below its own line. -/
theorem Arranged.cons {child : Block} {lines : List Line} (member : child ∈ free)
    (stands : spell child <:+: text)
    (arranged : Arranged spell (depth + 1) (without child.name free) child.body lines) :
    Arranged spell depth free text (⟨child, depth⟩ :: lines) := by
  intro above line below split
  cases above with
  | nil =>
    obtain ⟨rfl, -⟩ := List.cons.inj split
    constructor <;> simp [around_nil, textAround, member, stands]
  | cons top above =>
    obtain ⟨rfl, rest⟩ := List.cons.inj split
    obtain ⟨steps, known, apart, within⟩ := arranged above line below rest
    have outermost : around line.depth (⟨child, depth⟩ :: above).reverse =
        around line.depth above.reverse ++ [⟨child, depth⟩] := by
      have left : line.depth - (around line.depth above.reverse).length = depth + 1 := by omega
      rw [List.reverse_cons, around_append, left, around, if_pos rfl, around_nil]
    constructor
    · rw [outermost, List.length_append, List.length_singleton]
      omega
    · rw [outermost, ← List.cons_append]
      refine List.forall_mem_append.2 ⟨fun other near => ?_, by simpa using member⟩
      exact List.mem_of_mem_filter (known other near)
    · rw [outermost, ← List.cons_append, List.map_append, List.nodup_append]
      refine ⟨apart, List.nodup_singleton _, ?_⟩
      rintro name near _ top rfl
      obtain ⟨other, member, rfl⟩ := List.mem_map.1 near
      have differs := (List.mem_filter.1 (known other member)).2
      rw [List.map_singleton, List.mem_singleton] at top
      simp [top] at differs
    · rw [outermost, textAround_append]
      exact within

theorem stands_of_mem_childrenBy {child : Block} (member : child ∈ childrenBy spell free text) :
    spell child <:+: text := by
  obtain ⟨place, -, found⟩ := exists_position_of_mem_childrenBy member
  exact Text.isSome_position?_iff.1 (Option.isSome_iff_exists.2 ⟨place, found⟩)

/-- Placeholders that stand in the order of the blocks need no sorting. -/
theorem childrenBy_of_sorted
    (sorted : (occurrencesBy spell free text).Pairwise fun a b => decide (a.1 ≤ b.1) = true) :
    childrenBy spell free text = dropRepeats none ((occurrencesBy spell free text).map Prod.snd) := by
  rw [childrenBy, List.mergeSort_of_pairwise sorted]

/-- Nothing is listed below a text without placeholders. -/
theorem lines_of_no_occurrence (nothing : occurrencesBy spell free text = []) :
    lines spell depth free text = [] := by
  rw [lines_eq, childrenBy_of_sorted (by rw [nothing]; exact .nil), nothing]
  rfl

/-- The lines below a text are arranged, those of each child behind those of the last. -/
theorem arranged_lines (depth : Nat) (free : List Block) (text : Text) :
    Arranged spell depth free text (lines spell depth free text) := by
  induction size : free.length using Nat.strongRecOn generalizing free text depth with
  | _ size ih =>
    have each : ∀ child ∈ childrenBy spell free text, Arranged spell depth free text
        (⟨child, depth⟩ :: lines spell (depth + 1) (without child.name free) child.body) := by
      intro child listed
      have member := mem_of_mem_childrenBy listed
      exact .cons member (stands_of_mem_childrenBy listed)
        (ih _ (size ▸ length_without_lt member) _ _ _ rfl)
    rw [lines_eq]
    revert each
    generalize childrenBy spell free text = pending
    intro each
    induction pending with
    | nil => exact arranged_nil
    | cons child pending further =>
      obtain ⟨first, others⟩ := List.forall_mem_cons.1 each
      exact first.append (further others)

/-! ## Case maps -/

theorem childrenBy_congr {other : Block → Text} (same : ∀ block ∈ free, spell block = other block)
    (text : Text) : childrenBy spell free text = childrenBy other free text := by
  have places : occurrencesBy spell free text = occurrencesBy other free text :=
    List.filterMap_congr fun block member => by rw [same block member]
  rw [childrenBy, childrenBy, places]

theorem collectBy_congr {other : Block → Text} (same : ∀ block ∈ free, spell block = other block)
    (depth : Nat) (text : Text) :
    collectBy spell depth free text = collectBy other depth free text := by
  induction size : free.length using Nat.strongRecOn generalizing free text depth with
  | _ size ih =>
    rw [collectBy_eq, collectBy_eq, childrenBy_congr same]
    refine List.flatMap_congr fun child listed => congrArg _ ?_
    exact ih _ (size ▸ length_without_lt (mem_of_mem_childrenBy listed))
      (fun block member => same block (List.mem_of_mem_filter member)) _ _ rfl

/-- All case maps that go on from the one for ASCII letters list a template alike. -/
theorem ofDivisionBy_divide {upperCase : Char → Text} (goesOn : Name.IsUpperCase upperCase)
    (text : Text) : ofDivisionBy upperCase (divide text) = ofDivision (divide text) := by
  refine collectBy_congr (fun block member => ?_) 0 _
  rw [Block.placeholderBy, Name.flatMap_upperCase goesOn (isBlock_of_mem_divide member)]
  rfl

end Listing

/-- A listing ends, however the blocks refer to each other and whatever their names are in upper
case: at most one text more is open at once than there are names.  On the way to each line all names
are different, there are as many lines around it as it is deep, fewer than there are names, and the
placeholder of its block stands in the body of the innermost of them, or in the outline if there are
none. -/
theorem listing_bounded (upperCase : Char → Text) (division : Division) :
    (∀ texts, (Listing.names division.blocks).card < texts →
      Listing.descend (Block.placeholderBy upperCase) division.blocks texts [] division.outline =
        some (Listing.shown upperCase division)) ∧
    (Listing.shown upperCase division).map Listing.Line.entry =
      Listing.ofDivisionBy upperCase division ∧
    ∀ above line below, Listing.shown upperCase division = above ++ line :: below →
      let parents := Listing.around line.depth above.reverse
      ((line :: parents).map fun other => other.block.name).Nodup ∧
        parents.length = line.depth ∧ line.depth < (Listing.names division.blocks).card ∧
        line.block ∈ division.blocks ∧
        line.block.placeholderBy upperCase <:+: Listing.textAround division.outline parents := by
  refine ⟨fun texts enough => ?_, Listing.map_entry_lines _ _ _, ?_⟩
  · have all : Listing.offWay [] division.blocks = division.blocks := by simp [Listing.offWay]
    have ended := @Listing.descend_eq (Block.placeholderBy upperCase) division.blocks texts []
      (by rwa [all]) division.outline
    rwa [all] at ended
  · intro above line below split parents
    obtain ⟨steps, known, apart, stands⟩ := Listing.arranged_lines _ _ _ above line below split
    refine ⟨apart, steps, ?_, known line List.mem_cons_self, stands⟩
    have listed : ((line :: parents).map fun other => other.block.name).toFinset ⊆
        Listing.names division.blocks := by
      intro name listed
      obtain ⟨other, member, rfl⟩ := List.mem_map.1 (List.mem_toFinset.1 listed)
      exact Listing.mem_names.2 ⟨other.block, known other member, rfl⟩
    have few := Finset.card_le_card listed
    rw [List.toFinset_card_of_nodup apart, List.length_map, List.length_cons] at few
    have length : parents.length = line.depth := steps
    omega

/-- A case map that has an accented letter, too. -/
def accentedCase (c : Char) : Text := if c = 'é' then ['É'] else [c.toUpper]

/-- Two blocks that stand in each other and in themselves, another one with the name of the second,
and one whose name is an accented letter. -/
def circlingForm : Division where
  outline := "\x7bB\x7d\x7bA\x7d\x7bÉ\x7d".toList
  blocks := [⟨['b'], "\x7bB\x7d\x7bA\x7d".toList⟩, ⟨['a'], "\x7bA\x7d\x7bB\x7d".toList⟩,
    ⟨['a'], "\x7bB\x7d".toList⟩, ⟨['é'], "\x7bÉ\x7d".toList⟩]
  warnings := []

theorem listing_bounded_circlingForm :
    let first : Block := ⟨['b'], "\x7bB\x7d\x7bA\x7d".toList⟩
    let second : Block := ⟨['a'], "\x7bA\x7d\x7bB\x7d".toList⟩
    let accented : Block := ⟨['é'], "\x7bÉ\x7d".toList⟩
    (Listing.names circlingForm.blocks).card = 3 ∧
      Listing.descend (Block.placeholderBy accentedCase) circlingForm.blocks 4 []
        circlingForm.outline = some (Listing.shown accentedCase circlingForm) ∧
      Listing.shown accentedCase circlingForm =
        [⟨first, 0⟩] ++ ⟨second, 1⟩ :: [⟨second, 0⟩, ⟨first, 1⟩, ⟨accented, 0⟩] ∧
      Listing.ofDivisionBy accentedCase circlingForm =
        [⟨['b'], 0⟩, ⟨['a'], 1⟩, ⟨['a'], 0⟩, ⟨['b'], 1⟩, ⟨['é'], 0⟩] ∧
      1 < (Listing.names circlingForm.blocks).card ∧
      second.placeholderBy accentedCase <:+: first.body := by
  intro first second accented
  obtain ⟨ends, entries, lines⟩ := listing_bounded accentedCase circlingForm
  -- What stands in each text, with the names on the way left out.
  have outermost : Listing.childrenBy (Block.placeholderBy accentedCase) circlingForm.blocks
      circlingForm.outline = [first, second, accented] :=
    (Listing.childrenBy_of_sorted (by decide)).trans rfl
  have inFirst : Listing.lines (Block.placeholderBy accentedCase) 1
      (Listing.without ['b'] circlingForm.blocks) first.body = [⟨second, 1⟩] := by
    have below : Listing.childrenBy (Block.placeholderBy accentedCase)
        (Listing.without ['b'] circlingForm.blocks) first.body = [second] :=
      (Listing.childrenBy_of_sorted (by decide)).trans rfl
    rw [Listing.lines_eq, below, List.flatMap_singleton]
    exact congrArg _ (Listing.lines_of_no_occurrence (by decide))
  have inSecond : Listing.lines (Block.placeholderBy accentedCase) 1
      (Listing.without ['a'] circlingForm.blocks) second.body = [⟨first, 1⟩] := by
    have below : Listing.childrenBy (Block.placeholderBy accentedCase)
        (Listing.without ['a'] circlingForm.blocks) second.body = [first] :=
      (Listing.childrenBy_of_sorted (by decide)).trans rfl
    rw [Listing.lines_eq, below, List.flatMap_singleton]
    exact congrArg _ (Listing.lines_of_no_occurrence (by decide))
  have inAccented : Listing.lines (Block.placeholderBy accentedCase) 1
      (Listing.without ['é'] circlingForm.blocks) accented.body = [] :=
    Listing.lines_of_no_occurrence (by decide)
  have shown : Listing.shown accentedCase circlingForm =
      [⟨first, 0⟩] ++ ⟨second, 1⟩ :: [⟨second, 0⟩, ⟨first, 1⟩, ⟨accented, 0⟩] := by
    rw [Listing.shown, Listing.lines_eq, outermost, List.flatMap_cons, List.flatMap_cons,
      List.flatMap_singleton, inFirst, inSecond, inAccented]
    rfl
  obtain ⟨-, -, few, -, stands⟩ := lines _ _ _ shown
  exact ⟨by decide, ends 4 (by decide), shown, by rw [← entries, shown]; rfl, few, stands⟩

end PageTemplates
