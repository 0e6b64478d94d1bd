import PageTemplates.Proofs.Preorder

/-!
# What a listing reaches

A listing starts from the outline and goes down into bodies.  Of several blocks
with one name it takes the first, so what stands only in a later one may be
missed.  `Listing.Reaches` says which names are reached in this way, and the
listing names exactly these (`Listing.mem_collect_iff`).  The listing never goes
into a name twice on one way, and it need not: a name that is reached can be
reached without coming back to the name the way starts with
(`Listing.Reaches.first_step`).

Every block that a division cuts stands in the outline or in the body of a block
that is cut later (`stands_divide`).  So a listing of a division is complete
exactly if what stands in the later blocks of a name is reached in another way
(`listing_complete_iff`).
-/

namespace PageTemplates

/-! ## Every block stands somewhere -/

namespace Nesting

/-- A word stands outside of all frames or in one of them. -/
def Holds (word : Text) (nesting : Nesting) : Prop :=
  word <:+: nesting.outside ∨ ∃ frame ∈ nesting.frames, word <:+: frame.text

/-- Every block that has been cut stands in a block that was cut later, or in what is not cut. -/
def Settled (nesting : Nesting) : Prop :=
  ∀ before inner after, nesting.blocks = before ++ inner :: after →
    nesting.Holds inner.placeholder ∨ ∃ outer ∈ after, inner.placeholder <:+: outer.body

variable {nesting : Nesting} {word : Text}

theorem Holds.write (holds : nesting.Holds word) (chars : Text) :
    (nesting.write chars).Holds word := by
  obtain ⟨outside, frames, blocks⟩ := nesting
  rcases holds with outermost | ⟨frame, member, inside⟩
  · cases frames with
    | nil => exact .inl (outermost.trans (List.prefix_append _ _).isInfix)
    | cons innermost outer => exact .inl outermost
  · cases frames with
    | nil => cases member
    | cons innermost outer =>
      rcases List.mem_cons.1 member with rfl | further
      · exact .inr ⟨_, List.mem_cons_self, inside.trans (List.prefix_append _ _).isInfix⟩
      · exact .inr ⟨frame, List.mem_cons_of_mem _ further, inside⟩

theorem holds_write (word : Text) (nesting : Nesting) : (nesting.write word).Holds word := by
  obtain ⟨outside, frames, blocks⟩ := nesting
  cases frames with
  | nil => exact .inl (List.suffix_append _ _).isInfix
  | cons innermost outer =>
    exact .inr ⟨_, List.mem_cons_self, (List.suffix_append _ _).isInfix⟩

theorem Holds.outline (holds : nesting.Holds word) : word <:+: nesting.outline := by
  obtain ⟨outside, frames, blocks⟩ := nesting
  show word <:+: flatten outside frames
  rcases holds with outermost | ⟨frame, member, inside⟩
  · refine List.IsInfix.trans outermost ?_
    clear outermost
    induction frames with
    | nil => exact List.infix_rfl
    | cons innermost outer ih => exact ih.trans (List.prefix_append _ _).isInfix
  · induction frames with
    | nil => cases member
    | cons innermost outer ih =>
      rcases List.mem_cons.1 member with rfl | further
      · refine inside.trans (List.IsInfix.trans ?_ (List.suffix_append _ _).isInfix)
        exact (List.suffix_append _ _).isInfix
      · exact (ih further).trans (List.prefix_append _ _).isInfix

theorem Settled.write (settled : nesting.Settled) (chars : Text) :
    (nesting.write chars).Settled := by
  intro before inner after split
  rw [blocks_write] at split
  exact (settled before inner after split).imp_left fun holds => holds.write chars

/-- A frame that is closed is the last block, and it holds what the frame held. -/
theorem Settled.closeFrame {frame : Frame} {outer : List Frame} (settled : nesting.Settled)
    (frames : nesting.frames = frame :: outer) :
    (nesting.closeFrame Block.placeholder frame outer).Settled := by
  intro before inner after split
  rw [Nesting.closeFrame, blocks_write, cutFrame] at split
  rcases List.eq_nil_or_concat after with rfl | ⟨front, last, rfl⟩
  · obtain ⟨-, same⟩ := List.append_inj' split rfl
    obtain rfl := (List.cons.inj same).1
    exact .inl (holds_write _ _)
  · rw [List.concat_eq_append, ← List.cons_append, ← List.append_assoc] at split
    obtain ⟨old, same⟩ := List.append_inj' split rfl
    obtain rfl := (List.cons.inj same).1
    rcases settled before inner front old with (outermost | ⟨holder, member, inside⟩) |
      ⟨later, member, inside⟩
    · have kept : (nesting.cutFrame frame outer).Holds inner.placeholder := .inl outermost
      exact .inl (kept.write _)
    · rw [frames] at member
      rcases List.mem_cons.1 member with rfl | further
      · exact .inr ⟨⟨holder.name, holder.text⟩, by simp, inside⟩
      · have kept : (nesting.cutFrame frame outer).Holds inner.placeholder :=
          .inr ⟨holder, further, inside⟩
        exact .inl (kept.write _)
    · exact .inr ⟨later, by simp [member], inside⟩

theorem Settled.step (settled : nesting.Settled) (token : Token) :
    (nesting.step Block.placeholder token).Settled := by
  cases token with
  | plain c => exact settled.write [c]
  | mark marker =>
    obtain ⟨name, rfl⟩ | ⟨frame, outer, frames, rfl⟩ | ⟨name, other, rfl⟩ :=
      nesting.mark_cases marker
    · intro before inner after split
      refine (settled before inner after split).imp_left ?_
      rintro (outermost | ⟨frame, member, inside⟩)
      · exact .inl outermost
      · exact .inr ⟨frame, List.mem_cons_of_mem _ member, inside⟩
    · rw [step_end frames]
      exact settled.closeFrame frames
    · rw [step_end_of_ne other]
      exact settled.write _

theorem Settled.foldl (settled : nesting.Settled) (tokens : List Token) :
    (tokens.foldl (Nesting.step Block.placeholder) nesting).Settled := by
  induction tokens generalizing nesting with
  | nil => exact settled
  | cons token tokens ih => exact ih (settled.step token)

end Nesting

/-- A block that a division cuts stands in the outline or in a block that is cut later. -/
theorem stands_divide {text : Text} {before after : List Block} {inner : Block}
    (split : (divide text).blocks = before ++ inner :: after) :
    inner.placeholder <:+: (divide text).outline ∨
      ∃ outer ∈ after, inner.placeholder <:+: outer.body := by
  have start : Nesting.start.Settled := fun before _ _ split => by cases before <;> cases split
  rw [blocks_divide] at split
  rw [outline_divide]
  exact (start.foldl (Token.ofText text) before inner after split).imp_left Nesting.Holds.outline

/-! ## Where placeholders stand -/

namespace Text

variable {word text : Text}

theorem isPrefix_of_position?_eq_some {place : Nat} (found : position? word text = some place) :
    word <+: text.drop place := by
  rw [position?_eq] at found
  obtain ⟨⟨before, rest⟩, split, rfl⟩ := Option.map_eq_some_iff.1 found
  rw [append_of_firstSplit?_eq_some split, List.drop_left]
  exact List.prefix_append _ _

theorem isSome_firstSplit? (stands : word <:+: text) : (firstSplit? word text).isSome = true := by
  induction text with
  | nil =>
    obtain rfl := List.infix_nil.1 stands
    rfl
  | cons c text ih =>
    rw [firstSplit?]
    split
    · rfl
    · next unread =>
      rcases List.infix_cons_iff.1 stands with ⟨rest, shape⟩ | later
      · rw [← shape, after?_append] at unread
        cases unread
      · rw [Option.isSome_map]
        exact ih later

/-- A search finds a word that stands in the text. -/
theorem isSome_position?_iff : (position? word text).isSome = true ↔ word <:+: text := by
  constructor
  · intro found
    obtain ⟨place, found⟩ := Option.isSome_iff_exists.1 found
    exact (isPrefix_of_position?_eq_some found).isInfix.trans (List.drop_suffix _ _).isInfix
  · intro stands
    rw [position?_eq, Option.isSome_map]
    exact isSome_firstSplit? stands

end Text

theorem Block.placeholder_congr {block other : Block} (same : block.name = other.name) :
    block.placeholder = other.placeholder := by
  rw [placeholder, placeholder, same]

/-- Placeholders that stand at one place are of one name. -/
theorem Block.name_eq_of_position? {block other : Block} {text : Text} {place : Nat}
    (named : Name.isBlock block.name = true) (namedOther : Name.isBlock other.name = true)
    (here : Text.position? block.placeholder text = some place)
    (there : Text.position? other.placeholder text = some place) : block.name = other.name := by
  by_contra differ
  obtain ⟨more, shape⟩ := Text.isPrefix_of_position?_eq_some there
  have starts := Text.isPrefix_of_position?_eq_some here
  rw [← shape] at starts
  exact Name.not_isPrefix_placeholder named namedOther differ more starts

namespace Listing

variable {free : List Block} {text name : Text} {depth : Nat}

/-- The first block of a name. -/
def first? (name : Text) (free : List Block) : Option Block :=
  free.find? fun block => block.name = name

/-- Among blocks sorted by their places, with one place for each name, those that are kept are the
first of their names. -/
theorem mem_dropRepeats_iff (last : Option (Nat × Block)) {entries : List (Nat × Block)}
    (sorted : (last.toList ++ entries).Pairwise fun a b => a.1 ≤ b.1)
    (places : ∀ a ∈ last.toList ++ entries, ∀ b ∈ last.toList ++ entries,
      a.1 = b.1 ↔ a.2.name = b.2.name) {block : Block} :
    block ∈ dropRepeats (last.map fun entry => entry.2.name) (entries.map Prod.snd) ↔
      first? block.name (entries.map Prod.snd) = some block ∧
        last.map (fun entry => entry.2.name) ≠ some block.name := by
  induction entries generalizing last with
  | nil => simp [dropRepeats, first?]
  | cons entry rest ih =>
    have within : ∀ a ∈ entry :: rest, a ∈ last.toList ++ entry :: rest :=
      fun a member => List.mem_append_right _ member
    have later := ih (some entry) (sorted.sublist (List.sublist_append_right _ _))
      fun a here b there => places a (within a here) b (within b there)
    rw [Option.map_some] at later
    rw [List.map_cons, dropRepeats, first?]
    by_cases repeats : last.map (fun entry => entry.2.name) = some entry.2.name
    · rw [if_pos repeats, repeats, later]
      refine and_congr_left fun differ => ?_
      rw [List.find?_cons_of_neg (by simpa using differ), first?]
    · rw [if_neg repeats, List.mem_cons, later]
      by_cases own : entry.2.name = block.name
      · rw [List.find?_cons_of_pos (by simpa using own), Option.some.injEq, ← own]
        simp [repeats, eq_comm]
      · rw [List.find?_cons_of_neg (by simpa using own), first?]
        have other : block ≠ entry.2 := fun same => own (same ▸ rfl)
        simp only [other, false_or]
        refine and_congr_right fun found => iff_of_true (by simpa using own) fun met => ?_
        -- What stands between two entries of one name has their place, and so their name.
        obtain ⟨earlier, rfl, same⟩ := Option.map_eq_some_iff.1 met
        obtain ⟨again, member, rfl⟩ := List.mem_map.1 (List.mem_of_find?_eq_some found)
        obtain ⟨before, ordered⟩ := List.pairwise_cons.1 sorted
        have first : earlier.1 = again.1 :=
          (places earlier (by simp) again (by simp [member])).2 same
        have low := before entry (by simp)
        have high := (List.pairwise_cons.1 ordered).1 again member
        exact own ((places entry (by simp) again (by simp [member])).1 (by omega))

theorem places_trans (a b c : Nat × Block) (first : decide (a.1 ≤ b.1) = true)
    (second : decide (b.1 ≤ c.1) = true) : decide (a.1 ≤ c.1) = true :=
  decide_eq_true (Nat.le_trans (of_decide_eq_true first) (of_decide_eq_true second))

theorem places_total (a b : Nat × Block) :
    (decide (a.1 ≤ b.1) || decide (b.1 ≤ a.1)) = true := by
  simpa using Nat.le_total a.1 b.1

/-- The first block of a name among those that stand in a text is the first of all. -/
theorem first?_occurrences {block : Block} :
    first? block.name ((occurrences free text).map Prod.snd) = some block ↔
      first? block.name free = some block ∧ block.placeholder <:+: text := by
  have standing : (occurrences free text).map Prod.snd =
      free.filter fun other => (Text.position? other.placeholder text).isSome := by
    rw [occurrences_eq, List.map_filterMap]
    induction free with
    | nil => rfl
    | cons other free ih =>
      rw [List.filterMap_cons, List.filter_cons, ih]
      cases Text.position? other.placeholder text <;> rfl
  rw [standing, first?, first?, List.find?_filter, ← Text.isSome_position?_iff]
  -- Whether a block stands in the text depends on its name.
  by_cases stands : (Text.position? block.placeholder text).isSome = true
  · have same : (fun other : Block =>
        decide ((Text.position? other.placeholder text).isSome = true ∧
          decide (other.name = block.name) = true)) =
        fun other => decide (other.name = block.name) := by
      funext other
      by_cases named : other.name = block.name
      · simp [Block.placeholder_congr named, stands, named]
      · simp [named]
    rw [same]
    simp [stands]
  · refine iff_of_false (fun found => stands ?_) fun both => stands both.2
    have held := List.find?_some found
    simp only [decide_eq_true_eq] at held
    exact held.1

/-- Sorting keeps the order of blocks of one name, for they have one place. -/
theorem first?_mergeSort :
    first? name (((occurrences free text).mergeSort fun a b => decide (a.1 ≤ b.1)).map Prod.snd) =
      first? name ((occurrences free text).map Prod.snd) := by
  have together : ((occurrences free text).filter fun entry => entry.2.name = name).Pairwise
      fun a b => decide (a.1 ≤ b.1) = true := by
    refine List.pairwise_of_forall_mem_list fun a here b there => decide_eq_true ?_
    rw [List.mem_filter, mem_occurrences, decide_eq_true_eq] at here there
    have same := Block.placeholder_congr (here.2.trans there.2.symm)
    have place := here.1.2.symm.trans (same ▸ there.1.2)
    exact Nat.le_of_eq (Option.some.inj place)
  have kept := (List.sublist_mergeSort places_trans places_total together
    List.filter_sublist).filter fun entry => entry.2.name = name
  rw [List.filter_filter] at kept
  simp only [Bool.and_self] at kept
  have same := kept.eq_of_length ((List.mergeSort_perm _ _).filter _).length_eq.symm
  simp only [first?, ← List.head?_filter, List.filter_map, Function.comp_def, ← same]

/-- The blocks listed below a text are those that stand there, of each name the first. -/
theorem mem_children_iff (named : ∀ block ∈ free, Name.isBlock block.name = true) {block : Block} :
    block ∈ children free text ↔
      first? block.name free = some block ∧ block.placeholder <:+: text := by
  have sorted : ((occurrences free text).mergeSort fun a b => decide (a.1 ≤ b.1)).Pairwise
      fun a b => a.1 ≤ b.1 := by
    have order := List.pairwise_mergeSort places_trans places_total (occurrences free text)
    exact order.imp of_decide_eq_true
  have places : ∀ a ∈ (occurrences free text).mergeSort fun a b => decide (a.1 ≤ b.1),
      ∀ b ∈ (occurrences free text).mergeSort fun a b => decide (a.1 ≤ b.1),
      a.1 = b.1 ↔ a.2.name = b.2.name := by
    intro a here b there
    rw [List.mem_mergeSort, mem_occurrences] at here there
    constructor
    · intro same
      exact Block.name_eq_of_position? (named a.2 here.1) (named b.2 there.1) here.2
        (same ▸ there.2)
    · intro same
      have spelled := Block.placeholder_congr same
      exact Option.some.inj (here.2.symm.trans (spelled ▸ there.2))
  have kept := @mem_dropRepeats_iff none _ sorted places block
  rw [Option.map_none] at kept
  rw [children_eq, kept, first?_mergeSort, first?_occurrences]
  simp

/-! ## Reaching names -/

/-- A name that can be reached from a text: a block of the name stands there, or in the first block
of a name that is reached. -/
inductive Reaches (free : List Block) (text : Text) : (name : Text) → Prop where
  | here {block : Block} (member : block ∈ free) (stands : block.placeholder <:+: text) :
      Reaches free text block.name
  | inside {outer inner : Block} (reached : Reaches free text outer.name)
      (first : first? outer.name free = some outer) (member : inner ∈ free)
      (stands : inner.placeholder <:+: outer.body) : Reaches free text inner.name

theorem first?_without {other : Text} (apart : name ≠ other) :
    first? name (without other free) = first? name free := by
  rw [first?, without, List.find?_filter, first?]
  congr
  funext block
  by_cases same : block.name = name
  · simp [same, apart]
  · simp [same]

/-- A way may be taken so that it does not come back to the name it starts with. -/
theorem Reaches.first_step (reached : Reaches free text name) :
    ∃ block, first? block.name free = some block ∧ block.placeholder <:+: text ∧
      (name = block.name ∨ Reaches (without block.name free) block.body name) := by
  have start : ∀ inner ∈ free, inner.placeholder <:+: text →
      ∃ block, first? block.name free = some block ∧ block.placeholder <:+: text ∧
        inner.name = block.name := by
    intro inner member stands
    have some : (first? inner.name free).isSome = true :=
      List.find?_isSome.2 ⟨inner, member, decide_eq_true rfl⟩
    obtain ⟨block, found⟩ := Option.isSome_iff_exists.1 some
    have same : block.name = inner.name := by simpa using List.find?_some found
    refine ⟨block, same ▸ found, ?_, same.symm⟩
    rwa [Block.placeholder_congr same]
  induction reached with
  | here member stands =>
    obtain ⟨block, first, there, same⟩ := start _ member stands
    exact ⟨block, first, there, .inl same⟩
  | @inside outer inner _ first member stands ih =>
    obtain ⟨block, leads, there, way⟩ := ih
    refine ⟨block, leads, there, ?_⟩
    by_cases back : inner.name = block.name
    · exact .inl back
    have still : inner ∈ without block.name free := List.mem_filter.2 ⟨member, by simpa using back⟩
    by_cases same : outer.name = block.name
    · -- The way so far is no more than the block it starts with.
      obtain rfl : outer = block := Option.some.inj (first.symm.trans (same ▸ leads))
      exact .inr (.here still stands)
    · have further := way.resolve_left same
      exact .inr (.inside further ((first?_without same).trans first) still stands)

/-- What is reached behind a name that is reached is reached. -/
theorem Reaches.trans {block : Block} (reached : Reaches free text block.name)
    (first : first? block.name free = some block)
    (further : Reaches (without block.name free) block.body name) : Reaches free text name := by
  induction further with
  | here member stands => exact .inside reached first (List.mem_of_mem_filter member) stands
  | @inside outer inner _ found member stands ih =>
    refine .inside ih ?_ (List.mem_of_mem_filter member) stands
    have apart : outer.name ≠ block.name := by
      have kept := List.mem_of_find?_eq_some found
      simpa using (List.mem_filter.1 kept).2
    exact (first?_without apart).symm.trans found

/-- A listing names what is reached. -/
theorem mem_collect_iff (named : ∀ block ∈ free, Name.isBlock block.name = true) :
    name ∈ (collect depth free text).map ListingEntry.name ↔ Reaches free text name := by
  induction size : free.length using Nat.strongRecOn generalizing free text depth with
  | _ size ih =>
    have inner : ∀ block ∈ children free text,
        (name ∈ (collect (depth + 1) (without block.name free) block.body).map ListingEntry.name ↔
          Reaches (without block.name free) block.body name) := by
      intro block member
      refine ih _ (size ▸ length_without_lt (mem_of_mem_children member)) ?_ rfl
      exact fun other still => named other (List.mem_of_mem_filter still)
    rw [collect_eq, List.map_flatMap, List.mem_flatMap]
    constructor
    · rintro ⟨block, member, listed⟩
      obtain ⟨first, stands⟩ := (mem_children_iff named).1 member
      have reached : Reaches free text block.name := .here (mem_of_mem_children member) stands
      rw [List.map_cons, List.mem_cons] at listed
      rcases listed with rfl | below
      · exact reached
      · exact reached.trans first ((inner block member).1 below)
    · intro reached
      obtain ⟨block, first, stands, way⟩ := reached.first_step
      have member := (mem_children_iff named).2 ⟨first, stands⟩
      refine ⟨block, member, ?_⟩
      rw [List.map_cons, List.mem_cons]
      exact way.imp_right (inner block member).2

end Listing

/-! ## Listing a division -/

namespace Listing

variable {text name : Text}

theorem mem_listing_iff : name ∈ (ofDivision (divide text)).map ListingEntry.name ↔
    Reaches (divide text).blocks (divide text).outline name :=
  mem_collect_iff fun _ => isBlock_of_mem_divide

theorem Reaches.mem_names {free : List Block} (reached : Reaches free text name) :
    name ∈ free.map Block.name := by
  cases reached with
  | here member => exact List.mem_map_of_mem member
  | inside _ _ member => exact List.mem_map_of_mem member

/-- What stands in a block behind the first of its name is reached in another way. -/
def NothingHidden (division : Division) : Prop :=
  ∀ hidden ∈ division.blocks, division.block? hidden.name ≠ some hidden →
    ∀ inner ∈ division.blocks, inner.placeholder <:+: hidden.body →
      Reaches division.blocks division.outline inner.name

/-- From the last block to the first, each is reached through the one it stands in. -/
theorem reaches_of_nothingHidden (nothing : NothingHidden (divide text))
    {before after : List Block} {inner : Block}
    (split : (divide text).blocks = before ++ inner :: after) :
    Reaches (divide text).blocks (divide text).outline inner.name := by
  induction size : after.length using Nat.strongRecOn generalizing before inner after with
  | _ size ih =>
    have member : inner ∈ (divide text).blocks := by simp [split]
    rcases stands_divide split with outermost | ⟨outer, later, inside⟩
    · exact .here member outermost
    · obtain ⟨front, behind, rfl⟩ := List.append_of_mem later
      have cut : (divide text).blocks = (before ++ inner :: front) ++ outer :: behind := by
        simp [split]
      by_cases first : (divide text).block? outer.name = some outer
      · rw [List.length_append, List.length_cons] at size
        exact .inside (ih behind.length (by omega) cut rfl) first member inside
      · exact nothing outer (by simp [cut]) first inner member inside

end Listing

/-- A listing names no block that was not cut.  It names every block that was cut exactly if what
stands in a block behind the first of its name is reached in another way. -/
theorem listing_complete_iff (text : Text) :
    (∀ name ∈ (Listing.ofDivision (divide text)).map ListingEntry.name,
      name ∈ (divide text).blocks.map Block.name) ∧
    ((∀ name ∈ (divide text).blocks.map Block.name,
      name ∈ (Listing.ofDivision (divide text)).map ListingEntry.name) ↔
        Listing.NothingHidden (divide text)) := by
  refine ⟨fun name listed => (Listing.mem_listing_iff.1 listed).mem_names, ?_, ?_⟩
  · intro complete hidden _ _ inner member _
    exact Listing.mem_listing_iff.1 (complete inner.name (List.mem_map_of_mem member))
  · intro nothing name cut
    obtain ⟨block, member, rfl⟩ := List.mem_map.1 cut
    obtain ⟨before, after, split⟩ := List.append_of_mem member
    exact Listing.mem_listing_iff.2 (Listing.reaches_of_nothingHidden nothing split)

/-- Two blocks of one name.  What stands in the second stands elsewhere too. -/
def shownForm : Text :=
  ("<!-- BDP: a -->x<!-- EDP: a --><!-- BDP: a --><!-- BDP: c --><!-- EDP: c --><!-- EDP: a -->" ++
    "<!-- BDP: c --><!-- EDP: c -->").toList

theorem listing_complete_iff_shownForm :
    (divide shownForm).blocks.map Block.name = [['a'], ['c'], ['a'], ['c']] ∧
      (divide shownForm).block? ['a'] = some ⟨['a'], ['x']⟩ ∧
      ∀ name ∈ [['a'], ['c'], ['a'], ['c']],
        name ∈ (Listing.ofDivision (divide shownForm)).map ListingEntry.name := by
  have cut : (divide shownForm).blocks.map Block.name = [['a'], ['c'], ['a'], ['c']] := by
    decide +kernel
  have outermost : ∀ block ∈ (divide shownForm).blocks,
      block.placeholder <:+: (divide shownForm).outline := by decide +kernel
  have nothing : Listing.NothingHidden (divide shownForm) :=
    fun _ _ _ inner member _ => .here member (outermost inner member)
  have complete := (listing_complete_iff shownForm).2.2 nothing
  rw [cut] at complete
  exact ⟨cut, by decide +kernel, complete⟩

/-- Two blocks of one name.  What stands in the second stands nowhere else. -/
def hiddenForm : Text :=
  ("<!-- BDP: a -->x<!-- EDP: a -->" ++
    "<!-- BDP: a --><!-- BDP: b -->y<!-- EDP: b --><!-- EDP: a -->").toList

/-- A block that was cut is not listed. -/
theorem listing_hiddenForm :
    (divide hiddenForm).blocks = [⟨['a'], ['x']⟩, ⟨['b'], ['y']⟩, ⟨['a'], "\x7bB\x7d".toList⟩] ∧
      ['b'] ∉ (Listing.ofDivision (divide hiddenForm)).map ListingEntry.name := by
  have cut : (divide hiddenForm).blocks =
      [⟨['a'], ['x']⟩, ⟨['b'], ['y']⟩, ⟨['a'], "\x7bB\x7d".toList⟩] := by decide +kernel
  have first : Listing.first? ['a'] (divide hiddenForm).blocks = some ⟨['a'], ['x']⟩ := by
    rw [cut]
    rfl
  have outermost : ∀ block ∈ (divide hiddenForm).blocks,
      block.placeholder <:+: (divide hiddenForm).outline → block.name = ['a'] := by decide +kernel
  have empty : ∀ block ∈ (divide hiddenForm).blocks, ¬ block.placeholder <:+: ['x'] := by
    decide +kernel
  have only : ∀ name, Listing.Reaches (divide hiddenForm).blocks (divide hiddenForm).outline name →
      name = ['a'] := by
    intro name reached
    induction reached with
    | here member stands => exact outermost _ member stands
    | inside _ found member stands ih =>
      rw [ih, first] at found
      obtain rfl := Option.some.inj found
      exact absurd stands (empty _ member)
  exact ⟨cut, fun listed => absurd (only _ (Listing.mem_listing_iff.1 listed)) (by decide)⟩

end PageTemplates
