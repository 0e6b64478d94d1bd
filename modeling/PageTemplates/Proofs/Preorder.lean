import Mathlib.Data.List.Nodup
import PageTemplates.BlockListing
import PageTemplates.Proofs.Documents
import PageTemplates.Proofs.SubstitutionSteps

/-!
# Listings are in pre-order

A listing knows only outlines and bodies, and it finds out what stands where by
looking for placeholders.  For a printed document whose blocks have different
names it finds the document: its blocks in pre-order, each with the number of
blocks around it (`listing_divide_print`).

In the outline of a document the placeholder of a block occurs where the block
stands and nowhere else.  The runs of literal texts have none by assumption.  A
placeholder has a single opening brace, at its front, so no occurrence begins in
a run and ends in the next placeholder, and two placeholders of different names
have no occurrence in common.  `Document.placed` lists the outermost blocks with
the positions of their placeholders, and `position?_outline` says that a search
finds these.  So the occurrences that the listing sorts are the outermost blocks,
in order (`children_outline`), and it goes on with the content of each of them.
-/

namespace PageTemplates

/-! ## Searching in two texts -/

namespace Text

variable {first : Char} {word text behind : Text}

theorem positionFrom?_of_isPrefix {rest : Text} (start : Nat) :
    positionFrom? (first :: word) start (first :: word ++ rest) = some start := by
  rw [List.cons_append, positionFrom?, ← List.cons_append, after?_append]
  rfl

theorem positionFrom?_cons_of_not_isPrefix {c : Char} (absent : ¬ word <+: c :: text)
    (start : Nat) :
    positionFrom? word start (c :: text) = positionFrom? word (start + 1) text := by
  have unread : after? word (c :: text) = none := by
    cases read : after? word (c :: text) with
    | none => rfl
    | some rest => exact absurd ⟨rest, (after?_eq_some_iff.1 read).symm⟩ absent
  rw [positionFrom?, unread]
  rfl

/-- A search passes a text in which the word does not begin. -/
theorem positionFrom?_append
    (absent : ∀ before c after, text = before ++ c :: after → ¬ word <+: c :: (after ++ behind))
    (start : Nat) :
    positionFrom? word start (text ++ behind) =
      positionFrom? word (start + text.length) behind := by
  induction text generalizing start with
  | nil => rfl
  | cons c text ih =>
    have later : ∀ before d after, text = before ++ d :: after →
        ¬ word <+: d :: (after ++ behind) := by
      rintro before d after rfl
      exact absent (c :: before) d after rfl
    rw [List.cons_append, positionFrom?_cons_of_not_isPrefix (absent [] c text rfl), ih later,
      List.length_cons]
    congr 1
    omega

end Text

/-! ## Where placeholders occur -/

/-- The placeholder of one block does not begin where that of another one stands. -/
theorem Name.not_isPrefix_placeholder {name other : Text} (named : isBlock name = true)
    (namedOther : isBlock other = true) (differ : name ≠ other) (more : Text) :
    ¬ placeholder name <+: placeholder other ++ more := by
  rintro ⟨rest, same⟩
  have tails : upper name ++ '}' :: rest = upper other ++ '}' :: more := by
    simpa [placeholder] using same
  have cut := Placeholder.cut_unique (Placeholder.close_not_mem (isVariable_upper named))
    (Placeholder.close_not_mem (isVariable_upper namedOther)) tails
  exact differ (upper_injective named namedOther cut.1)

/-- A search passes a run in which the placeholder does not occur. -/
theorem positionFrom?_run {name run behind : Text} (named : Name.isBlock name = true)
    (bare : ¬ Name.placeholder name <:+: run) (edge : behind = [] ∨ behind.head? = some '{')
    (start : Nat) :
    Text.positionFrom? (Name.placeholder name) start (run ++ behind) =
      Text.positionFrom? (Name.placeholder name) (start + run.length) behind := by
  have once : ∀ c, behind.head? = some c → c ∉ Name.upper name ++ ['}'] := by
    intro c head
    obtain rfl : c = '{' := by
      rcases edge with rfl | brace
      · cases head
      · exact Option.some.inj (head.symm.trans brace)
    simp [Placeholder.open_not_mem (Name.isVariable_upper named)]
  refine Text.positionFrom?_append ?_ start
  rintro before c after rfl
  refine not_isPrefix_append (List.cons_ne_nil c after) ?_ once
  exact fun starts => bare (starts.isInfix.trans (List.suffix_append _ _).isInfix)

/-- A search passes the placeholder of another block. -/
theorem positionFrom?_placeholder {name other : Text} (named : Name.isBlock name = true)
    (namedOther : Name.isBlock other = true) (differ : name ≠ other) (start : Nat) (behind : Text) :
    Text.positionFrom? (Name.placeholder name) start (Name.placeholder other ++ behind) =
      Text.positionFrom? (Name.placeholder name) (start + (Name.placeholder other).length)
        behind := by
  refine Text.positionFrom?_append ?_ start
  intro before c after shape
  cases before with
  | nil =>
    rw [List.nil_append] at shape
    rw [← List.cons_append, ← shape]
    exact Name.not_isPrefix_placeholder named namedOther differ behind
  | cons d before =>
    rintro ⟨rest, same⟩
    obtain rfl : '{' = c := (List.cons.inj same).1
    have tails : Name.upper other ++ ['}'] = before ++ '{' :: after := (List.cons.inj shape).2
    have inside : '{' ∈ Name.upper other ++ ['}'] := by simp [tails]
    simp [Placeholder.open_not_mem (Name.isVariable_upper namedOther)] at inside

namespace Document

/-! ## The outermost blocks -/

/-- The outermost blocks with their contents. -/
def tops : Document → List (Text × Document)
  | .empty => []
  | .literal _ rest => rest.tops
  | .block name content rest => (name, content) :: rest.tops

/-- The block of a name and a content. -/
def top (named : Text × Document) : Block := ⟨named.1, named.2.outline⟩

/-- The outermost blocks and where their placeholders stand in the outline, when `start` characters
stand in front of it. -/
def placed : (start : Nat) → Document → List (Nat × Block)
  | _, .empty => []
  | start, .literal text rest => rest.placed (start + text.length)
  | start, .block name content rest =>
    (start, ⟨name, content.outline⟩) :: rest.placed (start + (Name.placeholder name).length)

theorem map_snd_placed (document : Document) (start : Nat) :
    (document.placed start).map Prod.snd = document.tops.map top := by
  induction document generalizing start with
  | empty => rfl
  | literal text rest ih => exact ih _
  | block name content rest _ ih =>
    rw [placed, tops, List.map_cons, List.map_cons, ih]
    rfl

theorem le_of_mem_placed {document : Document} {start : Nat} {entry : Nat × Block}
    (member : entry ∈ document.placed start) : start ≤ entry.1 := by
  induction document generalizing start with
  | empty => cases member
  | literal text rest ih => exact Nat.le_of_add_right_le (ih member)
  | block name content rest _ ih =>
    rcases List.mem_cons.1 member with rfl | later
    · exact Nat.le_refl start
    · exact Nat.le_of_add_right_le (ih later)

/-- The placeholders stand in the order of their blocks. -/
theorem pairwise_placed (document : Document) (start : Nat) :
    (document.placed start).Pairwise fun entry later => entry.1 < later.1 := by
  induction document generalizing start with
  | empty => exact .nil
  | literal text rest ih => exact ih _
  | block name content rest _ ih =>
    refine List.pairwise_cons.2 ⟨fun later member => ?_, ih _⟩
    have behind := le_of_mem_placed member
    simp only [Name.placeholder, List.length_append, List.length_cons] at behind
    omega

/-- What stands in an outline behind the first literal texts begins with a placeholder. -/
theorem exists_outline_eq (document : Document) :
    ∃ behind, document.outline = document.lead ++ behind ∧
      (behind = [] ∨ behind.head? = some '{') := by
  induction document with
  | empty => exact ⟨[], rfl, .inl rfl⟩
  | literal text rest ih =>
    obtain ⟨behind, shape, edge⟩ := ih
    exact ⟨behind, by simp [outline, lead, shape], edge⟩
  | block name content rest => exact ⟨Name.placeholder name ++ rest.outline, rfl, .inr rfl⟩

/-- A search in an outline finds the block of the name. -/
theorem positionFrom?_outline {document : Document} {name : Text} (named : Name.isBlock name = true)
    (valid : document.Named) (bare : ∀ run ∈ document.runs, ¬ Name.placeholder name <:+: run)
    (start : Nat) :
    Text.positionFrom? (Name.placeholder name) start document.outline =
      ((document.placed start).find? fun entry => entry.2.name = name).map Prod.fst := by
  induction document generalizing start with
  | empty => rfl
  | literal text rest ih =>
    have whole : ¬ Name.placeholder name <:+: text ++ rest.lead := bare _ (by simp [runs, lead])
    have alone : ¬ Name.placeholder name <:+: rest.lead :=
      fun within => whole (within.trans (List.suffix_append _ _).isInfix)
    have later : ∀ run ∈ rest.runs, ¬ Name.placeholder name <:+: run := by
      intro run member
      rcases List.mem_cons.1 member with rfl | member
      · exact alone
      · exact bare run (by simp [runs, laterRuns, member])
    obtain ⟨behind, shape, edge⟩ := rest.exists_outline_eq
    rw [placed, ← ih valid later, outline, shape, ← List.append_assoc,
      positionFrom?_run named whole edge, positionFrom?_run named alone edge, List.length_append,
      Nat.add_assoc]
  | block other content rest _ ih =>
    have later := ih (fun block member => valid block (by simp [blocks, member]))
      (fun run member => bare run (by simp [runs_block, member]))
    have validOther : Name.isBlock other = true :=
      valid ⟨other, content.outline⟩ (by simp [blocks])
    rw [outline, placed]
    by_cases same : other = name
    · subst same
      rw [List.find?_cons_of_pos (by simp)]
      exact Text.positionFrom?_of_isPrefix start
    · rw [List.find?_cons_of_neg (by simpa using same), ← later]
      exact positionFrom?_placeholder named validOther (Ne.symm same) start rest.outline

/-- The blocks in pre-order, each with the number of blocks around it. -/
def entries (depth : Nat) : Document → List ListingEntry
  | .empty => []
  | .literal _ rest => rest.entries depth
  | .block name content rest =>
    ⟨name, depth⟩ :: content.entries (depth + 1) ++ rest.entries depth

theorem entries_eq_flatMap (document : Document) (depth : Nat) :
    document.entries depth =
      document.tops.flatMap fun top => ⟨top.1, depth⟩ :: top.2.entries (depth + 1) := by
  induction document with
  | empty => rfl
  | literal text rest ih => exact ih
  | block name content rest _ ih => rw [entries, ih, tops, List.flatMap_cons]

/-- What holds of a document if it holds of the contents of its outermost blocks holds of all. -/
theorem induction_tops {motive : Document → Prop}
    (step : ∀ document, (∀ named ∈ document.tops, motive named.2) → motive document)
    (document : Document) : motive document := by
  have contents : ∀ named ∈ document.tops, motive named.2 := by
    induction document with
    | empty => simp [tops]
    | literal text rest ih => exact ih
    | block name content rest ihContent ihRest =>
      intro named member
      rcases List.mem_cons.1 member with rfl | later
      · exact step content ihContent
      · exact ihRest named later
  exact step document contents

/-- An outermost block stands behind the blocks of its content. -/
theorem sublist_blocks_of_mem_tops {document : Document} {named : Text × Document}
    (member : named ∈ document.tops) :
    (named.2.blocks ++ [top named]).Sublist document.blocks := by
  induction document with
  | empty => cases member
  | literal text rest ih => exact ih member
  | block name content rest _ ih =>
    have split : (block name content rest).blocks =
        content.blocks ++ [top (name, content)] ++ rest.blocks := by
      simp [blocks, top]
    rw [split]
    rcases List.mem_cons.1 member with rfl | later
    · exact List.sublist_append_left _ _
    · exact (ih later).trans (List.sublist_append_right _ _)

theorem runs_subset_of_mem_tops {document : Document} {named : Text × Document}
    (member : named ∈ document.tops) : named.2.runs ⊆ document.laterRuns := by
  induction document with
  | empty => cases member
  | literal text rest ih => exact ih member
  | block name content rest _ ih =>
    rcases List.mem_cons.1 member with rfl | later
    · exact List.subset_append_left _ _
    · intro run within
      have deeper := ih later within
      simp [laterRuns, deeper]

/-- The outermost blocks stand in the order of their end markers too. -/
theorem sublist_blocks_tops (document : Document) :
    (document.tops.map top).Sublist document.blocks := by
  induction document with
  | empty => exact List.Sublist.slnil
  | literal text rest ih => exact ih
  | block name content rest _ ih =>
    exact (ih.cons_cons _).trans (List.sublist_append_right _ _)

end Document

/-! ## Listing a document -/

namespace Listing

/-- The blocks that a listing may still list have different names, the blocks of the document are
among them, and no placeholder of theirs stands in a literal text. -/
structure Fits (free : List Block) (document : Document) : Prop where
  apart : (free.map Block.name).Nodup
  named : ∀ block ∈ free, Name.isBlock block.name = true
  listed : document.blocks.Sublist free
  bare : ∀ run ∈ document.runs, ∀ block ∈ free, ¬ block.placeholder <:+: run

variable {free : List Block} {document : Document}

theorem Fits.mem_free (fits : Fits free document) {block : Block}
    (member : block ∈ document.tops.map Document.top) : block ∈ free :=
  fits.listed.subset (document.sublist_blocks_tops.subset member)

/-- The content of an outermost block fits the blocks of other names. -/
theorem Fits.content (fits : Fits free document) {named : Text × Document}
    (member : named ∈ document.tops) : Fits (without named.1 free) named.2 where
  apart := fits.apart.sublist (List.filter_sublist.map Block.name)
  named := fun block within => fits.named block (List.mem_of_mem_filter within)
  listed := by
    have inner := (Document.sublist_blocks_of_mem_tops member).trans fits.listed
    have names := fits.apart.sublist (inner.map Block.name)
    rw [List.map_append, List.nodup_append] at names
    have kept : named.2.blocks.filter (fun block => block.name ≠ named.1) = named.2.blocks := by
      refine List.filter_eq_self.2 fun block within => ?_
      simpa using names.2.2 block.name (List.mem_map_of_mem within) named.1 (by simp [Document.top])
    have blocks := (List.sublist_append_left _ _).trans inner
    exact kept ▸ blocks.filter fun block => block.name ≠ named.1
  bare := fun run within block still =>
    fits.bare run (List.mem_cons_of_mem _ (Document.runs_subset_of_mem_tops member within)) block
      (List.mem_of_mem_filter still)

theorem Fits.nodup_tops (fits : Fits free document) :
    ((document.tops.map Document.top).map Block.name).Nodup :=
  fits.apart.sublist ((document.sublist_blocks_tops.trans fits.listed).map Block.name)

/-- The occurrences of placeholders in an outline are those of its outermost blocks. -/
theorem Fits.mem_occurrences (fits : Fits free document) {entry : Nat × Block} :
    entry ∈ occurrences free document.outline ↔ entry ∈ document.placed 0 := by
  have valid : document.Named := fun block member => fits.named block (fits.listed.subset member)
  have known : ∀ other ∈ document.placed 0, other.2 ∈ free := by
    intro other member
    refine fits.mem_free ?_
    rw [← document.map_snd_placed 0]
    exact List.mem_map_of_mem member
  have finds : ∀ block ∈ free, Text.position? block.placeholder document.outline =
      ((document.placed 0).find? fun other => other.2.name = block.name).map Prod.fst :=
    fun block member => Document.positionFrom?_outline (fits.named block member) valid
      (fun run within => fits.bare run within block member) 0
  rw [Listing.mem_occurrences]
  constructor
  · rintro ⟨member, found⟩
    rw [finds entry.2 member] at found
    obtain ⟨other, first, place⟩ := Option.map_eq_some_iff.1 found
    have here := List.mem_of_find?_eq_some first
    have same : other.2.name = entry.2.name := by simpa using List.find?_some first
    have block := List.inj_on_of_nodup_map fits.apart (known other here) member same
    rwa [← Prod.ext place block]
  · intro here
    refine ⟨known entry here, ?_⟩
    rw [finds entry.2 (known entry here)]
    cases found : (document.placed 0).find? fun other => other.2.name = entry.2.name with
    | none => simpa using List.find?_eq_none.1 found entry here
    | some other =>
      have names : ((document.placed 0).map fun other => other.2.name).Nodup := by
        have nodup := fits.nodup_tops
        rwa [← document.map_snd_placed 0, List.map_map] at nodup
      have same : other.2.name = entry.2.name := by simpa using List.find?_some found
      rw [List.inj_on_of_nodup_map names (List.mem_of_find?_eq_some found) here same]
      rfl

theorem dropRepeats_eq_self {blocks : List Block} (apart : (blocks.map Block.name).Nodup)
    {last : Option Text} (new : ∀ block ∈ blocks, last ≠ some block.name) :
    dropRepeats last blocks = blocks := by
  induction blocks generalizing last with
  | nil => rfl
  | cons block rest ih =>
    rw [List.map_cons, List.nodup_cons] at apart
    rw [dropRepeats, if_neg (new block List.mem_cons_self), ih apart.2]
    intro other member same
    exact apart.1 (Option.some.inj same ▸ List.mem_map_of_mem member)

/-- The blocks that stand in an outline are the outermost blocks in order. -/
theorem Fits.children_outline (fits : Fits free document) :
    children free document.outline = document.tops.map Document.top := by
  have places : ((document.placed 0).map Prod.fst).Nodup :=
    List.pairwise_map.2 ((document.pairwise_placed 0).imp Nat.ne_of_lt)
  have unrepeated : (occurrences free document.outline).Nodup := by
    refine List.Nodup.filterMap (fun block other entry here there => ?_) (fits.apart.of_map _)
    obtain ⟨_, _, rfl⟩ := Option.map_eq_some_iff.1 here
    obtain ⟨_, _, same⟩ := Option.map_eq_some_iff.1 there
    exact (congrArg Prod.snd same).symm
  have perm : (occurrences free document.outline).Perm (document.placed 0) :=
    (List.perm_ext_iff_of_nodup unrepeated (places.of_map _)).2 fun _ => fits.mem_occurrences
  have sorted : ((occurrences free document.outline).mergeSort fun a b => decide (a.1 ≤ b.1)) =
      document.placed 0 := by
    have order : ((occurrences free document.outline).mergeSort
        fun a b => decide (a.1 ≤ b.1)).Pairwise fun a b => decide (a.1 ≤ b.1) = true :=
      List.pairwise_mergeSort (fun a b c => by simpa using Nat.le_trans)
        (fun a b => by simpa using Nat.le_total a.1 b.1) _
    refine List.Perm.eq_of_pairwise ?_ order
      ((document.pairwise_placed 0).imp fun before => decide_eq_true (Nat.le_of_lt before))
      ((List.mergeSort_perm _ _).trans perm)
    intro entry other member here before after
    have there := fits.mem_occurrences.1 (List.mem_mergeSort.1 member)
    exact List.inj_on_of_nodup_map places there here
      (Nat.le_antisymm (of_decide_eq_true before) (of_decide_eq_true after))
  rw [children_eq, sorted, document.map_snd_placed]
  exact dropRepeats_eq_self fits.nodup_tops fun _ _ => nofun

/-- A listing goes down into the contents of the outermost blocks. -/
theorem Fits.collect_outline (fits : Fits free document) (depth : Nat) :
    collect depth free document.outline = document.entries depth := by
  induction document using Document.induction_tops generalizing free depth with
  | step document ih =>
    rw [collect_eq, fits.children_outline, document.entries_eq_flatMap, List.flatMap_map]
    refine List.flatMap_congr fun named member => ?_
    exact congrArg _ (ih named member (fits.content member) (depth + 1))

end Listing

/-- The listing of a printed document names its blocks in pre-order, each with the number of blocks
around it. -/
theorem listing_divide_print {document : Document} (named : document.Named)
    (apart : (document.blocks.map Block.name).Nodup)
    (unmarked : ∀ run ∈ document.runs, Unmarked run)
    (bare : ∀ run ∈ document.runs, ∀ block ∈ document.blocks, ¬ block.placeholder <:+: run) :
    Listing.ofDivision (divide document.print) = document.entries 0 := by
  have fits : Listing.Fits document.blocks document := ⟨apart, named, List.Sublist.refl _, bare⟩
  rw [Listing.ofDivision, Document.outline_divide_print named unmarked,
    Document.blocks_divide_print named unmarked]
  exact fits.collect_outline 0

/-- Blocks with halves of their placeholders in front of them and inside. -/
def nestedForm : Document :=
  .literal "\x7bA".toList
    (.block ['a'] (.literal "\x7bB".toList (.block ['b'] .empty (.literal "\x7d".toList .empty)))
      (.block ['c'] .empty (.literal "C\x7d".toList .empty)))

theorem listing_divide_print_nestedForm :
    nestedForm.Named ∧ (nestedForm.blocks.map Block.name).Nodup ∧
      (∀ run ∈ nestedForm.runs, Unmarked run) ∧
      (∀ run ∈ nestedForm.runs, ∀ block ∈ nestedForm.blocks, ¬ block.placeholder <:+: run) ∧
      Listing.ofDivision (divide nestedForm.print) = [⟨['a'], 0⟩, ⟨['b'], 1⟩, ⟨['c'], 0⟩] := by
  have named : nestedForm.Named := by decide
  have apart : (nestedForm.blocks.map Block.name).Nodup := by decide
  have unmarked : ∀ run ∈ nestedForm.runs, Unmarked run := by
    have searched : ∀ run ∈ nestedForm.runs, Marker.find? run = none := by decide
    exact fun run member => Marker.find?_eq_none_iff.1 (searched run member)
  have bare : ∀ run ∈ nestedForm.runs, ∀ block ∈ nestedForm.blocks,
      ¬ block.placeholder <:+: run := by decide
  exact ⟨named, apart, unmarked, bare, listing_divide_print named apart unmarked bare⟩

/-- Literal texts side by side that make up the placeholder of a block further behind. -/
def splitPlaceholder : Document :=
  .literal "\x7b".toList
    (.literal "A\x7d".toList (.block ['b'] (.block ['a'] .empty .empty) .empty))

/-- Texts without markers and placeholders are not enough if they stand side by side.  The text is
taken for the block, which is listed there too. -/
theorem listing_splitPlaceholder :
    splitPlaceholder.Named ∧ (splitPlaceholder.blocks.map Block.name).Nodup ∧
      (∀ text ∈ splitPlaceholder.literals, Unmarked text ∧
        ∀ block ∈ splitPlaceholder.blocks, ¬ block.placeholder <:+: text) ∧
      splitPlaceholder.entries 0 = [⟨['b'], 0⟩, ⟨['a'], 1⟩] ∧
      Listing.ofDivision (divide splitPlaceholder.print) =
        [⟨['a'], 0⟩, ⟨['b'], 0⟩, ⟨['a'], 1⟩] := by
  have named : splitPlaceholder.Named := by decide
  have searched : ∀ text ∈ splitPlaceholder.literals ++ splitPlaceholder.runs,
      Marker.find? text = none := by decide
  have unmarked : ∀ text ∈ splitPlaceholder.literals ++ splitPlaceholder.runs, Unmarked text :=
    fun text member => Marker.find?_eq_none_iff.1 (searched text member)
  have bare : ∀ text ∈ splitPlaceholder.literals, ∀ block ∈ splitPlaceholder.blocks,
      ¬ block.placeholder <:+: text := by decide
  have runs : ∀ run ∈ splitPlaceholder.runs, Unmarked run :=
    fun run member => unmarked run (List.mem_append_right _ member)
  refine ⟨named, by decide, fun text member => ?_, by decide, ?_⟩
  · exact ⟨unmarked text (List.mem_append_left _ member), bare text member⟩
  have outermost : Listing.children splitPlaceholder.blocks splitPlaceholder.outline =
      [⟨['a'], []⟩, ⟨['b'], "\x7bA\x7d".toList⟩] := by
    rw [Listing.children_eq, List.mergeSort_of_pairwise (by decide)]
    rfl
  have behind : Listing.Fits (Listing.without ['a'] splitPlaceholder.blocks) .empty :=
    ⟨by decide, by decide, List.nil_sublist _, by decide⟩
  have inside : Listing.Fits (Listing.without ['b'] splitPlaceholder.blocks)
      (.block ['a'] .empty .empty) := ⟨by decide, by decide, by decide, by decide⟩
  have first : Listing.collect 1 (Listing.without ['a'] splitPlaceholder.blocks) [] = [] :=
    behind.collect_outline 1
  have second : Listing.collect 1 (Listing.without ['b'] splitPlaceholder.blocks)
      "\x7bA\x7d".toList = [⟨['a'], 1⟩] := inside.collect_outline 1
  rw [Listing.ofDivision, Document.outline_divide_print named runs,
    Document.blocks_divide_print named runs, Listing.collect_eq, outermost, List.flatMap_cons,
    List.flatMap_cons, List.flatMap_nil, first, second]
  rfl

end PageTemplates
