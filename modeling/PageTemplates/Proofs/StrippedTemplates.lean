import PageTemplates.Proofs.Nesting
import PageTemplates.Proofs.ScanInvariant

/-!
# Templates without their markers

`stripped` is a template without the markers of the blocks that division cuts.
The reading that writes each block with its markers gives the template back
(`outline_reading_written`).  `stripped` is the reading that writes the body
alone, so each pair of markers goes and nothing else does.

When the variable of every block has the body of the block as its value, the
outline of the division becomes the stripped template by one step for each
block: a step puts the body in place of the placeholder, and the placeholders
in that body are the blocks inside.  The two readings are compared frame by
frame (`Nesting.Unfolds`), and each block that is closed adds one step.

The order of the steps does not matter, so substitution gives the same text for
both, with a budget that differs by the number of blocks
(`substitute_stripped_iff`).
-/

namespace PageTemplates

open Substitution

/-- A template without the markers of its blocks. -/
def stripped (text : Text) : Text := (Nesting.reading Block.body text).outline

namespace Nesting

variable {lookup : Text → Option Text}

/-- The texts of frames become those of other frames by a number of steps. -/
inductive Unfolds (lookup : Text → Option Text) : Nat → List Frame → List Frame → Prop where
  | none : Unfolds lookup 0 [] []
  | more {name text text' : Text} {outer outer' : List Frame} {n m : Nat}
      (steps : Steps lookup n text text') (rest : Unfolds lookup m outer outer') :
      Unfolds lookup (n + m) (⟨name, text⟩ :: outer) (⟨name, text'⟩ :: outer')

/-- All that has been read becomes what another nesting has read by a number of steps. -/
def Becomes (lookup : Text → Option Text) (count : Nat) (nesting other : Nesting) : Prop :=
  ∃ n m, Steps lookup n nesting.outside other.outside ∧
    Unfolds lookup m nesting.frames other.frames ∧ count = n + m

variable {count : Nat} {nesting other : Nesting}

theorem Becomes.write {k : Nat} {chars chars' : Text} (becomes : Becomes lookup count nesting other)
    (steps : Steps lookup k chars chars') :
    Becomes lookup (count + k) (nesting.write chars) (other.write chars') := by
  obtain ⟨outside, frames, blocks⟩ := nesting
  obtain ⟨outside', frames', blocks'⟩ := other
  obtain ⟨n, m, outer, unfolds, rfl⟩ := becomes
  cases unfolds with
  | none => exact ⟨n + k, 0, outer.beside steps, .none, by omega⟩
  | @more _ _ _ _ _ i j inner rest =>
    exact ⟨n, i + k + j, outer, .more (inner.beside steps) rest, by omega⟩

theorem Becomes.openFrame (becomes : Becomes lookup count nesting other) (name : Text) :
    Becomes lookup count (nesting.openFrame name) (other.openFrame name) := by
  obtain ⟨n, m, outside, unfolds, rfl⟩ := becomes
  exact ⟨n, 0 + m, outside, .more (.none []) unfolds, by omega⟩

/-- The frames that are closed become one another, and so does what is left. -/
theorem Becomes.cutFrame {frame : Frame} {outer : List Frame}
    (becomes : Becomes lookup count nesting other) (frames : nesting.frames = frame :: outer) :
    ∃ text outer' k left, other.frames = ⟨frame.name, text⟩ :: outer' ∧
      Steps lookup k frame.text text ∧
      Becomes lookup left (nesting.cutFrame frame outer)
        (other.cutFrame ⟨frame.name, text⟩ outer') ∧ count = left + k := by
  obtain ⟨outside, _, blocks⟩ := nesting
  obtain ⟨outside', frames', blocks'⟩ := other
  obtain ⟨n, m, outermost, unfolds, rfl⟩ := becomes
  subst frames
  cases unfolds with
  | @more name text text' _ outer' i j inner rest =>
    exact ⟨text', outer', i, n + j, rfl, inner, ⟨n, j, outermost, rest, rfl⟩, by omega⟩

theorem Unfolds.names {n : Nat} {frames frames' : List Frame}
    (unfolds : Unfolds lookup n frames frames') :
    frames.head?.map Frame.name = frames'.head?.map Frame.name := by
  cases unfolds <;> rfl

/-- A block is stood for by its placeholder on one side and by its body on the
other, and it takes one step from the one to the other. -/
theorem step_placeholder {block : Block} (block_name : Name.isBlock block.name = true)
    (value : lookup (Name.upper block.name) = some block.body) :
    Step lookup block.placeholder block.body := by
  simpa [Block.placeholder, Name.placeholder] using
    Step.replace [] [] (Name.isVariable_upper block_name) value

/-- A block that is closed adds a step. -/
theorem Becomes.closeFrame {frame : Frame} {outer : List Frame}
    (becomes : Becomes lookup count nesting other) (frames : nesting.frames = frame :: outer)
    (named : Name.isBlock frame.name = true)
    (value : lookup (Name.upper frame.name) = some frame.text) :
    Becomes lookup (count + 1) (nesting.step Block.placeholder (.mark ⟨.ends, frame.name⟩))
      (other.step Block.body (.mark ⟨.ends, frame.name⟩)) := by
  obtain ⟨text, outer', k, left, frames', inner, rest, rfl⟩ := becomes.cutFrame frames
  have first : Step lookup (Block.placeholder ⟨frame.name, frame.text⟩) frame.text :=
    step_placeholder named value
  have unfolded := rest.write (.next first inner)
  rw [step_end frames]
  have closed : other.step Block.body (.mark ⟨.ends, frame.name⟩) =
      other.closeFrame Block.body ⟨frame.name, text⟩ outer' := step_end frames'
  rw [closed]
  exact (Nat.add_assoc left k 1).symm ▸ unfolded

theorem blocks_closeFrame (stands : Block → Text) (frame : Frame) (outer : List Frame)
    (nesting : Nesting) : (nesting.closeFrame stands frame outer).blocks =
      nesting.blocks ++ [⟨frame.name, frame.text⟩] := by
  rw [Nesting.closeFrame, blocks_write]
  rfl

/-- A token adds a step for each block that it closes. -/
theorem Becomes.step {token : Token} (becomes : Becomes lookup nesting.blocks.length nesting other)
    (named : ∀ marker : Marker, token = .mark marker → Name.isBlock marker.name = true)
    (values : ∀ block ∈ (nesting.step Block.placeholder token).blocks,
      lookup (Name.upper block.name) = some block.body) :
    Becomes lookup (nesting.step Block.placeholder token).blocks.length
      (nesting.step Block.placeholder token) (other.step Block.body token) := by
  cases token with
  | plain c =>
    rw [Nesting.step, blocks_write]
    exact becomes.write (.none [c])
  | mark marker =>
    obtain ⟨name, rfl⟩ | ⟨frame, outer, frames, rfl⟩ | ⟨name, different, rfl⟩ :=
      nesting.mark_cases marker
    · exact becomes.openFrame name
    · have blocks : (nesting.step Block.placeholder (.mark ⟨.ends, frame.name⟩)).blocks =
          nesting.blocks ++ [⟨frame.name, frame.text⟩] := by
        rw [step_end frames, blocks_closeFrame]
      have value := values ⟨frame.name, frame.text⟩ (by simp [blocks])
      rw [blocks, List.length_append]
      exact becomes.closeFrame frames (named _ rfl) value
    · obtain ⟨n, m, outside, unfolds, sum⟩ := becomes
      have different' := different
      rw [unfolds.names] at different'
      rw [step_end_of_ne different, step_end_of_ne different', blocks_write]
      exact Becomes.write ⟨n, m, outside, unfolds, sum⟩ (.none _)

/-- No token takes a block back. -/
theorem blocks_subset_step (stands : Block → Text) (nesting : Nesting) (token : Token) :
    nesting.blocks ⊆ (nesting.step stands token).blocks := by
  cases token with
  | plain c => simp [Nesting.step]
  | mark marker =>
    obtain ⟨name, rfl⟩ | ⟨frame, outer, frames, rfl⟩ | ⟨name, other, rfl⟩ :=
      nesting.mark_cases marker
    · exact List.Subset.refl _
    · rw [step_end frames, blocks_closeFrame]
      exact List.subset_append_left _ _
    · rw [step_end_of_ne other, blocks_write]
      exact List.Subset.refl _

theorem blocks_subset_foldl (stands : Block → Text) (tokens : List Token) (nesting : Nesting) :
    nesting.blocks ⊆ (tokens.foldl (Nesting.step stands) nesting).blocks := by
  induction tokens generalizing nesting with
  | nil => exact List.Subset.refl _
  | cons token tokens ih => exact List.Subset.trans (blocks_subset_step stands nesting token) (ih _)

/-- Reading tokens adds a step for each block that is closed. -/
theorem Becomes.foldl {tokens : List Token}
    (becomes : Becomes lookup nesting.blocks.length nesting other)
    (named : ∀ marker : Marker, .mark marker ∈ tokens → Name.isBlock marker.name = true)
    (values : ∀ block ∈ (tokens.foldl (Nesting.step Block.placeholder) nesting).blocks,
      lookup (Name.upper block.name) = some block.body) :
    Becomes lookup (tokens.foldl (Nesting.step Block.placeholder) nesting).blocks.length
      (tokens.foldl (Nesting.step Block.placeholder) nesting)
      (tokens.foldl (Nesting.step Block.body) other) := by
  induction tokens generalizing nesting other with
  | nil => exact becomes
  | cons token tokens ih =>
    refine ih (becomes.step ?_ ?_) ?_ values
    · rintro marker rfl
      exact named marker (by simp)
    · intro block member
      exact values block (blocks_subset_foldl _ tokens _ member)
    · intro marker member
      exact named marker (List.mem_cons_of_mem _ member)

/-- Frames that are put back become one another. -/
theorem Unfolds.flatten {n m : Nat} {outside outside' : Text} {frames frames' : List Frame}
    (steps : Steps lookup n outside outside') (unfolds : Unfolds lookup m frames frames') :
    Steps lookup (n + m) (Nesting.flatten outside frames) (Nesting.flatten outside' frames') := by
  induction unfolds with
  | none => exact steps
  | @more name text text' outer outer' i j inner rest ih =>
    have opened := Steps.beside (.none (Marker.mk .begins name).text) inner
    have whole := ih.beside opened
    simp only [Nesting.flatten, Frame.opening]
    exact (show n + j + (0 + i) = n + (i + j) by omega) ▸ whole

theorem Becomes.outline (becomes : Becomes lookup count nesting other) :
    Steps lookup count nesting.outline other.outline := by
  obtain ⟨n, m, outside, unfolds, rfl⟩ := becomes
  exact unfolds.flatten outside

end Nesting

variable {lookup : Text → Option Text}

/-- The outline becomes the stripped template by one step for each block. -/
theorem steps_outline_stripped {text : Text}
    (values : ∀ block ∈ (divide text).blocks, lookup (Name.upper block.name) = some block.body) :
    Steps lookup (divide text).blocks.length (divide text).outline (stripped text) := by
  rw [outline_divide, blocks_divide] at *
  have start : Nesting.Becomes lookup Nesting.start.blocks.length Nesting.start Nesting.start :=
    ⟨0, 0, .none _, .none, rfl⟩
  exact (start.foldl (Token.leftmost_ofText text).named values).outline

/-- Division is transparent to substitution: if the variable of each block has
the body of the block as its value, the stripped template and the outline give
the same text, and the outline takes one replacement more for each block. -/
theorem substitute_stripped_iff {text : Text}
    (values : ∀ block ∈ (divide text).blocks, lookup (Name.upper block.name) = some block.body)
    (limit : Nat) (out : Text) :
    substitute lookup limit (stripped text) = .ok out ↔
      substitute lookup (limit + (divide text).blocks.length) (divide text).outline = .ok out := by
  have cut := steps_outline_stripped values
  rw [substitute_eq_ok_iff, substitute_eq_ok_iff]
  constructor
  · rintro ⟨n, small, steps, normal⟩
    exact ⟨(divide text).blocks.length + n, by omega, cut.append steps, normal⟩
  · rintro ⟨n, small, steps, normal⟩
    obtain ⟨enough, rest⟩ := steps.rest_of_normal normal cut
    exact ⟨n - (divide text).blocks.length, by omega, rest, normal⟩

/-- Braces that are opened in one block and closed in another. -/
def straddling : Text :=
  ("\x7b<!-- BDP: a -->X\x7d<!-- BDP: b --><!-- EDP: c -->\x7bY<!-- EDP: b -->\x7d" ++
    "<!-- EDP: a -->").toList

/-- The variables of the blocks of `straddling`, and of the names in them. -/
def straddlingValues : Text → Option Text
  | ['A'] => some "X\x7d\x7bB\x7d\x7d".toList
  | ['B'] => some "<!-- EDP: c -->\x7bY".toList
  | ['X'] => some "1".toList
  | ['Y'] => some "2".toList
  | _ => none

theorem substitute_stripped_straddling :
    (∀ block ∈ (divide straddling).blocks,
      straddlingValues (Name.upper block.name) = some block.body) ∧
    substitute straddlingValues 2 (stripped straddling) = .ok "1<!-- EDP: c -->2".toList ∧
    substitute straddlingValues (2 + (divide straddling).blocks.length)
      (divide straddling).outline =
      .ok "1<!-- EDP: c -->2".toList := by
  have values : ∀ block ∈ (divide straddling).blocks,
      straddlingValues (Name.upper block.name) = some block.body := by decide +kernel
  have filled : substitute? straddlingValues 2 (stripped straddling) =
      some "1<!-- EDP: c -->2".toList := by decide +kernel
  have plain : substitute straddlingValues 2 (stripped straddling) =
      .ok "1<!-- EDP: c -->2".toList := by rw [substitute, filled]
  exact ⟨values, plain, (substitute_stripped_iff values 2 _).1 plain⟩

end PageTemplates
