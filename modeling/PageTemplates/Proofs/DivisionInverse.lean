import PageTemplates.Proofs.Nesting
import PageTemplates.Proofs.SubstitutionSteps

/-!
# Division can be undone

Division keeps no record of where a block stood.  It can be undone all the same:
the blocks are put back from the last one to the first, each at an occurrence of
its placeholder, and with the right occurrences the template comes back.

The right occurrence is the one that was put there when the block was cut.  At
that moment it stood at the end of what had been read, and what has been read
since is the rest of the template.  `Restores` puts blocks back with a condition
on the text behind the occurrence.  The reading of a template keeps that its
text and its blocks restore what has been read (`Restores.foldl`), as long as
the condition holds of whatever is read.

Without a condition that is the first half of `restores_divide`.  With the
condition that no brace is opened behind the occurrence it is the second: in a
template without opening braces the last one of the text always belongs to the
block that is put back, and nothing has to be chosen.
-/

namespace PageTemplates

/-! ## Putting blocks back -/

/-- Blocks are put back one after the other, each as it is written and in place of one occurrence
of its placeholder.  What stands behind the occurrence has to be allowed. -/
inductive Restores (allowed : Text → Prop) : List Block → (text result : Text) → Prop where
  | none (text : Text) : Restores allowed [] text text
  | putBack {block : Block} {blocks : List Block} {before behind result : Text}
      (may : allowed behind)
      (rest : Restores allowed blocks (before ++ (block.written ++ behind)) result) :
      Restores allowed (block :: blocks) (before ++ (block.placeholder ++ behind)) result

namespace Restores

variable {allowed : Text → Prop} {blocks : List Block} {text result : Text}

/-- A text behind all occurrences stays where it is. -/
theorem append {chars : Text} (still : ∀ behind, allowed behind → allowed (behind ++ chars))
    (restores : Restores allowed blocks text result) :
    Restores allowed blocks (text ++ chars) (result ++ chars) := by
  induction restores with
  | none text => exact .none _
  | @putBack block blocks before behind result may rest ih =>
    have deeper : Restores allowed blocks (before ++ (block.written ++ (behind ++ chars)))
        (result ++ chars) := by simpa using ih
    simpa using Restores.putBack (still _ may) deeper

variable {nesting : Nesting} {read : Text}

/-- A token keeps that the text read so far can be restored. -/
theorem step (restores : Restores allowed nesting.blocks.reverse nesting.outline read)
    (ends : allowed []) (token : Token)
    (still : ∀ behind, allowed behind → allowed (behind ++ token.text)) :
    Restores allowed (nesting.step Block.placeholder token).blocks.reverse
      (nesting.step Block.placeholder token).outline (read ++ token.text) := by
  have written := restores.append still
  cases token with
  | plain c =>
    rw [Nesting.step, Nesting.blocks_write, Nesting.outline_write]
    exact written
  | mark marker =>
    obtain ⟨name, rfl⟩ | ⟨frame, outer, frames, rfl⟩ | ⟨name, other, rfl⟩ :=
      nesting.mark_cases marker
    · rw [Nesting.step, Nesting.outline_openFrame]
      exact written
    · -- The placeholder stands at the end, and the block put back is what was there before.
      have block : nesting.outline ++ (Marker.mk .ends frame.name).text =
          (nesting.cutFrame frame outer).outline ++
            (Block.written ⟨frame.name, frame.text⟩ ++ []) := by
        simp [Nesting.outline_eq_cutFrame frames, Block.written, Frame.opening]
      have cut : (nesting.closeFrame Block.placeholder frame outer).outline =
          (nesting.cutFrame frame outer).outline ++
            (Block.placeholder ⟨frame.name, frame.text⟩ ++ []) := by
        simp [Nesting.closeFrame]
      have blocks : (nesting.closeFrame Block.placeholder frame outer).blocks.reverse =
          ⟨frame.name, frame.text⟩ :: nesting.blocks.reverse := by
        simp [Nesting.closeFrame, Nesting.cutFrame]
      rw [Nesting.step_end frames, cut, blocks]
      refine .putBack ends ?_
      rw [← block]
      exact written
    · rw [Nesting.step_end_of_ne other, Nesting.blocks_write, Nesting.outline_write]
      exact written

/-- Whatever is read, the text read can be restored from the outline and the blocks. -/
theorem foldl {tokens : List Token}
    (restores : Restores allowed nesting.blocks.reverse nesting.outline read) (ends : allowed [])
    (still : ∀ token ∈ tokens, ∀ behind, allowed behind → allowed (behind ++ token.text)) :
    Restores allowed (tokens.foldl (Nesting.step Block.placeholder) nesting).blocks.reverse
      (tokens.foldl (Nesting.step Block.placeholder) nesting).outline
      (read ++ Token.spelling tokens) := by
  induction tokens generalizing nesting read with
  | nil => simpa [Token.spelling] using restores
  | cons token tokens ih =>
    have first := restores.step ends token (still token (by simp))
    rw [Token.spelling_cons, ← List.append_assoc]
    exact ih first fun later member => still later (List.mem_cons_of_mem _ member)

/-- A template can be restored with any condition that its own tokens do not break. -/
theorem divide {text : Text} (ends : allowed [])
    (still : ∀ token ∈ Token.ofText text, ∀ behind, allowed behind →
      allowed (behind ++ token.text)) :
    Restores allowed (divide text).blocks.reverse (divide text).outline text := by
  have start : Restores allowed Nesting.start.blocks.reverse Nesting.start.outline [] := .none []
  have whole := start.foldl ends still
  rw [(Token.leftmost_ofText text).spells] at whole
  rw [outline_divide, blocks_divide]
  exact whole

end Restores

/-! ## The last opening brace -/

/-- The texts in front of the last opening brace and from it on. -/
def lastBrace? : Text → Option (Text × Text)
  | [] => none
  | c :: text =>
    match lastBrace? text with
    | some (before, behind) => some (c :: before, behind)
    | none => if c = '{' then some ([], c :: text) else none

/-- Puts a block back at the last opening brace, if its placeholder stands there. -/
def Block.restore? (text : Text) (block : Block) : Option Text :=
  (lastBrace? text).bind fun cut =>
    (Text.after? block.placeholder cut.2).map fun behind => cut.1 ++ (block.written ++ behind)

/-- Puts blocks back at the last opening brace, one after the other. -/
def restoreLast? (blocks : List Block) (text : Text) : Option Text :=
  blocks.foldlM Block.restore? text

theorem lastBrace?_eq_none {text : Text} (absent : '{' ∉ text) : lastBrace? text = none := by
  induction text with
  | nil => rfl
  | cons c text ih =>
    rw [List.mem_cons, not_or] at absent
    simp [lastBrace?, ih absent.2, Ne.symm absent.1]

theorem lastBrace?_append {before behind : Text} (last : '{' ∉ behind) :
    lastBrace? (before ++ '{' :: behind) = some (before, '{' :: behind) := by
  induction before with
  | nil => simp [lastBrace?, lastBrace?_eq_none last]
  | cons c before ih => simp [lastBrace?, ih]

theorem append_of_lastBrace?_eq_some {text before behind : Text}
    (cut : lastBrace? text = some (before, behind)) : text = before ++ behind := by
  induction text generalizing before with
  | nil => cases cut
  | cons c text ih =>
    simp only [lastBrace?] at cut
    split at cut
    · next deeper rest found =>
      obtain ⟨rfl, rfl⟩ := by simpa using cut
      rw [List.cons_append, ← ih found]
    · split at cut
      · obtain ⟨rfl, rfl⟩ := by simpa using cut
        rfl
      · cases cut

/-- The last opening brace is one of the occurrences. -/
theorem restores_of_restoreLast? {blocks : List Block} {text result : Text}
    (restored : restoreLast? blocks text = some result) :
    Restores (fun _ => True) blocks text result := by
  induction blocks generalizing text with
  | nil =>
    obtain rfl := Option.some.inj restored
    exact .none _
  | cons block blocks ih =>
    rw [restoreLast?, List.foldlM_cons] at restored
    obtain ⟨next, put, restored⟩ := Option.bind_eq_some_iff.1 restored
    obtain ⟨⟨before, behind⟩, cut, put⟩ := Option.bind_eq_some_iff.1 put
    obtain ⟨rest, after, rfl⟩ := Option.map_eq_some_iff.1 put
    obtain rfl : behind = block.placeholder ++ rest := Text.after?_eq_some_iff.1 after
    rw [append_of_lastBrace?_eq_some cut]
    exact .putBack trivial (ih restored)

/-- If no brace is opened behind the occurrences, the last opening brace is the right one. -/
theorem Restores.restoreLast? {blocks : List Block} {text result : Text}
    (restores : Restores (fun behind => '{' ∉ behind) blocks text result)
    (named : ∀ block ∈ blocks, '{' ∉ Name.upper block.name) :
    restoreLast? blocks text = some result := by
  induction restores with
  | none text => rfl
  | @putBack block blocks before behind result may rest ih =>
    have last : '{' ∉ Name.upper block.name ++ '}' :: behind := by
      simp [named block (by simp), may]
    have shape : block.placeholder ++ behind =
        '{' :: (Name.upper block.name ++ '}' :: behind) := by
      simp [Block.placeholder, Name.placeholder]
    have put : block.restore? (before ++ (block.placeholder ++ behind)) =
        some (before ++ (block.written ++ behind)) := by
      rw [Block.restore?, shape, lastBrace?_append last, ← shape]
      simp
    rw [PageTemplates.restoreLast?, List.foldlM_cons, put]
    exact ih fun other member => named other (List.mem_cons_of_mem _ member)

/-! ## Undoing a division -/

theorem brace_not_mem_token {text : Text} (absent : '{' ∉ text) {token : Token}
    (member : token ∈ Token.ofText text) : '{' ∉ token.text := by
  rw [← (Token.leftmost_ofText text).spells] at absent
  exact fun there => absent (List.mem_flatMap.2 ⟨token, member, there⟩)

/-- In a template without opening braces nothing has to be chosen. -/
theorem restoreLast?_divide {text : Text} (absent : '{' ∉ text) :
    restoreLast? (divide text).blocks.reverse (divide text).outline = some text := by
  have restores : Restores (fun behind => '{' ∉ behind) (divide text).blocks.reverse
      (divide text).outline text := by
    refine .divide (List.not_mem_nil) fun token member behind none => ?_
    simp [none, brace_not_mem_token absent member]
  refine restores.restoreLast? fun block member => ?_
  have named := isBlock_of_mem_divide (List.mem_reverse.1 member)
  exact Placeholder.open_not_mem (Name.isVariable_upper named)

/-- Division loses nothing.  The blocks of a template, put back from the last one to the first at
some occurrences of their placeholders, give the template back.  Putting them back at the last
opening brace is one way to choose the occurrences, and if the template has no opening brace it is a
right one.  So templates without opening braces that are divided into the same outline and the same
blocks are the same. -/
theorem restores_divide (text : Text) :
    Restores (fun _ => True) (divide text).blocks.reverse (divide text).outline text ∧
      (∀ blocks outline result, restoreLast? blocks outline = some result →
        Restores (fun _ => True) blocks outline result) ∧
      ('{' ∉ text → restoreLast? (divide text).blocks.reverse (divide text).outline = some text) ∧
      ∀ other, '{' ∉ text → '{' ∉ other → (divide text).outline = (divide other).outline →
        (divide text).blocks = (divide other).blocks → text = other := by
  refine ⟨.divide trivial fun _ _ _ _ => trivial, fun _ _ _ => restores_of_restoreLast?,
    restoreLast?_divide, fun other absent absentOther outlines blocks => ?_⟩
  have restored := restoreLast?_divide absent
  rw [outlines, blocks, restoreLast?_divide absentOther] at restored
  exact (Option.some.inj restored).symm

/-- A block inside another one of the same name, and one more of that name behind them. -/
def namesakes : Text :=
  ("<!-- BDP: a -->1<!-- BDP: a -->2<!-- EDP: a --><!-- EDP: a -->" ++
    "<!-- BDP: a -->3<!-- EDP: a -->").toList

theorem restores_divide_namesakes :
    '{' ∉ namesakes ∧
      (divide namesakes).outline = "\x7bA\x7d\x7bA\x7d".toList ∧
      (divide namesakes).blocks =
        [⟨['a'], ['2']⟩, ⟨['a'], "1\x7bA\x7d".toList⟩, ⟨['a'], ['3']⟩] ∧
      restoreLast? [⟨['a'], ['3']⟩, ⟨['a'], "1\x7bA\x7d".toList⟩, ⟨['a'], ['2']⟩]
        "\x7bA\x7d\x7bA\x7d".toList = some namesakes := by
  have absent : '{' ∉ namesakes := by decide
  have outline : (divide namesakes).outline = "\x7bA\x7d\x7bA\x7d".toList := by decide +kernel
  have blocks : (divide namesakes).blocks =
      [⟨['a'], ['2']⟩, ⟨['a'], "1\x7bA\x7d".toList⟩, ⟨['a'], ['3']⟩] := by decide +kernel
  have restored := (restores_divide namesakes).2.2.1 absent
  rw [outline, blocks] at restored
  exact ⟨absent, outline, blocks, restored⟩

end PageTemplates
