import PageTemplates.Proofs.Occurrences
import PageTemplates.Proofs.DivisionWarnings

/-!
# Documents

A document is what a template is written from: literal texts and named blocks,
each block with content of its own.  Printing puts the markers of a block around
its content.  Dividing the printed document gives the document back: the outline
is the document with a placeholder for each of its blocks, the blocks come in
post-order with their contents rewritten in the same way, and nothing is
reported (`divide_print`).

The literal texts have to be free of markers.  Nothing separates two literal
texts that stand side by side, and a marker may be written half in the one and
half in the other (`splitMarker`).  So the condition is on `Document.runs`, in
which such texts are joined.

A run cannot form a marker with what is printed next to it, for what is printed
behind a run is another marker, and no marker goes on into that one
(`Marker.Barrier`).  So the tokens of the printed document are those of the
document (`ofText_print`), and reading them goes along the document.
-/

namespace PageTemplates

/-- Literal texts and blocks in a row. -/
inductive Document where
  | empty
  | literal (text : Text) (rest : Document)
  | block (name : Text) (content rest : Document)
  deriving DecidableEq, Repr

namespace Document

/-- The document as a template, a block as its content between its markers. -/
def print : Document → Text
  | .empty => []
  | .literal text rest => text ++ rest.print
  | .block name content rest =>
    (Marker.mk .begins name).text ++ (content.print ++ ((Marker.mk .ends name).text ++ rest.print))

/-- The document with a placeholder for each of its outermost blocks. -/
def outline : Document → Text
  | .empty => []
  | .literal text rest => text ++ rest.outline
  | .block name _ rest => Name.placeholder name ++ rest.outline

/-- The blocks in post-order. -/
def blocks : Document → List Block
  | .empty => []
  | .literal _ rest => rest.blocks
  | .block name content rest => content.blocks ++ ⟨name, content.outline⟩ :: rest.blocks

/-- The literal texts. -/
def literals : Document → List Text
  | .empty => []
  | .literal text rest => text :: rest.literals
  | .block _ content rest => content.literals ++ rest.literals

/-- The literal text in front of the first block. -/
def lead : Document → Text
  | .empty => []
  | .literal text rest => text ++ rest.lead
  | .block _ _ _ => []

/-- The literal texts behind the marker of the first block, those between two markers joined. -/
def laterRuns : Document → List Text
  | .empty => []
  | .literal _ rest => rest.laterRuns
  | .block _ content rest => content.lead :: content.laterRuns ++ rest.lead :: rest.laterRuns

/-- The literal texts, those between two markers joined. -/
def runs (document : Document) : List Text := document.lead :: document.laterRuns

theorem runs_block (name : Text) (content rest : Document) :
    (block name content rest).runs = [] :: (content.runs ++ rest.runs) := rfl

/-- Every block has a block name. -/
abbrev Named (document : Document) : Prop :=
  ∀ block ∈ document.blocks, Name.isBlock block.name = true

end Document

/-! ## The tokens of a printed document -/

namespace Document

/-- The tokens that a document is printed in. -/
def tokens : Document → List Token
  | .empty => []
  | .literal text rest => text.map .plain ++ rest.tokens
  | .block name content rest =>
    .mark ⟨.begins, name⟩ :: (content.tokens ++ .mark ⟨.ends, name⟩ :: rest.tokens)

/-- What is printed behind the first literal texts begins with a marker. -/
theorem exists_print_append (document : Document) {tail : Text} (barrier : Marker.Barrier tail) :
    ∃ behind, document.print ++ tail = document.lead ++ behind ∧ Marker.Barrier behind := by
  induction document with
  | empty => exact ⟨tail, rfl, barrier⟩
  | literal text rest ih =>
    obtain ⟨behind, shape, barrier⟩ := ih
    exact ⟨behind, by simp [print, lead, shape], barrier⟩
  | block name content rest =>
    refine ⟨(Document.block name content rest).print ++ tail, rfl, ?_⟩
    rw [print, List.append_assoc]
    exact Marker.barrier_text _ _

theorem ofText_print_append {document : Document} (named : document.Named)
    (unmarked : ∀ run ∈ document.runs, Unmarked run) {tail : Text}
    (barrier : Marker.Barrier tail) :
    Token.ofText (document.print ++ tail) = document.tokens ++ Token.ofText tail := by
  induction document generalizing tail with
  | empty => rfl
  | literal text rest ih =>
    have whole : Unmarked (text ++ rest.lead) := unmarked _ (by simp [runs, lead])
    have later : ∀ run ∈ rest.runs, Unmarked run := by
      intro run member
      rcases List.mem_cons.1 member with rfl | member
      · exact whole.of_append
      · exact unmarked run (by simp [runs, laterRuns, member])
    obtain ⟨behind, shape, ends⟩ := rest.exists_print_append barrier
    have joined := Token.ofText_append (text ++ rest.lead) ends
    have alone := Token.ofText_append rest.lead ends
    rw [Token.ofText_unmarked whole, List.map_append, List.append_assoc, List.append_assoc,
      ← Token.ofText_unmarked whole.of_append, ← alone, ← shape, ih named later barrier] at joined
    rw [print, List.append_assoc, joined, tokens, List.append_assoc]
  | block name content rest ihContent ihRest =>
    have block : Name.isBlock name = true :=
      named ⟨name, content.outline⟩ (by simp [blocks])
    have opens : ∀ kind behind, Token.ofText ((Marker.mk kind name).text ++ behind) =
        .mark ⟨kind, name⟩ :: Token.ofText behind :=
      fun _ behind => Token.ofText_marker block behind
    have closes := Marker.barrier_text ⟨.ends, name⟩ (rest.print ++ tail)
    have inner := ihContent (fun block member => named block (by simp [blocks, member]))
      (fun run member => unmarked run (by simp [runs_block, member])) closes
    have outer := ihRest (fun block member => named block (by simp [blocks, member]))
      (fun run member => unmarked run (by simp [runs_block, member])) barrier
    rw [print, List.append_assoc, opens, List.append_assoc, List.append_assoc, inner, opens, outer,
      tokens]
    simp

/-- The markers of a document are the markers of the printed text. -/
theorem ofText_print {document : Document} (named : document.Named)
    (unmarked : ∀ run ∈ document.runs, Unmarked run) :
    Token.ofText document.print = document.tokens := by
  simpa [Token.ofText_nil] using ofText_print_append named unmarked Marker.barrier_nil

end Document

/-! ## Reading a document -/

namespace Nesting

/-- Adds a text to the innermost frame and blocks to those that have been closed. -/
def gain (chars : Text) (blocks : List Block) (nesting : Nesting) : Nesting :=
  { nesting.write chars with blocks := nesting.blocks ++ blocks }

theorem gain_gain (first second : Text) (blocks more : List Block) (nesting : Nesting) :
    (nesting.gain first blocks).gain second more =
      nesting.gain (first ++ second) (blocks ++ more) := by
  obtain ⟨outside, frames, before⟩ := nesting
  cases frames <;> simp [gain, write]

theorem gain_write (chars : Text) (nesting : Nesting) :
    nesting.gain chars [] = nesting.write chars := by
  obtain ⟨outside, frames, before⟩ := nesting
  cases frames <;> simp [gain, write]

/-- A frame is closed behind what it has gained. -/
theorem step_end_gain (name text : Text) (blocks : List Block) (nesting : Nesting) :
    ((nesting.openFrame name).gain text blocks).step Block.placeholder (.mark ⟨.ends, name⟩) =
      nesting.gain (Name.placeholder name) (blocks ++ [⟨name, text⟩]) := by
  obtain ⟨outside, frames, before⟩ := nesting
  cases frames <;>
    simp [gain, openFrame, write, step, closeFrame, cutFrame, Block.placeholder]

/-- Reading a document gains its outline and its blocks. -/
theorem foldl_tokens (document : Document) (nesting : Nesting) :
    document.tokens.foldl (step Block.placeholder) nesting =
      nesting.gain document.outline document.blocks := by
  induction document generalizing nesting with
  | empty => exact ((gain_write [] nesting).trans (write_nil nesting)).symm
  | literal text rest ih =>
    rw [Document.tokens, List.foldl_append, foldl_plain, ih, ← gain_write, gain_gain]
    rfl
  | block name content rest ihContent ihRest =>
    have opens : nesting.step Block.placeholder (.mark ⟨.begins, name⟩) =
        nesting.openFrame name := rfl
    rw [Document.tokens, List.foldl_cons, List.foldl_append, List.foldl_cons, ihContent, ihRest,
      opens, step_end_gain, gain_gain]
    simp [Document.outline, Document.blocks]

/-- Nothing in a document is reported. -/
theorem reports_tokens (document : Document) (nesting : Nesting) :
    nesting.reports document.tokens = [] := by
  induction document generalizing nesting with
  | empty => rfl
  | literal text rest ih => rw [Document.tokens, reports_append, reports_plain, ih]; rfl
  | block name content rest ihContent ihRest =>
    rw [Document.tokens, reports, reports_append, ihContent, foldl_tokens, reports, ihRest]
    simp [report, step, gain, openFrame, write]

end Nesting

namespace Document

variable {document : Document}

/-- Reading a printed document gains its outline and its blocks. -/
theorem reading_print (named : document.Named) (unmarked : ∀ run ∈ document.runs, Unmarked run) :
    Nesting.reading Block.placeholder document.print =
      Nesting.start.gain document.outline document.blocks := by
  rw [Nesting.reading, ofText_print named unmarked, Nesting.foldl_tokens]

theorem outline_divide_print (named : document.Named)
    (unmarked : ∀ run ∈ document.runs, Unmarked run) :
    (divide document.print).outline = document.outline := by
  rw [outline_divide, reading_print named unmarked]
  rfl

theorem blocks_divide_print (named : document.Named)
    (unmarked : ∀ run ∈ document.runs, Unmarked run) :
    (divide document.print).blocks = document.blocks := by
  rw [blocks_divide, reading_print named unmarked]
  rfl

theorem warnings_divide_print (named : document.Named)
    (unmarked : ∀ run ∈ document.runs, Unmarked run) : (divide document.print).warnings = [] := by
  rw [warnings_divide, ofText_print named unmarked, Nesting.reports_tokens,
    reading_print named unmarked]
  rfl

end Document

/-- Dividing a printed document gives its outline and its blocks back, and nothing is reported. -/
theorem divide_print {document : Document} (named : document.Named)
    (unmarked : ∀ run ∈ document.runs, Unmarked run) :
    divide document.print = ⟨document.outline, document.blocks, []⟩ := by
  rw [← Document.outline_divide_print named unmarked, ← Document.blocks_divide_print named unmarked,
    ← Document.warnings_divide_print named unmarked]

/-- A block inside one of the same name, with halves of markers next to theirs. -/
def halves : Document :=
  .literal "<!-- BDP: a".toList
    (.block ['a']
      (.literal " -->".toList (.block ['a'] (.literal "<!-- ".toList .empty)
        (.literal "<!-- EDP: ".toList .empty)))
      (.literal "a -->".toList .empty))

theorem divide_print_halves :
    halves.Named ∧ (∀ run ∈ halves.runs, Unmarked run) ∧
      divide ("<!-- BDP: a<!-- BDP: a --> --><!-- BDP: a --><!-- <!-- EDP: a --><!-- EDP: " ++
        "<!-- EDP: a -->a -->").toList =
      ⟨"<!-- BDP: a\x7bA\x7da -->".toList,
        [⟨['a'], "<!-- ".toList⟩, ⟨['a'], " -->\x7bA\x7d<!-- EDP: ".toList⟩], []⟩ := by
  have named : halves.Named := by decide
  have unmarked : ∀ run ∈ halves.runs, Unmarked run := by
    have searched : ∀ run ∈ halves.runs, Marker.find? run = none := by decide
    exact fun run member => Marker.find?_eq_none_iff.1 (searched run member)
  exact ⟨named, unmarked, divide_print named unmarked⟩

/-- Literal texts side by side that make up the markers of a block. -/
def splitMarker : Document :=
  .literal "<!-- BDP: a".toList
    (.literal " -->x<!-- EDP: a".toList (.literal " -->".toList .empty))

/-- Texts without markers are not enough if they stand side by side. -/
theorem divide_splitMarker :
    splitMarker.Named ∧ (∀ text ∈ splitMarker.literals, Unmarked text) ∧
      splitMarker.blocks = [] ∧
      divide splitMarker.print = ⟨"\x7bA\x7d".toList, [⟨['a'], ['x']⟩], []⟩ ∧
      divide splitMarker.print ≠ ⟨splitMarker.outline, splitMarker.blocks, []⟩ := by
  have searched : ∀ text ∈ splitMarker.literals, Marker.find? text = none := by decide
  have unmarked : ∀ text ∈ splitMarker.literals, Unmarked text :=
    fun text member => Marker.find?_eq_none_iff.1 (searched text member)
  exact ⟨by decide, unmarked, rfl, by decide +kernel, by decide +kernel⟩

end PageTemplates
