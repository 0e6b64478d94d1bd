import PageTemplates.Proofs.ScanInvariant
import PageTemplates.Proofs.MarkerSearch

/-!
# Braces are paired

Placeholders can be replaced in one text with positions that count bytes.  A
`Filler` goes from brace to brace and remembers where the open ones stand.  A
closing brace is paired with the innermost of them, and the name between the
two is sliced out.  If it has a value the placeholder is replaced by it, and
reading goes on at the value.  Otherwise both braces stay and are remembered as
a pair.  `Filler.step` says so if it asks for a part of the text that is not
there.

What a filler remembers depends on the text that it has read and on nothing
else (`Scan.filler`): `fronts` are the texts in front of its open braces, and
`closed` those in front of its pairs.  Every brace that was opened in a text is
open or closed (`mem_fronts_or_closed`) and not both (`not_mem_fronts_of_closed`).
A replacement brings a filler back to a text that it has read before, and no
pair was made behind that text, since a name has no brace
(`Scan.step_filler_valued`).

So a filler does what a scan does (`Scan.step_filler`).  It comes to the same
text within the same limit, and its positions are right at every moment
(`Scan.sound_filler`).  `substitute_in_range` puts this together.
-/

namespace PageTemplates

open Substitution

namespace Text

/-- A character stands in a text behind a number of bytes. -/
def StandsAt (text : Text) (c : Char) (offset : Nat) : Prop :=
  ∃ front behind, text = front ++ c :: behind ∧ offset = utf8Length front

theorem StandsAt.lt_utf8Length {text : Text} {c : Char} {offset : Nat}
    (stands : StandsAt text c offset) : offset < utf8Length text := by
  obtain ⟨front, behind, rfl, rfl⟩ := stands
  have positive := Char.utf8Size_pos c
  simp only [utf8Length_append, utf8Length]
  omega

/-- The number of bytes in front of the first brace. -/
def byteOfBrace? : Text → Option Nat
  | [] => none
  | c :: text => if c = '{' ∨ c = '}' then some 0 else (byteOfBrace? text).map (c.utf8Size + ·)

@[simp] theorem utf8Length_reverse (text : Text) : utf8Length text.reverse = utf8Length text := by
  induction text with
  | nil => rfl
  | cons c text ih =>
    rw [List.reverse_cons, utf8Length_append, ih, utf8Length, utf8Length, utf8Length]
    omega

theorem exists_of_byteOfBrace? {text : Text} {ahead : Nat}
    (found : byteOfBrace? text = some ahead) :
    ∃ gap brace rest, text = gap ++ brace :: rest ∧ (brace = '{' ∨ brace = '}') ∧
      ahead = utf8Length gap := by
  induction text generalizing ahead with
  | nil => cases found
  | cons c text ih =>
    rw [byteOfBrace?] at found
    split at found
    · next kind =>
      cases found
      exact ⟨[], c, text, rfl, kind, rfl⟩
    · obtain ⟨_, later, rfl⟩ := Option.map_eq_some_iff.1 found
      obtain ⟨gap, brace, rest, rfl, kind, rfl⟩ := ih later
      exact ⟨c :: gap, brace, rest, rfl, kind, rfl⟩

end Text

/-! ## Open and closed braces -/

/-- The texts in front of the open braces of a text, innermost brace first.
All texts are given last character first. -/
def fronts : Text → List Text
  | [] => []
  | c :: before =>
    if c = '{' then before :: fronts before
    else if c = '}' then (fronts before).tail
    else fronts before

/-- The texts in front of the two braces of each pair in a text, last pair first. -/
def closed : Text → List (Text × Text)
  | [] => []
  | c :: before =>
    if c = '}' then ((fronts before).head?.map fun front => (front, before)).toList ++ closed before
    else closed before

section

variable {before front last : Text}

@[simp] theorem fronts_open (before : Text) :
    fronts ('{' :: before) = before :: fronts before := rfl

@[simp] theorem fronts_close (before : Text) : fronts ('}' :: before) = (fronts before).tail := rfl

theorem fronts_plain {c : Char} (noOpen : c ≠ '{') (noClose : c ≠ '}') (before : Text) :
    fronts (c :: before) = fronts before := by
  simp [fronts, noOpen, noClose]

theorem closed_close (before : Text) : closed ('}' :: before) =
    ((fronts before).head?.map fun front => (front, before)).toList ++ closed before := rfl

theorem closed_of_ne {c : Char} (noClose : c ≠ '}') (before : Text) :
    closed (c :: before) = closed before := by
  simp [closed, noClose]

/-- The positions of the open braces count the characters in front of them. -/
theorem pending_eq (before : Text) : pending before = (fronts before).map List.length := by
  induction before with
  | nil => rfl
  | cons c before ih =>
    simp only [pending, fronts]
    split
    · rw [ih, List.map_cons]
    split
    · rw [ih, List.map_tail]
    · exact ih

/-- A text without braces leaves the open braces and the pairs as they are. -/
theorem fronts_append {chars : Text} (noOpen : '{' ∉ chars) (noClose : '}' ∉ chars)
    (before : Text) : fronts (chars ++ before) = fronts before := by
  induction chars with
  | nil => rfl
  | cons c chars ih =>
    simp only [List.mem_cons, not_or] at noOpen noClose
    rw [List.cons_append, fronts_plain (Ne.symm noOpen.1) (Ne.symm noClose.1),
      ih noOpen.2 noClose.2]

theorem closed_append {chars : Text} (noClose : '}' ∉ chars) (before : Text) :
    closed (chars ++ before) = closed before := by
  induction chars with
  | nil => rfl
  | cons c chars ih =>
    rw [List.mem_cons, not_or] at noClose
    rw [List.cons_append, closed_of_ne (Ne.symm noClose.1), ih noClose.2]

/-- A character opens a brace, closes one or does neither. -/
theorem brace_or_plain (c : Char) : c = '{' ∨ c = '}' ∨ (c ≠ '{' ∧ c ≠ '}') := by
  by_cases isOpen : c = '{'
  · exact .inl isOpen
  · by_cases isClose : c = '}'
    · exact .inr (.inl isClose)
    · exact .inr (.inr ⟨isOpen, isClose⟩)

/-- An open brace stands in the text. -/
theorem suffix_of_mem_fronts (member : front ∈ fronts before) : '{' :: front <:+ before := by
  induction before with
  | nil => cases member
  | cons c before ih =>
    have further : front ∈ fronts before → '{' :: front <:+ c :: before :=
      fun there => (ih there).trans (List.suffix_cons c before)
    rcases brace_or_plain c with rfl | rfl | ⟨noOpen, noClose⟩
    · rcases List.mem_cons.1 member with rfl | outer
      · exact List.suffix_refl _
      · exact further outer
    · exact further (List.mem_of_mem_tail member)
    · rw [fronts_plain noOpen noClose] at member
      exact further member

/-- An open brace stands behind those further out. -/
theorem pairwise_fronts (before : Text) :
    (fronts before).Pairwise fun inner outer => '{' :: outer <:+ inner := by
  induction before with
  | nil => exact .nil
  | cons c before ih =>
    rcases brace_or_plain c with rfl | rfl | ⟨noOpen, noClose⟩
    · exact .cons (fun outer member => suffix_of_mem_fronts member) ih
    · exact ih.tail
    · rw [fronts_plain noOpen noClose]
      exact ih

/-- A closing brace is paired with the innermost open one. -/
theorem mem_closed_close :
    (front, last) ∈ closed ('}' :: before) ↔
      (last = before ∧ (fronts before).head? = some front) ∨ (front, last) ∈ closed before := by
  rw [closed_close, List.mem_append]
  cases fronts before <;> simp [and_comm, eq_comm]

/-- A pair stands in the text, the open brace in front of the closing one. -/
theorem suffix_of_mem_closed (member : (front, last) ∈ closed before) :
    '}' :: last <:+ before ∧ '{' :: front <:+ last := by
  induction before with
  | nil => cases member
  | cons c before ih =>
    have further : (front, last) ∈ closed before →
        '}' :: last <:+ c :: before ∧ '{' :: front <:+ last :=
      fun there => ⟨(ih there).1.trans (List.suffix_cons c before), (ih there).2⟩
    by_cases closes : c = '}'
    · subst closes
      rcases mem_closed_close.1 member with ⟨rfl, innermost⟩ | there
      · exact ⟨List.suffix_refl _, suffix_of_mem_fronts (List.mem_of_mem_head? innermost)⟩
      · exact further there
    · rw [closed_of_ne closes] at member
      exact further member

theorem open_suffix_of_mem_closed (member : (front, last) ∈ closed before) :
    '{' :: front <:+ before := by
  obtain ⟨close, brace⟩ := suffix_of_mem_closed member
  exact brace.trans ((List.suffix_cons _ _).trans close)

/-- Every brace that was opened is open or closed. -/
theorem mem_fronts_or_closed (stands : '{' :: front <:+ before) :
    front ∈ fronts before ∨ ∃ last, (front, last) ∈ closed before := by
  induction before with
  | nil => exact absurd (List.suffix_nil.1 stands) (List.cons_ne_nil _ _)
  | cons c before ih =>
    rcases List.suffix_cons_iff.1 stands with same | later
    · obtain ⟨rfl, rfl⟩ := List.cons.inj same
      exact .inl List.mem_cons_self
    · have earlier := ih later
      rcases brace_or_plain c with rfl | rfl | ⟨noOpen, noClose⟩
      · rw [closed_of_ne (by decide)]
        exact earlier.imp_left (List.mem_cons_of_mem _)
      · -- The innermost brace is closed here, and the others stay open.
        rcases earlier with isOpen | ⟨last, isClosed⟩
        · cases stack : fronts before with
          | nil =>
            rw [stack] at isOpen
            cases isOpen
          | cons innermost outer =>
            rw [stack] at isOpen
            rcases List.mem_cons.1 isOpen with rfl | further
            · exact .inr ⟨before, mem_closed_close.2 (.inl ⟨rfl, by rw [stack]; rfl⟩)⟩
            · exact .inl (by rw [fronts_close, stack]; exact further)
        · exact .inr ⟨last, mem_closed_close.2 (.inr isClosed)⟩
      · rw [fronts_plain noOpen noClose, closed_of_ne noClose]
        exact earlier

theorem not_suffix_of_suffix {c : Char} (stands : c :: last <:+ front) : ¬ front <:+ last := by
  intro within
  have longer := stands.length_le
  have shorter := within.length_le
  rw [List.length_cons] at longer
  omega

/-- A brace that is closed is not open. -/
theorem not_mem_fronts_of_closed (member : (front, last) ∈ closed before) :
    front ∉ fronts before := by
  induction before with
  | nil => cases member
  | cons c before ih =>
    intro isOpen
    rcases brace_or_plain c with rfl | rfl | ⟨noOpen, noClose⟩
    · rw [closed_of_ne (by decide)] at member
      rcases List.mem_cons.1 isOpen with rfl | outer
      · obtain ⟨close, stands⟩ := suffix_of_mem_closed member
        exact not_suffix_of_suffix close ((List.suffix_cons _ _).trans stands)
      · exact ih member outer
    · rcases mem_closed_close.1 member with ⟨rfl, innermost⟩ | there
      · obtain ⟨outer, stack⟩ := List.head?_eq_some_iff.1 innermost
        have apart := pairwise_fronts last
        rw [stack] at apart
        rw [fronts_close, stack] at isOpen
        have within := (List.pairwise_cons.1 apart).1 front isOpen
        exact not_suffix_of_suffix within (List.suffix_refl _)
      · exact ih there (List.mem_of_mem_tail isOpen)
    · rw [closed_of_ne noClose] at member
      rw [fronts_plain noOpen noClose] at isOpen
      exact ih member isOpen

end

/-! ## Fillers -/

/-- What a search for a brace ends with. -/
inductive SoughtBrace where
  | found (brace : Char) (offset : Nat)
  | nothing
  /-- A part of the text was asked for that is not there. -/
  | outOfRange
  deriving DecidableEq, Repr

/-- Looks for the next brace from a byte on. -/
def seekBrace (text : Text) (start : Nat) : SoughtBrace :=
  match (Text.fromByte? start text).bind Text.byteOfBrace? with
  | none => .nothing
  | some ahead =>
    match (Text.fromByte? (start + ahead) text).bind List.head? with
    | some brace => .found brace (start + ahead)
    | none => .outOfRange

/-- A text in which placeholders are replaced in place. -/
structure Filler where
  /-- The whole text as it is now. -/
  text : Text
  /-- How many bytes have been read. -/
  read : Nat
  /-- How many bytes stand in front of each open brace, innermost brace first. -/
  opened : List Nat
  /-- The pairs of braces that stayed so far, last pair first. -/
  paired : List (Nat × Nat)
  /-- How many placeholders have been replaced. -/
  replaced : Nat
  deriving DecidableEq, Repr

namespace Filler

/-- What one move of a filler leads to. -/
inductive Move where
  /-- There is no other brace. -/
  | finished
  | onward (next : Filler)
  /-- Another placeholder would have to be replaced. -/
  | overLimit
  /-- A part of the text was asked for that is not there. -/
  | outOfRange
  deriving DecidableEq, Repr

/-- Nothing has been read. -/
def start (text : Text) : Filler := ⟨text, 0, [], [], 0⟩

/-- Reads a brace. -/
def pass (offset : Nat) (filler : Filler) : Filler := { filler with read := offset + 1 }

/-- Replaces what stands between two braces, and these. -/
def replace? (brace : Nat) (outer : List Nat) (offset : Nat) (value : Text) (filler : Filler) :
    Option Filler :=
  (Text.replaceBytes? brace (offset + 1) value filler.text).map fun text =>
    { filler with text := text, read := brace, opened := outer, replaced := filler.replaced + 1 }

/-- Reads a closing brace that is paired with an open one. -/
def close (lookup : Text → Option Text) (limit brace : Nat) (outer : List Nat) (offset : Nat)
    (filler : Filler) : Move :=
  match Text.slice? (brace + 1) offset filler.text with
  | none => .outOfRange
  | some name =>
    match Scan.valueOf lookup name with
    | none => .onward
        { filler.pass offset with opened := outer, paired := (brace, offset) :: filler.paired }
    | some value =>
      if filler.replaced < limit then
        match filler.replace? brace outer offset value with
        | some next => .onward next
        | none => .outOfRange
      else .overLimit

/-- Reads the brace found next. -/
def meet (lookup : Text → Option Text) (limit : Nat) (brace : Char) (offset : Nat)
    (filler : Filler) : Move :=
  if brace = '{' then .onward { filler.pass offset with opened := offset :: filler.opened }
  else
    match filler.opened with
    | [] => .onward (filler.pass offset)
    | innermost :: outer => filler.close lookup limit innermost outer offset

/-- One move of a filler. -/
def step (lookup : Text → Option Text) (limit : Nat) (filler : Filler) : Move :=
  match seekBrace filler.text filler.read with
  | .found brace offset => filler.meet lookup limit brace offset
  | .nothing => .finished
  | .outOfRange => .outOfRange

/-! ## Every move reads on or replaces -/

/-- How many bytes are left to read. -/
def left (filler : Filler) : Nat := Text.utf8Length filler.text - filler.read

/-- A move reads on, or it replaces a placeholder, if the limit is not reached. -/
def Decreases (limit : Nat) (filler next : Filler) : Prop :=
  (next.replaced = filler.replaced ∧ next.left < filler.left) ∨
    (next.replaced = filler.replaced + 1 ∧ next.replaced ≤ limit)

variable {lookup : Text → Option Text} {limit : Nat} {filler next : Filler}

theorem decreases_of_pass {offset : Nat} (later : filler.read ≤ offset)
    (within : filler.read < Text.utf8Length filler.text) (opened : List Nat)
    (paired : List (Nat × Nat)) :
    Decreases limit filler { filler.pass offset with opened := opened, paired := paired } := by
  refine .inl ⟨rfl, ?_⟩
  simp only [left, pass]
  omega

theorem decreases_of_close {brace offset : Nat} {outer : List Nat} (later : filler.read ≤ offset)
    (within : filler.read < Text.utf8Length filler.text)
    (move : filler.close lookup limit brace outer offset = .onward next) :
    Decreases limit filler next := by
  rw [close] at move
  split at move
  · cases move
  split at move
  · cases move
    exact decreases_of_pass later within _ _
  · split at move
    · next few =>
      split at move
      · next replaced =>
        cases move
        obtain ⟨text, -, rfl⟩ := Option.map_eq_some_iff.1 replaced
        exact .inr ⟨rfl, few⟩
      · cases move
    · cases move

end Filler

/-- A brace that is found stands there and has not been read. -/
theorem standsAt_of_seekBrace {text : Text} {start offset : Nat} {brace : Char}
    (sought : seekBrace text start = .found brace offset) :
    start ≤ offset ∧ Text.StandsAt text brace offset ∧ (brace = '{' ∨ brace = '}') := by
  rw [seekBrace] at sought
  split at sought
  · cases sought
  · next search =>
    obtain ⟨behind, begins, ahead⟩ := Option.bind_eq_some_iff.1 search
    obtain ⟨front, rfl, rfl⟩ := Text.exists_of_fromByte? begins
    obtain ⟨gap, first, rest, rfl, kind, rfl⟩ := Text.exists_of_byteOfBrace? ahead
    have there := Text.fromByte?_append (front ++ gap) (first :: rest)
    rw [Text.utf8Length_append, List.append_assoc] at there
    rw [there] at sought
    cases sought
    exact ⟨Nat.le_add_right _ _, ⟨front ++ gap, rest, by simp, by simp⟩, kind⟩

namespace Filler

variable {lookup : Text → Option Text} {limit : Nat} {filler next : Filler}

theorem decreases_of_onward (move : filler.step lookup limit = .onward next) :
    Decreases limit filler next := by
  rw [step] at move
  split at move
  · next brace offset sought =>
    obtain ⟨later, stands, -⟩ := standsAt_of_seekBrace sought
    have within := Nat.lt_of_le_of_lt later stands.lt_utf8Length
    rw [meet] at move
    split at move
    · cases move
      exact decreases_of_pass later within _ _
    split at move
    · cases move
      exact decreases_of_pass later within _ _
    · exact decreases_of_close later within move
  · cases move
  · cases move

/-- Fills to the end, if no part of the text is asked for in vain. -/
def run (lookup : Text → Option Text) (limit : Nat) (filler : Filler) :
    Option (Except TemplateError Text) :=
  match _move : filler.step lookup limit with
  | .finished => some (.ok filler.text)
  | .onward next => run lookup limit next
  | .overLimit => some (.error (.substitutionLimit limit))
  | .outOfRange => none
termination_by (limit - filler.replaced, filler.left)
decreasing_by
  rcases decreases_of_onward _move with ⟨same, shorter⟩ | ⟨more, within⟩
  · exact same ▸ .right _ shorter
  · exact .left _ _ (by omega)

/-- Fills a text, if it has an open brace. -/
def fill (lookup : Text → Option Text) (limit : Nat) (text : Text) :
    Option (Except TemplateError Text) :=
  if '{' ∈ text then run lookup limit (start text) else some (.ok text)

theorem run_of_finished (move : filler.step lookup limit = .finished) :
    filler.run lookup limit = some (.ok filler.text) := by
  rw [run]
  split <;> simp_all

theorem run_of_onward (move : filler.step lookup limit = .onward next) :
    filler.run lookup limit = next.run lookup limit := by
  rw [run]
  split <;> simp_all

theorem run_of_overLimit (move : filler.step lookup limit = .overLimit) :
    filler.run lookup limit = some (.error (.substitutionLimit limit)) := by
  rw [run]
  split <;> simp_all

/-- Only the text and the next move matter. -/
theorem run_congr (text : filler.text = next.text)
    (move : filler.step lookup limit = next.step lookup limit) :
    filler.run lookup limit = next.run lookup limit := by
  rw [run, run]
  split <;> split <;> simp_all

end Filler

/-! ## The scan in place -/

namespace Text

theorem utf8Size_brace {brace : Char} (kind : brace = '{' ∨ brace = '}') : brace.utf8Size = 1 := by
  rcases kind with rfl | rfl <;> rfl

theorem byteOfBrace?_brace {brace : Char} (kind : brace = '{' ∨ brace = '}') (text : Text) :
    byteOfBrace? (brace :: text) = some 0 :=
  if_pos kind

/-- What stands between two braces is sliced out. -/
theorem slice?_braces (front name rest : Text) :
    slice? (utf8Length front + 1) (utf8Length (front ++ '{' :: name))
      (front ++ '{' :: (name ++ '}' :: rest)) = some name := by
  have sliced := slice?_append (front ++ ['{']) name ('}' :: rest)
  have start : utf8Length (front ++ ['{']) = utf8Length front + 1 := by
    simp [utf8Length, utf8Size_brace]
  rw [start] at sliced
  simpa using sliced

theorem byteOfBrace?_plain {c : Char} (noOpen : c ≠ '{') (noClose : c ≠ '}') (text : Text) :
    byteOfBrace? (c :: text) = (byteOfBrace? text).map (c.utf8Size + ·) :=
  if_neg (not_or.2 ⟨noOpen, noClose⟩)

end Text

theorem seekBrace_nil (front : Text) :
    seekBrace front (Text.utf8Length front) = .nothing := by
  have here := Text.fromByte?_append front []
  rw [List.append_nil] at here
  rw [seekBrace, here]
  rfl

theorem seekBrace_brace {brace : Char} (kind : brace = '{' ∨ brace = '}') (front rest : Text) :
    seekBrace (front ++ brace :: rest) (Text.utf8Length front) =
      .found brace (Text.utf8Length front) := by
  simp only [seekBrace, Text.fromByte?_append, Option.bind_some, Text.byteOfBrace?_brace kind,
    Nat.add_zero, List.head?_cons]

/-- Other characters are passed. -/
theorem seekBrace_plain {c : Char} (noOpen : c ≠ '{') (noClose : c ≠ '}') (front rest : Text) :
    seekBrace (front ++ c :: rest) (Text.utf8Length front) =
      seekBrace (front ++ [c] ++ rest) (Text.utf8Length (front ++ [c])) := by
  have same : front ++ c :: rest = front ++ [c] ++ rest := by simp
  have length : Text.utf8Length (front ++ [c]) = Text.utf8Length front + c.utf8Size := by
    simp [Text.utf8Length]
  have here := Text.fromByte?_append front (c :: rest)
  rw [same] at here
  have next := Text.fromByte?_append (front ++ [c]) rest
  rw [same, seekBrace, seekBrace, here, next, Option.bind_some, Option.bind_some,
    Text.byteOfBrace?_plain noOpen noClose]
  cases Text.byteOfBrace? rest with
  | none => rfl
  | some ahead =>
    rw [Option.map_some]
    simp only [length, Nat.add_assoc]

namespace Scan

/-- What a scan is in one text, with the number of replacements so far. -/
def filler (scan : Scan) (replaced : Nat) : Filler :=
  ⟨scan.text, Text.utf8Length scan.before, (fronts scan.before).map Text.utf8Length,
    (closed scan.before).map (Prod.map Text.utf8Length Text.utf8Length), replaced⟩

variable {lookup : Text → Option Text} {limit replaced : Nat} {scan : Scan} {rest : Text}

/-- At the end of the text there is no other brace. -/
theorem step_filler_nil (unread : scan.rest = []) :
    (scan.filler replaced).step lookup limit = .finished := by
  have whole : scan.text = scan.before.reverse := by simp [text, unread]
  have sought := seekBrace_nil scan.before.reverse
  rw [Text.utf8Length_reverse] at sought
  rw [Filler.step, filler, whole, sought]

/-- A filler goes to a brace at once, where a scan reads up to it. -/
theorem step_filler_plain {c : Char} (noOpen : c ≠ '{') (noClose : c ≠ '}')
    (unread : scan.rest = c :: rest) :
    (scan.filler replaced).step lookup limit =
      ((scan.advance c rest).filler replaced).step lookup limit := by
  have onward : (scan.advance c rest).filler replaced =
      { scan.filler replaced with read := Text.utf8Length (c :: scan.before) } := by
    rw [filler, filler, text_advance unread, advance, fronts_plain noOpen noClose,
      closed_of_ne noClose]
  have sought := seekBrace_plain noOpen noClose scan.before.reverse rest
  rw [← List.reverse_cons, Text.utf8Length_reverse, Text.utf8Length_reverse] at sought
  have whole : (scan.filler replaced).text = scan.before.reverse ++ c :: rest := by
    rw [filler, text, unread]
  have same : scan.before.reverse ++ c :: rest = (c :: scan.before).reverse ++ rest := by simp
  rw [onward, Filler.step, Filler.step, whole, filler, sought, ← same]
  rfl

theorem seekBrace_filler {brace : Char} (kind : brace = '{' ∨ brace = '}')
    (unread : scan.rest = brace :: rest) :
    seekBrace (scan.filler replaced).text (scan.filler replaced).read =
      .found brace (Text.utf8Length scan.before) := by
  have sought := seekBrace_brace kind scan.before.reverse rest
  rw [Text.utf8Length_reverse] at sought
  rw [filler, text, unread, sought]

/-- What reading a brace does to the filler. -/
theorem filler_advance {brace : Char} (kind : brace = '{' ∨ brace = '}')
    (unread : scan.rest = brace :: rest) (opened : List Nat) :
    filler { scan.advance brace rest with opened := opened } replaced =
      { (scan.filler replaced).pass (Text.utf8Length scan.before) with
        opened := (fronts (brace :: scan.before)).map Text.utf8Length
        paired := (closed (brace :: scan.before)).map
          (Prod.map Text.utf8Length Text.utf8Length) } := by
  have same : text { scan.advance brace rest with opened := opened } = scan.text :=
    text_advance unread
  have read : Text.utf8Length (brace :: scan.before) = Text.utf8Length scan.before + 1 := by
    rw [Text.utf8Length, Text.utf8Size_brace kind, Nat.add_comm]
  rw [filler, same, filler, Filler.pass, advance, read]

/-- An open brace is put on the stack. -/
theorem step_filler_open (unread : scan.rest = '{' :: rest) (opened : List Nat) :
    (scan.filler replaced).step lookup limit =
      .onward (filler { scan.advance '{' rest with opened := opened } replaced) := by
  rw [Filler.step, seekBrace_filler (.inl rfl) unread, filler_advance (.inl rfl) unread]
  rfl

/-- A closing brace without an open one is passed. -/
theorem step_filler_unopened (none : fronts scan.before = []) (unread : scan.rest = '}' :: rest)
    (opened : List Nat) :
    (scan.filler replaced).step lookup limit =
      .onward (filler { scan.advance '}' rest with opened := opened } replaced) := by
  rw [Filler.step, seekBrace_filler (.inr rfl) unread, filler_advance (.inr rfl) unread,
    fronts_close, closed_close, none]
  simp [Filler.meet, Filler.pass, filler, none]

/-! ### A closing brace behind an open one -/

section

variable {front inner : Text} {outer : List Text}

/-- The name behind an open brace has a value if all that has been read since does. -/
theorem valueOf_inner (lookup : Text → Option Text) (size : scan.size = scan.before.length)
    (read : scan.before = inner ++ '{' :: front) :
    (scan.nameBehind? front.length).bind (valueOf lookup) = valueOf lookup inner.reverse := by
  by_cases named : Name.isVariable inner.reverse = true
  · rw [nameBehind?_name named size (by rw [read, List.reverse_reverse]), Option.bind_some]
  · have unnamed : valueOf lookup inner.reverse = none := if_neg named
    rw [unnamed, Option.bind_eq_none_iff]
    intro name found
    rw [nameBehind?_eq_some size read found, List.reverse_reverse] at unnamed
    exact unnamed

theorem slice?_inner (read : scan.before = inner ++ '{' :: front)
    (unread : scan.rest = '}' :: rest) :
    Text.slice? (Text.utf8Length front + 1) (Text.utf8Length scan.before) scan.text =
      some inner.reverse := by
  have sliced := Text.slice?_braces front.reverse inner.reverse rest
  have before : front.reverse ++ '{' :: inner.reverse = scan.before.reverse := by simp [read]
  have whole : front.reverse ++ '{' :: (inner.reverse ++ '}' :: rest) = scan.text := by
    simp [text, read, unread]
  rwa [before, whole, Text.utf8Length_reverse, Text.utf8Length_reverse] at sliced

theorem replaceBytes?_inner (read : scan.before = inner ++ '{' :: front)
    (unread : scan.rest = '}' :: rest) (value : Text) :
    Text.replaceBytes? (Text.utf8Length front) (Text.utf8Length scan.before + 1) value scan.text =
      some (front.reverse ++ (value ++ rest)) := by
  have replaced := Text.replaceBytes?_append front.reverse
    ('{' :: (inner.reverse ++ ['}'])) rest value
  have stop : Text.utf8Length (front.reverse ++ '{' :: (inner.reverse ++ ['}'])) =
      Text.utf8Length scan.before + 1 := by
    simp only [read, Text.utf8Length_append, Text.utf8Length, Text.utf8Length_reverse,
      Text.utf8Size_brace (.inl rfl), Text.utf8Size_brace (.inr rfl)]
    omega
  have whole : front.reverse ++ ('{' :: (inner.reverse ++ ['}']) ++ rest) = scan.text := by
    simp [text, read, unread]
  rw [stop, whole, Text.utf8Length_reverse] at replaced
  exact replaced

theorem step_filler_close (waiting : fronts scan.before = front :: outer)
    (read : scan.before = inner ++ '{' :: front) (unread : scan.rest = '}' :: rest) :
    (scan.filler replaced).step lookup limit =
      match valueOf lookup inner.reverse with
      | none => .onward { (scan.filler replaced).pass (Text.utf8Length scan.before) with
          opened := outer.map Text.utf8Length
          paired := (Text.utf8Length front, Text.utf8Length scan.before) ::
            (scan.filler replaced).paired }
      | some value =>
        if replaced < limit then .onward
          { scan.filler replaced with
            text := front.reverse ++ (value ++ rest)
            read := Text.utf8Length front
            opened := outer.map Text.utf8Length
            replaced := replaced + 1 }
        else .overLimit := by
  have close : (scan.filler replaced).step lookup limit =
      (scan.filler replaced).close lookup limit (Text.utf8Length front)
        (outer.map Text.utf8Length) (Text.utf8Length scan.before) := by
    rw [Filler.step, seekBrace_filler (.inr rfl) unread]
    simp [Filler.meet, filler, waiting]
  rw [close, Filler.close, filler, slice?_inner read unread]
  dsimp only
  cases valueOf lookup inner.reverse with
  | none => rfl
  | some value =>
    simp only [Filler.replace?, replaceBytes?_inner read unread value, Option.map_some]

/-- A name without a value stays, and its braces are a pair. -/
theorem step_filler_unvalued (waiting : fronts scan.before = front :: outer)
    (read : scan.before = inner ++ '{' :: front) (unread : scan.rest = '}' :: rest)
    (unvalued : valueOf lookup inner.reverse = none) (opened : List Nat) :
    (scan.filler replaced).step lookup limit =
      .onward (filler { scan.advance '}' rest with opened := opened } replaced) := by
  rw [step_filler_close waiting read unread, unvalued, filler_advance (.inr rfl) unread,
    fronts_close, closed_close, waiting]
  rfl

/-- No pair was made behind the brace in front of a name. -/
theorem step_filler_valued {value : Text} (size : scan.size = scan.before.length)
    (waiting : fronts scan.before = front :: outer) (read : scan.before = inner ++ '{' :: front)
    (unread : scan.rest = '}' :: rest) (valued : valueOf lookup inner.reverse = some value)
    (opened : List Nat) :
    (scan.filler replaced).step lookup limit =
      if replaced < limit then
        .onward ((scan.replace front.length opened value rest).filler (replaced + 1))
      else .overLimit := by
  have named := (valueOf_eq_some valued).1
  have noOpen : '{' ∉ inner := fun member =>
    Placeholder.open_not_mem named (List.mem_reverse.2 member)
  have noClose : '}' ∉ inner := fun member =>
    Placeholder.close_not_mem named (List.mem_reverse.2 member)
  have further : outer = fronts front := by
    rw [read, fronts_append noOpen noClose, fronts_open] at waiting
    exact (List.cons.inj waiting).2.symm
  have pairs : closed scan.before = closed front := by
    rw [read, closed_append noClose, closed_of_ne (by decide)]
  have kept := drop_front size read
  rw [step_filler_close waiting read unread, valued]
  simp only [filler, replace, text, kept, pairs, further]

end

/-- A filler goes with the scan.  It passes what is no brace at once, and the limit is tested when a
placeholder is replaced. -/
theorem step_filler (sound : scan.Sound lookup) (limit replaced : Nat) :
    match scan.step lookup with
    | .finished => (scan.filler replaced).step lookup limit = .finished
    | .read next => (scan.filler replaced).step lookup limit = .onward (next.filler replaced) ∨
        (scan.filler replaced).step lookup limit = (next.filler replaced).step lookup limit
    | .replaced next => (scan.filler replaced).step lookup limit =
        if replaced < limit then .onward (next.filler (replaced + 1)) else .overLimit := by
  cases unread : scan.rest with
  | nil =>
    have move : scan.step lookup = .finished := by rw [step, unread]
    rw [move]
    exact step_filler_nil unread
  | cons c rest =>
    rcases brace_or_plain c with rfl | rfl | ⟨noOpen, noClose⟩
    · have move : scan.step lookup =
          .read { scan.advance '{' rest with opened := scan.size :: scan.opened } := by
        rw [step, unread]
        rfl
      rw [move]
      exact .inl (step_filler_open unread _)
    · have opened := sound.opened.trans (pending_eq scan.before)
      cases stack : fronts scan.before with
      | nil =>
        have move : scan.step lookup = .read (scan.advance '}' rest) := by
          simp [step, unread, opened, stack]
        rw [move]
        exact .inl (step_filler_unopened stack unread _)
      | cons front outer =>
        obtain ⟨inner, read⟩ : '{' :: front <:+ scan.before :=
          suffix_of_mem_fronts (stack ▸ List.mem_cons_self)
        have value := valueOf_inner lookup sound.size read.symm
        cases valued : valueOf lookup inner.reverse with
        | none =>
          have move : scan.step lookup =
              .read { scan.advance '}' rest with opened := outer.map List.length } := by
            simp [step, unread, opened, stack, value, valued]
          rw [move]
          exact .inl (step_filler_unvalued stack read.symm unread valued _)
        | some filled =>
          have move : scan.step lookup =
              .replaced (scan.replace front.length (outer.map List.length) filled rest) := by
            simp [step, unread, opened, stack, value, valued]
          rw [move]
          exact step_filler_valued sound.size stack read.symm unread valued _
    · have move : scan.step lookup = .read (scan.advance c rest) := by
        simp [step, unread, noOpen, noClose]
      rw [move]
      exact .inr (step_filler_plain noOpen noClose unread)

/-! ## A whole run -/

/-- Up to the next replacement a filler does what its scan does. -/
theorem run_filler_settle (sound : scan.Sound lookup) (limit replaced : Nat) :
    (scan.filler replaced).run lookup limit =
      match scan.settle lookup with
      | .inl text => some (.ok text)
      | .inr next =>
        if replaced < limit then (next.filler (replaced + 1)).run lookup limit
        else some (.error (.substitutionLimit limit)) := by
  induction scan using settle.induct lookup with
  | case1 scan move =>
    have moves := step_filler sound limit replaced
    rw [move] at moves
    rw [settle_of_finished move, Filler.run_of_finished moves]
    rfl
  | case2 scan next move ih =>
    have moves := step_filler sound limit replaced
    have follows := step_follows sound
    rw [move] at moves follows
    rw [settle_of_read move, ← ih follows.1]
    rcases moves with onward | same
    · exact Filler.run_of_onward onward
    · exact Filler.run_congr follows.2.symm same
  | case3 scan next move =>
    have moves := step_filler sound limit replaced
    rw [move] at moves
    rw [settle_of_replaced move]
    dsimp only at moves ⊢
    split
    · next few =>
      rw [if_pos few] at moves
      exact Filler.run_of_onward moves
    · next enough =>
      rw [if_neg enough] at moves
      exact Filler.run_of_overLimit moves

/-- A filler ends with the text that its scan ends with, or stops at the limit as the scan does. -/
theorem run_filler (sound : scan.Sound lookup) (budget replaced : Nat) :
    (scan.filler replaced).run lookup (replaced + budget) =
      match scan.run lookup budget with
      | some text => some (.ok text)
      | none => some (.error (.substitutionLimit (replaced + budget))) := by
  induction budget generalizing scan replaced with
  | zero =>
    rw [run_filler_settle sound, run]
    cases scan.settle lookup with
    | inl text => rfl
    | inr next => exact if_neg (Nat.lt_irrefl replaced)
  | succ budget ih =>
    have settles := settle_settles sound
    rw [run_filler_settle sound, run]
    cases ended : scan.settle lookup with
    | inl text => rfl
    | inr next =>
      rw [ended] at settles
      have again := ih settles.1 (replaced + 1)
      rw [Nat.add_assoc, Nat.add_comm 1] at again
      dsimp only
      rw [if_pos (by omega), again]

/-- A filler ends, stops at the limit or goes on as that of a later scan. -/
theorem step_filler_cases (sound : scan.Sound lookup) (within : replaced ≤ limit) :
    (scan.filler replaced).step lookup limit = .finished ∨
      (scan.filler replaced).step lookup limit = .overLimit ∨
      ∃ later : Scan, ∃ more, replaced + more ≤ limit ∧ later.Sound lookup ∧
        Steps lookup more scan.text later.text ∧
        (scan.filler replaced).step lookup limit = .onward (later.filler (replaced + more)) := by
  induction scan using settle.induct lookup with
  | case1 scan move =>
    have moves := step_filler sound limit replaced
    rw [move] at moves
    exact .inl moves
  | case2 scan later move ih =>
    have moves := step_filler sound limit replaced
    have follows := step_follows sound
    rw [move] at moves follows
    obtain ⟨sound, same⟩ := follows
    rcases moves with onward | passed
    · exact .inr (.inr ⟨later, 0, within, sound, same ▸ .none _, onward⟩)
    · rw [passed, ← same]
      exact ih sound
  | case3 scan later move =>
    have moves := step_filler sound limit replaced
    have follows := step_follows sound
    rw [move] at moves follows
    dsimp only at moves
    split at moves
    · next few =>
      exact .inr (.inr ⟨later, 1, few, follows.1, .next follows.2 (.none _), moves⟩)
    · exact .inr (.inl moves)

end Scan

/-! ## What holds at every moment -/

namespace Filler

variable {lookup : Text → Option Text} {limit : Nat} {filler : Filler}

/-- The fillers on the way through a text. -/
inductive Reached (lookup : Text → Option Text) (limit : Nat) (text : Text) : Filler → Prop where
  | start : Reached lookup limit text (start text)
  | onward {filler next : Filler} (reached : Reached lookup limit text filler)
      (move : filler.step lookup limit = .onward next) : Reached lookup limit text next

/-- Every moment of a filler is one of a scan, and the limit is kept. -/
theorem Reached.exists_scan {text : Text} (reached : Reached lookup limit text filler) :
    ∃ scan : Scan, ∃ count ≤ limit, scan.Sound lookup ∧ Steps lookup count text scan.text ∧
      filler = scan.filler count := by
  induction reached with
  | start =>
    exact ⟨Scan.start text, 0, Nat.zero_le limit, Scan.sound_start lookup text, .none text, rfl⟩
  | onward reached move ih =>
    obtain ⟨scan, count, within, sound, steps, rfl⟩ := ih
    rcases Scan.step_filler_cases sound within with
      ended | stopped | ⟨later, more, within, sound, further, moves⟩
    · cases ended.symm.trans move
    · cases stopped.symm.trans move
    · exact ⟨later, count + more, within, sound, steps.append further,
        (Move.onward.inj (moves.symm.trans move)).symm⟩

/-- The positions of a filler are right. -/
structure Sound (filler : Filler) : Prop where
  /-- What has been read ends at a character. -/
  boundary : ∃ scanned rest, filler.text = scanned ++ rest ∧ filler.read = Text.utf8Length scanned
  /-- An open brace stands behind those further out. -/
  ascending : filler.opened.Pairwise fun inner outer => outer < inner
  /-- The open braces have been read, and they stand in the text as it is now. -/
  opened : ∀ brace ∈ filler.opened, brace < filler.read ∧ Text.StandsAt filler.text '{' brace
  /-- The braces of a pair have been read, and they stand in the text as it is now. -/
  paired : ∀ pair ∈ filler.paired, pair.1 < pair.2 ∧ pair.2 < filler.read ∧
    Text.StandsAt filler.text '{' pair.1 ∧ Text.StandsAt filler.text '}' pair.2
  /-- An open brace that has been read waits or has been paired, and not both. -/
  complete : ∀ brace, Text.StandsAt filler.text '{' brace → brace < filler.read →
    (brace ∈ filler.opened ∧ ∀ close, (brace, close) ∉ filler.paired) ∨
      (brace ∉ filler.opened ∧ ∃ close, (brace, close) ∈ filler.paired)

end Filler

namespace Text

variable {c : Char} {front before : Text}

theorem standsAt_of_suffix (stands : c :: front <:+ before) (rest : Text) :
    StandsAt (before.reverse ++ rest) c (utf8Length front) := by
  obtain ⟨behind, rfl⟩ := stands
  exact ⟨front.reverse, behind.reverse ++ rest, by simp, (utf8Length_reverse front).symm⟩

theorem utf8Length_lt_of_suffix (stands : c :: front <:+ before) :
    utf8Length front < utf8Length before := by
  have within := (standsAt_of_suffix stands []).lt_utf8Length
  rwa [List.append_nil, utf8Length_reverse] at within

/-- A character that has been read stands in the part that has been read. -/
theorem StandsAt.exists_suffix {rest : Text} {offset : Nat}
    (stands : StandsAt (before.reverse ++ rest) c offset) (read : offset < utf8Length before) :
    ∃ front, c :: front <:+ before ∧ offset = utf8Length front := by
  obtain ⟨front, behind, shape, rfl⟩ := stands
  rw [← utf8Length_reverse before] at read
  obtain ⟨more, longer, next⟩ := exists_append_of_le shape.symm (Nat.le_of_lt read)
  cases more with
  | nil =>
    rw [longer, List.append_nil] at read
    exact absurd read (Nat.lt_irrefl _)
  | cons d more =>
    obtain ⟨rfl, -⟩ := List.cons.inj next
    refine ⟨front.reverse, ⟨more.reverse, ?_⟩, (utf8Length_reverse front).symm⟩
    simpa using (congrArg List.reverse longer).symm

/-- Between an open brace and a closing one further on stands a part of the text. -/
theorem StandsAt.exists_between {text : Text} {start stop : Nat} (isOpen : StandsAt text '{' start)
    (isClose : StandsAt text '}' stop) (before : start < stop) :
    ∃ name, slice? (start + 1) stop text = some name := by
  obtain ⟨front, behind, rfl, rfl⟩ := isOpen
  obtain ⟨further, rest, shape, rfl⟩ := isClose
  obtain ⟨more, rfl, next⟩ := exists_append_of_le shape (Nat.le_of_lt before)
  cases more with
  | nil => exact absurd (List.cons.inj next).1 (by decide)
  | cons c name =>
    obtain ⟨rfl, rfl⟩ := List.cons.inj next
    exact ⟨name, slice?_braces front name rest⟩

/-- Two texts in front of places of one text are the same if they have as many bytes. -/
theorem eq_of_suffix {other : Text} (stands : front <:+ before) (there : other <:+ before)
    (same : utf8Length front = utf8Length other) : front = other := by
  have shorter : ∀ {short long : Text}, short <:+ long → utf8Length short = utf8Length long →
      short = long := by
    rintro short _ ⟨gap, rfl⟩ equal
    rw [utf8Length_append] at equal
    obtain rfl := utf8Length_eq_zero_iff.1 (show utf8Length gap = 0 by omega)
    rfl
  rcases List.suffix_or_suffix_of_suffix stands there with within | within
  · exact shorter within same
  · exact (shorter within same.symm).symm

end Text

/-- Braces that are known by their bytes only are not open and closed either. -/
theorem utf8Length_ne_of_mem_closed {front last other before : Text}
    (isClosed : (front, last) ∈ closed before) (isOpen : other ∈ fronts before) :
    Text.utf8Length front ≠ Text.utf8Length other := by
  intro same
  have stands := (List.suffix_cons _ _).trans (open_suffix_of_mem_closed isClosed)
  have there := (List.suffix_cons _ _).trans (suffix_of_mem_fronts isOpen)
  obtain rfl := Text.eq_of_suffix stands there same
  exact not_mem_fronts_of_closed isClosed isOpen

namespace Scan

theorem sound_filler (scan : Scan) (replaced : Nat) : (scan.filler replaced).Sound := by
  refine ⟨⟨scan.before.reverse, scan.rest, rfl, (Text.utf8Length_reverse _).symm⟩, ?_, ?_, ?_, ?_⟩
  · rw [filler, List.pairwise_map]
    exact (pairwise_fronts scan.before).imp Text.utf8Length_lt_of_suffix
  · intro brace member
    obtain ⟨front, isOpen, rfl⟩ := List.mem_map.1 member
    have stands := suffix_of_mem_fronts isOpen
    exact ⟨Text.utf8Length_lt_of_suffix stands, Text.standsAt_of_suffix stands scan.rest⟩
  · intro pair member
    obtain ⟨⟨front, last⟩, isClosed, rfl⟩ := List.mem_map.1 member
    obtain ⟨close, brace⟩ := suffix_of_mem_closed isClosed
    exact ⟨Text.utf8Length_lt_of_suffix brace, Text.utf8Length_lt_of_suffix close,
      Text.standsAt_of_suffix (open_suffix_of_mem_closed isClosed) scan.rest,
      Text.standsAt_of_suffix close scan.rest⟩
  · intro brace stands read
    obtain ⟨front, there, rfl⟩ := stands.exists_suffix read
    rcases mem_fronts_or_closed there with isOpen | ⟨last, isClosed⟩
    · refine .inl ⟨List.mem_map_of_mem isOpen, fun close member => ?_⟩
      obtain ⟨⟨first, last⟩, isClosed, same⟩ := List.mem_map.1 member
      exact utf8Length_ne_of_mem_closed isClosed isOpen (Prod.mk.inj same).1
    · refine .inr ⟨fun member => ?_, _, List.mem_map_of_mem isClosed⟩
      obtain ⟨other, isOpen, same⟩ := List.mem_map.1 member
      exact utf8Length_ne_of_mem_closed isClosed isOpen same.symm

end Scan

/-- Filling a text in place ends with what substitution gives and asks for no part of the text that
is not there.  At every moment of it the open braces stand in the text as it is now, in the part
that has been read, and so do the pairs.  Every open brace of this part waits or has been paired.
The brace that is found next stands behind the open ones, and if it closes the innermost of them,
what stands between the two is a part of the text.  No more placeholders are replaced than the limit
allows, and every move that replaces none leaves fewer bytes to read. -/
theorem substitute_in_range (lookup : Text → Option Text) (limit : Nat) (text : Text) :
    Filler.fill lookup limit text = some (substitute lookup limit text) ∧
      ∀ filler, Filler.Reached lookup limit text filler →
        filler.Sound ∧
        filler.step lookup limit ≠ .outOfRange ∧
        (∀ brace offset, seekBrace filler.text filler.read = .found brace offset →
          filler.read ≤ offset ∧ Text.StandsAt filler.text brace offset ∧
            (brace = '{' ∨ brace = '}')) ∧
        (∀ offset innermost outer, seekBrace filler.text filler.read = .found '}' offset →
          filler.opened = innermost :: outer →
            ∃ name, Text.slice? (innermost + 1) offset filler.text = some name) ∧
        (filler.replaced ≤ limit ∧ Steps lookup filler.replaced text filler.text) ∧
        ∀ next, filler.step lookup limit = .onward next → Filler.Decreases limit filler next := by
  constructor
  · have run := Scan.run_filler (Scan.sound_start lookup text) limit 0
    rw [Nat.zero_add] at run
    rw [Filler.fill, substitute, substitute?]
    split
    · refine Eq.trans run ?_
      cases Scan.run lookup limit (Scan.start text) <;> rfl
    · next noOpen =>
      have unchanged : substitute? lookup limit text = some text := substitute?_eq_some_iff.2
        ⟨0, Nat.zero_le limit, .none text, normal_of_not_mem noOpen⟩
      rw [substitute?] at unchanged
      rw [unchanged]
  · intro filler reached
    obtain ⟨scan, count, within, sound, steps, rfl⟩ := reached.exists_scan
    have right := scan.sound_filler count
    refine ⟨right, ?_, fun brace offset => standsAt_of_seekBrace, ?_, ⟨within, steps⟩,
      fun next => Filler.decreases_of_onward⟩
    · intro lost
      rcases Scan.step_filler_cases sound within with ended | stopped | ⟨_, _, -, -, -, moves⟩
      · cases ended.symm.trans lost
      · cases stopped.symm.trans lost
      · cases moves.symm.trans lost
    · intro offset innermost outer sought opened
      obtain ⟨later, close, -⟩ := standsAt_of_seekBrace sought
      obtain ⟨read, brace⟩ := right.opened innermost (by rw [opened]; exact List.mem_cons_self)
      exact brace.exists_between close (Nat.lt_of_lt_of_le read later)

/-- A pair that stays, and a value that closes the brace in front of it. -/
def accentedBraces : Text := "\x7bé\x7d\x7b\x7bX\x7d".toList

/-- The value has been put in, and its brace has not been read. -/
def accentedFilled : Filler where
  text := "\x7bé\x7d\x7bY\x7d".toList
  read := 5
  opened := [4]
  paired := [(0, 3)]
  replaced := 1

theorem substitute_in_range_accentedFilled :
    Filler.Reached lateBrace 2 accentedBraces accentedFilled ∧ accentedFilled.Sound ∧
      accentedFilled.step lateBrace 2 ≠ .outOfRange := by
  have first : (Filler.start accentedBraces).step lateBrace 2 =
      .onward ⟨accentedBraces, 1, [0], [], 0⟩ := rfl
  have second : Filler.step lateBrace 2 ⟨accentedBraces, 1, [0], [], 0⟩ =
      .onward ⟨accentedBraces, 4, [], [(0, 3)], 0⟩ := rfl
  have third : Filler.step lateBrace 2 ⟨accentedBraces, 4, [], [(0, 3)], 0⟩ =
      .onward ⟨accentedBraces, 5, [4], [(0, 3)], 0⟩ := rfl
  have fourth : Filler.step lateBrace 2 ⟨accentedBraces, 5, [4], [(0, 3)], 0⟩ =
      .onward ⟨accentedBraces, 6, [5, 4], [(0, 3)], 0⟩ := rfl
  have fifth : Filler.step lateBrace 2 ⟨accentedBraces, 6, [5, 4], [(0, 3)], 0⟩ =
      .onward accentedFilled := rfl
  have reached : Filler.Reached lateBrace 2 accentedBraces accentedFilled :=
    .onward (.onward (.onward (.onward (.onward .start first) second) third) fourth) fifth
  obtain ⟨sound, inRange, -⟩ :=
    (substitute_in_range lateBrace 2 accentedBraces).2 accentedFilled reached
  exact ⟨reached, sound, inRange⟩

end PageTemplates
