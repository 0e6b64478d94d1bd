import PageTemplates.Name
import PageTemplates.TemplateError

/-!
# Substitution

A placeholder is a variable name between braces.  Substitution replaces the
placeholders whose variable has a value, and goes on with the value as if it
had been in the text from the start, so values may hold placeholders and may
close braces that stood in front of them.

The text is read once from left to right.  A `Scan` is the text cut at the
reading position, with the positions of the braces that are still open.  A
closing brace always belongs to the innermost of them.  When a name between the
two braces has a value, both braces and the name go and the value is put in
front of the unread part.  Otherwise the braces stay and count no more.

`Scan.step` is one move of the scan.  `Scan.settle` reads on up to the next
replacement, and every move on the way reads a character.  `Scan.run` goes from
replacement to replacement, and each of them uses up one unit of the budget.
The part that has been read is kept last character first, so a move costs no
more than the name and the value it handles.
-/

namespace PageTemplates

/-- A text that has been read up to some point. -/
structure Scan where
  /-- What has been read, last character first. -/
  before : Text
  /-- How many characters have been read. -/
  size : Nat
  /-- How many characters stand in front of each open brace, innermost brace first. -/
  opened : List Nat
  rest : Text
  deriving Repr

/-- What one move of a scan leads to. -/
inductive Scan.Move where
  | finished
  | read (next : Scan)
  | replaced (next : Scan)

namespace Scan

/-- The scan of a text of which nothing has been read. -/
def start (text : Text) : Scan := ⟨[], 0, [], text⟩

/-- The whole text as it is now. -/
def text (scan : Scan) : Text := scan.before.reverse ++ scan.rest

/-- Reads a character, which leaves `rest`. -/
def advance (c : Char) (rest : Text) (scan : Scan) : Scan :=
  { scan with before := c :: scan.before, size := scan.size + 1, rest := rest }

/-- The text between an open brace and the reading position, if all of it may
stand in a variable name.  A brace may not, so nothing in front of the open
brace is looked at. -/
def nameBehind? (brace : Nat) (scan : Scan) : Option Text :=
  let name := scan.before.takeWhile Name.isVariableChar
  if brace + 1 + name.length = scan.size then some name.reverse else none

/-- The value of a placeholder, if the name is a variable name and has one. -/
def valueOf (lookup : Text → Option Text) (name : Text) : Option Text :=
  if Name.isVariable name then lookup name else none

/-- Puts a value in place of what has been read from an open brace on. -/
def replace (brace : Nat) (outer : List Nat) (value rest : Text) (scan : Scan) : Scan where
  before := scan.before.drop (scan.size - brace)
  size := brace
  opened := outer
  rest := value ++ rest

/-- One move of a scan. -/
def step (lookup : Text → Option Text) (scan : Scan) : Move :=
  match scan.rest with
  | [] => .finished
  | c :: rest =>
    if c = '{' then .read { scan.advance c rest with opened := scan.size :: scan.opened }
    else if c = '}' then
      match scan.opened with
      | [] => .read (scan.advance c rest)
      | brace :: outer =>
        match (scan.nameBehind? brace).bind (valueOf lookup) with
        | some value => .replaced (scan.replace brace outer value rest)
        | none => .read { scan.advance c rest with opened := outer }
    else .read (scan.advance c rest)

/-- A move that replaces nothing reads one character. -/
theorem rest_length_of_read {lookup : Text → Option Text} {scan next : Scan}
    (move : scan.step lookup = .read next) : next.rest.length < scan.rest.length := by
  unfold step at move
  split at move
  · cases move
  · next c rest unread =>
    rw [unread, List.length_cons]
    split at move
    · cases move; exact Nat.lt_succ_self _
    · split at move
      · split at move
        · cases move; exact Nat.lt_succ_self _
        · split at move
          · cases move
          · cases move; exact Nat.lt_succ_self _
      · cases move; exact Nat.lt_succ_self _

/-- Reads on up to the end of the text, or up to the next replacement. -/
def settle (lookup : Text → Option Text) (scan : Scan) : Text ⊕ Scan :=
  match _move : scan.step lookup with
  | .finished => .inl scan.text
  | .read next => settle lookup next
  | .replaced next => .inr next
termination_by scan.rest.length
decreasing_by exact rest_length_of_read _move

/-- Scans to the end with a budget of replacements.  There is no result if the
budget does not suffice. -/
def run (lookup : Text → Option Text) : (budget : Nat) → Scan → Option Text
  | budget, scan =>
    match scan.settle lookup with
    | .inl text => some text
    | .inr next =>
      match budget with
      | 0 => none
      | budget + 1 => run lookup budget next

end Scan

/-- Replaces placeholders by their values, at most `limit` times. -/
def substitute? (lookup : Text → Option Text) (limit : Nat) (text : Text) : Option Text :=
  Scan.run lookup limit (Scan.start text)

/-- Replaces placeholders by their values, or fails when the limit does not suffice. -/
def substitute (lookup : Text → Option Text) (limit : Nat) (text : Text) :
    Except TemplateError Text :=
  match substitute? lookup limit text with
  | some filled => .ok filled
  | none => .error (.substitutionLimit limit)

end PageTemplates
