import PageTemplates.Text

/-!
# Readers

A reader takes what it reads from the front of a text and hands on the rest, or
fails.  `Reader.pieces` and `Reader.many` repeat a reader.  Every repetition
takes at least one character, so the text bounds their number: it is handed
down as a supply that each repetition draws a character from.
-/

namespace PageTemplates

namespace Toml

/-- Reads data from the front of a text. -/
abbrev Reader (α : Type) := StateT Text Option α

namespace Reader

variable {α : Type}

/-- Takes the next character. -/
def take : Reader Char
  | [] => none
  | c :: rest => some (c, rest)

/-- The next character, which stays. -/
def peek : Reader (Option Char) := fun text => some (text.head?, text)

/-- Whether nothing is left. -/
def atEnd : Reader Bool := fun text => some (text.isEmpty, text)

/-- Takes a fixed word. -/
def word (expected : Text) : Reader Unit := fun text =>
  (Text.after? expected text).map fun rest => ((), rest)

/-- Takes a fixed word if it comes next. -/
def tryWord (expected : Text) : Reader Bool := fun text =>
  match Text.after? expected text with
  | some rest => some (true, rest)
  | none => some (false, text)

/-- Takes all characters of a class. -/
def span (isPart : Char → Bool) : Reader Text := fun text =>
  some (text.takeWhile isPart, text.dropWhile isPart)

/-- Takes the characters of a class, at least one. -/
def span1 (isPart : Char → Bool) : Reader Text := do
  let chars ← span isPart
  if chars.isEmpty then failure else pure chars

/-- Takes a fixed number of characters of a class. -/
def exactly (count : Nat) (isPart : Char → Bool) : Reader Text := fun text =>
  let chars := text.take count
  if chars.length = count ∧ chars.all isPart then some (chars, text.drop count) else none

/-- Reads if the reader succeeds, and otherwise takes nothing. -/
def attempt (read : Reader α) : Reader (Option α) := fun text =>
  match read text with
  | some (a, rest) => some (some a, rest)
  | none => some (none, text)

/-- Joins pieces up to the one marked as the last. -/
def piecesWithin (piece : Reader (Text × Bool)) : (supply : Text) → Reader Text
  | [] => do
    let (chars, isLast) ← piece
    if isLast then pure chars else failure
  | _ :: supply => do
    let (chars, isLast) ← piece
    if isLast then pure chars
    else do
      let more ← piecesWithin piece supply
      pure (chars ++ more)

/-- Joins pieces up to the one marked as the last. -/
def pieces (piece : Reader (Text × Bool)) : Reader Text := fun text => piecesWithin piece text text

/-- Repeats a reader until it has nothing to add. -/
def manyWithin (step : Reader (Option α)) : (supply : Text) → Reader (List α)
  | [] => do
    match ← step with
    | none => pure []
    | some a => pure [a]
  | _ :: supply => do
    match ← step with
    | none => pure []
    | some a => do
      let more ← manyWithin step supply
      pure (a :: more)

/-- Repeats a reader until it has nothing to add. -/
def many (step : Reader (Option α)) : Reader (List α) := fun text => manyWithin step text text

/-! ## Blanks, comments and line ends -/

/-- Takes blanks inside a line. -/
def blanks : Reader Unit := do
  let _ ← span fun c => c = ' ' ∨ c = '\t'

/-- Takes a line end if one comes next. -/
def tryNewline : Reader Bool := do
  if ← tryWord ['\n'] then pure true else tryWord ['\r', '\n']

/-- A character of a comment: any but the control characters, of which the tab is allowed. -/
def isCommentChar (c : Char) : Bool := c = '\t' ∨ (0x20 ≤ c.toNat ∧ c.toNat ≠ 0x7F)

/-- Takes a comment if one comes next. -/
def tryComment : Reader Bool := do
  if ← tryWord ['#'] then
    let _ ← span isCommentChar
    pure true
  else pure false

/-- Takes the rest of a line that holds nothing more than a comment. -/
def lineEnd : Reader Unit := do
  blanks
  let _ ← tryComment
  if ← tryNewline then pure ()
  else if ← atEnd then pure ()
  else failure

/-- Takes blanks, comments and line ends. -/
def skipLines : Reader Unit := do
  let _ ← many do
    if (← span fun c => c = ' ' ∨ c = '\t').length > 0 then pure (some ())
    else if ← tryNewline then pure (some ())
    else if ← tryComment then pure (some ())
    else pure none

end Reader

end Toml

end PageTemplates
