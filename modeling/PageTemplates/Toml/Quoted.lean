import PageTemplates.Toml.Reader

/-!
# Texts and keys

A text is written between double quotes, where a backslash starts an escape, or
between single quotes, where every character stands for itself.  Three quotes
on each side allow line ends inside; up to two quotes more belong to the text.

A key is a bare word or a text on one line.  A dotted key is a path of keys.
-/

namespace PageTemplates

namespace Toml

open Reader

/-- A character that may stand for itself in a text: all but the control
characters, of which the tab is allowed. -/
def isPlain (c : Char) : Bool := isCommentChar c

/-- Whether a character is a hexadecimal digit. -/
def isHexDigit (c : Char) : Bool :=
  c.isDigit || ('a' ≤ c && c ≤ 'f') || ('A' ≤ c && c ≤ 'F')

/-- The value of a hexadecimal digit. -/
def hexDigit (c : Char) : Nat :=
  if c.isDigit then c.toNat - '0'.toNat
  else if 'a' ≤ c then c.toNat - 'a'.toNat + 10
  else c.toNat - 'A'.toNat + 10

/-- The number that digits stand for in a base. -/
def ofDigits (base : Nat) (digits : Text) : Nat :=
  digits.foldl (fun number c => number * base + hexDigit c) 0

/-- Reads a code point of so many hexadecimal digits. -/
def codePoint (digits : Nat) : Reader Char := do
  let number := ofDigits 16 (← exactly digits isHexDigit)
  if number.isValidChar then pure (Char.ofNat number) else failure

/-- Reads what follows a backslash. -/
def escape : Reader Char := do
  match ← take with
  | 'b' => pure '\x08'
  | 't' => pure '\t'
  | 'n' => pure '\n'
  | 'f' => pure '\x0c'
  | 'r' => pure '\r'
  | '"' => pure '"'
  | '\\' => pure '\\'
  | 'u' => codePoint 4
  | 'U' => codePoint 8
  | _ => failure

/-! ## Texts on one line -/

/-- Reads a text between double quotes. -/
def basicText : Reader Text := do
  word ['"']
  pieces do
    match ← take with
    | '"' => pure ([], true)
    | '\\' => do pure ([← escape], false)
    | c => if isPlain c then pure ([c], false) else failure

/-- Reads a text between single quotes. -/
def literalText : Reader Text := do
  word ['\'']
  let chars ← span fun c => isPlain c && c != '\''
  word ['\'']
  pure chars

/-! ## Texts over several lines -/

/-- Reads a run of quotes.  Three of them end the text. -/
def quoteRun (quote : Char) : Reader (Text × Bool) := do
  let run := (← span (· = quote)).length
  if run < 3 then pure (List.replicate run quote, false)
  else if run ≤ 5 then pure (List.replicate (run - 3) quote, true)
  else failure

/-- Takes a line end behind a backslash with all the blank space that follows. -/
def foldedLine : Reader Unit := do
  blanks
  if ← tryNewline then
    let _ ← many do
      if (← span fun c => c = ' ' ∨ c = '\t').length > 0 then pure (some ())
      else if ← tryNewline then pure (some ())
      else pure none
  else failure

/-- Reads a piece of a text between three double quotes. -/
def basicPiece : Reader (Text × Bool) := do
  if (← peek) = some '"' then quoteRun '"'
  else if ← tryNewline then pure (['\n'], false)
  else
    match ← take with
    | '\\' => do
      match ← attempt foldedLine with
      | some _ => pure ([], false)
      | none => do pure ([← escape], false)
    | c => if isPlain c then pure ([c], false) else failure

/-- Reads a piece of a text between three single quotes. -/
def literalPiece : Reader (Text × Bool) := do
  if (← peek) = some '\'' then quoteRun '\''
  else if ← tryNewline then pure (['\n'], false)
  else do
    let c ← take
    if isPlain c then pure ([c], false) else failure

/-- Reads a text of any form. -/
def anyText : Reader Text := do
  if ← tryWord ['"', '"', '"'] then
    let _ ← tryNewline
    pieces basicPiece
  else if ← tryWord ['\'', '\'', '\''] then
    let _ ← tryNewline
    pieces literalPiece
  else if (← peek) = some '"' then basicText
  else literalText

/-! ## Keys -/

/-- A character of a bare key. -/
def isBareKeyChar (c : Char) : Bool := c.isAlphanum || c = '-' || c = '_'

/-- Reads one key. -/
def simpleKey : Reader Text := do
  match ← peek with
  | some '"' => basicText
  | some '\'' => literalText
  | _ => span1 isBareKeyChar

/-- How deep tables and lists may be nested, and how long a path of keys may be. -/
def nestingLimit : Nat := 80

/-- Reads a path of keys: all but the last one, and the last one. -/
def keyPath : Reader (List Text × Text) := do
  blanks
  let first ← simpleKey
  blanks
  let more ← many do
    if ← tryWord ['.'] then
      blanks
      let key ← simpleKey
      blanks
      pure (some key)
    else pure none
  let keys := first :: more
  if keys.length < nestingLimit then pure (keys.dropLast, keys.getLast?.getD first) else failure

end Toml

end PageTemplates
