/-!
# Text

Template text, names, paths and parameter keys are lists of characters.  Every
search in the library is a structural recursion on such a list and returns the
pieces around what it found, so that nothing has to be cut out by position.

* `Text.after?` reads a fixed word at the head of a text.
* `Text.firstSplit?` splits a text at the first occurrence of a word.
* `Text.position?` counts the characters in front of that occurrence.
* `Text.replaceAll` replaces every occurrence, leftmost first.
* `Text.utf8Length` is the length in the encoding that positions are shown in.
-/

namespace PageTemplates

/-- A text is the list of its characters. -/
abbrev Text := List Char

namespace Text

/-! ## Comparing -/

/-- Decides whether two texts are the same, character by character. -/
instance decideEq : DecidableEq Text
  | [], [] => isTrue rfl
  | [], _ :: _ => isFalse nofun
  | _ :: _, [] => isFalse nofun
  | a :: as, b :: bs =>
    if head : a = b then
      match decideEq as bs with
      | isTrue tail => isTrue (by rw [head, tail])
      | isFalse differ => isFalse fun same => differ (List.cons.inj same).2
    else isFalse fun same => head (List.cons.inj same).1

/-- Decides which of two texts comes first, character by character. -/
instance decideLt : (a b : Text) → Decidable (a < b)
  | _, [] => isFalse (List.not_lt_nil _)
  | [], b :: bs => isTrue (List.nil_lt_cons b bs)
  | a :: as, b :: bs =>
    if smaller : a < b then isTrue (List.cons_lt_cons_iff.2 (.inl smaller))
    else if head : a = b then
      match decideLt as bs with
      | isTrue tail => isTrue (List.cons_lt_cons_iff.2 (.inr ⟨head, tail⟩))
      | isFalse no =>
        isFalse fun first => (List.cons_lt_cons_iff.1 first).elim smaller fun rest => no rest.2
    else
      isFalse fun first =>
        (List.cons_lt_cons_iff.1 first).elim smaller fun rest => head rest.1

/-! ## Words at the head -/

/-- The text behind a leading `word`, if the text starts with it. -/
def after? : (word text : Text) → Option Text
  | [], text => some text
  | _ :: _, [] => none
  | w :: word, c :: text => if w = c then after? word text else none

theorem after?_eq_some_iff {word text rest : Text} :
    after? word text = some rest ↔ text = word ++ rest := by
  induction word generalizing text with
  | nil => simp [after?]
  | cons w word ih =>
    cases text with
    | nil => simp [after?]
    | cons c text =>
      by_cases h : w = c
      · simp [after?, h, ih]
      · simp [after?, h, Ne.symm h]

@[simp] theorem after?_append (word rest : Text) : after? word (word ++ rest) = some rest :=
  after?_eq_some_iff.2 rfl

/-! ## Searching -/

/-- The texts in front of and behind the first occurrence of `word`. -/
def firstSplit? (word : Text) : Text → Option (Text × Text)
  | [] => (after? word []).map fun rest => ([], rest)
  | c :: text =>
    match after? word (c :: text) with
    | some rest => some ([], rest)
    | none => (firstSplit? word text).map fun split => (c :: split.1, split.2)

theorem append_of_firstSplit?_eq_some {word text before rest : Text}
    (found : firstSplit? word text = some (before, rest)) : text = before ++ (word ++ rest) := by
  induction text generalizing before with
  | nil =>
    simp only [firstSplit?, Option.map_eq_some_iff, Prod.mk.injEq] at found
    obtain ⟨tail, read, rfl, rfl⟩ := found
    simpa using after?_eq_some_iff.1 read
  | cons c text ih =>
    simp only [firstSplit?] at found
    split at found
    · next tail read =>
      obtain ⟨rfl, rfl⟩ := by simpa using found
      simpa using after?_eq_some_iff.1 read
    · simp only [Option.map_eq_some_iff, Prod.mk.injEq] at found
      obtain ⟨split, deeper, rfl, rfl⟩ := found
      simp [ih deeper]

/-- The position of the first occurrence of `word`, when `start` characters stand in front of the
text. -/
def positionFrom? (word : Text) : (start : Nat) → Text → Option Nat
  | start, [] => if word.isEmpty then some start else none
  | start, c :: text =>
    if (after? word (c :: text)).isSome then some start else positionFrom? word (start + 1) text

/-- The number of characters in front of the first occurrence of `word`. -/
def position? (word text : Text) : Option Nat := positionFrom? word 0 text

theorem positionFrom?_eq (word text : Text) (start : Nat) :
    positionFrom? word start text =
      (firstSplit? word text).map fun split => start + split.1.length := by
  induction text generalizing start with
  | nil => cases word <;> simp [positionFrom?, firstSplit?, after?]
  | cons c text ih =>
    simp only [positionFrom?, firstSplit?]
    cases after? word (c :: text) with
    | some rest => simp
    | none =>
      simp only [Option.isSome_none, Bool.false_eq_true, if_false, ih, Option.map_map]
      congr 1
      funext split
      simp only [Function.comp_apply, List.length_cons]
      omega

theorem position?_eq (word text : Text) :
    position? word text = (firstSplit? word text).map fun split => split.1.length := by
  simp [position?, positionFrom?_eq]

/-- Whether the text ends in `word`. -/
def endsIn (word text : Text) : Bool := word.isSuffixOf text

/-! ## Replacing -/

/-- Copies `new` in front of every character and behind the last one. -/
def interleave (new : Text) : Text → Text
  | [] => new
  | c :: text => new ++ c :: interleave new text

/-- Replaces the occurrences of a non-empty word, leftmost first.  Inside an
occurrence, `skip` more characters belong to it and are dropped. -/
def replaceFrom (old new : Text) : (skip : Nat) → Text → Text
  | _, [] => []
  | skip + 1, _ :: text => replaceFrom old new skip text
  | 0, c :: text =>
    if (after? old (c :: text)).isSome then new ++ replaceFrom old new (old.length - 1) text
    else c :: replaceFrom old new 0 text

/-- Replaces every occurrence of `old` by `new`.  The empty word occurs in
front of every character and at the end. -/
def replaceAll (old new text : Text) : Text :=
  if old.isEmpty then interleave new text else replaceFrom old new 0 text

/-! ## Pieces and joins -/

/-- The pieces between the occurrences of a character.  There is always at least one. -/
def pieces (separator : Char) : Text → List Text
  | [] => [[]]
  | c :: text =>
    if c = separator then [] :: pieces separator text
    else
      match pieces separator text with
      | [] => [[c]]
      | piece :: rest => (c :: piece) :: rest

/-- The texts one after the other with `separator` between them. -/
def join (separator : Text) (texts : List Text) : Text := separator.intercalate texts

variable {separator : Char}

theorem pieces_ne_nil (text : Text) : pieces separator text ≠ [] := by
  cases text with
  | nil => simp [pieces]
  | cons c text =>
    rw [pieces]
    split
    · simp
    · split <;> simp

theorem pieces_append (front behind : Text) :
    pieces separator (front ++ separator :: behind) =
      pieces separator front ++ pieces separator behind := by
  induction front with
  | nil => simp [pieces]
  | cons c front ih =>
    rw [List.cons_append, pieces, pieces, ih]
    split
    · rfl
    · cases shape : pieces separator front with
      | nil => exact absurd shape (pieces_ne_nil front)
      | cons piece rest => rfl

theorem pieces_eq_singleton {text : Text} (flat : separator ∉ text) :
    pieces separator text = [text] := by
  induction text with
  | nil => rfl
  | cons c text ih =>
    rw [List.mem_cons, not_or] at flat
    rw [pieces, if_neg (Ne.symm flat.1), ih flat.2]

theorem pieces_join {texts : List Text} (some : texts ≠ [])
    (flat : ∀ text ∈ texts, separator ∉ text) :
    pieces separator (join [separator] texts) = texts := by
  induction texts with
  | nil => exact absurd rfl some
  | cons text rest ih =>
    cases rest with
    | nil => simpa [join] using pieces_eq_singleton (flat text List.mem_cons_self)
    | cons next rest =>
      have inner := ih (List.cons_ne_nil _ _) fun other member =>
        flat other (List.mem_cons_of_mem _ member)
      have shape : join [separator] (text :: next :: rest) =
          text ++ separator :: join [separator] (next :: rest) := by
        simp [join]
      rw [shape, pieces_append, inner, pieces_eq_singleton (flat text List.mem_cons_self)]
      rfl

/-! ## Lengths and numbers -/

/-- The number of bytes of the text in UTF-8. -/
def utf8Length : Text → Nat
  | [] => 0
  | c :: text => c.utf8Size + utf8Length text

@[simp] theorem utf8Length_append (front behind : Text) :
    utf8Length (front ++ behind) = utf8Length front + utf8Length behind := by
  induction front with
  | nil => simp [utf8Length]
  | cons c front ih => simp [utf8Length, ih, Nat.add_assoc]

/-- A natural number in decimal digits. -/
def ofNat (n : Nat) : Text := Nat.toDigits 10 n

/-- An integer in decimal digits, with a leading minus when negative. -/
def ofInt : Int → Text
  | .ofNat n => ofNat n
  | .negSucc n => '-' :: ofNat (n + 1)

end Text

end PageTemplates
