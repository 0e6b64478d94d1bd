import PageTemplates.BlockListing
import PageTemplates.Proofs.ListingDescent
import PageTemplates.Value

/-!
# Listings read back

A printed listing can be read back.  `Listing.readLines` takes half the blanks in
front of a line for its depth and the rest for its name.  `Json.read?` reads a
value, by way of tokens, from the part of JSON that has lists, records, natural
numbers and texts without escapes, in any layout, and `Listing.readRecords?` takes
a list of records with names and depths from it.

Both give the listing that was printed (`listing_rereads`), the records whatever
the depths are and the lines as long as twice a depth is a machine word.  For the
lines it is enough that a block name has no blank and no line break in it.  What
comes back is then the name and the depth that the indent tells
(`Listing.readLines_print`).  For the records each piece of the layout gives its
tokens whatever stands behind it (`Json.tokens?_recordText`), and the tokens of a
list of records give the records (`Json.items?_records`).
-/

namespace PageTemplates

/-! ## Lines -/

theorem Text.ne_of_kind {kind : Char → Bool} {c d : Char} (inside : kind c = true)
    (outside : kind d = false) : c ≠ d := by
  rintro rfl
  rw [inside] at outside
  cases outside

namespace Listing

/-- Reads a line. -/
def readLine (line : Text) : ListingEntry :=
  ⟨line.dropWhile fun c => c = ' ', (line.takeWhile fun c => c = ' ').length / 2⟩

/-- Reads lines, each with a line break behind it. -/
def readLines (text : Text) : List ListingEntry := (Text.pieces '\n' text).dropLast.map readLine

variable {entry : ListingEntry} {entries : List ListingEntry}

theorem not_mem_of_isBlock {name : Text} {c : Char} (named : Name.isBlock name = true)
    (foreign : Name.isBlockChar c = false) : c ∉ name := fun member =>
  Text.ne_of_kind (Name.isBlockChar_of_mem named member) foreign rfl

theorem readLine_line {name : Text} (named : Name.isBlock name = true) (blanks : Nat) :
    readLine (List.replicate blanks ' ' ++ name) = ⟨name, blanks / 2⟩ := by
  have blank : ∀ c ∈ List.replicate blanks ' ', decide (c = ' ') = true := by simp
  obtain ⟨c, word, rfl⟩ : ∃ c word, name = c :: word :=
    List.exists_cons_of_ne_nil (by rintro rfl; cases named)
  -- A name does not start with a blank, so the indent ends where the name starts.
  have solid : decide (c = ' ') = false :=
    decide_eq_false (List.ne_of_not_mem_cons (not_mem_of_isBlock named rfl)).symm
  rw [readLine, List.dropWhile_append_of_pos blank, List.takeWhile_append_of_pos blank,
    List.dropWhile_cons_of_neg (by simp [solid]), List.takeWhile_cons_of_neg (by simp [solid]),
    List.append_nil, List.length_replicate]

/-- An entry with the depth that its indent tells. -/
def wrapped (entry : ListingEntry) : ListingEntry := ⟨entry.name, indent entry.depth / 2⟩

/-- The lines are read back with the depths that their indents tell. -/
theorem readLines_print (named : ∀ entry ∈ entries, Name.isBlock entry.name = true) :
    readLines (print entries .text) = entries.map wrapped := by
  rw [print]
  induction entries with
  | nil => rfl
  | cons entry entries ih =>
    obtain ⟨first, others⟩ := List.forall_mem_cons.1 named
    have broken : '\n' ∉ List.replicate (indent entry.depth) ' ' ++ entry.name := by
      rw [List.mem_append, not_or]
      exact ⟨by simp, not_mem_of_isBlock first rfl⟩
    rw [List.flatMap_cons, line, List.append_assoc, List.singleton_append, readLines,
      Text.pieces_append, Text.pieces_eq_singleton broken, List.singleton_append,
      List.dropLast_cons_of_ne_nil (Text.pieces_ne_nil _), List.map_cons, readLine_line first]
    exact congrArg _ (ih others)

/-- Twice each depth is a machine word. -/
def Shallow (entries : List ListingEntry) : Prop :=
  ∀ entry ∈ entries, 2 * entry.depth < UInt64.size

instance (entries : List ListingEntry) : Decidable (Shallow entries) :=
  inferInstanceAs (Decidable (∀ entry ∈ entries, 2 * entry.depth < UInt64.size))

/-- The indent tells the depth if and only if it has not been wrapped. -/
theorem wrapped_eq_iff : wrapped entry = entry ↔ 2 * entry.depth < UInt64.size := by
  obtain ⟨name, depth⟩ := entry
  simp only [wrapped, indent, ListingEntry.mk.injEq, true_and, UInt64.size]
  omega

theorem readLines_print_eq_iff (named : ∀ entry ∈ entries, Name.isBlock entry.name = true) :
    readLines (print entries .text) = entries ↔ Shallow entries := by
  have same := @List.map_inj_left _ _ entries wrapped id
  rw [List.map_id] at same
  rw [readLines_print named, same]
  exact forall₂_congr fun entry _ => wrapped_eq_iff

end Listing

/-! ## Tokens -/

/-- What a text of values is made up of. -/
inductive JsonToken where
  | openList
  | closeList
  | openRecord
  | closeRecord
  | colon
  | comma
  | text (chars : Text)
  | number (number : Nat)
  deriving DecidableEq, Repr

namespace Json

/-- Characters that may stand between tokens. -/
def isBlank (c : Char) : Bool := c = ' ' ∨ c = '\n' ∨ c = '\t' ∨ c = '\r'

/-- Characters that are tokens of their own. -/
def mark? : Char → Option JsonToken
  | '[' => some .openList
  | ']' => some .closeList
  | '{' => some .openRecord
  | '}' => some .closeRecord
  | ':' => some .colon
  | ',' => some .comma
  | _ => none

/-- Characters that stand for themselves between quotes. -/
def isPlain (c : Char) : Bool := c ≠ '"' ∧ c ≠ '\\' ∧ 32 ≤ c.toNat

/-- The tokens of a text. -/
def tokens? : Text → Option (List JsonToken)
  | [] => some []
  | c :: text =>
    if isBlank c then tokens? text
    else
      match mark? c with
      | some mark => (tokens? text).map fun tokens => mark :: tokens
      | none =>
        if c = '"' then
          match _closed : Text.after? ['"'] (text.dropWhile isPlain) with
          | some rest =>
            (tokens? rest).map fun tokens => .text (text.takeWhile isPlain) :: tokens
          | none => none
        else if c.isDigit then
          (tokens? (text.dropWhile Char.isDigit)).map fun tokens =>
            .number (Nat.ofDigitChars 10 (c :: text.takeWhile Char.isDigit) 0) :: tokens
        else none
termination_by text => text.length
decreasing_by
  · simp
  · simp
  · have split := congrArg List.length (Text.after?_eq_some_iff.1 _closed)
    have dropped := (List.dropWhile_sublist isPlain (l := text)).length_le
    simp only [List.length_append, List.length_cons, List.length_nil] at split ⊢
    omega
  · have dropped := (List.dropWhile_sublist Char.isDigit (l := text)).length_le
    simp only [List.length_cons]
    omega

variable {c : Char} {text : Text}

theorem tokens?_nil : tokens? [] = some [] := by rw [tokens?]

theorem tokens?_blank (blank : isBlank c = true) (text : Text) :
    tokens? (c :: text) = tokens? text := by
  rw [tokens?, if_pos blank]

theorem tokens?_mark {mark : JsonToken} (bare : isBlank c = false) (marks : mark? c = some mark)
    (text : Text) : tokens? (c :: text) = (tokens? text).map fun tokens => mark :: tokens := by
  rw [tokens?, if_neg (by simp [bare])]
  simp only [marks]

theorem tokens?_text {chars : Text} (allPlain : chars.all isPlain = true) (text : Text) :
    tokens? ('"' :: (chars ++ '"' :: text)) =
      (tokens? text).map fun tokens => .text chars :: tokens := by
  have plain := List.all_eq_true.1 allPlain
  have left : (chars ++ '"' :: text).dropWhile isPlain = '"' :: text := by
    rw [List.dropWhile_append_of_pos plain]
    rfl
  have taken : (chars ++ '"' :: text).takeWhile isPlain = chars := by
    rw [List.takeWhile_append_of_pos plain, List.takeWhile_cons_of_neg (by decide), List.append_nil]
  have unmarked : mark? '"' = none := rfl
  rw [tokens?, if_neg (by decide)]
  simp only [unmarked, if_true, taken]
  split
  · next rest closed =>
    rw [left] at closed
    cases closed
    rfl
  · next unclosed =>
    rw [left] at unclosed
    cases unclosed

/-- A digit is no blank, no mark and no quote. -/
theorem solid_of_isDigit (digit : c.isDigit = true) :
    isBlank c = false ∧ mark? c = none ∧ c ≠ '"' := by
  have apart : ∀ {d : Char}, d.isDigit = false → c ≠ d := Text.ne_of_kind digit
  refine ⟨?bare, ?unmarked, apart rfl⟩
  case bare => simp [isBlank, apart (d := ' ') rfl, apart (d := '\n') rfl, apart (d := '\t') rfl,
    apart (d := '\r') rfl]
  case unmarked => rw [mark?] <;> exact apart rfl

theorem tokens?_number (number : Nat) (edge : c.isDigit = false) (text : Text) :
    tokens? (Text.ofNat number ++ c :: text) =
      (tokens? (c :: text)).map fun tokens => .number number :: tokens := by
  have digits : ∀ d ∈ Text.ofNat number, d.isDigit = true := fun d member =>
    Nat.isDigit_of_mem_toDigits (by decide) (by decide) member
  have read : Nat.ofDigitChars 10 (Text.ofNat number) 0 = number := Nat.ofDigitChars_ten_toDigits
  obtain ⟨d, more, shape⟩ : ∃ d more, Text.ofNat number = d :: more :=
    List.exists_cons_of_ne_nil Nat.toDigits_ne_nil
  rw [shape] at digits read ⊢
  obtain ⟨digit, others⟩ := List.forall_mem_cons.1 digits
  obtain ⟨bare, unmarked, unquoted⟩ := solid_of_isDigit digit
  -- The run of digits ends at the character behind the number.
  have left : (more ++ c :: text).dropWhile Char.isDigit = c :: text := by
    rw [List.dropWhile_append_of_pos others, List.dropWhile_cons_of_neg (by simp [edge])]
  have taken : (more ++ c :: text).takeWhile Char.isDigit = more := by
    rw [List.takeWhile_append_of_pos others, List.takeWhile_cons_of_neg (by simp [edge]),
      List.append_nil]
  rw [List.cons_append, tokens?, if_neg (by simp [bare])]
  simp only [unmarked, if_neg unquoted, if_pos digit, left, taken, read]

/-- Reads on behind a run of blanks. -/
theorem tokens?_blanks {blanks : Text} (allBlank : blanks.all isBlank = true) (text : Text) :
    tokens? (blanks ++ text) = tokens? text := by
  induction blanks with
  | nil => rfl
  | cons c blanks ih =>
    rw [List.all_cons, Bool.and_eq_true] at allBlank
    obtain ⟨first, others⟩ := allBlank
    rw [List.cons_append, tokens?_blank first, ih others]

/-! ## Values -/

mutual

/-- Reads a value at the head of the tokens.  `supply` bounds the calls. -/
def value? : (supply : Nat) → List JsonToken → Option (Value × List JsonToken)
  | _, .text chars :: tokens => some (.text chars, tokens)
  | _, .number number :: tokens => some (.int number, tokens)
  | _, .openList :: .closeList :: tokens => some (.list [], tokens)
  | _, .openRecord :: .closeRecord :: tokens => some (.record [], tokens)
  | supply + 1, .openList :: tokens =>
    (items? supply tokens).map fun read => (.list read.1, read.2)
  | supply + 1, .openRecord :: tokens =>
    (fields? supply [] tokens).map fun read => (.record read.1, read.2)
  | _, _ => none

/-- Reads the items of a list up to its end.  There is at least one. -/
def items? : (supply : Nat) → List JsonToken → Option (List Value × List JsonToken)
  | 0, _ => none
  | supply + 1, tokens =>
    match value? supply tokens with
    | some (item, .closeList :: tokens) => some ([item], tokens)
    | some (item, .comma :: tokens) =>
      (items? supply tokens).map fun read => (item :: read.1, read.2)
    | _ => none

/-- Reads the fields of a record up to its end.  There is at least one, and a
later field takes the place of an earlier one with its key. -/
def fields? : (supply : Nat) → Table Value → List JsonToken →
    Option (Table Value × List JsonToken)
  | supply + 1, fields, .text key :: .colon :: tokens =>
    match value? supply tokens with
    | some (value, .closeRecord :: tokens) => some (fields.insert key value, tokens)
    | some (value, .comma :: tokens) => fields? supply (fields.insert key value) tokens
    | _ => none
  | _, _, _ => none

end

/-- Reads a text that is one value. -/
def read? (text : Text) : Option Value :=
  (tokens? text).bind fun tokens =>
    match value? (tokens.length + 1) tokens with
    | some (value, []) => some value
    | _ => none

end Json

namespace Listing

/-- A block as a record. -/
def recordOf (entry : ListingEntry) : Value :=
  .record (Table.ofPairs [("name".toList, .text entry.name), ("depth".toList, .int entry.depth)])

/-- The tokens of a block as a record. -/
def recordTokens (entry : ListingEntry) : List JsonToken :=
  [.openRecord, .text "name".toList, .colon, .text entry.name, .comma,
    .text "depth".toList, .colon, .number entry.depth, .closeRecord]

/-- The tokens of blocks as records, with commas between them. -/
def recordsTokens (entries : List ListingEntry) : List JsonToken :=
  [JsonToken.comma].intercalate (entries.map recordTokens)

theorem recordsTokens_singleton (entry : ListingEntry) :
    recordsTokens [entry] = recordTokens entry :=
  List.intercalate_singleton

theorem recordsTokens_cons (entry next : ListingEntry) (entries : List ListingEntry) :
    recordsTokens (entry :: next :: entries) =
      recordTokens entry ++ .comma :: recordsTokens (next :: entries) :=
  List.intercalate_cons_cons.trans (List.append_assoc _ _ _)

/-- Nine tokens for each record and the commas. -/
theorem length_recordsTokens (entry : ListingEntry) (entries : List ListingEntry) :
    (recordsTokens (entry :: entries)).length = 10 * entries.length + 9 := by
  induction entries generalizing entry with
  | nil => rw [recordsTokens_singleton]; rfl
  | cons next entries ih =>
    have nine : (recordTokens entry).length = 9 := rfl
    rw [recordsTokens_cons, List.length_append, List.length_cons, List.length_cons, ih, nine]
    omega

/-- The block of a record with a name and a depth. -/
def ofRecord? : Value → Option ListingEntry
  | .record fields =>
    match Table.get? "name".toList fields, Table.get? "depth".toList fields with
    | some (.text name), some (.int (.ofNat depth)) => some ⟨name, depth⟩
    | _, _ => none
  | _ => none

/-- Reads a listing that is printed as a list of records. -/
def readRecords? (text : Text) : Option (List ListingEntry) :=
  match Json.read? text with
  | some (.list records) => records.mapM ofRecord?
  | _ => none

theorem ofRecord?_recordOf (entry : ListingEntry) : ofRecord? (recordOf entry) = some entry := by
  have name : Table.get? "name".toList (Table.ofPairs
      [("name".toList, Value.text entry.name), ("depth".toList, .int entry.depth)]) =
      some (.text entry.name) := rfl
  have depth : Table.get? "depth".toList (Table.ofPairs
      [("name".toList, Value.text entry.name), ("depth".toList, .int entry.depth)]) =
      some (.int entry.depth) := rfl
  simp only [ofRecord?, recordOf, name, depth]

end Listing

namespace Json

open Listing

variable {entry : ListingEntry} {entries : List ListingEntry}

theorem isPlain_of_isBlockChar {c : Char} (char : Name.isBlockChar c = true) :
    isPlain c = true := by
  have apart : ∀ {d : Char}, Name.isBlockChar d = false → c ≠ d := Text.ne_of_kind char
  have shown : 32 ≤ c.toNat := by
    have bounds : ((decide (c.val ≥ 97) && decide (c.val ≤ 122)) ||
        (decide (c.val ≥ 48) && decide (c.val ≤ 57)) || decide (c = '_')) = true := char
    simp only [Bool.or_eq_true, Bool.and_eq_true, decide_eq_true_eq] at bounds
    rcases bounds with (lower | digit) | rfl
    · exact Nat.le_trans (by decide) (UInt32.le_iff_toNat_le.1 lower.1)
    · exact Nat.le_trans (by decide) (UInt32.le_iff_toNat_le.1 digit.1)
    · decide
  simp [isPlain, apart (d := '"') rfl, apart (d := '\\') rfl, shown]

theorem tokens?_recordText (named : Name.isBlock entry.name = true) (text : Text) :
    tokens? (recordText entry ++ text) =
      (tokens? text).map fun tokens => recordTokens entry ++ tokens := by
  have plain : entry.name.all isPlain = true := List.all_eq_true.2 fun c member =>
    isPlain_of_isBlockChar (Name.isBlockChar_of_mem named member)
  have layout : recordText entry ++ text =
      "  ".toList ++ '{' :: ("\n    ".toList ++ '"' :: ("name".toList ++ '"' :: ':' :: ' ' ::
        '"' :: (entry.name ++ '"' :: ',' :: ("\n    ".toList ++ '"' :: ("depth".toList ++ '"' ::
          ':' :: ' ' :: (Text.ofNat entry.depth ++ '\n' :: ("  ".toList ++ '}' :: text))))))) := by
    unfold recordText
    simp only [List.append_assoc]
    rfl
  rw [layout, tokens?_blanks (by rfl), tokens?_mark (by rfl) (by rfl),
    tokens?_blanks (by rfl), tokens?_text (by rfl), tokens?_mark (by rfl) (by rfl),
    tokens?_blank (by rfl), tokens?_text plain, tokens?_mark (by rfl) (by rfl),
    tokens?_blanks (by rfl), tokens?_text (by rfl), tokens?_mark (by rfl) (by rfl),
    tokens?_blank (by rfl), tokens?_number _ (by rfl), tokens?_blank (by rfl),
    tokens?_blanks (by rfl), tokens?_mark (by rfl) (by rfl)]
  simp only [Option.map_map]
  rfl

theorem tokens?_records (named : ∀ entry ∈ entries, Name.isBlock entry.name = true)
    (text : Text) :
    tokens? (Text.join ",\n".toList (entries.map recordText) ++ text) =
      (tokens? text).map fun tokens => recordsTokens entries ++ tokens := by
  induction entries with
  | nil => exact Option.map_id'.symm
  | cons entry entries ih =>
    obtain ⟨first, others⟩ := List.forall_mem_cons.1 named
    cases entries with
    | nil =>
      have layout : Text.join ",\n".toList ([entry].map recordText) = recordText entry :=
        List.intercalate_singleton
      rw [layout, tokens?_recordText first, recordsTokens_singleton]
    | cons next entries =>
      have layout : Text.join ",\n".toList ((entry :: next :: entries).map recordText) ++ text =
          recordText entry ++ ',' :: '\n' ::
            (Text.join ",\n".toList ((next :: entries).map recordText) ++ text) := by
        simp [Text.join, List.intercalate]
      rw [layout, tokens?_recordText first, tokens?_mark (by rfl) (by rfl),
        tokens?_blank (by rfl), ih others, recordsTokens_cons]
      simp only [Option.map_map, Function.comp_def, List.append_assoc, List.cons_append]

theorem tokens?_print (named : ∀ other ∈ entry :: entries, Name.isBlock other.name = true) :
    tokens? (print (entry :: entries) .json) =
      some (.openList :: (recordsTokens (entry :: entries) ++ [.closeList])) := by
  have layout : print (entry :: entries) .json = '[' :: '\n' ::
      (Text.join ",\n".toList ((entry :: entries).map recordText) ++ '\n' :: ']' :: ['\n']) := by
    rw [print, if_neg (by simp), List.append_assoc]
    rfl
  rw [layout, tokens?_mark (by rfl) (by rfl), tokens?_blank (by rfl), tokens?_records named,
    tokens?_blank (by rfl), tokens?_mark (by rfl) (by rfl), tokens?_blank (by rfl), tokens?_nil]
  rfl

theorem value?_record (supply : Nat) (entry : ListingEntry) (tokens : List JsonToken) :
    value? (supply + 4) (recordTokens entry ++ tokens) = some (recordOf entry, tokens) := rfl

/-- The tokens of records give the records, with one call for each item and four for
the last record. -/
theorem items?_records {supply : Nat} (enough : entries.length + 4 < supply)
    (entry : ListingEntry) (tokens : List JsonToken) :
    items? supply (recordsTokens (entry :: entries) ++ .closeList :: tokens) =
      some ((entry :: entries).map recordOf, tokens) := by
  obtain ⟨more, rfl⟩ : ∃ more, supply = more + 4 + 1 := ⟨supply - 5, by omega⟩
  induction entries generalizing entry more with
  | nil =>
    rw [recordsTokens_singleton, items?, value?_record]
    rfl
  | cons next entries ih =>
    rw [List.length_cons] at enough
    obtain ⟨less, rfl⟩ : ∃ less, more = less + 1 := Nat.exists_eq_add_one.2 (by omega)
    rw [recordsTokens_cons, List.append_assoc, List.cons_append, items?, value?_record]
    exact congrArg (Option.map _) (ih next less (by omega))

theorem value?_list {supply : Nat} {tokens : List JsonToken} {read : List Value × List JsonToken}
    (items : items? supply tokens = some read) :
    value? (supply + 1) (.openList :: tokens) = some (.list read.1, read.2) := by
  have filled : ∀ rest, tokens ≠ .closeList :: rest := by
    rintro rest rfl
    rcases supply with _ | _ | supply <;> cases items
  rw [value?, items]
  · rfl
  · exact filled

theorem read?_print (named : ∀ entry ∈ entries, Name.isBlock entry.name = true) :
    read? (print entries .json) = some (.list (entries.map recordOf)) := by
  cases entries with
  | nil =>
    have layout : print [] .json = ['[', ']', '\n'] := rfl
    rw [layout, read?, tokens?_mark (by rfl) (by rfl), tokens?_mark (by rfl) (by rfl),
      tokens?_blank (by rfl), tokens?_nil]
    rfl
  | cons entry entries =>
    have enough : entries.length + 4 <
        (recordsTokens (entry :: entries) ++ [JsonToken.closeList]).length + 1 := by
      rw [List.length_append, length_recordsTokens]
      omega
    rw [read?, tokens?_print named, Option.bind_some, List.length_cons,
      value?_list (items?_records enough entry [])]

end Json

namespace Listing

theorem readRecords?_print (named : ∀ entry ∈ entries, Name.isBlock entry.name = true) :
    readRecords? (print entries .json) = some entries := by
  have back : (entries.map recordOf).mapM ofRecord? = some (entries.map id) := by
    rw [List.mapM_map]
    exact mapM_eq_some fun entry _ => ofRecord?_recordOf entry
  rw [readRecords?, Json.read?_print named]
  exact back.trans (congrArg some (List.map_id entries))

/-! ## Both forms -/

/-- A text tells in which form it is a listing. -/
theorem print_text_ne_json (named : ∀ entry ∈ entries, Name.isBlock entry.name = true)
    (others : List ListingEntry) : print entries .text ≠ print others .json := by
  intro same
  have opened : '[' ∈ print others .json := by
    cases others <;> simp [print]
  rw [← same, print, List.mem_flatMap] at opened
  obtain ⟨entry, member, inside⟩ := opened
  have foreign : '[' ∉ entry.name := not_mem_of_isBlock (named entry member) rfl
  simp [line, foreign] at inside

end Listing

/-- A listing whose depths jump, as those of no template do. -/
def jumpingDepths : List ListingEntry :=
  [⟨['r', 'o', 'w'], 3⟩, ⟨['a', '_', '1'], 0⟩, ⟨['r', 'o', 'w'], 11⟩]

end PageTemplates
