import PageTemplates.Proofs.Histories
import PageTemplates.Proofs.Nesting
import PageTemplates.Proofs.SubstitutionSteps

/-!
# Names of blocks and placeholders fit together

A block has a name of its own in three places: between its markers, in the
placeholder that is left for it, and as the key that its body is stored under.
The last two are the upper-cased name.  A block name is ASCII, so this does not
depend on how other characters are upper-cased (`Name.flatMap_upperCase`).

The upper-cased name is a variable name.  So the placeholder is one that
substitution replaces, and by the body of this block, since no block of another
name is found under the key (`Block.name_eq_of_answers`).  A name and the name
in its placeholder determine each other (`Name.placeholder_inj`), and two
placeholders in a text do not overlap (`PlacedPlaceholder.Stands.eq_or_apart`).
`names_fit` puts this together.
-/

namespace PageTemplates

namespace Name

variable {name other : Text}

/-! ## Upper-casing -/

theorem toUpper_of_isVariableChar {c : Char} (char : isVariableChar c = true) : c.toUpper = c := by
  have bounds : (decide (c.val ≥ 65 ∧ c.val ≤ 90) ||
      (decide (c.val ≥ 48) && decide (c.val ≤ 57)) || decide (c = '_')) = true := char
  have small : c.val.toNat ≤ 95 := by
    simp only [Bool.or_eq_true, Bool.and_eq_true, decide_eq_true_eq] at bounds
    rcases bounds with (upper | digit) | rfl
    · exact Nat.le_trans (UInt32.le_iff_toNat_le.1 upper.2) (by decide)
    · exact Nat.le_trans (UInt32.le_iff_toNat_le.1 digit.2) (by decide)
    · decide
  show (if h : c.val ≥ 97 ∧ c.val ≤ 122 then _ else c) = c
  refine dif_neg fun range => ?_
  have low : 97 ≤ c.val.toNat := UInt32.le_iff_toNat_le.1 range.1
  omega

/-- A variable name is upper-cased already. -/
theorem upper_of_isVariable (named : isVariable name = true) : upper name = name := by
  refine (List.map_congr_left fun c member => ?_).trans (List.map_id name)
  exact toUpper_of_isVariableChar (isVariableChar_of_mem named member)

theorem placeholder_inj (block : isBlock name = true) (blockOther : isBlock other = true) :
    placeholder name = placeholder other ↔ name = other := by
  refine ⟨fun same => upper_injective block blockOther ?_, fun same => by rw [same]⟩
  simpa [placeholder] using same

end Name

/-! ## Keys -/

/-- A block that is found under the variable of another one has the same name. -/
theorem Block.name_eq_of_answers {block : Block} {name : Text}
    (answers : block.answers (Name.upper name) = true) (named : Name.isBlock name = true)
    (own : Name.isBlock block.name = true) : block.name = name := by
  simp only [Block.answers, Bool.or_eq_true, decide_eq_true_eq] at answers
  refine Name.upper_injective own named ?_
  rcases answers with lower | upper
  · rw [← lower, Name.upper_of_isVariable (Name.isVariable_upper named)]
  · exact upper.symm

theorem Block.answers_upper (block : Block) : block.answers (Name.upper block.name) = true := by
  simp [Block.answers]

/-- A division is stored with the body of a block of this name under the variable of each block, or
with the outline if the origin is called so. -/
theorem exists_body_of_mem_divide {text : Text} {block : Block}
    (member : block ∈ (divide text).blocks) (page : Page) (origin : Text) :
    ∃ other ∈ (divide text).blocks, other.name = block.name ∧
      (page.storeDivision origin (divide text)).data.get? (Name.upper block.name) =
        some (if Name.upper block.name = origin then (divide text).outline else other.body) := by
  have found : ((divide text).blocks.reverse.find?
      (Block.answers (Name.upper block.name))).isSome = true :=
    List.find?_isSome.2 ⟨block, List.mem_reverse.2 member, block.answers_upper⟩
  obtain ⟨other, found⟩ := Option.isSome_iff_exists.1 found
  have there := List.mem_reverse.1 (List.mem_of_find?_eq_some found)
  refine ⟨other, there, ?_, ?_⟩
  · exact Block.name_eq_of_answers (List.find?_some found) (isBlock_of_mem_divide member)
      (isBlock_of_mem_divide there)
  · rw [get?_storeDivision, Division.stored?, lastBody?, found]
    split <;> rfl

/-! ## Occurrences -/

/-- A placeholder with the bytes in front of it and up to its end. -/
@[ext]
structure PlacedPlaceholder where
  /-- The variable between its braces. -/
  name : Text
  start : Nat
  stop : Nat
  deriving DecidableEq, Repr

namespace PlacedPlaceholder

/-- The placeholder stands in the text, there and as it is written. -/
def Stands (text : Text) (placed : PlacedPlaceholder) : Prop :=
  Name.isVariable placed.name = true ∧
    ∃ before after, text = before ++ '{' :: (placed.name ++ '}' :: after) ∧
      placed.start = Text.utf8Length before ∧
      placed.stop = Text.utf8Length (before ++ '{' :: (placed.name ++ ['}']))

/-- Two placeholders of one text are the same, or the one ends in front of the other. -/
theorem Stands.eq_or_apart {text : Text} {placed other : PlacedPlaceholder}
    (stands : placed.Stands text) (there : other.Stands text) :
    placed = other ∨ placed.stop ≤ other.start ∨ other.stop ≤ placed.start := by
  obtain ⟨named, before, after, shape, start, stop⟩ := stands
  obtain ⟨namedOther, front, behind, split, startOther, stopOther⟩ := there
  rcases Placeholder.same_or_apart named namedOther (shape.symm.trans split) with
    ⟨rfl, same, -⟩ | ⟨between, rfl, -⟩ | ⟨between, rfl, -⟩
  · left
    exact PlacedPlaceholder.ext same (start.trans startOther.symm) (by rw [stop, stopOther, same])
  · right; left
    rw [stop, startOther]
    simp [Text.utf8Length]
  · right; right
    rw [stopOther, start]
    simp [Text.utf8Length]

end PlacedPlaceholder

/-! ## Names that fit -/

/-- The upper-cased name of a block is a variable name, whichever case map is used, and its
placeholder is this name in braces.  Substitution replaces it wherever it stands, and the division
is stored with the body of a block of the same name under the same key, or with the outline if the
origin is called so.  Blocks of any templates have the same placeholder exactly if they have the
same name.  Two placeholders in one text are the same or apart. -/
theorem names_fit (text : Text) :
    (∀ block ∈ (divide text).blocks,
      Name.isVariable (Name.upper block.name) = true ∧
      block.placeholder = '{' :: (Name.upper block.name ++ ['}']) ∧
      (∀ upperCase, Name.IsUpperCase upperCase →
        block.name.flatMap upperCase = Name.upper block.name) ∧
      (∀ lookup value, lookup (Name.upper block.name) = some value → ∀ before after,
        Substitution.Step lookup (before ++ (block.placeholder ++ after))
          (before ++ (value ++ after))) ∧
      ∀ (page : Page) (origin : Text), ∃ other ∈ (divide text).blocks, other.name = block.name ∧
        (page.storeDivision origin (divide text)).data.get? (Name.upper block.name) =
          some (if Name.upper block.name = origin then (divide text).outline else other.body)) ∧
    (∀ block ∈ (divide text).blocks, ∀ template, ∀ other ∈ (divide template).blocks,
      block.placeholder = other.placeholder ↔ block.name = other.name) ∧
    ∀ placed other : PlacedPlaceholder, placed.Stands text → other.Stands text →
      placed = other ∨ placed.stop ≤ other.start ∨ other.stop ≤ placed.start := by
  refine ⟨fun block member => ?_, fun block member template other there => ?_, ?_⟩
  · have named := isBlock_of_mem_divide member
    have isVariable := Name.isVariable_upper named
    have written : block.placeholder = '{' :: (Name.upper block.name ++ ['}']) := rfl
    refine ⟨isVariable, written, fun _ agrees => Name.flatMap_upperCase agrees named, ?_,
      exists_body_of_mem_divide member⟩
    intro lookup value known before after
    have step := Substitution.Step.replace before after isVariable known
    simpa [written] using step
  · exact Name.placeholder_inj (isBlock_of_mem_divide member) (isBlock_of_mem_divide there)
  · exact fun placed other stands there => stands.eq_or_apart there

/-- A case map that takes one character to two. -/
def sharpCase (c : Char) : Text := if c = 'ß' then ['S', 'S'] else [c.toUpper]

/-- Two blocks of one name, with the placeholder of a third in front. -/
def doubleRow : Text :=
  "\x7bGROSS\x7d<!-- BDP: row_2 -->a<!-- EDP: row_2 --><!-- BDP: row_2 -->ß<!-- EDP: row_2 -->".toList

theorem names_fit_doubleRow :
    ⟨"row_2".toList, "a".toList⟩ ∈ (divide doubleRow).blocks ∧
      Name.IsUpperCase sharpCase ∧
      "row_2".toList.flatMap sharpCase = Name.upper "row_2".toList := by
  have member : ⟨"row_2".toList, "a".toList⟩ ∈ (divide doubleRow).blocks := by decide +kernel
  have agrees : Name.IsUpperCase sharpCase := by
    intro c ascii
    refine if_neg ?_
    rintro rfl
    exact absurd ascii (by decide)
  obtain ⟨-, -, upper, -, -⟩ := (names_fit doubleRow).1 _ member
  exact ⟨member, agrees, upper sharpCase agrees⟩

end PageTemplates
