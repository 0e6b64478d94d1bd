import PageTemplates.Text

/-!
# Names of blocks and variables

A block is named in lower case and the variable that stands for it in upper
case.  Both kinds of name start with a letter or a digit and go on with
letters, digits and underscores.  `upper` takes a block name to its variable.
`isVariable_upper` says that the result is always a variable name, and
`upper_injective` that no two blocks have the same.  How a case map takes other
characters to upper case makes no difference (`flatMap_upperCase`).
-/

namespace PageTemplates

namespace Name

/-- A character that may start a block name. -/
def isBlockStart (c : Char) : Bool := c.isLower || c.isDigit

/-- A character that may go on a block name. -/
def isBlockChar (c : Char) : Bool := isBlockStart c || c = '_'

/-- A character that may start a variable name. -/
def isVariableStart (c : Char) : Bool := c.isUpper || c.isDigit

/-- A character that may go on a variable name. -/
def isVariableChar (c : Char) : Bool := isVariableStart c || c = '_'

/-- Block names: a lower-case letter or digit, then such characters and underscores. -/
def isBlock : Text → Bool
  | [] => false
  | c :: rest => isBlockStart c && rest.all isBlockChar

/-- Variable names: an upper-case letter or digit, then such characters and underscores. -/
def isVariable : Text → Bool
  | [] => false
  | c :: rest => isVariableStart c && rest.all isVariableChar

/-- The variable that stands for a block.  Block names are ASCII, so the ASCII
case map is the right one.  It is not for names with other letters. -/
def upper (name : Text) : Text := name.map Char.toUpper

/-- A case map, from characters to texts, that goes on from the one for ASCII letters. -/
def IsUpperCase (upperCase : Char → Text) : Prop := ∀ c, c.toNat < 128 → upperCase c = [c.toUpper]

/-- A variable between the braces that call for its value. -/
def placeholder (name : Text) : Text := '{' :: upper name ++ ['}']

/-! ## The characters of a name -/

theorem isBlockChar_of_mem {c : Char} {name : Text} (block : isBlock name = true)
    (member : c ∈ name) : isBlockChar c = true := by
  cases name with
  | nil => cases block
  | cons d rest =>
    simp only [isBlock, Bool.and_eq_true, List.all_eq_true] at block
    rcases List.mem_cons.1 member with rfl | later
    · simp [isBlockChar, block.1]
    · exact block.2 c later

theorem isVariableChar_of_mem {c : Char} {name : Text} (named : isVariable name = true)
    (member : c ∈ name) : isVariableChar c = true := by
  cases name with
  | nil => cases named
  | cons d rest =>
    simp only [isVariable, Bool.and_eq_true, List.all_eq_true] at named
    rcases List.mem_cons.1 member with rfl | later
    · simp [isVariableChar, named.1]
    · exact named.2 c later

/-! ## Block names become variable names -/

theorem isVariableStart_toUpper {c : Char} (start : isBlockStart c = true) :
    isVariableStart c.toUpper = true := by
  have lowerIff : c.isLower = true ↔ 97 ≤ c.val ∧ c.val ≤ 122 := by
    show (decide (c.val ≥ 97) && decide (c.val ≤ 122)) = true ↔ _
    simp [UInt32.le_iff_toNat_le]
  rcases Bool.or_eq_true_iff.1 start with lower | digit
  · have range := lowerIff.1 lower
    have raised : c.toUpper.val = c.val + (4294967264 : UInt32) := by
      show (if h : c.val ≥ 97 ∧ c.val ≤ 122 then _ else c).val = _
      rw [dif_pos range]
      rfl
    have low : 97 ≤ c.val.toNat := UInt32.le_iff_toNat_le.1 range.1
    have high : c.val.toNat ≤ 122 := UInt32.le_iff_toNat_le.1 range.2
    have isUpper : c.toUpper.isUpper = true := by
      show decide (c.toUpper.val ≥ 65 ∧ c.toUpper.val ≤ 90) = true
      rw [raised]
      simp only [ge_iff_le, UInt32.le_iff_toNat_le, UInt32.toNat_add, decide_eq_true_eq,
        UInt32.reduceToNat]
      omega
    exact Bool.or_eq_true_iff.2 (Or.inl isUpper)
  · have small : c.val.toNat ≤ 57 := by
      have bounds : (decide (c.val ≥ 48) && decide (c.val ≤ 57)) = true := digit
      simp only [Bool.and_eq_true, decide_eq_true_eq] at bounds
      exact UInt32.le_iff_toNat_le.1 bounds.2
    have same : c.toUpper = c := by
      show (if h : c.val ≥ 97 ∧ c.val ≤ 122 then _ else c) = c
      refine dif_neg fun range => ?_
      have low : 97 ≤ c.val.toNat := UInt32.le_iff_toNat_le.1 range.1
      omega
    rw [same]
    exact Bool.or_eq_true_iff.2 (Or.inr digit)

theorem isVariableChar_toUpper {c : Char} (char : isBlockChar c = true) :
    isVariableChar c.toUpper = true := by
  simp only [isBlockChar, Bool.or_eq_true, decide_eq_true_eq] at char
  rcases char with start | rfl
  · simp [isVariableChar, isVariableStart_toUpper start]
  · decide

theorem isVariable_upper {name : Text} (block : isBlock name = true) :
    isVariable (upper name) = true := by
  cases name with
  | nil => simp [isBlock] at block
  | cons c rest =>
    simp only [isBlock, Bool.and_eq_true, List.all_eq_true] at block
    simp only [upper, List.map_cons, isVariable, Bool.and_eq_true, List.all_eq_true, List.mem_map]
    refine ⟨isVariableStart_toUpper block.1, ?_⟩
    rintro d ⟨e, member, rfl⟩
    exact isVariableChar_toUpper (block.2 e member)

/-! ## Case maps -/

theorem toNat_lt_of_isBlockChar {c : Char} (char : isBlockChar c = true) : c.toNat < 128 := by
  have bounds : ((decide (c.val ≥ 97) && decide (c.val ≤ 122)) ||
      (decide (c.val ≥ 48) && decide (c.val ≤ 57)) || decide (c = '_')) = true := char
  simp only [Bool.or_eq_true, Bool.and_eq_true, decide_eq_true_eq] at bounds
  rcases bounds with (lower | digit) | rfl
  · exact Nat.lt_of_le_of_lt (UInt32.le_iff_toNat_le.1 lower.2) (by decide)
  · exact Nat.lt_of_le_of_lt (UInt32.le_iff_toNat_le.1 digit.2) (by decide)
  · decide

/-- All case maps that go on from the one for ASCII letters take a block name to its variable. -/
theorem flatMap_upperCase {upperCase : Char → Text} {name : Text} (goesOn : IsUpperCase upperCase)
    (block : isBlock name = true) : name.flatMap upperCase = upper name := by
  have each : ∀ c ∈ name, upperCase c = [c.toUpper] := fun c member =>
    goesOn c (toNat_lt_of_isBlockChar (isBlockChar_of_mem block member))
  clear block
  induction name with
  | nil => rfl
  | cons c rest ih =>
    obtain ⟨first, others⟩ := List.forall_mem_cons.1 each
    rw [List.flatMap_cons, first, ih others]
    rfl

/-! ## A variable stands for one block -/

theorem toLower_toUpper {c : Char} (char : isBlockChar c = true) : c.toUpper.toLower = c := by
  have small : c.toNat < 123 := by
    have bounds : ((decide (c.val ≥ 97) && decide (c.val ≤ 122)) ||
        (decide (c.val ≥ 48) && decide (c.val ≤ 57)) || decide (c = '_')) = true := char
    simp only [Bool.or_eq_true, Bool.and_eq_true, decide_eq_true_eq] at bounds
    rcases bounds with (lower | digit) | rfl
    · exact Nat.lt_succ_of_le (UInt32.le_iff_toNat_le.1 lower.2)
    · exact Nat.lt_succ_of_le (Nat.le_trans (UInt32.le_iff_toNat_le.1 digit.2) (by decide))
    · decide
  have table : ∀ n < 123, isBlockChar (Char.ofNat n) = true →
      (Char.ofNat n).toUpper.toLower = Char.ofNat n := by decide
  have entry := table c.toNat small
  rw [Char.ofNat_toNat] at entry
  exact entry char

theorem map_toLower_upper {name : Text} (block : isBlock name = true) :
    (upper name).map Char.toLower = name := by
  rw [upper, List.map_map]
  refine (List.map_congr_left fun c member => ?_).trans (List.map_id name)
  exact toLower_toUpper (isBlockChar_of_mem block member)

theorem upper_injective {name other : Text} (block : isBlock name = true)
    (blockOther : isBlock other = true) (same : upper name = upper other) : name = other := by
  rw [← map_toLower_upper block, same, map_toLower_upper blockOther]

end Name

end PageTemplates
