import PageTemplates.Substitution

/-!
# Placeholders as rewriting

A placeholder is *resolvable* when its variable has a value.  A step replaces
one resolvable placeholder by the value, at any place of the text, and a text
is *normal* when it has none.

A name holds no brace, so two placeholders of one text are either the same or
do not touch (`Placeholder.same_or_apart`).  Two steps from one text can
therefore be done one after the other in either order (`Step.diamond`), and
this holds step by step and not only in the long run.  So the order of the
steps matters neither for the normal text nor for the number of steps it takes
to get there (`Steps.rest_of_normal`).
-/

namespace PageTemplates

namespace Placeholder

/-! ## Two placeholders in one text -/

theorem not_mem_name {c : Char} {name : Text} (foreign : Name.isVariableChar c = false)
    (named : Name.isVariable name = true) : c ∉ name := by
  intro member
  rw [Name.isVariableChar_of_mem named member] at foreign
  cases foreign

theorem open_not_mem {name : Text} (named : Name.isVariable name = true) : '{' ∉ name :=
  not_mem_name (by decide) named

theorem close_not_mem {name : Text} (named : Name.isVariable name = true) : '}' ∉ name :=
  not_mem_name (by decide) named

/-- The first occurrence of a character cuts a text in one way. -/
theorem cut_unique {c : Char} {front front' behind behind' : Text} (absent : c ∉ front)
    (absent' : c ∉ front') (same : front ++ c :: behind = front' ++ c :: behind') :
    front = front' ∧ behind = behind' := by
  rcases List.append_eq_append_iff.1 same with ⟨gap, longer, rest⟩ | ⟨gap, longer, rest⟩
  · cases gap with
    | nil => exact ⟨by simpa using longer.symm, (List.cons.inj rest).2⟩
    | cons d gap =>
      obtain ⟨rfl, -⟩ := List.cons.inj rest
      exact absurd (by simp [longer]) absent'
  · cases gap with
    | nil => exact ⟨by simpa using longer, (List.cons.inj rest).2.symm⟩
    | cons d gap =>
      obtain ⟨rfl, -⟩ := List.cons.inj rest
      exact absurd (by simp [longer]) absent

/-- An open brace behind the start of a name stands behind the brace that closes it. -/
theorem open_behind_close {name front behind after : Text} (noOpen : '{' ∉ name)
    (same : name ++ '}' :: after = front ++ '{' :: behind) :
    ∃ gap, front = name ++ '}' :: gap ∧ after = gap ++ '{' :: behind := by
  rcases List.append_eq_append_iff.1 same with ⟨gap, longer, rest⟩ | ⟨gap, longer, rest⟩
  · cases gap with
    | nil => exact absurd (List.cons.inj rest).1 (by decide)
    | cons d gap =>
      obtain ⟨rfl, tails⟩ := List.cons.inj rest
      exact ⟨gap, longer, tails⟩
  · cases gap with
    | nil => exact absurd (List.cons.inj rest).1 (by decide)
    | cons d gap =>
      obtain ⟨rfl, -⟩ := List.cons.inj rest
      exact absurd (by simp [longer]) noOpen

/-- A placeholder that does not start in front of another one of the same text is that one or
stands behind it. -/
theorem same_or_behind {gap name name' after after' : Text} (named : Name.isVariable name = true)
    (named' : Name.isVariable name' = true)
    (same : '{' :: (name ++ '}' :: after) = gap ++ '{' :: (name' ++ '}' :: after')) :
    (gap = [] ∧ name = name' ∧ after = after') ∨
      ∃ between, gap = '{' :: (name ++ '}' :: between) ∧
        after = between ++ '{' :: (name' ++ '}' :: after') := by
  cases gap with
  | nil =>
    have tails := (List.cons.inj same).2
    obtain ⟨rfl, rfl⟩ := cut_unique (close_not_mem named) (close_not_mem named') tails
    exact .inl ⟨rfl, rfl, rfl⟩
  | cons d gap =>
    obtain ⟨rfl, tails⟩ := List.cons.inj same
    obtain ⟨between, rfl, rfl⟩ := open_behind_close (open_not_mem named) tails
    exact .inr ⟨between, rfl, rfl⟩

/-- Two placeholders of one text are the same or apart, the one in front or the other. -/
theorem same_or_apart {before before' name name' after after' : Text}
    (named : Name.isVariable name = true) (named' : Name.isVariable name' = true)
    (same : before ++ '{' :: (name ++ '}' :: after) = before' ++ '{' :: (name' ++ '}' :: after')) :
    (before = before' ∧ name = name' ∧ after = after') ∨
      (∃ between, before' = before ++ '{' :: (name ++ '}' :: between) ∧
        after = between ++ '{' :: (name' ++ '}' :: after')) ∨
      ∃ between, before = before' ++ '{' :: (name' ++ '}' :: between) ∧
        after' = between ++ '{' :: (name ++ '}' :: after) := by
  rcases List.append_eq_append_iff.1 same with ⟨gap, rfl, rest⟩ | ⟨gap, rfl, rest⟩
  · rcases same_or_behind named named' rest with ⟨rfl, rfl, rfl⟩ | ⟨between, rfl, rfl⟩
    · exact .inl ⟨by simp, rfl, rfl⟩
    · exact .inr (.inl ⟨between, rfl, rfl⟩)
  · rcases same_or_behind named' named rest with ⟨rfl, rfl, rfl⟩ | ⟨between, rfl, rfl⟩
    · exact .inl ⟨by simp, rfl, rfl⟩
    · exact .inr (.inr ⟨between, rfl, rfl⟩)

end Placeholder

namespace Substitution

/-! ## Steps -/

/-- A step replaces one resolvable placeholder, wherever it stands. -/
inductive Step (lookup : Text → Option Text) : Text → Text → Prop where
  | replace (before after : Text) {name value : Text} (named : Name.isVariable name = true)
      (known : lookup name = some value) :
      Step lookup (before ++ '{' :: (name ++ '}' :: after)) (before ++ (value ++ after))

/-- A number of steps, one after the other, each at any place. -/
inductive Steps (lookup : Text → Option Text) : Nat → Text → Text → Prop where
  | none (text : Text) : Steps lookup 0 text text
  | next {text between out : Text} {n : Nat} (step : Step lookup text between)
      (steps : Steps lookup n between out) : Steps lookup (n + 1) text out

/-- A text without a resolvable placeholder. -/
def Normal (lookup : Text → Option Text) (text : Text) : Prop :=
  ∀ before name after, text = before ++ '{' :: (name ++ '}' :: after) →
    Name.isVariable name = true → lookup name = none

variable {lookup : Text → Option Text}

theorem normal_of_not_mem {text : Text} (absent : '{' ∉ text) : Normal lookup text := by
  intro before name after same
  exact absurd (by simp [same]) absent

theorem Normal.not_step {text out : Text} (normal : Normal lookup text) :
    ¬ Step lookup text out := by
  intro step
  cases step with
  | replace before after named known =>
    rw [normal before _ after rfl named] at known
    cases known

/-- Steps can be done inside a longer text. -/
theorem Step.within {text out : Text} (step : Step lookup text out) (front behind : Text) :
    Step lookup (front ++ text ++ behind) (front ++ out ++ behind) := by
  cases step with
  | replace before after named known =>
    simpa using Step.replace (front ++ before) (after ++ behind) named known

theorem Steps.within {text out : Text} {n : Nat} (steps : Steps lookup n text out)
    (front behind : Text) : Steps lookup n (front ++ text ++ behind) (front ++ out ++ behind) := by
  induction steps with
  | none => exact .none _
  | next step _ ih => exact .next (step.within front behind) ih

theorem Steps.append {text between out : Text} {n m : Nat} (first : Steps lookup n text between)
    (second : Steps lookup m between out) : Steps lookup (n + m) text out := by
  induction first with
  | none => simpa using second
  | @next _ _ _ n step _ ih =>
    rw [Nat.add_right_comm]
    exact .next step (ih second)

/-- Steps in two texts are steps in the two texts one after the other. -/
theorem Steps.beside {front front' behind behind' : Text} {n m : Nat}
    (first : Steps lookup n front front') (second : Steps lookup m behind behind') :
    Steps lookup (n + m) (front ++ behind) (front' ++ behind') := by
  have left := first.within [] behind
  have right := second.within front' []
  simp only [List.nil_append, List.append_nil] at left right
  exact left.append right

/-! ## The order of the steps -/

/-- Two steps from one text lead to the same text, or each of them can still be done after the
other. -/
theorem Step.diamond {text left right : Text} (first : Step lookup text left)
    (second : Step lookup text right) :
    left = right ∨ ∃ joined, Step lookup left joined ∧ Step lookup right joined := by
  generalize whole : text = text' at second
  cases first with
  | @replace before after name value named known =>
    cases second with
    | @replace before' after' name' value' named' known' =>
      rcases Placeholder.same_or_apart named named' whole with
        ⟨rfl, rfl, rfl⟩ | ⟨between, rfl, rfl⟩ | ⟨between, rfl, rfl⟩
      · rw [known] at known'
        obtain rfl := Option.some.inj known'
        exact .inl rfl
      · refine .inr ⟨before ++ (value ++ (between ++ (value' ++ after'))), ?_, ?_⟩
        · simpa using Step.replace (before ++ (value ++ between)) after' named' known'
        · simpa using Step.replace before (between ++ (value' ++ after')) named known
      · refine .inr ⟨before' ++ (value' ++ (between ++ (value ++ after))), ?_, ?_⟩
        · simpa using Step.replace before' (between ++ (value ++ after)) named' known'
        · simpa using Step.replace (before' ++ (value' ++ between)) after named known

/-- Whatever step comes first, a normal text is reached with one step less. -/
theorem Steps.rest_of_step {text next out : Text} {n : Nat} (steps : Steps lookup n text out)
    (normal : Normal lookup out) (step : Step lookup text next) :
    ∃ m, n = m + 1 ∧ Steps lookup m next out := by
  induction steps generalizing next with
  | none => exact absurd step normal.not_step
  | @next _ _ _ n first rest ih =>
    rcases step.diamond first with rfl | ⟨joined, toJoined, other⟩
    · exact ⟨n, rfl, rest⟩
    · obtain ⟨m, rfl, tail⟩ := ih normal other
      exact ⟨m + 1, rfl, .next toJoined tail⟩

/-- Whatever steps come first, the rest of the way to a normal text is as long as if the way had
been started with them. -/
theorem Steps.rest_of_normal {text between out : Text} {n m : Nat} (steps : Steps lookup n text out)
    (normal : Normal lookup out) (other : Steps lookup m text between) :
    m ≤ n ∧ Steps lookup (n - m) between out := by
  induction other generalizing n with
  | none => exact ⟨Nat.zero_le n, steps⟩
  | next step _ ih =>
    obtain ⟨k, rfl, rest⟩ := steps.rest_of_step normal step
    obtain ⟨enough, tail⟩ := ih rest
    exact ⟨Nat.succ_le_succ enough, by simpa using tail⟩

/-- A normal text is not left again. -/
theorem Steps.eq_of_normal {text out : Text} {n : Nat} (steps : Steps lookup n text out)
    (normal : Normal lookup text) : n = 0 ∧ out = text := by
  cases steps with
  | none => exact ⟨rfl, rfl⟩
  | next step _ => exact absurd step normal.not_step

end Substitution

end PageTemplates
