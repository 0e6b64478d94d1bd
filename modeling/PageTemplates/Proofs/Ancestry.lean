import Mathlib.Data.List.Perm.Subperm
import PageTemplates.Page

/-!
# Chains of parents

A block names its parent, and the parent may be a block again.  `Ascends`
follows such a chain to its end, which is a template that is no block or a name
that is not declared.  A chain with an end meets no template twice, so it is not
longer than the table of templates (`Ascends.le_length`), and the steps that
`findOrigin` takes suffice for it.  Any other chain runs in a circle.

The origin of a name therefore depends on the templates that its chain meets
(`Meets`) and on no others, not even through the size of the table
(`findOrigin_congr`).
-/

namespace PageTemplates

namespace Page

variable {dynamics other : Table DynamicTemplate} {name met start : Text} {steps : Nat}
  {outcome : Except TemplateError Text}

/-! ## Chains that end -/

/-- The chain of parents of a name ends after a number of steps, at an origin or
at a name that is not declared. -/
inductive Ascends (dynamics : Table DynamicTemplate) :
    (steps : Nat) → (name : Text) → (outcome : Except TemplateError Text) → Prop where
  | missing {name : Text} (undeclared : dynamics.get? name = none) :
      Ascends dynamics 0 name (.error (.undefinedTemplate name))
  | arrives {name : Text} {template : DynamicTemplate}
      (declared : dynamics.get? name = some template)
      (noBlock : ∀ parent, template.origin ≠ .block parent) : Ascends dynamics 0 name (.ok name)
  | climbs {steps : Nat} {name parent : Text} {outcome : Except TemplateError Text}
      {template : DynamicTemplate} (declared : dynamics.get? name = some template)
      (block : template.origin = .block parent) (further : Ascends dynamics steps parent outcome) :
      Ascends dynamics (steps + 1) name outcome

theorem Ascends.unique {steps' : Nat} {outcome' : Except TemplateError Text}
    (ascends : Ascends dynamics steps name outcome) (also : Ascends dynamics steps' name outcome') :
    steps = steps' ∧ outcome = outcome' := by
  induction ascends generalizing steps' with
  | missing undeclared =>
    cases also with
    | missing => exact ⟨rfl, rfl⟩
    | arrives declared | climbs declared => cases undeclared.symm.trans declared
  | arrives declared noBlock =>
    cases also with
    | missing undeclared => cases undeclared.symm.trans declared
    | arrives => exact ⟨rfl, rfl⟩
    | climbs declared' block =>
      cases declared.symm.trans declared'
      exact absurd block (noBlock _)
  | climbs declared block further ih =>
    cases also with
    | missing undeclared => cases undeclared.symm.trans declared
    | arrives declared' noBlock =>
      cases declared.symm.trans declared'
      exact absurd block (noBlock _)
    | climbs declared' block' further' =>
      cases declared.symm.trans declared'
      cases block.symm.trans block'
      obtain ⟨rfl, rfl⟩ := ih further'
      exact ⟨rfl, rfl⟩

/-- The templates that a chain leaves behind are declared, and none is met twice. -/
theorem Ascends.exists_trail (ascends : Ascends dynamics steps name outcome) :
    ∃ trail : List Text, trail.length = steps ∧ trail.Nodup ∧ trail ⊆ dynamics.keys ∧
      ∀ met ∈ trail, ∃ fewer ≤ steps, Ascends dynamics fewer met outcome := by
  induction ascends with
  | missing | arrives => exact ⟨[], rfl, List.nodup_nil, List.nil_subset _, by simp⟩
  | @climbs steps name parent outcome template declared block further ih =>
    obtain ⟨trail, rfl, distinct, known, reached⟩ := ih
    have whole : Ascends dynamics (trail.length + 1) name outcome := .climbs declared block further
    -- A name that is met again would have chains of two lengths.
    have fresh : name ∉ trail := by
      intro again
      obtain ⟨fewer, bound, ascends⟩ := reached name again
      have same := (ascends.unique whole).1
      omega
    refine ⟨name :: trail, rfl, List.nodup_cons.2 ⟨fresh, distinct⟩,
      List.cons_subset.2 ⟨Table.mem_keys_of_get? declared, known⟩, fun met member => ?_⟩
    rcases List.mem_cons.1 member with rfl | member
    · exact ⟨trail.length + 1, Nat.le_refl _, whole⟩
    · obtain ⟨fewer, bound, ascends⟩ := reached met member
      exact ⟨fewer, Nat.le_succ_of_le bound, ascends⟩

/-- A chain with an end is not longer than the table. -/
theorem Ascends.le_length (ascends : Ascends dynamics steps name outcome) :
    steps ≤ dynamics.length := by
  obtain ⟨trail, rfl, distinct, known, -⟩ := ascends.exists_trail
  have bound := (List.subperm_of_subset distinct known).length_le
  rwa [Table.keys, List.length_map] at bound

/-! ## Finding the end -/

theorem originWithin_of_block {template : DynamicTemplate} {parent : Text}
    (declared : dynamics.get? name = some template) (block : template.origin = .block parent) :
    originWithin dynamics start (steps + 1) name = originWithin dynamics start steps parent := by
  rw [originWithin, declared]
  simp only [block]

theorem originWithin_of_noBlock {template : DynamicTemplate}
    (declared : dynamics.get? name = some template)
    (noBlock : ∀ parent, template.origin ≠ .block parent) :
    originWithin dynamics start (steps + 1) name = .ok name := by
  rw [originWithin, declared]
  dsimp only
  split
  · next parent block => exact absurd block (noBlock parent)
  · rfl

theorem originWithin_of_ascends {budget : Nat} (ascends : Ascends dynamics steps name outcome)
    (enough : steps < budget) : originWithin dynamics start budget name = outcome := by
  obtain ⟨budget, rfl⟩ : ∃ more, budget = more + 1 := ⟨budget - 1, by omega⟩
  induction ascends generalizing budget with
  | missing undeclared => rw [originWithin, undeclared]
  | arrives declared noBlock => exact originWithin_of_noBlock declared noBlock
  | @climbs steps _ _ _ _ declared block _ ih =>
    obtain ⟨budget, rfl⟩ : ∃ more, budget = more + 1 := ⟨budget - 1, by omega⟩
    rw [originWithin_of_block declared block]
    exact ih budget (by omega)

/-- A walk that does not come to the end of a chain blames the name it started from. -/
theorem ascends_or_originWithin (dynamics : Table DynamicTemplate) (start : Text) (budget : Nat)
    (name : Text) :
    (∃ steps outcome, Ascends dynamics steps name outcome) ∨
      originWithin dynamics start budget name = .error (.undefinedTemplate start) := by
  induction budget generalizing name with
  | zero => exact .inr rfl
  | succ budget ih =>
    cases declared : dynamics.get? name with
    | none => exact .inl ⟨0, _, .missing declared⟩
    | some template =>
      cases source : template.origin with
      | block parent =>
        rw [originWithin_of_block declared source]
        exact (ih parent).imp_left fun ⟨steps, outcome, further⟩ =>
          ⟨steps + 1, outcome, .climbs declared source further⟩
      | file path => exact .inl ⟨0, _, .arrives declared fun parent => by simp [source]⟩
      | inline => exact .inl ⟨0, _, .arrives declared fun parent => by simp [source]⟩

theorem findOrigin_of_ascends (ascends : Ascends dynamics steps name outcome) :
    findOrigin dynamics name = outcome :=
  originWithin_of_ascends ascends (Nat.lt_succ_of_le ascends.le_length)

/-- A chain without an end runs in a circle, and the name it starts from counts as undefined. -/
theorem findOrigin_of_circle (circle : ¬ ∃ steps outcome, Ascends dynamics steps name outcome) :
    findOrigin dynamics name = .error (.undefinedTemplate name) :=
  (ascends_or_originWithin dynamics name _ name).resolve_left circle

/-! ## What a chain meets -/

/-- The chain of parents of a name meets a name. -/
inductive Meets (dynamics : Table DynamicTemplate) (met : Text) : (name : Text) → Prop where
  | here : Meets dynamics met met
  | above {name parent : Text} {template : DynamicTemplate}
      (declared : dynamics.get? name = some template) (block : template.origin = .block parent)
      (further : Meets dynamics met parent) : Meets dynamics met name

/-- The chain of a template that is no block meets nothing else. -/
theorem Meets.eq_of_noBlock {template : DynamicTemplate} (meets : Meets dynamics met name)
    (declared : dynamics.get? name = some template)
    (noBlock : ∀ parent, template.origin ≠ .block parent) : met = name := by
  cases meets with
  | here => rfl
  | above declared' block =>
    cases declared.symm.trans declared'
    exact absurd block (noBlock _)

/-- From a name that the chain meets, it goes on to the same end. -/
theorem Meets.ascends (meets : Meets dynamics met name)
    (ascends : Ascends dynamics steps met outcome) :
    ∃ more, Ascends dynamics more name outcome := by
  induction meets with
  | here => exact ⟨steps, ascends⟩
  | above declared block _ ih =>
    obtain ⟨more, further⟩ := ih
    exact ⟨more + 1, .climbs declared block further⟩

theorem Meets.findOrigin_eq (meets : Meets dynamics met name)
    (ascends : Ascends dynamics steps met outcome) : findOrigin dynamics name = outcome := by
  obtain ⟨more, whole⟩ := meets.ascends ascends
  exact findOrigin_of_ascends whole

theorem meets_of_originWithin {origin : Text} {budget : Nat}
    (found : originWithin dynamics start budget name = .ok origin) :
    Meets dynamics origin name := by
  induction budget generalizing name with
  | zero => cases found
  | succ budget ih =>
    rw [originWithin] at found
    split at found
    · cases found
    · next template declared =>
      split at found
      · next parent block => exact .above declared block (ih found)
      · cases found
        exact .here

/-- A chain meets the origin that it leads to. -/
theorem meets_of_findOrigin {origin : Text} (found : findOrigin dynamics name = .ok origin) :
    Meets dynamics origin name := meets_of_originWithin found

/-! ## Tables that agree on a chain -/

/-- Where two tables agree on the origin of a template, one knows it if the other does. -/
theorem exists_of_origin_eq {template : DynamicTemplate}
    (same : (other.get? met).map DynamicTemplate.origin =
      (dynamics.get? met).map DynamicTemplate.origin)
    (declared : dynamics.get? met = some template) :
    ∃ alike, other.get? met = some alike ∧ alike.origin = template.origin := by
  rw [declared] at same
  exact Option.map_eq_some_iff.1 same

/-- A chain ends in the same way in a table that agrees on the origins of the names it meets. -/
theorem Ascends.congr (ascends : Ascends dynamics steps name outcome)
    (same : ∀ met, Meets dynamics met name → (other.get? met).map DynamicTemplate.origin =
      (dynamics.get? met).map DynamicTemplate.origin) :
    Ascends other steps name outcome := by
  induction ascends with
  | missing undeclared =>
    have here := same _ .here
    rw [undeclared] at here
    exact .missing (Option.map_eq_none_iff.1 here)
  | arrives declared noBlock =>
    obtain ⟨alike, here, origin⟩ := exists_of_origin_eq (same _ .here) declared
    exact .arrives here (origin ▸ noBlock)
  | climbs declared block _ ih =>
    obtain ⟨alike, here, origin⟩ := exists_of_origin_eq (same _ .here) declared
    exact .climbs here (origin.trans block)
      (ih fun met further => same met (.above declared block further))

/-- The names that matter may also be read off the other table. -/
theorem Ascends.congr_symm (ascends : Ascends other steps name outcome)
    (same : ∀ met, Meets dynamics met name → (other.get? met).map DynamicTemplate.origin =
      (dynamics.get? met).map DynamicTemplate.origin) :
    Ascends dynamics steps name outcome := by
  induction ascends with
  | missing undeclared =>
    have here := same _ .here
    rw [undeclared] at here
    exact .missing (Option.map_eq_none_iff.1 here.symm)
  | arrives declared noBlock =>
    obtain ⟨alike, here, origin⟩ := exists_of_origin_eq (same _ .here).symm declared
    exact .arrives here (origin ▸ noBlock)
  | climbs declared block _ ih =>
    obtain ⟨alike, here, origin⟩ := exists_of_origin_eq (same _ .here).symm declared
    have climbs := origin.trans block
    exact .climbs here climbs (ih fun met further => same met (.above here climbs further))

/-- The origin of a name depends on the origins of the templates that its chain meets. -/
theorem findOrigin_congr
    (same : ∀ met, Meets dynamics met name → (other.get? met).map DynamicTemplate.origin =
      (dynamics.get? met).map DynamicTemplate.origin) :
    findOrigin other name = findOrigin dynamics name := by
  -- The tables may differ in length, and then the two walks have different numbers of steps.
  by_cases ends : ∃ steps outcome, Ascends dynamics steps name outcome
  · obtain ⟨steps, outcome, ascends⟩ := ends
    rw [findOrigin_of_ascends ascends, findOrigin_of_ascends (ascends.congr same)]
  · have circle : ¬ ∃ steps outcome, Ascends other steps name outcome :=
      fun ⟨steps, outcome, ascends⟩ => ends ⟨steps, outcome, ascends.congr_symm same⟩
    rw [findOrigin_of_circle ends, findOrigin_of_circle circle]

end Page

end PageTemplates
