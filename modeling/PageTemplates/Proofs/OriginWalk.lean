import PageTemplates.Proofs.ParsedCuts

/-!
# Walks up a chain of parents

`climb` is the walk to an origin as it goes.  It remembers the blocks that it has
passed and stops at the first one that it meets again.  Every step but the last
passes a declared name that was not passed before, and that bounds the walk.

A chain ends at an origin, or it ends at a name that is not declared, or it runs
into a circle (`climb_cases`).  A chain with an end runs into no circle, since it
would then have two lengths (`Ascends.not_circles`).  `findOrigin` takes as many
steps as the table has entries and one more, remembers nothing, and comes to the
same (`findOrigin_outcomes`).
-/

namespace PageTemplates

namespace Page

/-- With a name that is passed, fewer are left. -/
theorem length_unpassed_lt {keys passed : List Text} {name : Text} (known : name ∈ keys)
    (new : name ∉ passed) :
    (keys.filter (· ∉ name :: passed)).length < (keys.filter (· ∉ passed)).length := by
  have fewer : keys.filter (· ∉ name :: passed) =
      (keys.filter (· ∉ passed)).filter (· ≠ name) := by
    rw [List.filter_filter]
    exact List.filter_congr fun other _ => by simp
  rw [fewer, List.length_filter_lt_length_iff_exists]
  exact ⟨name, List.mem_filter.2 ⟨known, by simpa using new⟩, by simp⟩

/-- The walk to the origin of the name `start`, behind the blocks that it has passed. -/
def climb (dynamics : Table DynamicTemplate) (start : Text) (passed : List Text) (name : Text) :
    Except TemplateError Text :=
  match _declared : dynamics.get? name with
  | none => .error (.undefinedTemplate name)
  | some template =>
    match template.origin with
    | .block parent =>
      if name ∈ passed then .error (.undefinedTemplate start)
      else climb dynamics start (name :: passed) parent
    | _ => .ok name
termination_by (dynamics.keys.filter (· ∉ passed)).length
decreasing_by exact length_unpassed_lt (Table.mem_keys_of_get? _declared) ‹_›

/-- The chain of parents of a block comes back to the block. -/
def Returns (dynamics : Table DynamicTemplate) (name : Text) : Prop :=
  ∃ template parent, dynamics.get? name = some template ∧ template.origin = .block parent ∧
    Meets dynamics name parent

/-- The chain of parents of a name runs into a circle, on which the name may lie or not. -/
def Circles (dynamics : Table DynamicTemplate) (name : Text) : Prop :=
  ∃ met, Meets dynamics met name ∧ Returns dynamics met

variable {dynamics : Table DynamicTemplate} {name met middle start : Text} {steps : Nat}
  {outcome : Except TemplateError Text}

/-! ## Ends and circles -/

theorem Meets.trans (further : Meets dynamics met middle) (first : Meets dynamics middle name) :
    Meets dynamics met name := by
  induction first with
  | here => exact further
  | above declared block _ ih => exact .above declared block ih

/-- From a name that the chain meets, it is not farther to the end. -/
theorem Meets.exists_le (meets : Meets dynamics met name)
    (ascends : Ascends dynamics steps name outcome) :
    ∃ fewer ≤ steps, Ascends dynamics fewer met outcome := by
  induction meets generalizing steps with
  | here => exact ⟨steps, Nat.le_refl steps, ascends⟩
  | above declared block _ ih =>
    cases ascends with
    | missing undeclared => cases undeclared.symm.trans declared
    | arrives declared' noBlock =>
      cases declared.symm.trans declared'
      exact absurd block (noBlock _)
    | climbs declared' block' further =>
      cases declared.symm.trans declared'
      cases block.symm.trans block'
      obtain ⟨fewer, bound, rest⟩ := ih further
      exact ⟨fewer, Nat.le_succ_of_le bound, rest⟩

/-- On a circle, the end would be as far from a name as from its parent. -/
theorem Ascends.not_circles (ascends : Ascends dynamics steps name outcome) :
    ¬ Circles dynamics name := by
  rintro ⟨met, meets, template, parent, declared, block, again⟩
  obtain ⟨steps, -, ascends⟩ := meets.exists_le ascends
  cases ascends with
  | missing undeclared => cases undeclared.symm.trans declared
  | arrives declared' noBlock =>
    cases declared.symm.trans declared'
    exact noBlock _ block
  | climbs declared' block' further =>
    cases declared.symm.trans declared'
    cases block.symm.trans block'
    obtain ⟨fewer, bound, around⟩ := again.exists_le further
    have same := (around.unique (.climbs declared block further)).1
    omega

/-- A chain that ends meets its end, which is an origin or is not declared. -/
theorem Ascends.exists_end (ascends : Ascends dynamics steps name outcome) :
    (∃ origin template, Meets dynamics origin name ∧ dynamics.get? origin = some template ∧
        (∀ parent, template.origin ≠ .block parent) ∧ outcome = .ok origin) ∨
      ∃ missing, Meets dynamics missing name ∧ dynamics.get? missing = none ∧
        outcome = .error (.undefinedTemplate missing) := by
  induction ascends with
  | missing undeclared => exact .inr ⟨_, .here, undeclared, rfl⟩
  | arrives declared noBlock => exact .inl ⟨_, _, .here, declared, noBlock, rfl⟩
  | climbs declared block _ ih =>
    rcases ih with ⟨origin, template, meets, rest⟩ | ⟨missing, meets, rest⟩
    · exact .inl ⟨origin, template, .above declared block meets, rest⟩
    · exact .inr ⟨missing, .above declared block meets, rest⟩

/-! ## The walk -/

/-- A walk comes to the end of the chain, or it meets a name again and blames the name it started
from.  It leads on from every block that it has passed. -/
theorem climb_cases {passed : List Text}
    (trail : ∀ met ∈ passed, ∃ template parent, dynamics.get? met = some template ∧
      template.origin = .block parent ∧ Meets dynamics name parent) :
    (∃ steps, Ascends dynamics steps name (climb dynamics start passed name)) ∨
      Circles dynamics name ∧
        climb dynamics start passed name = .error (.undefinedTemplate start) := by
  fun_induction climb dynamics start passed name with
  | case1 passed name undeclared => exact .inl ⟨0, .missing undeclared⟩
  | case2 passed name template declared parent block again =>
    exact .inr ⟨⟨name, .here, trail name again⟩, rfl⟩
  | case3 passed name template declared parent block new ih =>
    have onward : ∀ met ∈ name :: passed, ∃ template above, dynamics.get? met = some template ∧
        template.origin = .block above ∧ Meets dynamics parent above := by
      intro met member
      rcases List.mem_cons.1 member with rfl | member
      · exact ⟨template, parent, declared, block, .here⟩
      · obtain ⟨template', above, declared', block', meets⟩ := trail met member
        exact ⟨template', above, declared', block',
          Meets.trans (.above declared block .here) meets⟩
    rcases ih onward with ⟨steps, further⟩ | ⟨⟨met, meets, returns⟩, blames⟩
    · exact .inl ⟨steps + 1, .climbs declared block further⟩
    · exact .inr ⟨⟨met, .above declared block meets, returns⟩, blames⟩
  | case4 passed name template declared noBlock =>
    exact .inl ⟨0, .arrives declared noBlock⟩

/-! ## The search for an origin -/

theorem findOrigin_of_circles (circles : Circles dynamics name) :
    findOrigin dynamics name = .error (.undefinedTemplate name) :=
  findOrigin_of_circle fun ⟨_, _, ascends⟩ => ascends.not_circles circles

/-- The walk comes to the same as the search, which remembers nothing. -/
theorem findOrigin_eq_climb (dynamics : Table DynamicTemplate) (name : Text) :
    findOrigin dynamics name = climb dynamics name [] name := by
  have walk := @climb_cases dynamics name name [] nofun
  obtain ⟨steps, ascends⟩ | ⟨circles, blames⟩ := walk
  · exact findOrigin_of_ascends ascends
  · rw [findOrigin_of_circles circles, blames]

/-- A chain has an end, which the search finds, or it runs into a circle. -/
theorem ascends_findOrigin_or_circles (dynamics : Table DynamicTemplate) (name : Text) :
    (∃ steps, Ascends dynamics steps name (findOrigin dynamics name)) ∨ Circles dynamics name := by
  have walk := @climb_cases dynamics name name [] nofun
  rw [findOrigin_eq_climb]
  exact walk.imp_right And.left

theorem findOrigin_eq_ok_iff {origin : Text} :
    findOrigin dynamics name = .ok origin ↔
      Meets dynamics origin name ∧ ∃ template, dynamics.get? origin = some template ∧
        ∀ parent, template.origin ≠ .block parent := by
  constructor
  · intro found
    exact ⟨meets_of_findOrigin found, findOrigin_eq_ok found⟩
  · rintro ⟨meets, template, declared, noBlock⟩
    exact meets.findOrigin_eq (.arrives declared noBlock)

theorem findOrigin_eq_error_iff {error : TemplateError} :
    findOrigin dynamics name = .error error ↔
      (∃ missing, Meets dynamics missing name ∧ dynamics.get? missing = none ∧
        error = .undefinedTemplate missing) ∨
      (Circles dynamics name ∧ error = .undefinedTemplate name) := by
  constructor
  · intro failed
    obtain ⟨steps, ascends⟩ | circles := ascends_findOrigin_or_circles dynamics name
    · rw [failed] at ascends
      obtain ⟨_, _, -, -, -, found⟩ | ⟨missing, meets, undeclared, blames⟩ := ascends.exists_end
      · cases found
      · exact .inl ⟨missing, meets, undeclared, Except.error.inj blames⟩
    · exact .inr ⟨circles, Except.error.inj (failed.symm.trans (findOrigin_of_circles circles))⟩
  · rintro (⟨missing, meets, undeclared, rfl⟩ | ⟨circles, rfl⟩)
    · exact meets.findOrigin_eq (.missing undeclared)
    · exact findOrigin_of_circles circles

/-- The outcomes of a search for an origin.  It finds the template that is no block and that the
chain of parents of the name meets.  If the chain meets a name that is not declared, that name is
undefined, and if it runs into a circle, the name that the search started from is.

A walk that stops at the first name it meets again comes to the same. -/
theorem findOrigin_outcomes (dynamics : Table DynamicTemplate) (name : Text) :
    findOrigin dynamics name = climb dynamics name [] name ∧
      (∀ origin, findOrigin dynamics name = .ok origin ↔
        Meets dynamics origin name ∧ ∃ template, dynamics.get? origin = some template ∧
          ∀ parent, template.origin ≠ .block parent) ∧
      ∀ error, findOrigin dynamics name = .error error ↔
        (∃ missing, Meets dynamics missing name ∧ dynamics.get? missing = none ∧
          error = .undefinedTemplate missing) ∨
        (Circles dynamics name ∧ error = .undefinedTemplate name) :=
  ⟨findOrigin_eq_climb dynamics name, fun _ => findOrigin_eq_ok_iff,
    fun _ => findOrigin_eq_error_iff⟩

/-- A name in front of a circle is blamed for it. -/
example :
    findOrigin [(['a'], ⟨.block ['b'], false⟩), (['b'], ⟨.block ['c'], false⟩),
      (['c'], ⟨.block ['b'], false⟩)] ['a'] = .error (.undefinedTemplate ['a']) := rfl

end Page

end PageTemplates
