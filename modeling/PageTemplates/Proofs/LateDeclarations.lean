import PageTemplates.Proofs.Differences
import PageTemplates.Proofs.Origins

/-!
# Declaring a block late or again

The declaration of a block drops the text that stands under its name.  That text
comes from the division of the origin, and an origin is divided once.  So a block
that is declared after the division of its origin has lost its text, and it is
reported as missing although its origin has it.

`postpone_block` compares a run with the runs in which the declaration comes
later or once more.  Only the text under the name of the block tells them apart
at that point, and if no command looks at it before a division puts it back, the
runs are the same to the end.  `row_postponed` is a run that shows the difference.
-/

namespace PageTemplates

variable {name parent : Text}

/-! ## What a declaration drops -/

/-- The text under a name, if there is one. -/
def Difference.textUnder (name : Text) (page : Page) : Difference where
  names _ := False
  keys key := key = name ∧ page.data.has name = true

namespace Page

variable {files : FileTree} {page other : Page}

/-- To declare a block again changes nothing but the text under its name. -/
theorem alike_defineDynamic (declared : page.dynamics.get? name = some ⟨.block parent, false⟩)
    (noFile : page.settings.isTemplateFile parent = false) :
    Alike (.textUnder name page) page (page.defineDynamic name parent) where
  settings := rfl
  hub := rfl
  statics := rfl
  namespaces := rfl
  dynamics met _ := by
    simp only [defineDynamic, noFile, Bool.false_eq_true, if_false, Table.get?_insert]
    split
    · next here => rw [here, declared]
    · rfl
  data key same := by
    simp only [defineDynamic, Table.get?_erase]
    split
    · next here =>
      subst here
      cases stands : page.data.get? key with
      | none => rfl
      | some text => exact absurd ⟨rfl, by simp [Table.has, stands]⟩ same
    · rfl

/-- A block that is declared when its origin has been divided is missing, and it
was before exactly if it had no text. -/
theorem parse_defineDynamic {target written origin : Text} {told : Page}
    {template : DynamicTemplate}
    (declared : page.dynamics.get? name = some ⟨.block parent, false⟩)
    (noFile : page.settings.isTemplateFile parent = false)
    (renders : Renders target written name origin page told)
    (known : page.dynamics.get? origin = some template) (divided : template.divided = true) :
    (parse files target written (page.defineDynamic name parent)).1 =
        .error (.undefinedBlock name origin) ∧
      ((parse files target written page).1 = .error (.undefinedBlock name origin) ↔
        page.data.has name = false) := by
  have alike := alike_defineDynamic declared noFile
  obtain ⟨told', still, renders'⟩ := alike.renders renders fun _ _ => id
  have knownTold : told.dynamics.get? origin = some template := by rw [renders.dynamics, known]
  have knownTold' := (still.dynamics origin id).trans knownTold
  have dropped : told'.data.get? name = none := by
    rw [renders'.data, defineDynamic, Table.get?_erase, if_pos rfl]
  rw [renders'.parse_eq_undefinedBlock_iff, renders.parse_eq_undefinedBlock_iff,
    dynamicText_of_divided renders'.origin knownTold' divided, dropped,
    dynamicText_of_divided renders.origin knownTold divided, renders.data]
  refine ⟨rfl, ?_⟩
  cases stands : page.data.get? name <;> simp [lookedUp, Table.has, stands]

end Page

/-! ## Blocks that stay declared -/

namespace Site

variable {site : Site} {command : PageCommand}

/-- A name is declared as a block of a parent, and the parent is not taken for a file. -/
structure HasBlock (site : Site) (name parent : Text) : Prop where
  declared : site.page.dynamics.get? name = some ⟨.block parent, false⟩
  noFile : site.page.settings.isTemplateFile parent = false

theorem hasBlock_defineDynamic (site : Site)
    (noFile : site.page.settings.isTemplateFile parent = false) :
    (site.perform (.defineDynamic name parent)).2.HasBlock name parent where
  declared := by simp [Site.perform, onPage, Page.defineDynamic, noFile]
  noFile := noFile

namespace HasBlock

/-- A block stays declared as long as its name is declared in no other way, for
no block is ever divided. -/
theorem perform (block : site.HasBlock name parent)
    (alone : command.declared? = some name → command = .defineDynamic name parent) :
    (site.perform command).2.HasBlock name parent := by
  by_cases declares : command.declared? = some name
  · rw [alone declares]
    exact site.hasBlock_defineDynamic block.noFile
  · refine ⟨?_, by rw [isTemplateFile_perform, block.noFile]⟩
    rw [site.get?_dynamics_perform declares, Page.get?_dynamics_cutting, if_neg, block.declared]
    -- What a division marks is an origin, which is no block.
    intro divided
    obtain ⟨cut, cuts, rfl⟩ := Option.map_eq_some_iff.1 divided
    obtain ⟨template, known, noBlock⟩ := exists_of_cut?_eq_some cuts
    cases block.declared.symm.trans known
    exact noBlock parent rfl

theorem run {commands : List PageCommand} (block : site.HasBlock name parent)
    (alone : ∀ command ∈ commands, command.declared? = some name →
      command = .defineDynamic name parent) :
    (site.run commands).2.HasBlock name parent := by
  induction commands generalizing site with
  | nil => exact block
  | cons command rest ih =>
    exact ih (block.perform (alone command (List.mem_cons_self ..)))
      fun later member => alone later (List.mem_cons_of_mem command member)

end HasBlock

/-- A block that is declared again, or where all but its declaration was the
same, leaves a site that differs in the text under its name. -/
theorem HasBlock.alike (block : site.HasBlock name parent) {other : Site}
    (alike : Alike (.only name) site other) :
    Alike (.textUnder name site.page) site (other.perform (.defineDynamic name parent)).2 := by
  refine ⟨alike.files, ?_⟩
  refine (Page.alike_defineDynamic block.declared block.noFile).trans
    ((alike.page.defineDynamic name parent).mono ⟨?_, ?_⟩)
  · exact fun met differs => differs.2 differs.1
  · exact fun key differs => absurd differs.1 differs.2

/-- Where no text stands, none is looked at. -/
theorem spares_textUnder (site : Site) (commands : List PageCommand)
    (nothing : site.page.data.has name = false) :
    site.Spares (.textUnder name site.page) commands :=
  spares_of_same (fun _ => id) fun _ differs =>
    absurd (nothing.symm.trans differs.2) Bool.false_ne_true

theorem alike_without (site : Site) (name parent : Text) :
    Alike (.only name) (site.perform (.defineDynamic name parent)).2 site where
  files := rfl
  page :=
    { Page.Alike.refl (.only name) site.page with
      dynamics := fun met same => by
        simp only [Site.perform, onPage, Page.defineDynamic, Table.get?_insert]
        exact (if_neg same).symm
      data := fun key same => by
        simp only [Site.perform, onPage, Page.defineDynamic, Table.get?_erase]
        exact (if_neg same).symm }

end Site

/-- A run is the same if a block is declared later in it or once more, provided
that no command behind the late declaration looks at the text that stood under
its name before a division has put one there again.  The block may be declared
later if nothing in between uses its name.  A parse of the block right behind the
late declaration does look at that text: it fails, whatever stood there, if the
origin has been divided. -/
theorem postpone_block {site late : Site} {original again moved : List Site.Answer × Site}
    {declaration : PageCommand} {between after : List PageCommand}
    (declares : declaration = .defineDynamic name parent)
    (noFile : site.page.settings.isTemplateFile parent = false)
    (alone : ∀ command ∈ between, command.declared? = some name → command = declaration)
    (reached : (site.run (declaration :: between)).2 = late)
    (spared : late.Spares (.textUnder name late.page) after)
    (first : site.run (declaration :: (between ++ after)) = original)
    (repeated : site.run (declaration :: (between ++ declaration :: after)) = again)
    (postponed : site.run (between ++ declaration :: after) = moved) :
    (∃ early later : List Site.Answer, early.length = between.length ∧
      original.1 = .done :: (early ++ later) ∧
      again.1 = .done :: (early ++ .done :: later) ∧
      again.2.page.namespaces = original.2.page.namespaces ∧
      ((∀ command ∈ between, command.declared? ≠ some name) →
        (site.perform declaration).2.Spares (.only name) between →
          moved.1 = early ++ .done :: later ∧
            moved.2.page.namespaces = original.2.page.namespaces)) ∧
    ∀ target written origin told template,
      Page.Renders target written name origin late.page told →
      late.page.dynamics.get? origin = some template → template.divided = true →
        (Page.parse late.files target written (late.perform declaration).2.page).1 =
            .error (.undefinedBlock name origin) ∧
          ((Page.parse late.files target written late.page).1 =
              .error (.undefinedBlock name origin) ↔ late.page.data.has name = false) := by
  subst declares first repeated postponed
  have block : late.HasBlock name parent :=
    reached ▸ (site.hasBlock_defineDynamic noFile).run alone
  simp only [Site.run_cons, Site.run_append] at reached ⊢
  rw [reached]
  constructor
  · refine ⟨_, (late.run after).1, Site.length_run _ _, rfl, ?_⟩
    obtain ⟨answers, ends⟩ := (block.alike (Site.Alike.refl _ late)).run spared
    refine ⟨by rw [answers]; rfl, ends.page.namespaces, fun _ unused => ?_⟩
    -- Until the late declaration, all that the name stands for may differ.
    obtain ⟨same, still⟩ := (site.alike_without name parent).run unused
    rw [reached] at still
    obtain ⟨answers, ends⟩ := (block.alike still).run spared
    exact ⟨by rw [same, answers]; rfl, ends.page.namespaces⟩
  · intro target written origin told template renders known divided
    exact Page.parse_defineDynamic block.declared block.noFile renders known divided

/-! ## A row that is declared late -/

/-- A page with a form that has a row, and with a note. -/
def formSite : Site :=
  (Site.run ⟨{}, emptyPage⟩
    [.defineDynamicInline "form".toList firstForm, .defineDynamicInline "note".toList ['N']]).2

/-- Declares the row of the form. -/
def declareRow : PageCommand := .defineDynamic "row".toList "form".toList

/-- The form and the note can be parsed without the row. -/
theorem spares_row {name : Text} (listed : name = "form".toList ∨ name = "note".toList) :
    (formSite.perform declareRow).2.Spares (.only "row".toList) [.parse ['W'] name] := by
  have declared : (formSite.perform declareRow).2.page.dynamics.get? name =
      some ⟨.inline, false⟩ := by
    rcases listed with rfl | rfl <;> decide +kernel
  have named : Page.splitName name = (false, name) := by rcases listed with rfl | rfl <;> rfl
  refine ⟨Page.spares_only (by decide) fun met meets => ?_, trivial⟩
  rw [named] at meets
  obtain rfl := meets.eq_of_noBlock declared (by simp)
  rcases listed with rfl | rfl <;> decide

/-- To declare the row behind a parse of the note is as good as before it. -/
theorem postpone_row :
    formSite.page.settings.isTemplateFile "form".toList = false ∧
      (formSite.perform declareRow).2.Spares (.only "row".toList) [.parse ['W'] "note".toList] ∧
      (formSite.run [.parse ['W'] "note".toList, declareRow,
        .parse ['X'] "row".toList]).2.page.namespace? ['X'] = some ['A'] := by
  have noFile : formSite.page.settings.isTemplateFile "form".toList = false := by decide +kernel
  have unused := spares_row (.inr rfl)
  have alone : ∀ command ∈ [PageCommand.parse ['W'] "note".toList],
      command.declared? ≠ some "row".toList := by
    intro command member
    obtain rfl := List.mem_singleton.1 member
    simp [PageCommand.declared?]
  obtain ⟨late, reached⟩ : ∃ late,
      (formSite.run [declareRow, .parse ['W'] "note".toList]).2 = late := ⟨_, rfl⟩
  have nothing : late.page.data.has "row".toList = false := reached ▸ by decide +kernel
  obtain ⟨⟨_, _, -, -, -, -, moved⟩, -⟩ := postpone_block rfl noFile
    (fun command member declares => absurd declares (alone command member)) reached
    (late.spares_textUnder [.parse ['X'] "row".toList] nothing) rfl rfl rfl
  have namespaces := (moved alone unused).2
  refine ⟨noFile, unused, ?_⟩
  exact (congrArg (Table.get? ['X']) namespaces).trans (by decide +kernel)

/-- Behind a parse of the form it is not. -/
theorem row_postponed :
    (formSite.perform declareRow).2.Spares (.only "row".toList) [.parse ['W'] "form".toList] ∧
      (formSite.run [declareRow, .parse ['W'] "form".toList,
        .parse ['X'] "row".toList]).2.page.namespace? ['X'] = some ['A'] ∧
      (formSite.run [.parse ['W'] "form".toList, declareRow,
        .parse ['X'] "row".toList]).2.page.namespace? ['X'] = none ∧
      (formSite.run [declareRow, .parse ['W'] "form".toList, declareRow,
        .parse ['X'] "row".toList]).2.page.namespace? ['X'] = none :=
  ⟨spares_row (.inl rfl), by decide +kernel, by decide +kernel, by decide +kernel⟩

end PageTemplates
