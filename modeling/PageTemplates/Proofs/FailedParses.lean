import PageTemplates.Proofs.Origins
import PageTemplates.Proofs.Slots

/-!
# Parses that fail

A parse that fails has done no more than fill one slot, and without listeners it
fails again in the same way, as the slot then gives the text that was got before.
The namespaces, the settings and what is declared are left as they were.

The texts need not be.  The slot of an origin is filled by a division, and a
division stores each block under its name in the table in which inline templates
keep the text they were declared with.  So a failed parse can replace the text of
a template that it has nothing to do with.  Nothing shows after it
(`Page.Unchanged`) exactly if the division spares the texts that stand under
other names than that of its origin (`Page.parse_failed`).
-/

namespace PageTemplates

/-- A division stores nothing new under a name that has a text, other than its origin. -/
def Cut.Spares (cut : Cut) (page : Page) : Prop :=
  ∀ name text, name ≠ cut.origin → page.data.get? name = some text →
    ∀ stored, cut.stored? name = some stored → stored = text

namespace Page

/-- A dynamic template that has not been divided. -/
def undivided (name : Text) (page : Page) : Bool :=
  (page.dynamics.get? name).any fun template => !template.divided

/-- Nothing that shows has changed between two pages: what was declared is there with its text.  A
text that has been got may stand in its slot. -/
structure Unchanged (page page' : Page) : Prop extends Similar page page' where
  /-- The text of an inline template stands as it was declared, and a block as it was cut, but an
  origin that has been divided in between has its outline. -/
  texts : ∀ name text, page.data.get? name = some text →
    page'.data.get? name = some text ∨ (page.undivided name = true ∧ page'.undivided name = false)

variable {files : FileTree} {page page' : Page} {target written name : Text} {append : Bool}
  {error : TemplateError}

/-! ## What is left behind -/

/-- A parse that fails leaves the page as the slot of its name has left it.  Without listeners it
fails again. -/
theorem parseNamed_failed
    (failed : parseNamed files target name append page = (.error error, page')) :
    page' = (cache files name page).2 ∧
      (page.hub.Silent → parseNamed files target name append page' = (.error error, page')) := by
  rw [parseNamed_eq] at failed
  cases cached : cache files name page with
  | mk outcome kept =>
    cases outcome with
    | error cause =>
      rw [bind_of_error cached] at failed
      cases failed
      refine ⟨rfl, fun silent => ?_⟩
      have again := @cache_again files page name silent
      rw [cached] at again
      rw [parseNamed_eq, bind_of_error again]
    | ok value =>
      rw [bind_of_ok cached] at failed
      cases put : rendered target name append kept with
      | ok changed => cases (attempt_of_ok put).symm.trans failed
      | error cause =>
        cases (attempt_of_error put).symm.trans failed
        refine ⟨rfl, fun silent => ?_⟩
        have again := @cache_again files page name silent
        rw [cached] at again
        rw [parseNamed_eq, bind_of_ok again]
        exact attempt_of_error put

/-- Once the listeners of a failed parse have run, it has filled one slot, and without listeners it
fails again. -/
theorem caches_of_failed
    (failed : parse files target written page = (.error error, page')) :
    Similar page page' ∧
      Caches files (splitName written).2
        (loading (Loader.dispatch (parseEvent target written)) page).2 page' ∧
      (page.hub.Silent → parse files target written page' = (.error error, page')) := by
  obtain ⟨event, hub, announced⟩ | ⟨cause, hub, announced⟩ := announced_cases target written page
  · have rest := (parse_of_announced announced).symm.trans failed
    obtain ⟨rfl, again⟩ := parseNamed_failed rest
    have caches := caches_cache files (splitName written).2 { page with hub := hub }
    rw [announced]
    refine ⟨(Similar.of_hub page hub).trans caches.similar, caches, fun silent => ?_⟩
    have kept := hub_parse files target written silent
    rw [failed] at kept
    obtain rfl : hub = page.hub := congrArg (fun result => result.2.hub)
      (announced.symm.trans (announced_of_silent target written silent))
    have still := announced_of_silent target written (kept.symm ▸ silent)
    rw [parse_of_announced still, again silent]
  · cases (parse_of_not_announced announced).symm.trans failed
    rw [announced]
    refine ⟨.of_hub page hub, .nothing hub, fun silent => ?_⟩
    have told := congrArg Prod.fst
      (announced.symm.trans (announced_of_silent target written silent))
    cases told

/-! ## Texts that are replaced -/

/-- What a parse divides had not been divided. -/
theorem undivided_of_parsedCut? {cut : Cut}
    (cuts : page.parsedCut? files target written = some cut) :
    page.undivided cut.origin = true := by
  unfold parsedCut? at cuts
  split at cuts
  · cases cuts
  · next told announced =>
    have same : told.dynamics = page.dynamics :=
      (congrArg (fun result => result.2.dynamics) announced).symm
    split at cuts
    · cases cuts
    · obtain ⟨-, template, declared, divided, -⟩ := cut?_eq_some cuts
      rw [undivided, ← same, declared]
      simp [divided]

/-- A division divides its origin and nothing else. -/
theorem undivided_cutting (cut : Cut) (name : Text) (page : Page) :
    (page.cutting (some cut)).undivided name = (page.undivided name && !(cut.origin = name)) := by
  rw [undivided, undivided, get?_dynamics_cutting]
  by_cases here : cut.origin = name
  · cases page.dynamics.get? name <;> simp [here]
  · simp [here]

/-- The texts stand after a division if and only if it spares them. -/
theorem texts_cutting_iff {cut : Cut} (undivided : page.undivided cut.origin = true) :
    (∀ name text, page.data.get? name = some text →
      (page.cutting (some cut)).data.get? name = some text ∨
        (page.undivided name = true ∧ (page.cutting (some cut)).undivided name = false)) ↔
      cut.Spares page := by
  have stands (name : Text) : (page.cutting (some cut)).data.get? name =
      (cut.stored? name).or (page.data.get? name) :=
    get?_storeDivision name cut.origin (divide cut.raw) page
  constructor
  · intro texts name text other stood stored stores
    obtain same | ⟨before, after⟩ := texts name text stood
    · rw [stands, stores] at same
      exact Option.some.inj same
    · rw [undivided_cutting, before] at after
      simp [Ne.symm other] at after
  · intro spares name text stood
    by_cases here : name = cut.origin
    · refine .inr ⟨here ▸ undivided, ?_⟩
      rw [undivided_cutting]
      simp [here]
    · left
      rw [stands, stood]
      cases stores : cut.stored? name with
      | none => rfl
      | some stored => exact congrArg some (spares name text here stood stored stores)

theorem undivided_congr (same : page'.templates = page.templates) (name : Text) :
    page'.undivided name = page.undivided name :=
  congrArg (fun templates => (templates.2.get? name).any fun template => !template.divided) same

/-- A parse that fails leaves the namespaces, the last parse, the settings and what is declared,
and once its listeners have run, all that it can do is to get the text of one slot.  Without
listeners it fails again in the same way.  The texts are left as well if and only if what it
divides spares them. -/
theorem parse_failed (failed : parse files target written page = (.error error, page')) :
    Similar page page' ∧
      Caches files (splitName written).2
        (loading (Loader.dispatch (parseEvent target written)) page).2 page' ∧
      (page.hub.Silent → parse files target written page' = (.error error, page')) ∧
      (Unchanged page page' ↔
        ∀ cut, page.parsedCut? files target written = some cut → cut.Spares page) := by
  obtain ⟨similar, caches, again⟩ := caches_of_failed failed
  refine ⟨similar, caches, again, ?_⟩
  have templates := @parse_templates files page target written
  rw [failed] at templates
  have data : page'.data = _ := congrArg Prod.fst templates
  have shown : Unchanged page page' ↔ ∀ name text, page.data.get? name = some text →
      page'.data.get? name = some text ∨
        (page.undivided name = true ∧ page'.undivided name = false) :=
    ⟨fun unchanged => unchanged.texts, fun texts => ⟨similar, texts⟩⟩
  simp only [shown, undivided_congr templates, data]
  cases cuts : page.parsedCut? files target written with
  | none => exact ⟨fun _ _ none => (Option.some_ne_none _ none.symm).elim, fun _ _ _ => .inl⟩
  | some cut =>
    refine (texts_cutting_iff (undivided_of_parsedCut? cuts)).trans
      ⟨?_, fun spares => spares cut rfl⟩
    rintro spares _ ⟨⟩
    exact spares

/-- A form with a row, and a cell that the form does not have. -/
def missingCell : Page where
  settings := { root := ['.'] }
  dynamics := [("cell".toList, ⟨.block "form".toList, false⟩), ("form".toList, ⟨.inline, false⟩)]
  data := [("form".toList, "<!-- BDP: row -->A<!-- EDP: row -->".toList)]

/-- The form has been divided, and nothing else has come of the parse. -/
theorem parse_failed_missingCell :
    ∃ error page', parse {} ['X'] "cell".toList missingCell = (.error error, page') ∧
      page'.data.get? "row".toList = some ['A'] ∧ missingCell.Unchanged page' ∧
      parse {} ['X'] "cell".toList page' = (.error error, page') := by
  have stops : (parse {} ['X'] "cell".toList missingCell).1.toOption = none := by decide +kernel
  have row : (parse {} ['X'] "cell".toList missingCell).2.data.get? "row".toList = some ['A'] := by
    decide +kernel
  have divides : (missingCell.parsedCut? {} ['X'] "cell".toList).map Cut.origin =
      some "form".toList := by decide +kernel
  cases failed : parse {} ['X'] "cell".toList missingCell with
  | mk outcome page' =>
    rw [failed] at stops row
    cases outcome with
    | ok value => cases stops
    | error error =>
      obtain ⟨-, -, again, unchanged⟩ := parse_failed failed
      refine ⟨error, page', rfl, row, unchanged.2 fun cut cuts name text other stood => ?_,
        again fun _ => rfl⟩
      -- No text stands but that of the form.
      rw [cuts] at divides
      rw [Option.some.inj divides] at other
      obtain ⟨here, -⟩ : "form".toList = name ∧ _ = text := by
        simpa [missingCell, Table.get?] using stood
      exact absurd here.symm other

/-- A site with an inline row, a form with a row of its own, and a cell that the form lacks. -/
def rowAndForm : Site :=
  (Site.run ⟨{}, emptyPage⟩
    [.defineDynamicInline "row".toList "ORIGINAL".toList,
      .defineDynamicInline "form".toList firstForm,
      .defineDynamic "cell".toList "form".toList]).2

/-- To ask in vain for the cell of the form replaces the text of the inline row. -/
theorem parse_failed_rowAndForm :
    Page.create { root := ['.'] } {} {} = .ok emptyPage ∧
      (∃ error page',
        parse rowAndForm.files ['X'] "cell".toList rowAndForm.page = (.error error, page') ∧
          ¬ rowAndForm.page.Unchanged page') ∧
      (rowAndForm.run [.parse ['Y'] "row".toList]).2.page.namespace? ['Y'] =
        some "ORIGINAL".toList ∧
      (rowAndForm.run [.parse ['X'] "cell".toList, .parse ['Y'] "row".toList]).2.page.namespace?
        ['Y'] = some ['A'] := by
  have stops : (parse rowAndForm.files ['X'] "cell".toList rowAndForm.page).1.toOption = none := by
    decide +kernel
  have row : (parse rowAndForm.files ['X'] "cell".toList rowAndForm.page).2.data.get?
      "row".toList = some ['A'] := by decide +kernel
  have intact : (parse rowAndForm.files ['X'] "cell".toList rowAndForm.page).2.undivided
      "row".toList = true := by decide +kernel
  have declared : rowAndForm.page.data.get? "row".toList = some "ORIGINAL".toList := by
    decide +kernel
  refine ⟨rfl, ?_, by decide +kernel, by decide +kernel⟩
  cases failed : parse rowAndForm.files ['X'] "cell".toList rowAndForm.page with
  | mk outcome page' =>
    rw [failed] at stops row intact
    cases outcome with
    | ok value => cases stops
    | error error =>
      refine ⟨error, page', rfl, fun unchanged => ?_⟩
      obtain same | ⟨-, divided⟩ := unchanged.texts _ _ declared
      · cases row.symm.trans same
      · cases intact.symm.trans divided

end Page

end PageTemplates
