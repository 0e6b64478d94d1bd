import PageTemplates.Proofs.Histories

/-!
# Whose block is rendered

A block belongs to the template at the end of its chain of parents, its origin.
`Division.RendersOwn` says that a parse shows a text of the origin, or reports
a missing block when the origin has none.

The text that is shown is the one that was stored last under the name, by
whichever template (`Follows.shown`).  So a block is rendered from its own
origin exactly when that text is one of its origin (`rendersOwn_iff`).  It is
enough that no other template stores anything under the name of the block or
of the origin.  Two templates with a block of the same name break it
(`row_from_secondForm`).
-/

namespace PageTemplates

/-! ## What a parse shows -/

theorem lastStored?_ne_none {cut : Cut} {history : List Cut} (member : cut ∈ history) :
    lastStored? cut.origin history ≠ none := by
  intro nothing
  have own := List.findSome?_eq_none_iff.1 nothing cut (List.mem_reverse.2 member)
  simp [Cut.stored?, Division.stored?] at own

namespace Follows

variable {files : FileTree} {commands : List PageCommand} {history : List Cut} {page told : Page}
  {target written name origin : Text}

/-- A parse of a dynamic template shows what the history stored last under its
name, once the origin is in the history. -/
theorem shown (follows : Follows commands history page)
    (renders : Page.Renders target written name origin page told) {later : List Cut}
    (parsed : later = history ++ (page.parsedCut? files target written).toList) :
    if origin ∈ later.map Cut.origin then
      (Page.dynamicText files name told).1 =
        Page.lookedUp name origin (lastStored? name later)
    else ∃ error, (Page.dynamicText files name told).1 = .error error ∧
      Loader.NoBlock error := by
  have after : Follows (commands ++ [.parse target written]) later
      (told.cutting (told.cut? files name)) := by
    rw [parsed]
    refine of_templates (follows.parse files target written) ?_
    rw [Page.parse_templates, renders.parsedCut?_eq]
    exact Page.templates_cutting renders.templates _
  obtain ⟨template, stands, outcome⟩ := Page.dynamicText_outcome files renders.origin
  have divided := after.divided origin template stands
  split
  · next member =>
    rw [if_pos (divided.2 member)] at outcome
    rw [outcome, after.data]
    cases stored : lastStored? name later with
    | some text => rfl
    | none =>
      -- A declared text would make the name its own origin, which has stored its outline.
      cases declared : inlineText? name (commands ++ [.parse target written]) with
      | none => rfl
      | some content =>
        rw [inlineText?_parse] at declared
        obtain ⟨own, known, isInline⟩ :=
          (follows.of_templates renders.templates).inline _ _ declared
        have self := Page.findOrigin_self known fun parent block => by
          rw [isInline] at block
          cases block
        obtain rfl : name = origin := Except.ok.inj (self.symm.trans renders.origin)
        obtain ⟨cut, inHistory, rfl⟩ := List.mem_map.1 member
        exact absurd stored (lastStored?_ne_none inHistory)
  · next absent =>
    rw [if_neg fun isDivided => absent (divided.1 isDivided)] at outcome
    exact outcome

/-- If no earlier division stores a text under the name of a template, the text
it was declared with is divided. -/
theorem ownText_eq_raw {before after : List Cut} {cut : Cut}
    (follows : Follows commands (before ++ cut :: after) page)
    (others : ∀ other ∈ before, other.stored? cut.origin = none) :
    ownText commands cut = cut.raw := by
  unfold ownText
  cases declared : inlineText? cut.origin commands with
  | none => rfl
  | some content =>
    have nothing : lastStored? cut.origin before = none :=
      List.findSome?_eq_none_iff.2 fun other member => others other (List.mem_reverse.1 member)
    rw [follows.raws before cut after rfl content declared, nothing]
    rfl

end Follows

/-- What a parse shows is the text that a division has under the name, or the
report that it has none. -/
def Division.RendersOwn (division : Division) (origin name : Text)
    (shown : Except TemplateError Text) : Prop :=
  (∃ text, shown = .ok text ∧ division.Offers origin name text) ∨
    (shown = .error (.undefinedBlock name origin) ∧
      ∀ text, ¬ division.Offers origin name text)

theorem rendersOwn_stored? (division : Division) (origin name : Text) :
    division.RendersOwn origin name
      (Page.lookedUp name origin (division.stored? origin name)) := by
  cases stored : division.stored? origin name with
  | some text => exact .inl ⟨text, rfl, offers_of_stored?_eq_some stored⟩
  | none => exact .inr ⟨rfl, not_offers_of_stored?_eq_none stored⟩

/-- The last text that a history has stored under a name is one that a division
has under it, and nothing has been stored only if the division has nothing. -/
def Division.Survives (division : Division) (origin name : Text) (history : List Cut) : Prop :=
  (∀ text, lastStored? name history = some text → division.Offers origin name text) ∧
    (lastStored? name history = none → ∀ text, ¬ division.Offers origin name text)

theorem rendersOwn_lookedUp_iff {division : Division} {origin name : Text} {history : List Cut} :
    division.RendersOwn origin name (Page.lookedUp name origin (lastStored? name history)) ↔
      division.Survives origin name history := by
  unfold Division.RendersOwn Division.Survives
  cases lastStored? name history with
  | some text => simp [Page.lookedUp]
  | none => simp [Page.lookedUp]

/-- After a run in which the declarations come first, a dynamic template shows a
text of its own origin exactly when the last text that any division of the run
has stored under its name is one.  This is so when no other division stores
anything under its name or the name of its origin.  If the origin could not be
divided, the parse fails for that. -/
theorem rendersOwn_iff {settings : Settings} {hub : Hub} {files : FileTree} {page told : Page}
    (created : Page.create settings hub files = .ok page) {commands : List PageCommand}
    (orderly : Orderly commands) {site : Site}
    (reached : (Site.run ⟨files, page⟩ commands).2 = site) {target written name origin : Text}
    (renders : Page.Renders target written name origin site.page told) {history : List Cut}
    (divisions : Site.cuts ⟨files, page⟩ (commands ++ [.parse target written]) = history) :
    (∀ before cut after, history = before ++ cut :: after → cut.origin = origin →
      ((divide (ownText commands cut)).RendersOwn origin name
          (Page.dynamicText site.files name told).1 ↔
        (divide (ownText commands cut)).Survives origin name history) ∧
      ((∀ other ∈ before ++ after, other.stored? name = none ∧ other.stored? origin = none) →
        (divide (ownText commands cut)).RendersOwn origin name
          (Page.dynamicText site.files name told).1)) ∧
    (origin ∉ history.map Cut.origin →
      ∃ error, (Page.dynamicText site.files name told).1 = .error error ∧
        error.isUndefinedBlock = false) ∧
    ((Page.parse site.files target written site.page).1 = .error (.undefinedBlock name origin) ↔
      (Page.dynamicText site.files name told).1 = .error (.undefinedBlock name origin)) := by
  subst reached
  have follows := follows_run created orderly
  have parsed : history = Site.cuts ⟨files, page⟩ commands ++
      ((Site.run ⟨files, page⟩ commands).2.page.parsedCut?
        (Site.run ⟨files, page⟩ commands).2.files target written).toList := by
    rw [← divisions, Site.cuts_append]
    simp [Site.cuts, Site.cut?]
  have shown := follows.shown renders parsed
  refine ⟨?_, ?_, renders.parse_eq_undefinedBlock_iff _ _ _⟩
  · rintro before cut after rfl rfl
    have member : cut.origin ∈ (before ++ cut :: after).map Cut.origin :=
      List.mem_map_of_mem (List.mem_append_right _ (List.mem_cons_self ..))
    rw [if_pos member] at shown
    rw [shown]
    refine ⟨rendersOwn_lookedUp_iff, fun others => ?_⟩
    have final : Follows (commands ++ [.parse target written]) (before ++ cut :: after)
        (Page.parse (Site.run ⟨files, page⟩ commands).2.files target written
          (Site.run ⟨files, page⟩ commands).2.page).2 := parsed ▸ follows.parse _ target written
    have own : ownText commands cut = cut.raw := by
      have whole := final.ownText_eq_raw fun other member =>
        (others other (List.mem_append_left _ member)).2
      rwa [ownText_parse] at whole
    rw [own, lastStored?_of_none fun other member => (others other member).1]
    exact rendersOwn_stored? (divide cut.raw) cut.origin name
  · intro absent
    rw [if_neg absent] at shown
    exact shown

/-! ## Two forms -/

/-- A form with a row. -/
def firstForm : Text := "<!-- BDP: row -->A<!-- EDP: row -->".toList

/-- A form without a row. -/
def plainForm : Text := "<!-- BDP: col -->C<!-- EDP: col -->".toList

/-- Another form with a row. -/
def secondForm : Text := "<!-- BDP: row -->B<!-- EDP: row -->".toList ++ plainForm

/-- Declares the first form and another one, the row of the first and the
column of the other, and parses both. -/
def formsWith (other : Text) : List PageCommand :=
  [.defineDynamicInline ['a'] firstForm, .defineDynamicInline ['b'] other,
    .defineDynamic "row".toList ['a'], .defineDynamic "col".toList ['b'],
    .parse ['X'] "row".toList, .parse ['Y'] "col".toList]

/-- A page without templates. -/
def emptyPage : Page := { settings := { root := ['.'] } }

/-- The page and the files after that. -/
def formsSite (other : Text) : Site := (Site.run ⟨{}, emptyPage⟩ (formsWith other)).2

theorem rendersOwn_plainForm :
    Page.create { root := ['.'] } {} {} = .ok emptyPage ∧ Orderly (formsWith plainForm) ∧
      Page.Renders ['X'] "row".toList "row".toList ['a'] (formsSite plainForm).page
        (formsSite plainForm).page ∧
      (divide firstForm).RendersOwn ['a'] "row".toList
        (Page.dynamicText (formsSite plainForm).files "row".toList
          (formsSite plainForm).page).1 := by
  have created : Page.create { root := ['.'] } {} {} = .ok emptyPage := rfl
  have orderly : Orderly (formsWith plainForm) := ⟨by decide, by decide⟩
  have renders : Page.Renders ['X'] "row".toList "row".toList ['a']
      (formsSite plainForm).page (formsSite plainForm).page :=
    Page.renders_of_silent (by decide +kernel) rfl (by decide +kernel) (by decide +kernel)
  have divisions : Site.cuts ⟨{}, emptyPage⟩ (formsWith plainForm ++ [.parse ['X'] "row".toList]) =
      [⟨['a'], firstForm⟩, ⟨['b'], plainForm⟩] := by decide +kernel
  obtain ⟨own, -, -⟩ := rendersOwn_iff created orderly rfl renders divisions
  have shown := (own [] ⟨['a'], firstForm⟩ [⟨['b'], plainForm⟩] rfl rfl).2 (by decide +kernel)
  exact ⟨created, orderly, renders, shown⟩

/-- The row of the second form is shown in place of the row of the first. -/
theorem row_from_secondForm :
    Page.create { root := ['.'] } {} {} = .ok emptyPage ∧ Orderly (formsWith secondForm) ∧
      Page.Renders ['X'] "row".toList "row".toList ['a'] (formsSite secondForm).page
        (formsSite secondForm).page ∧
      inlineText? ['a'] (formsWith secondForm) = some firstForm ∧
      (Page.dynamicText (formsSite secondForm).files "row".toList (formsSite secondForm).page).1 =
        .ok ['B'] ∧
      ¬ (divide firstForm).RendersOwn ['a'] "row".toList
        (Page.dynamicText (formsSite secondForm).files "row".toList
          (formsSite secondForm).page).1 := by
  have renders : Page.Renders ['X'] "row".toList "row".toList ['a']
      (formsSite secondForm).page (formsSite secondForm).page :=
    Page.renders_of_silent (by decide +kernel) rfl (by decide +kernel) (by decide +kernel)
  have shown : (Page.dynamicText (formsSite secondForm).files "row".toList
      (formsSite secondForm).page).1 = .ok ['B'] := eq_ok_of_toOption (by decide +kernel)
  refine ⟨rfl, ⟨by decide, by decide⟩, renders, by decide, shown, ?_⟩
  rw [shown]
  rintro (⟨text, same, offers⟩ | ⟨missing, -⟩)
  · obtain rfl := Except.ok.inj same
    exact absurd offers (by decide +kernel)
  · cases missing

end PageTemplates
