import PageTemplates.Proofs.ParseInvariants

/-!
# The divisions of a run

All divisions of a page are stored in one table.  A text under a name is
therefore the one that the last division to store something there has put, and
this may be the division of any template.

`Site.cuts` is the history of a run: the divisions that its parses perform, in
order.  `Follows` says that the table holds what the history stored last, and
the declared texts where the history stored nothing.  It also says which text
each division was made from: the declared text, unless an earlier division had
stored a text under the name of the template.  Every command keeps this
(`Follows.perform`), so it holds after every run in which the declarations come
first (`follows_run`).
-/

namespace PageTemplates

/-! ## What a division stores -/

/-- A block is found under its name and under its variable. -/
def Block.answers (key : Text) (block : Block) : Bool :=
  key = block.name || key = Name.upper block.name

/-- The body of the last block that is found under a key. -/
def lastBody? (key : Text) (blocks : List Block) : Option Text :=
  (blocks.reverse.find? (Block.answers key)).map Block.body

/-- What the division of an origin stores under a key. -/
def Division.stored? (origin key : Text) (division : Division) : Option Text :=
  if key = origin then some division.outline else lastBody? key division.blocks

/-- The texts that a division has under a name: the outline under the name of
the origin, and the bodies of the blocks found under any other name. -/
def Division.Offers (division : Division) (origin name text : Text) : Prop :=
  if name = origin then text = division.outline
  else ∃ block ∈ division.blocks, block.answers name = true ∧ text = block.body

instance (division : Division) (origin name text : Text) :
    Decidable (division.Offers origin name text) :=
  inferInstanceAs (Decidable (if name = origin then text = division.outline
    else ∃ block ∈ division.blocks, block.answers name = true ∧ text = block.body))

theorem get?_storeBlock (key : Text) (data : Table Text) (block : Block) :
    (Page.storeBlock data block).get? key =
      if block.answers key then some block.body else data.get? key := by
  simp only [Page.storeBlock, Table.get?_insert, Block.answers, Bool.or_eq_true, decide_eq_true_eq]
  split
  · next same => simp [same]
  · next other => simp [other]

theorem get?_foldl_storeBlock (key : Text) (blocks : List Block) (data : Table Text) :
    (blocks.foldl Page.storeBlock data).get? key = (lastBody? key blocks).or (data.get? key) := by
  induction blocks generalizing data with
  | nil => rfl
  | cons block blocks ih =>
    rw [List.foldl_cons, ih, get?_storeBlock]
    simp only [lastBody?, List.reverse_cons, List.find?_append]
    cases found : blocks.reverse.find? (Block.answers key) with
    | some other => simp
    | none => cases answers : block.answers key <;> simp [answers]

theorem get?_storeDivision (key origin : Text) (division : Division) (page : Page) :
    (page.storeDivision origin division).data.get? key =
      (division.stored? origin key).or (page.data.get? key) := by
  simp only [Page.storeDivision, Table.get?_insert, Division.stored?]
  split
  · rfl
  · exact get?_foldl_storeBlock key division.blocks page.data

theorem offers_of_stored?_eq_some {division : Division} {origin name text : Text}
    (stored : division.stored? origin name = some text) : division.Offers origin name text := by
  unfold Division.stored? at stored
  unfold Division.Offers
  split at stored
  · next same =>
    rw [if_pos same]
    exact (Option.some.inj stored).symm
  · next other =>
    rw [if_neg other]
    obtain ⟨block, found, rfl⟩ := Option.map_eq_some_iff.1 stored
    exact ⟨block, List.mem_reverse.1 (List.mem_of_find?_eq_some found),
      List.find?_some found, rfl⟩

theorem not_offers_of_stored?_eq_none {division : Division} {origin name : Text}
    (nothing : division.stored? origin name = none) (text : Text) :
    ¬ division.Offers origin name text := by
  unfold Division.stored? at nothing
  unfold Division.Offers
  split at nothing
  · cases nothing
  · next other =>
    rw [if_neg other]
    rintro ⟨block, member, answers, -⟩
    exact List.find?_eq_none.1 (Option.map_eq_none_iff.1 nothing) block
      (List.mem_reverse.2 member) answers

/-! ## Histories -/

/-- What a division that was made stores under a key. -/
def Cut.stored? (key : Text) (cut : Cut) : Option Text :=
  (divide cut.raw).stored? cut.origin key

/-- What the last division to store something under a key has stored. -/
def lastStored? (key : Text) (history : List Cut) : Option Text :=
  history.reverse.findSome? (Cut.stored? key)

theorem lastStored?_concat (key : Text) (history : List Cut) (cut : Cut) :
    lastStored? key (history ++ [cut]) = (cut.stored? key).or (lastStored? key history) := by
  simp only [lastStored?, List.reverse_append, List.reverse_singleton, List.singleton_append,
    List.findSome?_cons]
  cases cut.stored? key <;> rfl

/-- Divisions that store nothing under a key may be left out. -/
theorem lastStored?_of_none {key : Text} {before after : List Cut} {cut : Cut}
    (others : ∀ other ∈ before ++ after, other.stored? key = none) :
    lastStored? key (before ++ cut :: after) = cut.stored? key := by
  have none_of : ∀ history : List Cut, (∀ other ∈ history, other.stored? key = none) →
      history.reverse.findSome? (Cut.stored? key) = none := by
    intro history nothing
    exact List.findSome?_eq_none_iff.2 fun other member => nothing other (List.mem_reverse.1 member)
  simp only [lastStored?, List.reverse_append, List.reverse_cons, List.append_assoc,
    List.findSome?_append]
  rw [none_of before fun other member => others other (List.mem_append_left _ member),
    none_of after fun other member => others other (List.mem_append_right _ member)]
  simp

/-! ## Declarations -/

namespace PageCommand

/-- The dynamic template that a command declares. -/
def declared? : PageCommand → Option Text
  | .defineDynamic name _ => some name
  | .defineDynamicInline name _ => some name
  | _ => none

/-- Whether a command parses. -/
def isParse : PageCommand → Bool
  | .parse _ _ => true
  | _ => false

/-- The text that a command declares for a dynamic template. -/
def inlineText? (name : Text) : PageCommand → Option Text
  | .defineDynamicInline other content => if other = name then some content else none
  | _ => none

end PageCommand

/-- Every dynamic template is declared once, and all of them before the first parse. -/
structure Orderly (commands : List PageCommand) : Prop where
  /-- No name is declared twice. -/
  once : (commands.filterMap PageCommand.declared?).Nodup
  /-- Nothing is declared behind a parse. -/
  first : commands.Pairwise fun earlier later =>
    earlier.isParse = true → later.declared? = none

/-- The text that commands declare for a dynamic template. -/
def inlineText? (name : Text) (commands : List PageCommand) : Option Text :=
  commands.findSome? (PageCommand.inlineText? name)

/-- The text that a template was declared with: its inline text, or what its
file had when it was loaded to be divided. -/
def ownText (commands : List PageCommand) (cut : Cut) : Text :=
  (inlineText? cut.origin commands).getD cut.raw

theorem inlineText?_concat (name : Text) (commands : List PageCommand) (command : PageCommand) :
    inlineText? name (commands ++ [command]) =
      (inlineText? name commands).or (command.inlineText? name) := by
  simp [inlineText?, List.findSome?_append]

/-- A parse declares no text. -/
theorem inlineText?_parse (name : Text) (commands : List PageCommand) (target written : Text) :
    inlineText? name (commands ++ [.parse target written]) = inlineText? name commands := by
  rw [inlineText?_concat]
  exact Option.or_none

theorem ownText_parse (commands : List PageCommand) (target written : Text) (cut : Cut) :
    ownText (commands ++ [.parse target written]) cut = ownText commands cut := by
  rw [ownText, inlineText?_parse]
  rfl

theorem Orderly.before {commands more : List PageCommand} (orderly : Orderly (commands ++ more)) :
    Orderly commands where
  once := by
    have once := orderly.once
    rw [List.filterMap_append] at once
    exact (List.nodup_append.1 once).1
  first := (List.pairwise_append.1 orderly.first).1

/-- A name that is declared last has no text yet. -/
theorem Orderly.inlineText?_eq_none {commands : List PageCommand} {command : PageCommand}
    {name : Text} (orderly : Orderly (commands ++ [command]))
    (declares : command.declared? = some name) : inlineText? name commands = none := by
  refine List.findSome?_eq_none_iff.2 fun earlier member => ?_
  cases earlier with
  | defineDynamicInline other content =>
    have once := orderly.once
    rw [List.filterMap_append, List.nodup_append] at once
    have apart : other ≠ name := once.2.2 other
      (List.mem_filterMap.2 ⟨_, member, rfl⟩) name (by simp [declares])
    simp [PageCommand.inlineText?, apart]
  | _ => rfl

/-- Nothing has been parsed when a name is declared. -/
theorem Orderly.not_parsed {commands : List PageCommand} {command : PageCommand}
    {name : Text} (orderly : Orderly (commands ++ [command]))
    (declares : command.declared? = some name) {earlier : PageCommand}
    (member : earlier ∈ commands) : earlier.isParse = false := by
  have late := (List.pairwise_append.1 orderly.first).2.2 earlier member command (by simp)
  cases parses : earlier.isParse with
  | false => rfl
  | true =>
    rw [late parses] at declares
    cases declares

/-! ## The invariant -/

namespace Site

/-- What a command divides. -/
def cut? (site : Site) : PageCommand → Option Cut
  | .parse target written => site.page.parsedCut? site.files target written
  | _ => none

/-- The divisions that a run performs, in order. -/
def cuts (site : Site) : List PageCommand → List Cut
  | [] => []
  | command :: rest => (site.cut? command).toList ++ (site.perform command).2.cuts rest

theorem cuts_append (site : Site) (first second : List PageCommand) :
    site.cuts (first ++ second) = site.cuts first ++ (site.run first).2.cuts second := by
  induction first generalizing site with
  | nil => rfl
  | cons command first ih =>
    rw [List.cons_append, cuts, cuts, ih, List.append_assoc]
    rfl

/-- What a command divides is no block. -/
theorem exists_of_cut?_eq_some {site : Site} {command : PageCommand} {cut : Cut}
    (cuts : site.cut? command = some cut) :
    ∃ template, site.page.dynamics.get? cut.origin = some template ∧
      ∀ parent, template.origin ≠ .block parent := by
  cases command with
  | parse target written => exact Page.findOrigin_eq_ok (Page.origin_of_parsedCut? cuts)
  | _ => cases cuts

theorem templates_setRoot (site : Site) (root : Text) :
    (site.perform (.setRoot root)).2.page.templates = site.page.templates := by
  simp only [Site.perform, Page.setRoot]
  cases ({ site.page.settings with root := root } : Settings).validate site.files <;> rfl

theorem templates_perform_parse (site : Site) (target written : Text) :
    (site.perform (.parse target written)).2.page.templates =
      (site.page.cutting (site.cut? (.parse target written))).templates := by
  rw [perform_parse_page]
  exact Page.parse_templates target written

/-- Only divisions change a template that is not declared anew. -/
theorem get?_dynamics_perform {command : PageCommand} {name : Text} (site : Site)
    (apart : command.declared? ≠ some name) :
    (site.perform command).2.page.dynamics.get? name =
      (site.page.cutting (site.cut? command)).dynamics.get? name := by
  cases command with
  | parse target written =>
    exact congrArg (fun templates => templates.2.get? name)
      (site.templates_perform_parse target written)
  | defineDynamic other value | defineDynamicInline other content =>
    have other : name ≠ other := fun here => apart (congrArg some here.symm)
    exact (Table.get?_insert _ _ _ _).trans (if_neg other)
  | setRoot root =>
    exact congrArg (fun templates => templates.2.get? name) (site.templates_setRoot root)
  | replaceLast content other =>
    exact congrArg (fun templates => templates.2.get? name)
      (Page.templates_replaceLast content other site.page)
  | _ => rfl

end Site

/-- A page is what commands and the divisions among them have made of it. -/
structure Follows (commands : List PageCommand) (history : List Cut) (page : Page) : Prop where
  /-- The table holds what was stored last, and declared texts otherwise. -/
  data : ∀ key, page.data.get? key = (lastStored? key history).or (inlineText? key commands)
  /-- The templates that count as divided are those of the history. -/
  divided : ∀ name template, page.dynamics.get? name = some template →
    (template.divided = true ↔ name ∈ history.map Cut.origin)
  /-- A name with a declared text is a dynamic template of its own. -/
  inline : ∀ name content, inlineText? name commands = some content →
    ∃ template, page.dynamics.get? name = some template ∧ template.origin = .inline
  /-- No template is divided twice. -/
  distinct : (history.map Cut.origin).Nodup
  /-- A declared text is divided, unless a text has been stored under its name before. -/
  raws : ∀ before cut after, history = before ++ cut :: after →
    ∀ content, inlineText? cut.origin commands = some content →
      cut.raw = (lastStored? cut.origin before).getD content
  /-- Only parses divide. -/
  parsed : history ≠ [] → ∃ command ∈ commands, command.isParse = true

namespace Follows

variable {commands : List PageCommand} {history : List Cut} {page page' : Page}
  {command : PageCommand}

theorem of_templates (follows : Follows commands history page)
    (same : page'.templates = page.templates) : Follows commands history page' := by
  obtain ⟨data, dynamics⟩ := Prod.mk.inj same
  exact ⟨fun key => data ▸ follows.data key, by rw [dynamics]; exact follows.divided,
    by rw [dynamics]; exact follows.inline, follows.distinct, follows.raws, follows.parsed⟩

/-- A command without a text for a template adds nothing to what is declared. -/
theorem concat (follows : Follows commands history page)
    (plain : ∀ name, command.inlineText? name = none) :
    Follows (commands ++ [command]) history page := by
  have same : ∀ name, inlineText? name (commands ++ [command]) = inlineText? name commands := by
    intro name
    rw [inlineText?_concat, plain, Option.or_none]
  refine ⟨?_, follows.divided, ?_, follows.distinct, ?_, ?_⟩
  · intro key
    rw [same]
    exact follows.data key
  · intro name content declared
    rw [same] at declared
    exact follows.inline name content declared
  · intro before cut after split content declared
    rw [same] at declared
    exact follows.raws before cut after split content declared
  · intro nonempty
    obtain ⟨earlier, member, parses⟩ := follows.parsed nonempty
    exact ⟨earlier, List.mem_append_left _ member, parses⟩

theorem data_cutting {cut : Cut} (follows : Follows commands history page) (key : Text) :
    (page.cutting (some cut)).data.get? key =
      (lastStored? key (history ++ [cut])).or (inlineText? key commands) := by
  rw [Page.cutting, get?_storeDivision, lastStored?_concat, Option.or_assoc, ← follows.data]
  rfl

/-- What is divided is what stands in the table, and that is the declared text
unless the history has stored something in its place. -/
theorem raw_eq {files : FileTree} {name : Text} {cut : Cut}
    (follows : Follows commands history page) (cuts : page.cut? files name = some cut)
    {content : Text} (declared : inlineText? cut.origin commands = some content) :
    cut.raw = (lastStored? cut.origin history).getD content := by
  obtain ⟨-, template, known, -, text⟩ := Page.cut?_eq_some cuts
  obtain ⟨found, stands, isInline⟩ := follows.inline _ content declared
  obtain rfl := Option.some.inj (known.symm.trans stands)
  rw [isInline] at text
  have raw : (page.data.get? cut.origin).getD [] = cut.raw := Except.ok.inj text
  rw [← raw, follows.data, declared]
  cases lastStored? cut.origin history <;> rfl

/-- A division of a page goes to the end of the history. -/
theorem cut {files : FileTree} {name : Text} {cut : Cut} (follows : Follows commands history page)
    (cuts : page.cut? files name = some cut)
    (parsed : ∃ command ∈ commands, command.isParse = true) :
    Follows commands (history ++ [cut]) (page.cutting (some cut)) := by
  obtain ⟨-, template, declared, undivided, -⟩ := Page.cut?_eq_some cuts
  have dynamics : (page.cutting (some cut)).dynamics =
      page.dynamics.insert cut.origin { template with divided := true } := by
    simp [Page.cutting, Page.storeDivision, declared]
  have fresh : cut.origin ∉ history.map Cut.origin := by
    intro member
    rw [(follows.divided _ template declared).2 member] at undivided
    cases undivided
  refine ⟨follows.data_cutting, ?_, ?_, ?_, ?_, fun _ => parsed⟩
  · intro other template' declared'
    rw [dynamics, Table.get?_insert] at declared'
    rw [List.map_append, List.mem_append]
    split at declared'
    · next same =>
      obtain rfl := Option.some.inj declared'
      simp [same]
    · next apart =>
      rw [follows.divided other template' declared']
      simp [apart]
  · intro other content declared'
    obtain ⟨found, stands, isInline⟩ := follows.inline other content declared'
    rw [dynamics, Table.get?_insert]
    split
    · next same =>
      subst same
      obtain rfl := Option.some.inj (declared.symm.trans stands)
      exact ⟨_, rfl, isInline⟩
    · exact ⟨found, stands, isInline⟩
  · rw [List.map_append, List.nodup_append]
    refine ⟨follows.distinct, by simp, ?_⟩
    rintro earlier member later final rfl
    obtain rfl : earlier = cut.origin := by simpa using final
    exact fresh member
  · -- The new division is the last one, and all others stand where they stood.
    intro before cut' after split content declared'
    rcases List.eq_nil_or_concat after with rfl | ⟨after, last, rfl⟩
    · obtain ⟨rfl, same⟩ := List.append_inj' split rfl
      obtain rfl := List.singleton_inj.1 same
      exact follows.raw_eq cuts declared'
    · refine follows.raws before cut' after ?_ content declared'
      have shape : history ++ [cut] = (before ++ cut' :: after) ++ [last] := by simpa using split
      exact (List.append_inj' shape rfl).1

/-- A declaration comes before all divisions. -/
theorem history_eq_nil {name : Text} (follows : Follows commands history page)
    (orderly : Orderly (commands ++ [command])) (declares : command.declared? = some name) :
    history = [] := by
  cases history with
  | nil => rfl
  | cons cut later =>
    obtain ⟨earlier, member, parses⟩ := follows.parsed (List.cons_ne_nil cut later)
    rw [orderly.not_parsed declares member] at parses
    cases parses

/-- A declaration stores the declared text, if there is one, and a template
that is not divided. -/
theorem declare {name : Text} {source : DynamicOrigin} {data : Table Text}
    (follows : Follows commands history page) (orderly : Orderly (commands ++ [command]))
    (declares : command.declared? = some name)
    (texts : ∀ key, data.get? key =
      if key = name then command.inlineText? name else page.data.get? key)
    (others : ∀ other, other ≠ name → command.inlineText? other = none)
    (kind : ∀ content, command.inlineText? name = some content → source = .inline) :
    Follows (commands ++ [command]) history
      { page with data := data, dynamics := page.dynamics.insert name ⟨source, false⟩ } := by
  obtain rfl := follows.history_eq_nil orderly declares
  have nothing := orderly.inlineText?_eq_none declares
  refine ⟨?_, ?_, ?_, follows.distinct, ?_, fun nonempty => absurd rfl nonempty⟩
  · intro key
    have before : page.data.get? key = inlineText? key commands := follows.data key
    show data.get? key = inlineText? key (commands ++ [command])
    rw [texts, inlineText?_concat]
    split
    · next same => rw [same, nothing, Option.none_or]
    · next apart => rw [others key apart, Option.or_none, before]
  · intro other template declared
    rw [Table.get?_insert] at declared
    split at declared
    · obtain rfl := Option.some.inj declared
      simp
    · exact follows.divided other template declared
  · intro other content declared
    rw [inlineText?_concat] at declared
    rw [Table.get?_insert]
    split
    · next same =>
      rw [same, nothing, Option.none_or] at declared
      exact ⟨_, rfl, kind content declared⟩
    · next apart =>
      rw [others other apart, Option.or_none] at declared
      exact follows.inline other content declared
  · intro before cut after split
    cases before <;> cases split

/-! ## Runs -/

theorem parse (follows : Follows commands history page) (files : FileTree)
    (target written : Text) :
    Follows (commands ++ [.parse target written])
      (history ++ (page.parsedCut? files target written).toList)
      (Page.parse files target written page).2 := by
  have parsed : ∃ command ∈ commands ++ [.parse target written], command.isParse = true :=
    ⟨.parse target written, by simp, rfl⟩
  have declared : Follows (commands ++ [.parse target written]) history page :=
    follows.concat fun _ => rfl
  refine of_templates ?_ (Page.parse_templates target written)
  cases cuts : page.parsedCut? files target written with
  | none => simpa [Page.cutting] using declared
  | some cut =>
    unfold Page.parsedCut? at cuts
    split at cuts
    · cases cuts
    · next event told announced =>
      split at cuts
      · cases cuts
      · have same : told.templates = page.templates :=
          (congrArg (fun result => result.2.templates) announced).symm
        exact ((declared.of_templates same).cut cuts parsed).of_templates
          (Page.templates_cutting same.symm (some cut))

theorem of_no_cut {site : Site} (nothing : site.cut? command = none)
    (follows : Follows (commands ++ [command]) history page) :
    Follows (commands ++ [command]) (history ++ (site.cut? command).toList) page := by
  rw [nothing]
  simpa using follows

/-- Every command keeps the invariant. -/
theorem perform {site : Site} (follows : Follows commands history site.page)
    (orderly : Orderly (commands ++ [command])) :
    Follows (commands ++ [command]) (history ++ (site.cut? command).toList)
      (site.perform command).2.page := by
  cases command with
  | parse target written =>
    rw [Site.perform_parse_page]
    exact follows.parse site.files target written
  | defineDynamic name value =>
    refine of_no_cut rfl (follows.declare orderly rfl (fun key => ?_) ?_ ?_)
    · exact Table.get?_erase name key site.page.data
    · exact fun _ _ => rfl
    · exact fun _ text => nomatch text
  | defineDynamicInline name content =>
    refine of_no_cut rfl (follows.declare orderly rfl (fun key => ?_) ?_ (fun _ _ => rfl))
    · rw [Table.get?_insert]
      simp [PageCommand.inlineText?]
    · intro other apart
      simp [PageCommand.inlineText?, Ne.symm apart]
  | setRoot root =>
    exact of_no_cut rfl ((follows.concat fun _ => rfl).of_templates (site.templates_setRoot root))
  | replaceLast content name =>
    exact of_no_cut rfl
      ((follows.concat fun _ => rfl).of_templates
        (Page.templates_replaceLast content name site.page))
  | assign | unassign | define | defineInline | ask | putFile | deleteFile =>
    exact of_no_cut rfl ((follows.concat fun _ => rfl).of_templates rfl)

/-- A run keeps the invariant. -/
theorem run {site : Site} {more : List PageCommand} (follows : Follows commands history site.page)
    (orderly : Orderly (commands ++ more)) :
    Follows (commands ++ more) (history ++ site.cuts more) (site.run more).2.page := by
  induction more generalizing commands history site with
  | nil => simpa [Site.cuts, Site.run] using follows
  | cons command rest ih =>
    rw [List.append_cons] at orderly ⊢
    have later := ih (follows.perform orderly.before) orderly
    rw [List.append_assoc history] at later
    exact later

end Follows

/-- A new page follows from nothing. -/
theorem follows_create {settings : Settings} {hub : Hub} {files : FileTree} {page : Page}
    (created : Page.create settings hub files = .ok page) : Follows [] [] page := by
  unfold Page.create at created
  split at created
  · cases created
    refine ⟨fun _ => rfl, ?_, ?_, List.nodup_nil, ?_, fun nonempty => absurd rfl nonempty⟩
    · intro name template declared
      cases declared
    · intro name content declared
      cases declared
    · intro before cut after split
      cases before <;> cases split
  · cases created

theorem follows_run {settings : Settings} {hub : Hub} {files : FileTree} {page : Page}
    (created : Page.create settings hub files = .ok page) {commands : List PageCommand}
    (orderly : Orderly commands) :
    Follows commands (Site.cuts ⟨files, page⟩ commands) (Site.run ⟨files, page⟩ commands).2.page :=
  (show Follows [] [] (Site.mk files page).page from follows_create created).run orderly

end PageTemplates
