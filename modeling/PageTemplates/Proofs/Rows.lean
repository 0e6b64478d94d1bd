import PageTemplates.Proofs.Slots
import PageTemplates.Proofs.Fallback

/-!
# Rows

A list is put together by assigning texts and appending a template, once for every
row (`Page.appendRows`).  What each row adds is what a parse of the template would
put into a namespace of its own, on the page as it stands at that moment
(`Page.rows`).  The row may show the list so far, since the list is put back only
after the row has been filled in.

A parse that appends and one that replaces get the same text and differ in how they
put it (`Page.rendered_eq`).  So the rows stand in the list in the order of their
parses, behind what stood there before (`namespace?_appendRows`).  A row that fails
leaves the list with the rows in front of it.
-/

namespace PageTemplates

namespace Page

/-- Assigns texts and appends a template or a namespace to a namespace, once for every list of
texts.  The first failure ends it. -/
def appendRows (files : FileTree) (target name : Text) :
    List (List (Text × Text)) → Rendering Unit
  | [] => pure ()
  | texts :: later => do
    modify (assignAll texts)
    parse files target ('.' :: name)
    appendRows files target name later

/-- What a parse puts into a namespace, if it succeeds. -/
def parsed? (files : FileTree) (target written : Text) (page : Page) : Option Text :=
  match parse files target written page with
  | (.ok _, shown) => shown.namespace? target
  | (.error _, _) => none

/-- The rows one by one: what the template would come to in a namespace `other`, just before it is
appended.  They end in front of the first one that fails. -/
def rows (files : FileTree) (target name other : Text) :
    List (List (Text × Text)) → Page → List Text
  | [], _ => []
  | texts :: later, page =>
    let ready := page.assignAll texts
    match ready.parsed? files other name with
    | none => []
    | some row =>
      row :: rows files target name other later (parse files target ('.' :: name) ready).2

/-- Whether a name is that of a template. -/
def isTemplate (name : Text) (page : Page) : Bool :=
  page.statics.has name || page.dynamics.has name

/-- The text that a parse of a name puts somewhere, if the slot of the name is full. -/
def shownAtHand (name : Text) (page : Page) : Except TemplateError Text :=
  if page.isTemplate name then page.filledAtHand name
  else
    match page.namespace? name with
    | some value => .ok value
    | none => .error (.undefinedTemplate name)

/-- Puts a text that was parsed somewhere.  Only a template counts as the last parse. -/
def put (target name text : Text) (append : Bool) (page : Page) : Page :=
  if page.isTemplate name then page.finishParse target text append
  else page.write target text append

variable {files : FileTree} {page page' : Page} {target name other row : Text} {append : Bool}

/-! ## One row -/

/-- What is put does not depend on where it is put. -/
theorem rendered_eq (target name : Text) (append : Bool) (page : Page) :
    rendered target name append page =
      (page.shownAtHand name).map fun text => page.put target name text append := by
  rw [rendered, shownAtHand]
  unfold put
  cases template : page.isTemplate name with
  | true => exact if_pos template
  | false =>
    refine (if_neg (by simpa [isTemplate] using template)).trans ?_
    cases page.namespace? name <;> rfl

theorem namespaces_put (target name text : Text) (append : Bool) (page : Page) :
    (page.put target name text append).namespaces = (page.write target text append).namespaces := by
  unfold put
  split <;> rfl

theorem namespace?_put_replacing (target name text : Text) (page : Page) :
    (page.put target name text false).namespace? target = some text := by
  rw [namespace?, namespaces_put]
  simp [write, assign]

theorem namespace?_put_appending (target name text : Text) (page : Page) :
    (page.put target name text true).namespace? target =
      some ((page.namespace? target).getD [] ++ text) := by
  rw [namespace?, namespaces_put]
  simp [write, assign]

/-- A template that is put leaves its namespace as the last parse. -/
theorem last_put {text : Text} (template : page.isTemplate name = true) :
    (page.put target name text append).last =
      ((page.put target name text append).namespace? target).getD [] := by
  simp only [put, template, if_true, finishParse]
  rfl

/-- A row that can be parsed is put behind what stands there, and one that cannot leaves it. -/
theorem row_cases (silent : page.hub.Silent) (dotless : name.head? ≠ some '.') (files : FileTree)
    (target other : Text) :
    (∃ kept row, page.Similar kept ∧ page.parsed? files other name = some row ∧
        parse files target ('.' :: name) page = (.ok (), kept.put target name row true)) ∨
      ∃ kept error, page.Similar kept ∧ page.parsed? files other name = none ∧
        parse files target ('.' :: name) page = (.error error, kept) := by
  have appends : parse files target ('.' :: name) page =
      (cache files name >>= fun _ => attempt (rendered target name true)) page := by
    rw [parse_eq_cache, bind_of_ok (announced_of_silent _ _ silent)]
    rfl
  have replaces : parse files other name page =
      (cache files name >>= fun _ => attempt (rendered other name false)) page := by
    rw [parse_eq_cache, bind_of_ok (announced_of_silent _ _ silent),
      splitName_of_dotless dotless]
  have similar := (caches_cache files name page).similar
  cases cached : cache files name page with
  | mk outcome kept =>
    rw [cached] at similar
    cases outcome with
    | error error =>
      rw [bind_of_error cached] at appends replaces
      exact .inr ⟨kept, error, similar, by rw [parsed?, replaces], appends⟩
    | ok value =>
      rw [bind_of_ok cached, attempt, rendered_eq] at appends replaces
      cases text : kept.shownAtHand name with
      | error error =>
        rw [text] at appends replaces
        exact .inr ⟨kept, error, similar, by rw [parsed?, replaces]; rfl, appends⟩
      | ok row =>
        rw [text] at appends replaces
        refine .inl ⟨kept, row, similar, ?_, appends⟩
        rw [parsed?, replaces]
        exact namespace?_put_replacing other name row kept

/-! ## Many rows -/

theorem exists_assignAll (texts : List (Text × Text)) (page : Page) :
    ∃ namespaces, page.assignAll texts = { page with namespaces := namespaces } := by
  induction texts generalizing page with
  | nil => exact ⟨page.namespaces, rfl⟩
  | cons pair texts ih =>
    obtain ⟨namespaces, same⟩ := ih (page.assign pair.1 pair.2)
    exact ⟨namespaces, same⟩

theorem namespace?_assignAll {texts : List (Text × Text)} (apart : ∀ pair ∈ texts, pair.1 ≠ target)
    (page : Page) : (page.assignAll texts).namespace? target = page.namespace? target := by
  induction texts generalizing page with
  | nil => rfl
  | cons pair texts ih =>
    have other : target ≠ pair.1 := (apart pair List.mem_cons_self).symm
    refine (ih (fun other member => apart other (List.mem_cons_of_mem _ member)) _).trans ?_
    exact (Table.get?_insert _ _ _ _).trans (if_neg other)

variable {texts : List (Text × Text)} {later sets : List (List (Text × Text))}

theorem appendRows_cons_of_ok
    (done : parse files target ('.' :: name) (page.assignAll texts) = (.ok (), page')) :
    appendRows files target name (texts :: later) page =
      appendRows files target name later page' := by
  have ready : (modify (assignAll texts) : Rendering Unit) page =
      (.ok (), page.assignAll texts) := rfl
  rw [appendRows, bind_of_ok ready, bind_of_ok done]

theorem appendRows_cons_of_error {error : TemplateError}
    (failed : parse files target ('.' :: name) (page.assignAll texts) = (.error error, page')) :
    appendRows files target name (texts :: later) page = (.error error, page') := by
  have ready : (modify (assignAll texts) : Rendering Unit) page =
      (.ok (), page.assignAll texts) := rfl
  rw [appendRows, bind_of_ok ready, bind_of_error failed]

theorem rows_cons_of_some (shown : (page.assignAll texts).parsed? files other name = some row)
    (done : parse files target ('.' :: name) (page.assignAll texts) = (.ok (), page')) :
    rows files target name other (texts :: later) page =
      row :: rows files target name other later page' := by
  rw [rows]
  simp only [shown, done]

theorem rows_cons_of_none (nothing : (page.assignAll texts).parsed? files other name = none) :
    rows files target name other (texts :: later) page = [] := by
  rw [rows]
  simp only [nothing]

/-- All that the first row of several can do. -/
theorem first_row_cases (silent : page.hub.Silent) (dotless : name.head? ≠ some '.')
    (apart : ∀ pair ∈ texts, pair.1 ≠ target) (files : FileTree) (other : Text) :
    (∃ row page', page'.hub.Silent ∧
        page'.namespace? target = some ((page.namespace? target).getD [] ++ row) ∧
        page'.isTemplate name = page.isTemplate name ∧
        (page.isTemplate name = true → page'.last = (page'.namespace? target).getD []) ∧
        ∀ later, rows files target name other (texts :: later) page =
            row :: rows files target name other later page' ∧
          appendRows files target name (texts :: later) page =
            appendRows files target name later page') ∨
      ∃ error page', page'.namespace? target = page.namespace? target ∧
        ∀ later, rows files target name other (texts :: later) page = [] ∧
          appendRows files target name (texts :: later) page = (.error error, page') := by
  obtain ⟨namespaces, same⟩ := exists_assignAll texts page
  have quiet : (page.assignAll texts).hub.Silent := same ▸ silent
  have before := namespace?_assignAll apart page
  have template : (page.assignAll texts).isTemplate name = page.isTemplate name := by
    rw [same]
    rfl
  obtain ⟨kept, row, similar, shown, done⟩ | ⟨kept, error, similar, nothing, failed⟩ :=
    row_cases quiet dotless files target other
  · have still : kept.isTemplate name = page.isTemplate name := by
      rw [← template, isTemplate, isTemplate, similar.hasStatic, similar.hasDynamic]
    have old : kept.namespace? target = page.namespace? target := by
      rw [← before, namespace?, similar.namespaces]
      rfl
    have hub := hub_parse files target ('.' :: name) quiet
    rw [done] at hub
    refine .inl ⟨row, kept.put target name row true, ?_, ?_, ?_, ?_, fun later =>
      ⟨rows_cons_of_some shown done, appendRows_cons_of_ok done⟩⟩
    · exact hub.symm ▸ quiet
    · rw [namespace?_put_appending, old]
    · rw [← still]
      simp only [put]
      split <;> rfl
    · intro isTemplate
      exact last_put (still.trans isTemplate)
  · refine .inr ⟨error, kept, ?_, fun later =>
      ⟨rows_cons_of_none nothing, appendRows_cons_of_error failed⟩⟩
    rw [← before, namespace?, similar.namespaces]
    rfl

/-- The rows stand in the namespace behind what stood there before. -/
theorem namespace?_appendRows (silent : page.hub.Silent) (dotless : name.head? ≠ some '.')
    (apart : ∀ texts ∈ sets, ∀ pair ∈ texts, pair.1 ≠ target) (files : FileTree) (other : Text) :
    (appendRows files target name sets page).2.namespace? target =
      if rows files target name other sets page = [] then page.namespace? target
      else some ((page.namespace? target).getD [] ++
        (rows files target name other sets page).flatten) := by
  induction sets generalizing page with
  | nil => rfl
  | cons texts later ih =>
    obtain ⟨first, rest⟩ := List.forall_mem_cons.1 apart
    obtain ⟨row, page', quiet, put, -, -, onward⟩ | ⟨error, page', left, stops⟩ :=
      first_row_cases silent dotless first files other
    · rw [(onward later).1, (onward later).2, ih quiet rest, put, if_neg (List.cons_ne_nil _ _),
        List.flatten_cons, Option.getD_some, List.append_assoc]
      split
      · next none => rw [none, List.flatten_nil, List.append_nil]
      · rfl
    · rw [(stops later).1, (stops later).2, if_pos rfl, left]

theorem length_rows_le (files : FileTree) (target name other : Text)
    (sets : List (List (Text × Text))) (page : Page) :
    (rows files target name other sets page).length ≤ sets.length := by
  induction sets generalizing page with
  | nil => exact Nat.le_refl 0
  | cons texts later ih =>
    cases shown : (page.assignAll texts).parsed? files other name with
    | none =>
      rw [rows_cons_of_none shown]
      exact Nat.zero_le _
    | some row =>
      simp only [rows, shown]
      exact Nat.succ_le_succ (ih _)

/-- As many parses succeed as there are rows. -/
theorem appendRows_take_eq_ok_iff (silent : page.hub.Silent) (dotless : name.head? ≠ some '.')
    (apart : ∀ texts ∈ sets, ∀ pair ∈ texts, pair.1 ≠ target) (files : FileTree) (other : Text)
    {k : Nat} (within : k ≤ sets.length) :
    (appendRows files target name (sets.take k) page).1 = .ok () ↔
      k ≤ (rows files target name other sets page).length := by
  induction sets generalizing page k with
  | nil =>
    obtain rfl : k = 0 := Nat.le_zero.1 within
    exact iff_of_true rfl (Nat.zero_le _)
  | cons texts later ih =>
    cases k with
    | zero => exact iff_of_true rfl (Nat.zero_le _)
    | succ k =>
      obtain ⟨first, rest⟩ := List.forall_mem_cons.1 apart
      rw [List.take_succ_cons]
      obtain ⟨row, page', quiet, -, -, -, onward⟩ | ⟨error, page', -, stops⟩ :=
        first_row_cases silent dotless first files other
      · rw [(onward later).1, (onward _).2, List.length_cons, Nat.succ_le_succ_iff]
        exact ih quiet rest (Nat.le_of_succ_le_succ within)
      · rw [(stops later).1, (stops _).2]
        exact iff_of_false (fun done => by cases done) (Nat.not_succ_le_zero k)

/-- A template that has been appended leaves its namespace as the last parse. -/
theorem last_appendRows (silent : page.hub.Silent) (dotless : name.head? ≠ some '.')
    (apart : ∀ texts ∈ sets, ∀ pair ∈ texts, pair.1 ≠ target) (some : sets ≠ [])
    (template : page.isTemplate name = true)
    (done : (appendRows files target name sets page).1 = .ok ()) :
    (appendRows files target name sets page).2.last =
      ((appendRows files target name sets page).2.namespace? target).getD [] := by
  induction sets generalizing page with
  | nil => exact absurd rfl some
  | cons texts later ih =>
    obtain ⟨first, rest⟩ := List.forall_mem_cons.1 apart
    obtain ⟨row, page', quiet, -, still, last, onward⟩ | ⟨error, page', -, stops⟩ :=
      first_row_cases silent dotless first files []
    · rw [(onward later).2] at done ⊢
      cases later with
      | nil => exact last template
      | cons next later => exact ih quiet rest (List.cons_ne_nil _ _) (still.trans template) done
    · rw [(stops later).2] at done
      cases done

end Page

/-- Where there are no listeners, the rows of a list stand in it in the order of their parses,
behind what stood there before.  What a row adds is what a parse into any other namespace would show
at that moment.  The first row that cannot be parsed leaves the list with those in front of it.  A
template that has been appended leaves the list as the last parse. -/
theorem append_rows {files : FileTree} {page after : Page} {target name : Text}
    {sets : List (List (Text × Text))} {outcome : Except TemplateError Unit}
    (silent : page.hub.Silent) (dotless : name.head? ≠ some '.')
    (apart : ∀ texts ∈ sets, ∀ pair ∈ texts, pair.1 ≠ target)
    (appended : Page.appendRows files target name sets page = (outcome, after)) (other : Text)
    {rows : List Text} (each : Page.rows files target name other sets page = rows) :
    (after.namespace? target =
        if rows = [] then page.namespace? target
        else some ((page.namespace? target).getD [] ++ rows.flatten)) ∧
      (outcome = .ok () ↔ rows.length = sets.length) ∧
      (∀ k ≤ sets.length,
        (Page.appendRows files target name (sets.take k) page).1 = .ok () ↔ k ≤ rows.length) ∧
      (outcome = .ok () → sets ≠ [] → page.isTemplate name = true →
        after.last = (after.namespace? target).getD []) := by
  subst each
  obtain ⟨rfl, rfl⟩ := Prod.mk.inj appended
  have counted {k : Nat} (within : k ≤ sets.length) :=
    Page.appendRows_take_eq_ok_iff silent dotless apart files other within
  have all := counted (Nat.le_refl sets.length)
  rw [List.take_length] at all
  refine ⟨Page.namespace?_appendRows silent dotless apart files other, ?_, fun k => counted, ?_⟩
  · rw [all]
    exact ⟨Nat.le_antisymm (Page.length_rows_le _ _ _ _ _ _), fun same => Nat.le_of_eq same.symm⟩
  · intro done some template
    exact Page.last_appendRows silent dotless apart some template done

/-- A list in which every row shows the list so far. -/
def growingList : Page where
  settings := { root := ['.'], maxSubstitutions := 10 }
  dynamics := [("form".toList, ⟨.inline, false⟩), ("row".toList, ⟨.block "form".toList, false⟩)]
  data := [("form".toList, "<!-- BDP: row -->{X}[{LIST}]<!-- EDP: row -->".toList)]
  namespaces := [("LIST".toList, ['-'])]

/-- The third row refers to itself. -/
def growingRows : List (List (Text × Text)) :=
  [[(['X'], ['a'])], [(['X'], ['b'])], [(['X'], "{X}".toList)]]

/-- The first row divides the form, the second shows the first, and the third one fails. -/
theorem append_rows_growingList :
    Page.rows {} "LIST".toList "row".toList ['U'] growingRows growingList =
        ["a[-]".toList, "b[-a[-]]".toList] ∧
      ((Page.appendRows {} "LIST".toList "row".toList growingRows growingList).2).namespace?
        "LIST".toList = some "-a[-]b[-a[-]]".toList ∧
      (Page.appendRows {} "LIST".toList "row".toList (growingRows.take 2) growingList).1 = .ok () ∧
      (Page.appendRows {} "LIST".toList "row".toList growingRows growingList).1 ≠ .ok () := by
  have each : Page.rows {} "LIST".toList "row".toList ['U'] growingRows growingList =
      ["a[-]".toList, "b[-a[-]]".toList] := by decide +kernel
  have apart : ∀ texts ∈ growingRows, ∀ pair ∈ texts, pair.1 ≠ "LIST".toList := by decide
  obtain ⟨list, all, first, -⟩ := append_rows (fun _ => rfl) (by decide) apart rfl ['U'] each
  refine ⟨each, list, (first 2 (by decide)).2 (by decide), fun done => ?_⟩
  exact absurd (all.1 done) (by decide)

end PageTemplates
