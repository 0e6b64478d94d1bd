import PageTemplates.Proofs.LookingListeners
import PageTemplates.Proofs.LoadAnnouncements

/-!
# Loading is watched

Listeners only observe a load if every text that is announced comes back as it was,
whatever was announced before (`Loader.OnlyObserved`).  Listeners that only look do
so (`Loader.onlyObserved_of_watched`).

Then a load leaves the hub in which its announcements have been dispatched one after
the other (`Loader.heard`), and these are what the files tell.  `Loader.Announces`
says so of an action, and its lemmas take actions apart.
-/

namespace PageTemplates

namespace Loader

variable (loader : Loader)

/-! ## Announcements as events -/

/-- The event that announces. -/
def event : Announcement → Event
  | .beforeAssemble path => pathEvent EventName.beforeAssemble (loader.fullPath path)
  | .beforeLoad path => pathEvent EventName.beforeLoad (loader.fullPath path)
  | .afterLoad path content => contentEvent EventName.afterLoad (loader.fullPath path) content
  | .afterAssemble path text => contentEvent EventName.afterAssemble (loader.fullPath path) text

/-- The hub once announcements have been dispatched, one after the other. -/
def heard (told : List Announcement) (hub : Hub) : Hub :=
  told.foldl (fun hub announcement => (Hub.dispatch (loader.event announcement) hub).2) hub

/-- Whatever is announced, the next announcement comes back with its text as it was. -/
def OnlyObserved (hub : Hub) : Prop :=
  ∀ earlier next, ∃ back,
    (Hub.dispatch (loader.event next) (loader.heard earlier hub)).1 = .ok back ∧
    back.param? contentParam = (loader.event next).param? contentParam

variable {loader}

theorem heard_append (front back : List Announcement) (hub : Hub) :
    loader.heard (front ++ back) hub = loader.heard back (loader.heard front hub) :=
  List.foldl_append

theorem goesOn_event (announcement : Announcement) :
    (loader.event announcement).stopped = false := by
  cases announcement <;> rfl

/-- Listeners that only look only observe. -/
theorem onlyObserved_of_watched {hub : Hub} (watched : hub.Watched) : loader.OnlyObserved hub := by
  intro earlier next
  have still : (loader.heard earlier hub).Watched :=
    List.foldlRecOn earlier _ watched fun hub watched announcement _ =>
      (Hub.dispatch_of_watched watched (goesOn_event announcement)).2.1
  exact ⟨_, (Hub.dispatch_of_watched still (goesOn_event next)).1, rfl⟩

theorem OnlyObserved.next {hub : Hub} (observed : loader.OnlyObserved hub) (next : Announcement) :
    ∃ back, (Hub.dispatch (loader.event next) hub).1 = .ok back ∧
      back.param? contentParam = (loader.event next).param? contentParam :=
  observed [] next

theorem OnlyObserved.heard {hub : Hub} (observed : loader.OnlyObserved hub)
    (told : List Announcement) :
    loader.OnlyObserved (loader.heard told hub) := by
  intro earlier next
  rw [← heard_append]
  exact observed (told ++ earlier) next

/-! ## Actions that announce -/

section

variable {α β : Type} {action : Loading α} {next : α → Loading β} {front back : List Announcement}

variable (loader) in
/-- With listeners that only observe, an action comes to this result, and this is what it
announces. -/
def Announces (action : Loading α) (result : Except TemplateError α)
    (told : List Announcement) : Prop :=
  ∀ hub, loader.OnlyObserved hub → action hub = (result, loader.heard told hub)

namespace Announces

theorem pure (value : α) : loader.Announces (Pure.pure value) (.ok value) [] := fun _ _ => rfl

theorem throw (error : TemplateError) :
    loader.Announces (throw error : Loading α) (.error error) [] := fun _ _ => rfl

theorem bind {value : α} {result : Except TemplateError β}
    (first : loader.Announces action (.ok value) front)
    (second : loader.Announces (next value) result back) :
    loader.Announces (action >>= next) result (front ++ back) := by
  intro hub observed
  rw [bind_of_ok (first hub observed), second _ (observed.heard front), heard_append]

/-- What follows and announces nothing. -/
theorem last {value : α} {other : β} (first : loader.Announces action (.ok value) front)
    (second : loader.Announces (next value) (.ok other) []) :
    loader.Announces (action >>= next) (.ok other) front := by
  rw [← List.append_nil front]
  exact first.bind second

theorem fail {error : TemplateError} (first : loader.Announces action (.error error) front) :
    loader.Announces (action >>= next) (.error error) front :=
  fun hub observed => bind_of_error (first hub observed)

end Announces

/-- An announcement that is sent for the listeners only. -/
theorem announces_dispatch {next : Loading β} {result : Except TemplateError β}
    (announcement : Announcement) (goesOn : loader.Announces next result back) :
    loader.Announces (dispatch (loader.event announcement) >>= fun _ => next) result
      (announcement :: back) := by
  intro hub observed
  obtain ⟨event, sent, -⟩ := observed.next announcement
  rw [bind_of_ok (dispatch_of_sent sent)]
  exact goesOn _ (observed.heard [announcement])

/-- An announced text comes back as it was, and if nobody listens, nothing is sent. -/
theorem announces_announce {name path content : Text} (announcement : Announcement)
    (same : loader.event announcement = contentEvent name path content) :
    loader.Announces (announce name path content) (.ok content) [announcement] := by
  intro hub observed
  have heard : loader.heard [announcement] hub =
      (Hub.dispatch (contentEvent name path content) hub).2 :=
    congrArg (fun event => (Hub.dispatch event hub).2) same
  rw [announce, get_bind, heard]
  split
  · obtain ⟨event, sent, carries⟩ := observed.next announcement
    rw [same] at sent carries
    rw [bind_of_ok (dispatch_of_sent sent), carries]
    rfl
  · next unheard =>
    have empty : hub.registry.queue name = [] := by
      rwa [Registry.hasListeners, decide_eq_true_eq, Registry.count, Nat.not_lt, Nat.le_zero,
        List.length_eq_zero_iff] at unheard
    have quiet : Hub.dispatch (contentEvent name path content) hub = _ :=
      Hub.dispatch_of_silent empty
    rw [quiet]
    rfl

end

/-! ## Loading announces what the files tell -/

variable {chain : List TemplatePath} {expandable : Expandable} {path : TemplatePath}

theorem announces_readTemplate {content : Text}
    (there : loader.files.isFile (loader.fullPath path) = true)
    (read : loader.files.read (loader.fullPath path) = .ok content) :
    loader.Announces (loader.readTemplate path) (.ok content)
      [.beforeLoad path, .afterLoad path content] := by
  rw [readTemplate, if_pos there, read]
  exact announces_dispatch (.beforeLoad path) (announces_announce (.afterLoad path content) rfl)

/-- An expansion that comes to its end announces what the files tell. -/
theorem Expands.announces {result : Except TemplateError Text}
    (expands : Expands loader unchanged unchanged chain expandable result) :
    ∀ {text told}, result = .ok text → loader.Tells expandable text told →
      loader.Announces (loader.expansion chain expandable) (.ok text) told := by
  induction expands with
  | cycle | deep | missing | unreadable | escapes | fails =>
    intro text told done
    cases done
  | @file chain path content result new fits there read _ ih =>
    intro text told done tells
    obtain ⟨inner, inside, rfl⟩ := tells.of_read read
    have within : result = .ok text := by
      cases result with
      | ok other => exact done
      | error error => cases done
    have assembled : loader.Announces (announce EventName.afterAssemble (loader.fullPath path) text)
        (.ok text) [.afterAssemble path text] := announces_announce _ rfl
    rw [expansion_of_new new fits]
    exact (announces_readTemplate there read).bind ((ih within inside).bind assembled)
  | plain none =>
    intro text told done tells
    cases tells with
    | replaced leftmost => exact absurd leftmost.stands (none _)
    | plain =>
      rw [expansion_of_none none]
      exact .pure _
  | @replaced chain directory path chars included result found leftmost leads expands behinds ihFile
      ihBehind =>
    intro text told done tells
    cases result with
    | error error => cases done
    | ok more =>
      obtain ⟨_, _, front, back, file, behind, rfl, rfl⟩ := tells.of_leftmost leftmost leads
      obtain ⟨_, file'⟩ := expands.recounts
      obtain ⟨_, behind'⟩ := behinds.recounts
      obtain ⟨rfl, rfl⟩ := file.unique file'
      obtain ⟨rfl, rfl⟩ := behind.unique behind'
      rw [expansion_of_leftmost leftmost leads]
      refine Announces.last (Announces.bind (ihFile rfl file) ?_) (.pure _)
      exact (ihBehind rfl behind).last (.pure _)

/-- An expansion that fails announces what is told up to the failure. -/
theorem BreaksOff.announces {opened : List TemplatePath} {error : TemplateError}
    {told : List Announcement} (breaks : loader.BreaksOff chain expandable error opened told) :
    loader.Announces (loader.expansion chain expandable) (.error error) told := by
  induction breaks with
  | cycle around =>
    rw [expansion_of_mem around]
    exact .throw _
  | deep new deep =>
    rw [expansion_of_deep new deep]
    exact .throw _
  | missing new fits missing =>
    rw [expansion_of_new new fits, readTemplate, missing]
    exact (Announces.throw _).fail
  | @unreadable _ path _ new fits there fault =>
    rw [expansion_of_new new fits, readTemplate, if_pos there, fault]
    exact (announces_dispatch (.beforeLoad path) (.throw _)).fail
  | inside new fits read _ ih =>
    rw [expansion_of_new new fits]
    exact (announces_readTemplate (FileTree.isFile_of_read read) read).bind ih.fail
  | escapes leftmost escapes =>
    rw [expansion_of_escapes leftmost escapes]
    exact .throw _
  | within leftmost leads _ ih =>
    rw [expansion_of_leftmost leftmost leads]
    exact ih.fail.fail
  | behind leftmost leads expands tells _ ih =>
    rw [expansion_of_leftmost leftmost leads]
    exact ((expands.announces rfl tells).bind ih.fail).fail

end Loader

theorem Loader.load_of_leads {loader : Loader} {path : Text} {file : TemplatePath}
    (leads : TemplatePath.resolve [] path = some file) :
    loader.load path = (Loader.dispatch (loader.event (.beforeAssemble file)) >>=
      fun _ => loader.expansion [] (.file file)) := by
  rw [Loader.load, leads]
  rfl

/-- What a load announces to listeners that only observe.  A load that comes to its end announces
the file and then what the file tells.  A load that fails announces the same as far as it gets:
what is told breaks off at the failure, and it is a beginning of the one thing that the files
tell.  No file that is open there is put together once it has been opened, and none is put
together at all, unless the failure is that of the depth. -/
theorem load_announces {loader : Loader} {hub : Hub} (observed : loader.OnlyObserved hub)
    (path : Text) :
    match loader.load path hub with
    | (.ok text, after) =>
      ∃ file told, TemplatePath.resolve [] path = some file ∧ loader.Tells (.file file) text told ∧
        after = loader.heard (.beforeAssemble file :: told) hub
    | (.error error, after) =>
      (TemplatePath.resolve [] path = none ∧ error = .pathEscapesRoot path ∧ after = hub) ∨
        ∃ file opened told, TemplatePath.resolve [] path = some file ∧
          loader.BreaksOff [] (.file file) error opened told ∧
          after = loader.heard (.beforeAssemble file :: told) hub ∧
          loader.Begins (.file file) told ∧
          (∀ other, loader.Begins (.file file) other → told <+: other ∨ other <+: told) ∧
          (∀ inner ∈ opened, Loader.LeftOpen inner told) ∧
          ((∀ path limit, error ≠ .includeDepth path limit) →
            ∀ inner, inner ∈ opened ∨ error = .fileNotFound (loader.fullPath inner) →
              ∀ text, .afterAssemble inner text ∉ told) := by
  cases leads : TemplatePath.resolve [] path with
  | none =>
    have fails : loader.load path hub = (.error (.pathEscapesRoot path), hub) := by
      rw [Loader.load, leads]
      rfl
    rw [fails]
    exact .inl ⟨rfl, rfl, rfl⟩
  | some file =>
    obtain ⟨result, expands⟩ : ∃ result,
        loader.Expands Loader.unchanged Loader.unchanged [] (.file file) result :=
      Loader.exists_expands [] file
    obtain ⟨told, recounts⟩ := expands.recounts
    rw [Loader.load_of_leads leads]
    cases result with
    | ok text =>
      have announces := Loader.announces_dispatch (.beforeAssemble file)
        (expands.announces rfl recounts)
      rw [announces hub observed]
      exact ⟨file, told, rfl, recounts, rfl⟩
    | error error =>
      obtain ⟨opened, breaks⟩ := recounts
      have announces := Loader.announces_dispatch (.beforeAssemble file) breaks.announces
      rw [announces hub observed]
      refine .inr ⟨file, opened, told, rfl, breaks, rfl, breaks.begins, fun other begins => ?_,
        fun inner among => ?_, fun shallow inner among text member => ?_⟩
      · exact breaks.begins.comparable begins
      · exact breaks.leftOpen among List.not_mem_nil
      · obtain ⟨-, included, within, tells⟩ := breaks.of_mem member
        obtain among | rfl := among
        · exact breaks.untold shallow among included within tells
        · exact Loader.untold_of_missing breaks.missing_of_fileNotFound included within tells

/-- The events of loading. -/
def loadEvents : List Text :=
  [EventName.beforeAssemble, EventName.beforeLoad, EventName.afterLoad, EventName.afterAssemble]

/-- A hub that writes down what loading announces. -/
def noteHub : Hub :=
  (Hub.perform (.registerAll loadEvents (Action.listener [.log ['x']]) defaultPriority) {}).2

theorem watched_noteHub : noteHub.Watched := by
  have unheard : Hub.Watched {} := fun _ _ member => (List.not_mem_nil member).elim
  have looks : (Action.listener [.log ['x']]).Looks := Action.looks_log [['x']]
  exact unheard.registerEach looks defaultPriority loadEvents

/-- A file that is included twice is told of twice. -/
theorem load_announces_nestedFiles :
    let loader : Loader := ⟨['.'], 2, nestedFiles⟩
    loader.OnlyObserved noteHub ∧
      ∃ told, loader.Tells (.file [['a']]) "1233".toList told ∧
        (loader.load ['a'] noteHub).2 = loader.heard (.beforeAssemble [['a']] :: told) noteHub ∧
        (loader.load ['a'] noteHub).2.notes.length = 13 := by
  dsimp only
  have observed : Loader.OnlyObserved ⟨['.'], 2, nestedFiles⟩ noteHub :=
    Loader.onlyObserved_of_watched watched_noteHub
  have done : (Loader.load ⟨['.'], 2, nestedFiles⟩ ['a'] noteHub).1 = .ok "1233".toList :=
    eq_ok_of_toOption (by decide +kernel)
  have notes : (Loader.load ⟨['.'], 2, nestedFiles⟩ ['a'] noteHub).2.notes.length = 13 := by
    decide +kernel
  have announces := load_announces observed ['a']
  rw [show Loader.load _ ['a'] noteHub = (.ok "1233".toList, _) from Prod.ext done rfl] at announces
  obtain ⟨file, told, leads, tells, after⟩ := announces
  obtain rfl : [['a']] = file := Option.some.inj leads
  exact ⟨observed, told, tells, after, notes⟩

/-! ## A file that is put together before it is left open -/

/-- Loading without listeners comes to what the expansion comes to. -/
theorem Loader.expands_of_expansion {loader : Loader} {chain : List TemplatePath}
    {path : TemplatePath} {result : Except TemplateError Text}
    (comes : (loader.expansion chain (.file path) {}).1 = result) :
    loader.Expands Loader.unchanged Loader.unchanged chain (.file path) result := by
  have rewrites : Registry.Rewrites {} Loader.unchanged Loader.unchanged :=
    ⟨⟨[], .nil⟩, ⟨[], .nil⟩, ⟨[], .nil, fun _ _ => rfl⟩, ⟨[], .nil, fun _ _ => rfl⟩⟩
  obtain ⟨result', expands⟩ : ∃ result',
      loader.Expands Loader.unchanged Loader.unchanged chain (.file path) result' :=
    Loader.exists_expands chain path
  obtain ⟨comes', -⟩ := expands.yields rewrites {} rfl
  rwa [comes.symm.trans comes']

/-- A file is included twice, the second time by a file that is included itself. -/
def sharedFiles : FileTree where
  nodes :=
    [([['a']], .file (.text "1<!-- INCLUDE \"b\" --><!-- INCLUDE \"c\" -->".toList)),
      ([['b']], .file (.text "2<!-- INCLUDE \"d\" -->".toList)),
      ([['c']], .file (.text "3<!-- INCLUDE \"b\" -->".toList)),
      ([['d']], .file (.text ['4']))]

/-- Files may be included two files deep. -/
def sharedLoader : Loader := ⟨['.'], 2, sharedFiles⟩

/-- One of the files that are open when the load fails has been put together before. -/
theorem afterAssemble_mem_sharedFiles :
    ∃ told, sharedLoader.BreaksOff [] (.file [['a']]) (.includeDepth "./d".toList 2)
        [[['a']], [['c']], [['b']]] told ∧
      .afterAssemble [['b']] "24".toList ∈ told ∧
      sharedLoader.OnlyObserved noteHub ∧
      sharedLoader.load ['a'] noteHub = (.error (.includeDepth "./d".toList 2),
        sharedLoader.heard (.beforeAssemble [['a']] :: told) noteHub) := by
  have readA : sharedLoader.files.read (sharedLoader.fullPath [['a']]) =
      .ok "1<!-- INCLUDE \"b\" --><!-- INCLUDE \"c\" -->".toList :=
      eq_ok_of_toOption (by decide +kernel)
  have readB : sharedLoader.files.read (sharedLoader.fullPath [['b']]) =
      .ok "2<!-- INCLUDE \"d\" -->".toList := eq_ok_of_toOption (by decide +kernel)
  have readC : sharedLoader.files.read (sharedLoader.fullPath [['c']]) =
      .ok "3<!-- INCLUDE \"b\" -->".toList := eq_ok_of_toOption (by decide +kernel)
  have readD : sharedLoader.files.read (sharedLoader.fullPath [['d']]) = .ok ['4'] :=
    eq_ok_of_toOption (by decide +kernel)
  have first : FoundInclude.Leftmost "1<!-- INCLUDE \"b\" --><!-- INCLUDE \"c\" -->".toList
      ⟨['1'], ['b'], "<!-- INCLUDE \"c\" -->".toList⟩ :=
      FoundInclude.leftmost_of_find? (by decide +kernel)
  have second : FoundInclude.Leftmost "<!-- INCLUDE \"c\" -->".toList ⟨[], ['c'], []⟩ :=
    FoundInclude.leftmost_of_find? (by decide +kernel)
  have inB : FoundInclude.Leftmost "2<!-- INCLUDE \"d\" -->".toList ⟨['2'], ['d'], []⟩ :=
    FoundInclude.leftmost_of_find? (by decide +kernel)
  have inC : FoundInclude.Leftmost "3<!-- INCLUDE \"b\" -->".toList ⟨['3'], ['b'], []⟩ :=
    FoundInclude.leftmost_of_find? (by decide +kernel)
  have toB : TemplatePath.resolve [] ['b'] = some [['b']] := by decide +kernel
  have toC : TemplatePath.resolve [] ['c'] = some [['c']] := by decide +kernel
  have toD : TemplatePath.resolve [] ['d'] = some [['d']] := by decide +kernel
  have tellsD : sharedLoader.Tells (.file [['d']]) ['4'] _ :=
    .file readD (.plain (FoundInclude.find?_eq_none_iff.1 rfl))
  have insideB : sharedLoader.Tells (.text [] "2<!-- INCLUDE \"d\" -->".toList) "24".toList _ :=
    .replaced inB toD tellsD (.plain (FoundInclude.find?_eq_none_iff.1 rfl))
  have tellsB : sharedLoader.Tells (.file [['b']]) "24".toList _ := .file readB insideB
  have expandsB : sharedLoader.Expands Loader.unchanged Loader.unchanged [[['a']]] (.file [['b']])
      (.ok "24".toList) := Loader.expands_of_expansion (eq_ok_of_toOption (by decide +kernel))
  have deep : sharedLoader.BreaksOff [[['a']], [['c']], [['b']]] (.file [['d']])
      (.includeDepth "./d".toList 2) [[['a']], [['c']], [['b']]] [] := .deep (by decide) (by decide)
  have underC : sharedLoader.BreaksOff [[['a']], [['c']]] (.file [['b']])
      (.includeDepth "./d".toList 2) [[['a']], [['c']], [['b']]] _ :=
    .inside (by decide) (by decide) readB (.within inB toD deep)
  have underA : sharedLoader.BreaksOff [[['a']]] (.file [['c']])
      (.includeDepth "./d".toList 2) [[['a']], [['c']], [['b']]] _ :=
    .inside (by decide) (by decide) readC (.within inC toB underC)
  have breaks : sharedLoader.BreaksOff [] (.file [['a']]) (.includeDepth "./d".toList 2)
      [[['a']], [['c']], [['b']]] _ :=
    .inside (by decide) (by decide) readA
      (.behind first toB expandsB tellsB (.within second toC underA))
  have observed : sharedLoader.OnlyObserved noteHub :=
    Loader.onlyObserved_of_watched watched_noteHub
  refine ⟨_, breaks, by simp, observed, ?_⟩
  have toA : TemplatePath.resolve [] ['a'] = some [['a']] := by decide +kernel
  rw [Loader.load_of_leads toA]
  exact Loader.announces_dispatch (.beforeAssemble [['a']]) breaks.announces noteHub observed

end PageTemplates
