import Mathlib.Data.List.Nodup
import Mathlib.Data.List.Perm.Subperm
import Mathlib.Logic.Function.Iterate
import PageTemplates.Proofs.RootConfinement

/-!
# Loading step by step

A load goes in steps.  It opens a file inside those that are open, puts the next part
of the innermost one behind what it has of it, or hands what it has to the file
around.  `Loader.next` is one step, with all that is known between two steps in a
`Loader.Moment`: the files that are open, how far each of them is, and the hub.

The steps come to an end, at what `load` gives (`Loader.reaches_load`).  This follows
the recursion of `load`, first over the levels that are left for further files and
within a file over the parts that are left of its text.  Listeners may have put in
that text whatever they like.

The open files are the include chain.  At every moment they are different files below
the root (`Loader.Stage.Sound.advance`), so there are no more of them than the limit
allows and no more than there are files (`Loader.Chained.length_le_files`).
-/

namespace PageTemplates

/-- The places where files stand. -/
def FileTree.filePlaces (files : FileTree) : List (List Text) :=
  files.nodes.filterMap fun entry =>
    match entry.2 with
    | .directory => none
    | .file _ => some entry.1

/-- A path that leads to a file leads to one of them. -/
theorem FileTree.exists_filePlace {files : FileTree} {path : Text}
    (file : files.isFile path = true) :
    ∃ place ∈ files.filePlaces, files.locate path = .ok place := by
  rw [isFile, find] at file
  cases located : files.locate path with
  | error error =>
    rw [located] at file
    cases file
  | ok place =>
    rw [located] at file
    refine ⟨place, ?_, rfl⟩
    cases node : files.node? place with
    | none => simp [node] at file
    | some node' =>
      cases node' with
      | directory => simp [node] at file
      | file contents =>
        rw [node?] at node
        split at node
        · cases node
        obtain ⟨entry, found, stands⟩ := Option.map_eq_some_iff.1 node
        have here : entry.1 = place := by simpa using List.find?_some found
        refine List.mem_filterMap.2 ⟨entry, List.mem_of_find?_eq_some found, ?_⟩
        rw [stands, here]

namespace Loader

/-! ## Steps -/

/-- A file that is open: what has been put together of it, and what is left of its text. -/
structure OpenFile where
  path : TemplatePath
  made : Text
  rest : List Segment

/-- Where a load stands.  Open files come innermost first. -/
inductive Stage where
  /-- Nothing has been done. -/
  | begins (path : Text)
  /-- A file is to be opened inside the ones that are open. -/
  | opens (path : TemplatePath) (around : List OpenFile)
  /-- A file is put together inside the other ones that are open. -/
  | expands (file : OpenFile) (around : List OpenFile)
  | ended (outcome : Except TemplateError Text)

/-- What is known between two steps of a load. -/
structure Moment where
  stage : Stage
  hub : Hub

/-- The paths of open files, outermost first. -/
def chainOf (opened : List OpenFile) : List TemplatePath := (opened.map OpenFile.path).reverse

/-- The include chain. -/
def Stage.chain : Stage → List TemplatePath
  | .opens _ around => chainOf around
  | .expands file around => chainOf (file :: around)
  | .begins _ | .ended _ => []

/-- Hands the text of a file to the one around it. -/
def handOn (around : List OpenFile) (text : Text) : Stage :=
  match around with
  | [] => .ended (.ok text)
  | outer :: further => .expands { outer with made := outer.made ++ text } further

/-- What is done in one step, if nothing goes wrong. -/
def advance (loader : Loader) : Stage → Loading Stage
  | .begins path =>
    match TemplatePath.resolve [] path with
    | none => throw (.pathEscapesRoot path)
    | some relative => do
      let _ ← dispatch (pathEvent EventName.beforeAssemble (loader.fullPath relative))
      pure (.opens relative [])
  | .opens path around =>
    if (chainOf around).contains path then throw (.includeCycle (loader.fullPath path))
    else if loader.maxIncludeDepth < (chainOf around).length then
      throw (.includeDepth (loader.fullPath path) loader.maxIncludeDepth)
    else do
      let content ← loader.readTemplate path
      pure (.expands ⟨path, [], Segment.ofText content⟩ around)
  | .expands ⟨path, made, []⟩ around => do
    let text ← announce EventName.afterAssemble (loader.fullPath path) made
    pure (handOn around text)
  | .expands ⟨path, made, .plain chars :: rest⟩ around =>
    pure (.expands ⟨path, made ++ chars, rest⟩ around)
  | .expands ⟨path, made, .directive target :: rest⟩ around =>
    match TemplatePath.resolve path.directory target with
    | none => throw (.pathEscapesRoot target)
    | some inner => pure (.opens inner (⟨path, made, rest⟩ :: around))
  | .ended outcome => pure (.ended outcome)

/-- The moment behind a step.  A failure ends the load. -/
def next (loader : Loader) (moment : Moment) : Moment :=
  match loader.advance moment.stage moment.hub with
  | (.ok stage, hub) => ⟨stage, hub⟩
  | (.error error, hub) => ⟨.ended (.error error), hub⟩

/-- Some number of steps leads from one moment to another. -/
def Reaches (loader : Loader) (moment later : Moment) : Prop :=
  ∃ steps, loader.next^[steps] moment = later

/-- The moment at which an action is done that was to give a text. -/
def continued (onward : Text → Stage) : Except TemplateError Text × Hub → Moment
  | (.ok text, hub) => ⟨onward text, hub⟩
  | (.error error, hub) => ⟨.ended (.error error), hub⟩

variable {loader : Loader} {moment later last : Moment} {stage stage' : Stage} {hub hub' : Hub}

theorem Reaches.refl (moment : Moment) : Reaches loader moment moment := ⟨0, rfl⟩

theorem Reaches.trans (first : Reaches loader moment later) (second : Reaches loader later last) :
    Reaches loader moment last := by
  obtain ⟨few, rfl⟩ := first
  obtain ⟨more, rfl⟩ := second
  exact ⟨more + few, Function.iterate_add_apply ..⟩

theorem next_of_ok (done : loader.advance stage hub = (.ok stage', hub')) :
    loader.next ⟨stage, hub⟩ = ⟨stage', hub'⟩ := by
  rw [next, done]

theorem next_of_error {error : TemplateError}
    (failed : loader.advance stage hub = (.error error, hub')) :
    loader.next ⟨stage, hub⟩ = ⟨.ended (.error error), hub'⟩ := by
  rw [next, failed]

/-! ## The steps end -/

variable {path : TemplatePath} {around : List OpenFile} {onward between : Text → Stage}

/-- A step that throws. -/
theorem Reaches.of_throw {error : TemplateError} (step : loader.advance stage = throw error) :
    Reaches loader ⟨stage, hub⟩ (continued onward ((throw error : Loading Text) hub)) :=
  ⟨1, next_of_error (by rw [step]; rfl)⟩

/-- A step that does what an action begins with. -/
theorem Reaches.of_step {α : Type} {action : Loading α} {onto : α → Stage}
    {rest : α → Loading Text}
    (step : loader.advance stage = action >>= fun value => pure (onto value))
    (further : ∀ value hub', Reaches loader ⟨onto value, hub'⟩
      (continued onward (rest value hub'))) :
    Reaches loader ⟨stage, hub⟩ (continued onward ((action >>= rest) hub)) := by
  cases done : action hub with
  | mk outcome hub' =>
    cases outcome with
    | ok value =>
      have taken : loader.next ⟨stage, hub⟩ = ⟨onto value, hub'⟩ :=
        next_of_ok (by rw [step, bind_of_ok done]; rfl)
      rw [bind_of_ok done]
      exact .trans ⟨1, taken⟩ (further value hub')
    | error error =>
      rw [bind_of_error done]
      exact ⟨1, next_of_error (by rw [step, bind_of_error done])⟩

/-- Steps that do what an action begins with. -/
theorem Reaches.bind {action : Loading Text} {rest : Text → Loading Text}
    (first : Reaches loader moment (continued between (action hub)))
    (further : ∀ text hub', Reaches loader ⟨between text, hub'⟩
      (continued onward (rest text hub'))) :
    Reaches loader moment (continued onward ((action >>= rest) hub)) := by
  cases done : action hub with
  | mk outcome hub' =>
    rw [done] at first
    cases outcome with
    | ok text =>
      rw [bind_of_ok done]
      exact first.trans (further text hub')
    | error error =>
      rw [bind_of_error done]
      exact first

theorem chainOf_cons (file : OpenFile) (around : List OpenFile) :
    chainOf (file :: around) = chainOf around ++ [file.path] := by
  simp [chainOf]

/-- The parts of a text are put together if the steps of a file that is included come to what
`load` gives for it. -/
theorem reaches_expand {load : TemplatePath → Loading Text} (segments : List Segment)
    (each : ∀ inner made rest hub, Reaches loader ⟨.opens inner (⟨path, made, rest⟩ :: around), hub⟩
      (continued (handOn (⟨path, made, rest⟩ :: around)) (load inner hub)))
    (made : Text) (hub : Hub) :
    Reaches loader ⟨.expands ⟨path, made, segments⟩ around, hub⟩
      (continued (fun text => .expands ⟨path, made ++ text, []⟩ around)
        (expand load path.directory segments hub)) := by
  induction segments generalizing made hub with
  | nil =>
    show Reaches loader _ ⟨.expands ⟨path, made ++ [], []⟩ around, hub⟩
    rw [List.append_nil]
    exact .refl _
  | cons segment rest ih =>
    have behind : ∀ chars hub, Reaches loader ⟨.expands ⟨path, made ++ chars, rest⟩ around, hub⟩
        (continued (fun text => .expands ⟨path, made ++ text, []⟩ around)
          ((expand load path.directory rest >>= fun more => pure (chars ++ more)) hub)) := by
      intro chars hub
      refine (ih (made ++ chars) hub).bind fun more hub' => ?_
      rw [List.append_assoc]
      exact .refl _
    cases segment with
    | plain chars => exact .trans ⟨1, rfl⟩ (behind chars hub)
    | directive target =>
      rw [expand]
      cases leads : TemplatePath.resolve path.directory target with
      | none => exact .of_throw (by rw [advance, leads])
      | some inner =>
        have opened : loader.next ⟨.expands ⟨path, made, .directive target :: rest⟩ around, hub⟩ =
            ⟨.opens inner (⟨path, made, rest⟩ :: around), hub⟩ :=
          next_of_ok (by rw [advance, leads]; rfl)
        exact .trans ⟨1, opened⟩ ((each inner made rest hub).bind behind)

theorem advance_of_mem (member : path ∈ chainOf around) :
    loader.advance (.opens path around) = throw (.includeCycle (loader.fullPath path)) := by
  rw [advance, if_pos (List.contains_iff_mem.2 member)]

theorem advance_of_deep (new : path ∉ chainOf around)
    (deep : loader.maxIncludeDepth < (chainOf around).length) :
    loader.advance (.opens path around) =
      throw (.includeDepth (loader.fullPath path) loader.maxIncludeDepth) := by
  rw [advance, if_neg (mt List.contains_iff_mem.1 new), if_pos deep]

theorem advance_of_new (new : path ∉ chainOf around)
    (fits : (chainOf around).length ≤ loader.maxIncludeDepth) :
    loader.advance (.opens path around) =
      (loader.readTemplate path >>= fun content =>
        pure (.expands ⟨path, [], Segment.ofText content⟩ around)) := by
  rw [advance, if_neg (mt List.contains_iff_mem.1 new), if_neg (Nat.not_lt_of_le fits)]

/-- The steps that open a file and put it together come to what `loadFile` gives. -/
theorem reaches_loadFile {levels : Nat} (path : TemplatePath) (around : List OpenFile) (hub : Hub)
    (left : (chainOf around).length + levels = loader.maxIncludeDepth + 1) :
    Reaches loader ⟨.opens path around, hub⟩
      (continued (handOn around) (loader.loadFile levels (chainOf around) path hub)) := by
  induction levels generalizing path around hub with
  | zero =>
    by_cases member : path ∈ chainOf around
    · rw [loadFile_of_mem member]
      exact .of_throw (advance_of_mem member)
    · rw [loadFile, if_neg member]
      exact .of_throw (advance_of_deep member (by omega))
  | succ levels ih =>
    by_cases member : path ∈ chainOf around
    · rw [loadFile_of_mem member]
      exact .of_throw (advance_of_mem member)
    -- what the file includes stands one level further in
    have each : ∀ inner made rest hub,
        Reaches loader ⟨.opens inner (⟨path, made, rest⟩ :: around), hub⟩
          (continued (handOn (⟨path, made, rest⟩ :: around))
            (loader.loadFile levels (chainOf around ++ [path]) inner hub)) := by
      intro inner made rest hub
      rw [← chainOf_cons ⟨path, made, rest⟩ around]
      refine ih inner _ hub ?_
      rw [chainOf_cons, List.length_append, List.length_singleton]
      omega
    rw [loadFile, if_neg member]
    refine .of_step (advance_of_new member (by omega)) fun content hub' => ?_
    refine (reaches_expand (Segment.ofText content) each [] hub').bind fun assembled hub'' => ?_
    rw [← bind_pure (announce _ _ assembled)]
    exact .of_step rfl fun text hub => .refl _

theorem continued_ended (result : Except TemplateError Text × Hub) :
    continued (fun text => .ended (.ok text)) result = ⟨.ended result.1, result.2⟩ := by
  obtain ⟨outcome, hub⟩ := result
  cases outcome with
  | ok text => rfl
  | error error => rfl

/-- The steps of a load come to what `load` gives. -/
theorem reaches_load (loader : Loader) (path : Text) (hub : Hub) :
    Reaches loader ⟨.begins path, hub⟩
      ⟨.ended (loader.load path hub).1, (loader.load path hub).2⟩ := by
  rw [← continued_ended, load]
  cases leads : TemplatePath.resolve [] path with
  | none => exact .of_throw (by rw [advance, leads])
  | some relative =>
    have opened : loader.advance (.begins path) =
        dispatch (pathEvent EventName.beforeAssemble (loader.fullPath relative)) >>=
          fun _ => pure (.opens relative []) := by
      rw [advance, leads]
    exact .of_step opened fun _ hub' => reaches_loadFile relative [] hub' (Nat.zero_add _)

/-! ## The include chain -/

/-- Where the file of a path stands. -/
def placeOf (loader : Loader) (path : TemplatePath) : List Text :=
  (loader.files.locate (loader.fullPath path)).toOption.getD []

/-- The paths of a chain are different files below the root, and there are not too many. -/
structure Chained (loader : Loader) (chain : List TemplatePath) : Prop where
  nodup : chain.Nodup
  ordinary : ∀ file ∈ chain, file.Ordinary
  there : ∀ file ∈ chain, loader.files.isFile (loader.fullPath file) = true
  short : chain.length ≤ loader.maxIncludeDepth + 1

namespace Chained

variable {chain : List TemplatePath}

theorem nil (loader : Loader) : Chained loader [] where
  nodup := List.nodup_nil
  ordinary := fun _ none => absurd none List.not_mem_nil
  there := fun _ none => absurd none List.not_mem_nil
  short := Nat.zero_le _

theorem push (chained : Chained loader chain) (ordinary : path.Ordinary)
    (there : loader.files.isFile (loader.fullPath path) = true) (new : path ∉ chain)
    (fits : chain.length ≤ loader.maxIncludeDepth) : Chained loader (chain ++ [path]) where
  nodup := List.nodup_append'.2
    ⟨chained.nodup, List.nodup_singleton path, List.disjoint_singleton.2 new⟩
  ordinary := List.forall_mem_append.2 ⟨chained.ordinary, List.forall_mem_singleton.2 ordinary⟩
  there := List.forall_mem_append.2 ⟨chained.there, List.forall_mem_singleton.2 there⟩
  short := by
    rw [List.length_append, List.length_singleton]
    omega

theorem pop (chained : Chained loader (chain ++ [path])) : Chained loader chain where
  nodup := (List.nodup_append'.1 chained.nodup).1
  ordinary := fun file member => chained.ordinary file (List.mem_append_left _ member)
  there := fun file member => chained.there file (List.mem_append_left _ member)
  short := by
    have longer := chained.short
    rw [List.length_append] at longer
    omega

/-- Different paths of a chain lead to different places, so there are as many files. -/
theorem length_le_files (chained : Chained loader chain) :
    chain.length ≤ loader.files.filePlaces.length := by
  have places : ∀ file ∈ chain, ∃ place ∈ loader.files.filePlaces,
      loader.files.locate (loader.fullPath file) = .ok place := fun file member =>
    FileTree.exists_filePlace (chained.there file member)
  have located : ∀ file ∈ chain,
      loader.files.locate (loader.fullPath file) = .ok (loader.placeOf file) := by
    intro file member
    obtain ⟨place, -, found⟩ := places file member
    rw [placeOf, found]
    rfl
  have apart : (chain.map loader.placeOf).Nodup := by
    refine chained.nodup.map_on fun file member other memberOther same => ?_
    exact eq_of_locate (chained.ordinary file member) (chained.ordinary other memberOther)
      (located file member) (same ▸ located other memberOther)
  have inside : chain.map loader.placeOf ⊆ loader.files.filePlaces := by
    intro place member
    obtain ⟨file, memberFile, rfl⟩ := List.mem_map.1 member
    obtain ⟨place, standing, found⟩ := places file memberFile
    obtain rfl := Except.ok.inj ((located file memberFile).symm.trans found)
    exact standing
  rw [← List.length_map loader.placeOf]
  exact (List.subperm_of_subset apart inside).length_le

end Chained

/-- The open files are chained, and a file that is to be opened has ordinary names. -/
def Stage.Sound (loader : Loader) : Stage → Prop
  | .opens path around => path.Ordinary ∧ Chained loader (chainOf around)
  | .expands file around => Chained loader (chainOf (file :: around))
  | .begins _ | .ended _ => True

theorem Stage.Sound.chain (sound : stage.Sound loader) : Chained loader stage.chain := by
  cases stage with
  | opens path around => exact sound.2
  | expands file around => exact sound
  | begins path => exact .nil loader
  | ended outcome => exact .nil loader

/-- Only a file is read. -/
theorem isFile_of_readTemplate {content : Text}
    (read : loader.readTemplate path hub = (.ok content, hub')) :
    loader.files.isFile (loader.fullPath path) = true := by
  by_contra missing
  rw [readTemplate, if_neg missing] at read
  cases read

/-- A step opens one file more, or it closes the innermost one, or it leaves the chain. -/
theorem Stage.Sound.advance (sound : stage.Sound loader)
    (done : loader.advance stage hub = (.ok stage', hub')) : stage'.Sound loader := by
  cases stage with
  | begins path =>
    rw [Loader.advance] at done
    cases leads : TemplatePath.resolve [] path with
    | none =>
      rw [leads] at done
      cases done
    | some relative =>
      rw [leads] at done
      obtain ⟨event, between, -, opened⟩ := parts_of_bind_ok done
      cases opened
      exact ⟨TemplatePath.ordinary_of_resolve TemplatePath.ordinary_nil leads, .nil loader⟩
  | opens path around =>
    obtain ⟨ordinary, chained⟩ := sound
    by_cases member : path ∈ chainOf around
    · rw [advance_of_mem member] at done
      cases done
    by_cases deep : loader.maxIncludeDepth < (chainOf around).length
    · rw [advance_of_deep member deep] at done
      cases done
    have fits := Nat.le_of_not_lt deep
    rw [advance_of_new member fits] at done
    obtain ⟨content, between, read, opened⟩ := parts_of_bind_ok done
    cases opened
    rw [Stage.Sound, chainOf_cons]
    exact chained.push ordinary (isFile_of_readTemplate read) member fits
  | expands file around =>
    obtain ⟨path, made, rest⟩ := file
    cases rest with
    | nil =>
      rw [Loader.advance] at done
      obtain ⟨text, between, -, closed⟩ := parts_of_bind_ok done
      cases closed
      rw [Stage.Sound, chainOf_cons] at sound
      cases around with
      | nil => trivial
      | cons outer further => exact sound.pop
    | cons segment rest =>
      cases segment with
      | plain chars =>
        cases done
        exact sound
      | directive target =>
        rw [Loader.advance] at done
        cases leads : TemplatePath.resolve path.directory target with
        | none =>
          rw [leads] at done
          cases done
        | some inner =>
          rw [leads] at done
          cases done
          have ordinary : path.Ordinary := sound.ordinary path (by simp [chainOf])
          exact ⟨TemplatePath.ordinary_of_resolve ordinary.directory leads, sound⟩
  | ended outcome =>
    cases done
    trivial

theorem Stage.Sound.next (sound : moment.stage.Sound loader) :
    (loader.next moment).stage.Sound loader := by
  obtain ⟨stage, hub⟩ := moment
  cases done : loader.advance stage hub with
  | mk outcome hub' =>
    cases outcome with
    | ok stage' =>
      rw [next_of_ok done]
      exact sound.advance done
    | error error =>
      rw [next_of_error done]
      trivial

theorem Stage.Sound.steps (sound : moment.stage.Sound loader) (steps : Nat) :
    (loader.next^[steps] moment).stage.Sound loader := by
  induction steps with
  | zero => exact sound
  | succ steps ih =>
    rw [Function.iterate_succ_apply']
    exact ih.next

end Loader

/-- The steps of a load come to an end, at what `load` gives, whatever the files and the listeners
do.  Between any two steps the include chain holds different files below the root, and there are no
more of them than the limit allows or than there are files. -/
theorem load_ends (loader : Loader) (path : Text) (hub : Hub) :
    (∃ steps, loader.next^[steps] ⟨.begins path, hub⟩ =
      ⟨.ended (loader.load path hub).1, (loader.load path hub).2⟩) ∧
    ∀ steps, loader.Chained (loader.next^[steps] ⟨.begins path, hub⟩).stage.chain ∧
      (loader.next^[steps] ⟨.begins path, hub⟩).stage.chain.length ≤
        loader.files.filePlaces.length := by
  refine ⟨Loader.reaches_load loader path hub, fun steps => ?_⟩
  have begun : (Loader.Moment.mk (.begins path) hub).stage.Sound loader := trivial
  have chained := (begun.steps steps).chain
  exact ⟨chained, chained.length_le_files⟩

/-- Two files that include nothing. -/
def circlingLoader : Loader where
  root := ['t']
  maxIncludeDepth := 18446744073709551615
  files :=
    { nodes := [([['t']], .directory), ([['t'], ['a']], .file (.text ['1'])),
        ([['t'], ['b']], .file (.text ['2']))] }

/-- A listener that makes each of the files include the other one. -/
def circlingHub : Hub where
  registry := ({} : Registry Listener).register EventName.afterLoad
    (Listener.ofChange (Event.rewritten fun path text =>
      if path = "t/a".toList then text ++ "<!-- INCLUDE \"b\" -->".toList
      else text ++ "<!-- INCLUDE \"a\" -->".toList)) 1 false

/-- After five steps both files are open, and the load ends when the first one is to be opened
again. -/
theorem load_ends_circling :
    (circlingLoader.next^[5] ⟨.begins ['a'], circlingHub⟩).stage.chain = [[['a']], [['b']]] ∧
      circlingLoader.Chained [[['a']], [['b']]] ∧
      ∃ steps outcome, (circlingLoader.next^[steps] ⟨.begins ['a'], circlingHub⟩).stage =
        .ended outcome ∧
        outcome.mapError TemplateError.message = .error "template include cycle at t/a".toList := by
  obtain ⟨⟨steps, ends⟩, chained⟩ := load_ends circlingLoader ['a'] circlingHub
  have opened : (circlingLoader.next^[5] ⟨.begins ['a'], circlingHub⟩).stage.chain =
      [[['a']], [['b']]] := by decide +kernel
  refine ⟨opened, opened ▸ (chained 5).1, steps, _, congrArg Loader.Moment.stage ends, ?_⟩
  decide +kernel

end PageTemplates
