import PageTemplates.Event.Hub
import PageTemplates.Event.Name
import PageTemplates.Include
import PageTemplates.Settings

/-!
# Loading template files

Loading a file reads it and replaces every include directive by the file it
names, loaded in the same way.  The paths of directives count from the
directory of the file they stand in.

Every step is announced through the hub.  Listeners of the events that follow a
step may rewrite the text, and directives they add are followed too.

The files from the one loaded down to the one at hand form a chain.  A file may
not be on the chain twice, and the chain has a greatest length.  The recursion
is on what is left of that length, so loading ends whatever the files and the
listeners do.
-/

namespace PageTemplates

/-- An action that may fail and that dispatches events. -/
abbrev Loading := ExceptT TemplateError (StateM Hub)

/-- What loading depends on. -/
structure Loader where
  root : Text
  /-- How many files deep a file may be included. -/
  maxIncludeDepth : Nat
  files : FileTree

namespace Loader

/-- The parameter that holds the path of the file. -/
def pathParam : Text := "templatePath".toList

/-- The parameter that holds the text of the file. -/
def contentParam : Text := "templateContent".toList

/-- Dispatches an event and fails if the dispatch does. -/
def dispatch (event : Event) : Loading Event := fun hub =>
  let (outcome, hub) := Hub.dispatch event hub
  match outcome with
  | .ok event => (.ok event, hub)
  | .error cause => (.error (.event cause), hub)

/-- The event that announces a path. -/
def pathEvent (name path : Text) : Event := { name := name, params := [(pathParam, .text path)] }

/-- The event that announces a path and a text. -/
def contentEvent (name path content : Text) : Event :=
  { name := name, params := [(contentParam, .text content), (pathParam, .text path)] }

/-- Announces a text and takes back what the listeners made of it.  Without
listeners there is nothing to announce. -/
def announce (name path content : Text) : Loading Text := do
  if (← get).registry.hasListeners name then
    let event ← dispatch (contentEvent name path content)
    match event.param? contentParam with
    | some (.text rewritten) => pure rewritten
    | _ => pure content
  else pure content

/-- The path by which a template file is opened. -/
def fullPath (loader : Loader) (path : TemplatePath) : Text := Path.join loader.root path.text

/-- Replaces directives by what they name, in order. -/
def expand (load : TemplatePath → Loading Text) (directory : TemplatePath) :
    List Segment → Loading Text
  | [] => pure []
  | .plain chars :: rest => do
    let more ← expand load directory rest
    pure (chars ++ more)
  | .directive target :: rest =>
    match TemplatePath.resolve directory target with
    | none => throw (.pathEscapesRoot target)
    | some path => do
      let chars ← load path
      let more ← expand load directory rest
      pure (chars ++ more)

/-- Reads a file, if it is one. -/
def readTemplate (loader : Loader) (path : TemplatePath) : Loading Text := do
  let full := loader.fullPath path
  if loader.files.isFile full then
    let _ ← dispatch (pathEvent EventName.beforeLoad full)
    match loader.files.read full with
    | .ok content => announce EventName.afterLoad full content
    | .error cause => throw (.unreadable full cause)
  else throw (.fileNotFound full)

/-- Loads a file behind a chain of files that include it.  `levels` more files fit on the chain. -/
def loadFile (loader : Loader) : (levels : Nat) → (chain : List TemplatePath) → TemplatePath →
    Loading Text
  | 0, chain, path =>
    if path ∈ chain then throw (.includeCycle (loader.fullPath path))
    else throw (.includeDepth (loader.fullPath path) loader.maxIncludeDepth)
  | levels + 1, chain, path =>
    if path ∈ chain then throw (.includeCycle (loader.fullPath path))
    else do
      let content ← loader.readTemplate path
      let assembled ← expand (loadFile loader levels (chain ++ [path])) path.directory
        (Segment.ofText content)
      announce EventName.afterAssemble (loader.fullPath path) assembled

/-- Loads the template file at a path. -/
def load (loader : Loader) (path : Text) : Loading Text :=
  match TemplatePath.resolve [] path with
  | none => throw (.pathEscapesRoot path)
  | some relative => do
    let _ ← dispatch (pathEvent EventName.beforeAssemble (loader.fullPath relative))
    loader.loadFile (loader.maxIncludeDepth + 1) [] relative

end Loader

/-- The loader of some settings. -/
def Settings.loader (settings : Settings) (files : FileTree) : Loader :=
  ⟨settings.root, settings.maxIncludeDepth, files⟩

end PageTemplates
