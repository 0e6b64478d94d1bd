import PageTemplates.BlockListing
import PageTemplates.CommandError
import PageTemplates.Manifest

/-!
# The two commands

`render` applies a manifest to a new page and puts out a namespace or the last
parse, to standard output or to a file.  Nothing is put out before everything
has succeeded.  With tracing, a listener notes every event on the way.

`listBlocks` loads a template and lists its blocks.
-/

namespace PageTemplates

/-- What to render. -/
structure RenderRequest where
  manifest : Text
  /-- The file to write, or none for standard output. -/
  output : Option Text := none
  /-- The namespace to put out, in place of the one in the manifest. -/
  namespaceName : Option Text := none

/-- What a rendering did. -/
structure RenderResult where
  /-- What was written to standard output. -/
  printed : Text
  files : FileTree
  /-- The markers that stayed in divided templates. -/
  warnings : List MarkerWarning
  notes : List Note
  outcome : Except CommandError Unit

namespace Manifest

/-- Reads a manifest file. -/
def load (path : Text) (files : FileTree) : Except CommandError Manifest :=
  match files.read path with
  | .error cause => .error (.manifestUnreadable path cause)
  | .ok text =>
    match ofText text with
    | .ok manifest => .ok manifest
    | .error cause => .error (.manifestInvalid path cause)

end Manifest

namespace Render

/-- The events of a rendering. -/
def lifecycle : List Text :=
  [EventName.renderStart, EventName.parseTemplate, EventName.beforeAssemble, EventName.beforeLoad,
    EventName.afterLoad, EventName.afterAssemble, EventName.renderEnd]

/-- The listeners of a rendering. -/
def startHub (traced : Bool) : Hub :=
  if traced then (Hub.perform (.registerAll lifecycle Listener.trace defaultPriority) {}).2 else {}

/-- The parameter that holds the manifest file. -/
def manifestParam : Text := "manifest".toList

/-- The parameter that holds the text put out. -/
def contentParam : Text := "content".toList

/-- The parameter that holds the namespace put out. -/
def outputParam : Text := "output".toList

/-- The event that announces a rendering. -/
def startEvent (manifest : Text) : Event where
  name := EventName.renderStart
  params := [(manifestParam, .text manifest)]

/-- The event that announces what will be put out. -/
def endEvent (manifest : Text) (name : Option Text) (content : Text) : Event where
  name := EventName.renderEnd
  params :=
    [(contentParam, .text content), (manifestParam, .text manifest),
      (outputParam, (name.map Value.text).getD .null)]

/-- Applies a manifest and finds the text to put out. -/
def content (request : RenderRequest) (manifest : Manifest) (files : FileTree) :
    ExceptT CommandError (StateM Page) Text := do
  let _ ← rendering (Page.loading (Loader.dispatch (startEvent request.manifest)))
  rendering (manifest.apply files)
  let name := request.namespaceName.or manifest.output
  let page ← get
  match name.filter fun name => !page.namespaces.has name with
  | some missing => throw (.unassigned missing)
  | none => do
    let text := page.output name
    let event ← rendering (Page.loading (Loader.dispatch (endEvent request.manifest name text)))
    match event.param? contentParam with
    | some (.text rewritten) =>
      if rewritten = text then pure text
      else do
        modify (Page.replaceLast rewritten name)
        pure ((← get).output name)
    | _ => pure text
where
  /-- Runs an action on the page as part of a command. -/
  rendering {α : Type} (action : Rendering α) : ExceptT CommandError (StateM Page) α := fun page =>
    match action page with
    | (.ok result, page) => (.ok result, page)
    | (.error cause, page) => (.error (.template cause), page)

/-- The result of a rendering that put nothing out. -/
def failed (files : FileTree) (error : CommandError) : RenderResult :=
  ⟨[], files, [], [], .error error⟩

/-- Puts out a text. -/
def putOut (output : Option Text) (text : Text) (page : Page) (files : FileTree) : RenderResult :=
  match output with
  | none => ⟨text, files, page.warnings, page.hub.notes, .ok ()⟩
  | some path =>
    match files.write path (.text text) with
    | .ok files => ⟨[], files, page.warnings, page.hub.notes, .ok ()⟩
    | .error cause => ⟨[], files, page.warnings, page.hub.notes, .error (.outputFailed path cause)⟩

end Render

/-- Renders a page. -/
def render (settings : Settings) (request : RenderRequest) (traced : Bool) (files : FileTree) :
    RenderResult :=
  match Manifest.load request.manifest files with
  | .error error => Render.failed files error
  | .ok manifest =>
    match Page.create settings (Render.startHub traced) files with
    | .error error => Render.failed files (.template error)
    | .ok page =>
      match Render.content request manifest files page with
      | (.ok text, page) => Render.putOut request.output text page files
      | (.error error, page) => ⟨[], files, page.warnings, page.hub.notes, .error error⟩

/-- Lists the blocks of a template. -/
def listBlocks (settings : Settings) (template : Text) (format : ListingFormat) (files : FileTree) :
    Except CommandError Text :=
  match (settings.loader files).load template {} with
  | (.ok text, _) => .ok (Listing.print (Listing.ofDivision (divide text)) format)
  | (.error cause, _) => .error (.template cause)

end PageTemplates
