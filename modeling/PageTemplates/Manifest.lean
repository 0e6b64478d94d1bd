import PageTemplates.Page

/-!
# Manifests

A manifest is a TOML file that describes one rendering of a page: the templates
to declare, the namespaces to assign and the parses to make, each with its own
assignments.  Everything in it is optional but the target and the template of a
parse.

A parse is written as a table.  It may also be written as a list of its
assignments, its target and its template.
-/

namespace PageTemplates

/-- A parse and the assignments in front of it. -/
structure ParseStep where
  /-- What to assign first. -/
  assign : Table Text
  target : Text
  /-- The template, with a dot in front to append. -/
  template : Text

/-- A description of a rendering. -/
structure Manifest where
  /-- The namespace to put out, or the last parse if none is given. -/
  output : Option Text := none
  /-- Static templates in files. -/
  define : Table Text := []
  /-- Static templates by their texts. -/
  defineInline : Table Text := []
  /-- Dynamic templates in files or as blocks. -/
  defineDynamic : Table Text := []
  /-- What to assign before the first parse. -/
  assign : Table Text := []
  steps : List ParseStep := []

namespace ParseStep

/-- The key of the assignments. -/
def assignKey : Text := "assign".toList

/-- The key of the target. -/
def targetKey : Text := "target".toList

/-- The key of the template. -/
def templateKey : Text := "template".toList

/-- The known keys. -/
def keys : List Text := [assignKey, targetKey, templateKey]

/-- What a parse is called in messages. -/
def phrase : Text := "struct ParseStep".toList

/-- A parse as far as it has been read. -/
structure Draft where
  assign : Table Text := []
  target : Option Text := none
  template : Option Text := none

/-- How the data under a known key is read. -/
def field (key : Text) : Option (Toml → Draft → Except ReadError Draft) :=
  if key = assignKey then
    some fun data draft => data.readTexts.map fun assign => { draft with assign := assign }
  else if key = targetKey then
    some fun data draft => data.readText.map fun target => { draft with target := some target }
  else if key = templateKey then
    some fun data draft => data.readText.map fun template =>
      { draft with template := some template }
  else none

/-- The parse that has been read.  The target is asked for first. -/
def Draft.complete (draft : Draft) : Except ReadError ParseStep :=
  match draft.target, draft.template with
  | none, _ => .error (.missingField targetKey)
  | _, none => .error (.missingField templateKey)
  | some target, some template => .ok ⟨draft.assign, target, template⟩

/-- Reads a parse from a list.  Further items are ignored. -/
def ofItems : List Toml → Except ReadError ParseStep
  | [] => .error (.tooShort 1 (phrase ++ " with 3 elements".toList))
  | [assign] => do
    let _ ← assign.readTexts
    .error (.tooShort 1 (phrase ++ " with 3 elements".toList))
  | [assign, target] => do
    let _ ← assign.readTexts
    let _ ← target.readText
    .error (.tooShort 2 (phrase ++ " with 3 elements".toList))
  | assign :: target :: template :: _ => do
    let assign ← assign.readTexts
    let target ← target.readText
    let template ← template.readText
    .ok ⟨assign, target, template⟩

/-- Reads a parse. -/
def read : Toml.Shape ParseStep
  | .array _ items => ofItems items
  | data =>
    match data.entries? with
    | some entries => do
      let draft ← Toml.readFields keys field entries {}
      draft.complete
    | none => .error (.wrongType data.found phrase)

end ParseStep

namespace Manifest

/-! ## Reading manifests -/

/-- The key of the output. -/
def outputKey : Text := "output".toList

/-- The key of the static templates in files. -/
def defineKey : Text := "define".toList

/-- The key of the static templates by their texts. -/
def defineInlineKey : Text := "define_inline".toList

/-- The key of the dynamic templates. -/
def defineDynamicKey : Text := "define_dynamic".toList

/-- The key of the assignments. -/
def assignKey : Text := "assign".toList

/-- The key of the parses. -/
def stepsKey : Text := "parse".toList

/-- The known keys. -/
def keys : List Text :=
  [outputKey, defineKey, defineInlineKey, defineDynamicKey, assignKey, stepsKey]

/-- How the data under a known key is read. -/
def field (key : Text) : Option (Toml → Manifest → Except ReadError Manifest) :=
  if key = outputKey then
    some fun data manifest => data.readText.map fun output =>
      { manifest with output := some output }
  else if key = defineKey then
    some fun data manifest => data.readTexts.map fun texts => { manifest with define := texts }
  else if key = defineInlineKey then
    some fun data manifest => data.readTexts.map fun texts =>
      { manifest with defineInline := texts }
  else if key = defineDynamicKey then
    some fun data manifest => data.readTexts.map fun texts =>
      { manifest with defineDynamic := texts }
  else if key = assignKey then
    some fun data manifest => data.readTexts.map fun texts => { manifest with assign := texts }
  else if key = stepsKey then
    some fun data manifest =>
      (Toml.readList ParseStep.read data).map fun steps => { manifest with steps := steps }
  else none

/-- Reads a manifest from a TOML text. -/
def ofText (text : Text) : Except TomlError Manifest :=
  match Toml.document? text with
  | none => .error .notToml
  | some entries =>
    match Toml.readFields keys field entries {} with
    | .ok manifest => .ok manifest
    | .error cause => .error (.shape cause)

/-! ## Applying manifests -/

/-- Makes the declarations and assignments of a manifest. -/
def declare (manifest : Manifest) (page : Page) : Page :=
  let page := manifest.define.foldl (fun page entry => page.define entry.1 entry.2) page
  let page := manifest.defineInline.foldl (fun page entry => page.defineInline entry.1 entry.2) page
  let page :=
    manifest.defineDynamic.foldl (fun page entry => page.defineDynamic entry.1 entry.2) page
  page.assignAll manifest.assign

/-- Makes parses in order, up to the first that fails. -/
def parseSteps (files : FileTree) : List ParseStep → Rendering Unit
  | [] => pure ()
  | step :: rest => do
    modify (Page.assignAll step.assign)
    Page.parse files step.target step.template
    parseSteps files rest

/-- Applies a manifest to a page. -/
def apply (manifest : Manifest) (files : FileTree) : Rendering Unit := do
  modify manifest.declare
  parseSteps files manifest.steps

end Manifest

end PageTemplates
