import PageTemplates.Division
import PageTemplates.Loader
import PageTemplates.Substitution

/-!
# Pages

A page declares templates, assigns texts to namespaces and parses templates
into namespaces.

* A *static* template is a file or a text.  Parsing it replaces its placeholders.
* A *dynamic* template is a file or a text that is divided into blocks when it
  is first needed, or it is a block of another dynamic template.  The template
  at the end of the chain of parents is the *origin* of a block.

Dividing an origin stores its outline and the bodies of its blocks in one table
for the whole page, each block under its name and under its variable.  A
placeholder takes its value from the namespaces and, failing that, from this
table.  So a block that was never parsed shows its own body.

`Page.parse` announces itself before it does anything else.  A failure leaves
the namespaces as they were.
-/

namespace PageTemplates

/-- Where a static template comes from. -/
inductive StaticOrigin where
  | file (path : Text)
  /-- The declaration itself. -/
  | inline
  deriving DecidableEq, Repr

/-- A static template. -/
structure StaticTemplate where
  origin : StaticOrigin
  /-- Its text, once known. -/
  content : Option Text
  deriving DecidableEq, Repr

/-- Where a dynamic template comes from. -/
inductive DynamicOrigin where
  | file (path : Text)
  /-- The declaration itself. -/
  | inline
  /-- A block of another dynamic template. -/
  | block (parent : Text)
  deriving DecidableEq, Repr

/-- A dynamic template. -/
structure DynamicTemplate where
  origin : DynamicOrigin
  divided : Bool
  deriving DecidableEq, Repr

/-- A page. -/
structure Page where
  settings : Settings
  /-- The listeners. -/
  hub : Hub := {}
  statics : Table StaticTemplate := []
  dynamics : Table DynamicTemplate := []
  /-- The texts of dynamic templates and of all blocks. -/
  data : Table Text := []
  /-- The assigned and parsed texts. -/
  namespaces : Table Text := []
  /-- What the last parse of a template left in its namespace. -/
  last : Text := []
  /-- The markers that stayed in divided templates. -/
  warnings : List MarkerWarning := []

/-- An action on a page that may fail. -/
abbrev Rendering := ExceptT TemplateError (StateM Page)

namespace Page

/-- A page without templates. -/
def create (settings : Settings) (hub : Hub) (files : FileTree) : Except TemplateError Page :=
  match settings.validate files with
  | .ok _ => .ok { settings := settings, hub := hub }
  | .error error => .error error

/-- Moves the template root.  Templates loaded before stay loaded. -/
def setRoot (root : Text) (files : FileTree) (page : Page) : Except TemplateError Page :=
  let moved := { page.settings with root := root }
  match moved.validate files with
  | .ok _ => .ok { page with settings := moved }
  | .error error => .error error

/-! ## Namespaces -/

/-- Assigns a text to a namespace. -/
def assign (name value : Text) (page : Page) : Page :=
  { page with namespaces := page.namespaces.insert name value }

/-- Assigns texts one after the other. -/
def assignAll (pairs : List (Text × Text)) (page : Page) : Page :=
  pairs.foldl (fun page pair => page.assign pair.1 pair.2) page

/-- Drops a namespace. -/
def unassign (name : Text) (page : Page) : Page :=
  { page with namespaces := page.namespaces.erase name }

/-- The text of a namespace. -/
def namespace? (name : Text) (page : Page) : Option Text := page.namespaces.get? name

/-! ## Declarations -/

/-- Declares a static template in a file. -/
def define (name path : Text) (page : Page) : Page :=
  { page with statics := page.statics.insert name ⟨.file path, none⟩ }

/-- Declares a static template by its text. -/
def defineInline (name content : Text) (page : Page) : Page :=
  { page with statics := page.statics.insert name ⟨.inline, some content⟩ }

/-- Declares a dynamic template: in a file if the value is a path of a template
file, and otherwise as a block of the template that the value names. -/
def defineDynamic (name value : Text) (page : Page) : Page :=
  let origin :=
    if page.settings.isTemplateFile value then DynamicOrigin.file value else .block value
  { page with
    data := page.data.erase name
    dynamics := page.dynamics.insert name ⟨origin, false⟩ }

/-- Declares a dynamic template by its text. -/
def defineDynamicInline (name content : Text) (page : Page) : Page :=
  { page with
    data := page.data.insert name content
    dynamics := page.dynamics.insert name ⟨.inline, false⟩ }

/-! ## Origins -/

/-- Follows parents for a number of steps.  When the steps do not suffice, the
chain that starts at `start` runs in a circle. -/
def originWithin (dynamics : Table DynamicTemplate) (start : Text) :
    (steps : Nat) → (name : Text) → Except TemplateError Text
  | 0, _ => .error (.undefinedTemplate start)
  | steps + 1, name =>
    match dynamics.get? name with
    | none => .error (.undefinedTemplate name)
    | some template =>
      match template.origin with
      | .block parent => originWithin dynamics start steps parent
      | _ => .ok name

/-- The origin of a dynamic template.  A chain without a circle meets every
declared template at most once. -/
def findOrigin (dynamics : Table DynamicTemplate) (name : Text) : Except TemplateError Text :=
  originWithin dynamics name (dynamics.length + 1) name

/-! ## Dividing -/

/-- Stores the body of a block under its variable and under its name. -/
def storeBlock (data : Table Text) (block : Block) : Table Text :=
  (data.insert (Name.upper block.name) block.body).insert block.name block.body

/-- Stores a division under the name of its origin. -/
def storeDivision (origin : Text) (division : Division) (page : Page) : Page :=
  { page with
    data := (division.blocks.foldl storeBlock page.data).insert origin division.outline
    dynamics :=
      match page.dynamics.get? origin with
      | some template => page.dynamics.insert origin { template with divided := true }
      | none => page.dynamics
    warnings := page.warnings ++ division.warnings }

/-- Runs an action of the loader on the listeners of the page. -/
def loading {α : Type} (action : Loading α) : Rendering α := fun page =>
  let (outcome, hub) := action page.hub
  (outcome, { page with hub := hub })

/-- Loads a template file. -/
def loadFile (files : FileTree) (path : Text) : Rendering Text := do
  let page ← get
  loading ((page.settings.loader files).load path)

/-- The text of an origin as declared. -/
def rawText (files : FileTree) (origin : Text) : DynamicOrigin → Rendering Text
  | .file path => loadFile files path
  | .inline => do pure (((← get).data.get? origin).getD [])
  | .block _ => throw (.undefinedTemplate origin)

/-- Divides an origin if that has not been done. -/
def ensureDivided (files : FileTree) (origin : Text) : Rendering Unit := do
  match (← get).dynamics.get? origin with
  | none => throw (.undefinedTemplate origin)
  | some template =>
    if template.divided then pure ()
    else do
      let raw ← rawText files origin template.origin
      modify (storeDivision origin (divide raw))

/-! ## Parsing -/

/-- The value of a variable on a page. -/
def value? (page : Page) (name : Text) : Option Text :=
  (page.namespaces.get? name).or (page.data.get? name)

/-- Replaces the placeholders in a text. -/
def fill (text : Text) : Rendering Text := do
  let page ← get
  match substitute page.value? page.settings.maxSubstitutions text with
  | .ok filled => pure filled
  | .error error => throw error

/-- The text of a static template, loaded if that has not been done. -/
def staticText (files : FileTree) (name : Text) (template : StaticTemplate) : Rendering Text :=
  match template.content, template.origin with
  | none, .file path => do
    let content ← loadFile files path
    modify fun page =>
      { page with statics := page.statics.insert name { template with content := some content } }
    pure content
  | content, _ => pure (content.getD [])

/-- Renders a static template. -/
def renderStatic (files : FileTree) (name : Text) (template : StaticTemplate) : Rendering Text := do
  let content ← staticText files name template
  fill content

/-- The text stored under the name of a dynamic template. -/
def storedText (name origin : Text) : Rendering Text := do
  match (← get).data.get? name with
  | none => throw (.undefinedBlock name origin)
  | some text => pure text

/-- The text of a dynamic template: the outline of an origin or the body of a block. -/
def dynamicText (files : FileTree) (name : Text) : Rendering Text := do
  match findOrigin (← get).dynamics name with
  | .error error => throw error
  | .ok origin => do
    ensureDivided files origin
    storedText name origin

/-- Renders a dynamic template. -/
def renderDynamic (files : FileTree) (name : Text) : Rendering Text := do
  let text ← dynamicText files name
  fill text

/-- Puts a text into a namespace, behind what is there or in its place. -/
def write (target value : Text) (append : Bool) (page : Page) : Page :=
  if append then page.assign target (((page.namespace? target).getD []) ++ value)
  else page.assign target value

/-- A template name and whether its text is to be appended, which a dot in front says. -/
def splitName : Text → Bool × Text
  | '.' :: name => (true, name)
  | name => (false, name)

/-- Puts a rendered template into a namespace. -/
def finishParse (target text : Text) (append : Bool) (page : Page) : Page :=
  let page := page.write target text append
  { page with last := (page.namespace? target).getD [] }

/-- The event that announces a parse. -/
def parseEvent (target name : Text) : Event where
  name := EventName.parseTemplate
  params := [("pname".toList, .text target), ("tname".toList, .text name)]

/-- Renders a template or copies a namespace, once announced. -/
def parseNamed (files : FileTree) (target name : Text) (append : Bool) : Rendering Unit := do
  let page ← get
  match page.statics.get? name with
  | some template => do
    let text ← renderStatic files name template
    modify (finishParse target text append)
  | none =>
    if page.dynamics.has name then do
      let text ← renderDynamic files name
      modify (finishParse target text append)
    else
      match page.namespace? name with
      | some value => modify (write target value append)
      | none => throw (.undefinedTemplate name)

/-- Parses a template into a namespace. -/
def parse (files : FileTree) (target name : Text) : Rendering Unit := do
  let _ ← loading (Loader.dispatch (parseEvent target name))
  let (append, name) := splitName name
  parseNamed files target name append

/-! ## Output -/

/-- The text to put out: a namespace, empty when there is none, or the last parse. -/
def output (name : Option Text) (page : Page) : Text :=
  match name with
  | some name => (page.namespace? name).getD []
  | none => page.last

/-- Replaces what the last parse left, also in a namespace if it exists. -/
def replaceLast (content : Text) (name : Option Text) (page : Page) : Page :=
  let page :=
    match name with
    | some name => if page.namespaces.has name then page.assign name content else page
    | none => page
  { page with last := content }

end Page

end PageTemplates
