import PageTemplates.Event.Script
import PageTemplates.Page

/-!
# Runs of pages

A page changes by commands.  A run is a list of commands; a command that fails
changes what it changes and the run goes on.  Files may change between two
commands, so a run works on a page and a file tree.
-/

namespace PageTemplates

/-- A step of a run. -/
inductive PageCommand where
  /-- Assign a text to a namespace. -/
  | assign (name value : Text)
  | unassign (name : Text)
  /-- Declare a static template in a file. -/
  | define (name path : Text)
  /-- Declare a static template by its text. -/
  | defineInline (name content : Text)
  /-- Declare a dynamic template in a file or as a block. -/
  | defineDynamic (name value : Text)
  /-- Declare a dynamic template by its text. -/
  | defineDynamicInline (name content : Text)
  /-- Replace what the last parse left. -/
  | replaceLast (content : Text) (name : Option Text)
  /-- Move the template root. -/
  | setRoot (root : Text)
  /-- Parse a template into a namespace. -/
  | parse (target name : Text)
  | ask (operation : Operation)
  /-- Write a file, with the directories on the way. -/
  | putFile (path : Text) (contents : Contents)
  | deleteFile (path : Text)

/-- A page and the files it is rendered from. -/
structure Site where
  files : FileTree
  page : Page

namespace Site

/-- What a command answers. -/
inductive Answer where
  | done
  | failed (error : TemplateError)
  | replied (reply : Reply)

/-- Changes the page. -/
def onPage (change : Page → Page) (site : Site) : Answer × Site :=
  (.done, { site with page := change site.page })

/-- Performs a command. -/
def perform (site : Site) : PageCommand → Answer × Site
  | .assign name value => site.onPage (Page.assign name value)
  | .unassign name => site.onPage (Page.unassign name)
  | .define name path => site.onPage (Page.define name path)
  | .defineInline name content => site.onPage (Page.defineInline name content)
  | .defineDynamic name value => site.onPage (Page.defineDynamic name value)
  | .defineDynamicInline name content => site.onPage (Page.defineDynamicInline name content)
  | .replaceLast content name => site.onPage (Page.replaceLast content name)
  | .setRoot root =>
    match site.page.setRoot root site.files with
    | .ok page => (.done, { site with page := page })
    | .error error => (.failed error, site)
  | .parse target name =>
    match Page.parse site.files target name site.page with
    | (.ok _, page) => (.done, { site with page := page })
    | (.error error, page) => (.failed error, { site with page := page })
  | .ask operation =>
    let (reply, hub) := Hub.performOperation operation site.page.hub
    (.replied reply, { site with page := { site.page with hub := hub } })
  | .putFile path contents =>
    (.done, { site with files := site.files.place path (.file contents) })
  | .deleteFile path => (.done, { site with files := site.files.delete path })

/-- Performs commands in order and collects the answers. -/
def run (site : Site) : List PageCommand → List Answer × Site
  | [] => ([], site)
  | command :: rest =>
    let (answer, site) := site.perform command
    let (answers, site) := site.run rest
    (answer :: answers, site)

end Site

end PageTemplates
