import PageTemplates.Text

/-!
# Well-known events

Any text may name an event.  These are the names that page scripts, the
template engine and their listeners agree on.
-/

namespace PageTemplates

namespace EventName

/-! ## Events of the template engine -/

/-- A template is about to be parsed.  Parameters: `pname`, `tname`. -/
def parseTemplate : Text := "onParseTemplate".toList

/-- A template file and its includes are about to be put together.  Parameter: `templatePath`. -/
def beforeAssemble : Text := "onBeforeAssembleTemplateFiles".toList

/-- A file is about to be read.  Parameter: `templatePath`. -/
def beforeLoad : Text := "onBeforeLoadTemplateFile".toList

/-- A file was read.  Parameters: `templatePath`, `templateContent`. -/
def afterLoad : Text := "onAfterLoadTemplateFile".toList

/-- A file and its includes were put together.  Parameters: `templatePath`, `templateContent`. -/
def afterAssemble : Text := "onAfterAssembleTemplateFiles".toList

/-! ## Events of the command line -/

/-- A page is about to be rendered.  Parameter: `manifest`. -/
def renderStart : Text := "onRenderStart".toList

/-- A page was rendered.  Parameters: `manifest`, `output`, `content`. -/
def renderEnd : Text := "onRenderEnd".toList

/-! ## All names -/

/-- The names that scripts agree on, grouped by subject: script life cycle,
authentication, provisioning, statements, user interface, templates and
rendering. -/
def all : List Text :=
  ["onLoginScriptStart",
    "onLoginScriptEnd",
    "onAdminScriptStart",
    "onAdminScriptEnd",
    "onResellerScriptStart",
    "onResellerScriptEnd",
    "onClientScriptStart",
    "onClientScriptEnd",
    "onBeforeAuthentication",
    "onAuthentication",
    "onAfterAuthentication",
    "onBeforeSetIdentity",
    "onBeforeAddFtp",
    "onAfterAddFtp",
    "onBeforeAddDomain",
    "onAfterAddDomain",
    "onBeforeAddDomainAlias",
    "onAfterAddDomainAlias",
    "onMoveCustomer",
    "onBeforeQueryPrepare",
    "onAfterQueryPrepare",
    "onBeforeQueryExecute",
    "onAfterQueryExecute",
    "onGetJsTranslations",
    "onParseTemplate",
    "onBeforeAssembleTemplateFiles",
    "onBeforeLoadTemplateFile",
    "onAfterLoadTemplateFile",
    "onAfterAssembleTemplateFiles",
    "onRenderStart",
    "onRenderEnd"].map String.toList

end EventName

end PageTemplates
