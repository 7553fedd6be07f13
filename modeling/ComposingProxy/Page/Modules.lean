import ComposingProxy.Config.Basic
import ComposingProxy.Markup.Edit
import ComposingProxy.Page.ImportMap

/-!
# Modules of a page

The configured modules go into the import map of a page, which is made where there is
none, and a module that every page runs is put at the end of the body.
-/

namespace ComposingProxy

/-- Why the modules cannot be put into a page. -/
inductive ModulesError where
  | noHead
  /-- The text of the import map is no import map. -/
  | badImportMap
  deriving DecidableEq, Repr

/-- The wording of an error. -/
def ModulesError.message : ModulesError → String
  | .noHead => "document has no <head>"
  | .badImportMap => "invalid import map JSON"

namespace ImportMapSettings

open Markup

/-- Whether there is anything to put into pages. -/
def saysSomething (settings : ImportMapSettings) : Bool :=
  !settings.moduleImports.isEmpty || settings.moduleBody != ""

/-- The script that holds the import map of a page. -/
def script? (doc : Document) : Option NodeId :=
  doc.findWhere? "script" (fun element => element.attr? "type" == some "importmap") Document.root

/-- The script that holds the import map, made at the beginning of the head where there is
none. -/
def ensureScript (doc : Document) : Except ModulesError (NodeId × Document) :=
  match script? doc with
  | some script => .ok (script, doc)
  | none =>
    match doc.head? with
    | none => .error .noHead
    | some head =>
      let (script, doc) := doc.createElement "script" [("type", "importmap")]
      .ok (script, doc.prependChild head script)

/-- Puts the module that every page runs at the end of the body, where there is one. -/
def addModule (settings : ImportMapSettings) (doc : Document) : Document :=
  if settings.moduleBody = "" then doc
  else
    match doc.body? with
    | none => doc
    | some body =>
      let (script, doc) := doc.createElement "script" [("type", "module")]
      (doc.appendText script settings.moduleBody).appendChild body script

/-- Puts the configured modules into a page. -/
def transform (settings : ImportMapSettings) (doc : Document) : Except ModulesError Document := do
  let (script, doc) ← ensureScript doc
  match ImportMap.parse? (doc.collectText script) with
  | none => .error .badImportMap
  | some map =>
    let text := (map.mergeImports settings.moduleImports).toJson
    .ok (settings.addModule (doc.setText script text))

end ImportMapSettings

end ComposingProxy
