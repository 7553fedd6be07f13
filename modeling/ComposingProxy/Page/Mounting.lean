import ComposingProxy.Config.Basic
import ComposingProxy.Markup.Edit
import ComposingProxy.Page.Exchange
import ComposingProxy.Routing.Forwarding

/-!
# Mounting apps

Every app is mounted into the pages that it targets: its element takes the place of what
the container holds, and its bundle is loaded at the end of the body. The element of the
app that the path addresses gets the path inside that app.
-/

namespace ComposingProxy

namespace App

open Markup

/-- The target of an app on a page. One slash at the end of a path does not count. -/
def target? (app : App) (page : String) : Option AppTarget :=
  app.targets.find? fun target => Text.dropLastOf '/' target.path == Text.dropLastOf '/' page

/-- The element of a page that holds an app. -/
def container? (doc : Document) (target : AppTarget) : Option NodeId :=
  (doc.findId? target.containerId).or
    (if target.usesDefaultContainer then doc.find? "main" else none)

/-- The attributes of the element of an app; `routed` is the addressed alias and the path inside
it. -/
def elementAttrs (app : App) (routed : String × String) : List (String × String) :=
  ("id", app.appAlias) ::
    (if routed.1 = app.appAlias ∧ routed.2 ≠ "" then [("route-path", routed.2)] else [])

/-- The address of the bundle of an app. -/
def bundleAddress (app : App) : String :=
  Routing.joinPaths ("http:" ++ "//" ++ app.address) app.path

/-- Loads the bundle of an app at the end of the body, where there is one. -/
def addBundle (app : App) (doc : Document) : Document :=
  match doc.body? with
  | none => doc
  | some body =>
    let (script, doc) :=
      doc.createElement "script" [("type", "module"), ("src", app.bundleAddress)]
    doc.appendChild body script

/-- Puts the element of an app in the place of what a container holds. -/
def fill (app : App) (routed : String × String) (doc : Document) (container : NodeId) : Document :=
  let (element, doc) :=
    (doc.removeChildren container).createElement app.element (app.elementAttrs routed)
  doc.appendChild container element

/-- Mounts an app into a page, if the app targets it and the container is there. -/
def mount (page : String) (routed : String × String) (doc : Document) (app : App) : Document :=
  match (app.target? page).bind (container? doc) with
  | none => doc
  | some container => app.addBundle (app.fill routed doc container)

/-- Mounts apps into a page in order. -/
def mountAll (apps : List App) (sent : SentRequest) (doc : Document) : Document :=
  let headers := sent.request.headers
  let routed := (headers.lookUp Headers.appAliasField, headers.lookUp Headers.appSubpathField)
  apps.foldl (mount sent.routing.proxiedPath routed) doc

end App

end ComposingProxy
