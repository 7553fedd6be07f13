import Mathlib.Control.Monad.Basic
import ComposingProxy.Gateway
import ComposingProxy.Proofs.Http.Stamps
import ComposingProxy.Proofs.Page.Composing
import ComposingProxy.Proofs.Page.Frame
import ComposingProxy.Proofs.Routing.Target

/-!
# The path inside an app

The path inside an app that a request addresses goes a long way to the element of the app: it
is stamped on the request to the site, read back from there, and written into the page. What
comes through is what can be read at every stage.

> `Gateway.routePath_mounted`: the element that is mounted for an app tells the path inside it
> exactly if the app is the addressed one, the path is not empty, and both the alias and the path
> are visible ASCII.

A field of a request can be sent with other characters, but they cannot be read, so a path that has
one is dropped (`Gateway.not_every_path_arrives`).
-/

namespace ComposingProxy

open Markup

/-! ## Through the fields of the request -/

namespace Headers

variable {headers : Headers} {name value : String}

/-- A value as it is read from a field: all of it, if it can be read, and nothing if not. -/
def legible (value : String) : String := if HeaderValue.isVisible value then value else ""

/-- A value is read whole if it is visible. -/
theorem legible_eq_self_iff : legible value = value ↔ HeaderValue.isVisible value = true := by
  unfold legible
  split
  · next hvisible => simp [hvisible]
  · next hhidden =>
    refine ⟨fun heq => ?_, fun hvisible => absurd hvisible hhidden⟩
    rw [← heq]
    rfl

/-- What is read from a field that a value was stamped on. -/
theorem lookUp_of_values_eq (hname : HeaderName.parse? name = some name)
    (h : headers.values name = sendable value) : headers.lookUp name = legible value := by
  rw [lookUp, hname, Option.bind_some, readable?, first?, h, sendable, legible]
  by_cases hvisible : HeaderValue.isVisible value = true
  · have hvalid := HeaderValue.isValid_of_isVisible hvisible
    by_cases hempty : value = ""
    · simp [hempty]
    · simp [hempty, hvalid, hvisible, Option.filter]
  · rw [if_neg hvisible]
    split
    · simp [hvisible, Option.filter]
    · rfl

/-- Without a `connection` field nothing is listed. -/
theorem listedNames_eq_nil (h : headers.values "connection" = []) : headers.listedNames = [] := by
  rw [listedNames, visible, h]
  rfl

end Headers

namespace Gateway

variable {gateway : Gateway} {request : Request} {client : Option IpAddress} {egress : IpAddress}
  {sent : SentRequest}

/-- What a request says of the addressed app when it is sent. -/
theorem exists_of_send (hsend : gateway.send request client egress = .ok sent) :
    sent.routing = .decode gateway.site.separator gateway.site.appendSlash
        (Text.Percent.decodeText request.uri.path) ∧
      sent.request.headers =
        (((request.headers.setForwarding request.host request.scheme client egress).setValid "host"
          gateway.site.authority).setRouting sent.routing).stripHopByHop.remove
            "accept-encoding" := by
  unfold send Site.forward at hsend
  cases htarget : gateway.site.target request.uri with
  | error cause =>
    rw [htarget] at hsend
    exact absurd hsend (by simp)
  | ok target =>
    rw [htarget] at hsend
    obtain rfl := Except.ok.inj hsend
    exact ⟨(Site.target_eq_ok htarget).1, rfl⟩

/-- What the transformers read of the addressed app is what can be read of it. -/
theorem routed_send (hsend : gateway.send request client egress = .ok sent)
    (hconnection : request.headers.values "connection" = []) :
    App.routed sent =
      (Headers.legible sent.routing.appAlias, Headers.legible sent.routing.subpath) := by
  obtain ⟨-, hheaders⟩ := exists_of_send hsend
  set stamped := ((request.headers.setForwarding request.host request.scheme client egress).setValid
    "host" gateway.site.authority).setRouting sent.routing with hstamped
  have hlisted : stamped.listedNames = [] := by
    refine Headers.listedNames_eq_nil ?_
    rw [hstamped, Headers.values_setRouting, Headers.values_setValid_of_ne (by decide),
      Headers.values_setForwarding_of_not_mem (by decide), hconnection]
    rfl
  have hvalues : ∀ name, name ∉ "accept-encoding" :: Headers.connectionFields →
      sent.request.headers.values name = stamped.values name := by
    intro name hname
    rw [List.mem_cons, not_or] at hname
    rw [hheaders, Headers.values_remove, if_neg (Ne.symm hname.1), Headers.values_stripHopByHop,
      hlisted, List.nil_append, if_neg hname.2]
  refine Prod.ext ?_ ?_
  · refine Headers.lookUp_of_values_eq (by decide) ?_
    rw [hvalues _ (by decide), hstamped, Headers.values_setRouting, Headers.routingStamps,
      List.lookup_cons_self, Option.getD_some]
  · refine Headers.lookUp_of_values_eq (by decide) ?_
    rw [hvalues _ (by decide), hstamped, Headers.values_setRouting, Headers.routingStamps,
      List.lookup_cons, beq_false_of_ne (by decide), List.lookup_cons_self, Option.getD_some]

end Gateway

/-! ## The element of an app -/

namespace App

/-- The element of an app tells the path inside it if the app is the addressed one and there is
such a path. -/
theorem attr?_elementAttrs (app : App) (routed : String × String) :
    (Element.ofTag app.element (app.elementAttrs routed)).attr? "route-path" =
      if routed.1 = app.appAlias ∧ routed.2 ≠ "" then some routed.2 else none := by
  unfold elementAttrs
  split
  · rfl
  · rfl

/-- The element of an app has the name that is configured. -/
theorem tag_elementAttrs (app : App) (routed : String × String) :
    (Element.ofTag app.element (app.elementAttrs routed)).tag = app.element := by
  unfold elementAttrs
  split
  · rfl
  · rfl

end App

/-! ## What nodes are stays through a run -/

namespace Markup.Document.KeepsData

variable {doc doc' : Document}

/-- The script of an app is made of a new node. -/
theorem addBundle (app : App) (doc : Document) : KeepsData doc (app.addBundle doc) := by
  unfold App.addBundle
  split
  · exact refl doc
  · exact appendCreated doc _ _

/-- Mounting an app changes no old data: what is in the container is only taken out. -/
theorem mount (page : String) (routed : String × String) (doc : Document) (app : App) :
    KeepsData doc (App.mount page routed doc app) := by
  unfold App.mount
  split
  · exact refl doc
  · next container _ =>
    have hfill : KeepsData doc (app.fill routed doc container) :=
      (removeChildren doc container).trans (appendCreated _ container _)
    exact hfill.trans (addBundle app _)

/-- Storing the modules leaves old data alone: the text of a script is a new node. -/
theorem storeModules {settings : ImportMapSettings} (h : settings.transform doc = .ok doc') :
    KeepsData doc doc' := by
  obtain ⟨script, page, map, hensure, -, rfl⟩ := ImportMapSettings.exists_of_transform_eq_ok h
  generalize (map.mergeImports settings.moduleImports).toJson = text
  have hscript : KeepsData doc page := by
    unfold ImportMapSettings.ensureScript at hensure
    split at hensure
    · obtain ⟨-, rfl⟩ := Prod.mk.inj (Except.ok.inj hensure)
      exact refl doc
    · split at hensure
      · exact absurd hensure (by simp)
      · obtain ⟨-, rfl⟩ := Prod.mk.inj (Except.ok.inj hensure)
        exact prependCreated doc _ _
  refine (hscript.trans (setText page script text)).trans ?_
  unfold ImportMapSettings.addModule
  split
  · exact refl _
  · split
    · exact refl _
    · exact appendFilled _ _ _ settings.moduleBody

theorem metadata (settings : MetaSettings) (separator : String) (doc : Document) :
    KeepsData doc (settings.transform separator doc) := by
  unfold MetaSettings.transform
  split
  · exact refl doc
  · exact appendCreated doc _ _

theorem insertCopies (doc source : Document) (place : NodeId) (nodes : List NodeId) :
    KeepsData doc (Navigation.insertCopies doc source place nodes) :=
  foldl (fun doc node => (copyWithin _ _ doc node).trans (insertBefore _ _ _)) nodes doc

/-- The items that are replaced keep their data. -/
theorem navigation (items : Navigation) (loggedIn : Bool) (doc : Document) :
    KeepsData doc (items.transform loggedIn doc) := by
  unfold Navigation.transform
  split
  · exact refl doc
  · exact (insertCopies doc _ _ _).trans (foldl detach _ _)

end Markup.Document.KeepsData

open Document

namespace Transformer

/-- No transformer makes another node of one that was there. -/
theorem keepsData_transform {transformer : Transformer} {exchange : Exchange} {doc doc' : Document}
    (h : transformer.transform exchange doc = .ok doc') : KeepsData doc doc' := by
  cases transformer with
  | modules settings => exact .storeModules h
  | mounting apps =>
    obtain rfl := Except.ok.inj h
    exact .foldl (fun doc app => .mount _ _ doc app) apps doc
  | metadata separator settings =>
    obtain rfl := Except.ok.inj h
    exact .metadata settings separator doc
  | navigation items =>
    cases items with
    | none =>
      obtain rfl := Except.ok.inj h
      exact .refl doc
    | some items =>
      obtain rfl := Except.ok.inj h
      exact .navigation items _ doc

end Transformer

/-- Whatever transformers work on a page, a number that was given out stands for the same data. -/
theorem TransformerChain.Passes.keepsData {exchange : Exchange} {transformers : List Transformer}
    {doc page : Document} (h : Passes exchange transformers doc page) : KeepsData doc page := by
  induction h with
  | done doc => exact .refl doc
  | skip _ _ ih => exact ih
  | step _ htransform _ ih => exact (Transformer.keepsData_transform htransform).trans ih

/-! ## Mounted elements -/

namespace TransformerChain

variable {exchange : Exchange} {transformers : List Transformer} {doc page : Document} {app : App}
  {node : NodeId}

/-- A page after some apps were mounted into it. -/
def mountFirst (exchange : Exchange) (apps : List App) (page : Document) : Document :=
  apps.foldl (App.mount exchange.sent.routing.proxiedPath (App.routed exchange.sent)) page

/-- While transformers work on a page, `node` is made as the element of an app: the app targets
the page, and its container is there when its turn comes. -/
inductive Mounts (exchange : Exchange) : List Transformer → Document → App → NodeId → Prop
  | intro {before after : List Transformer} {first rest : List App} {app : App}
      {doc page : Document} {container : NodeId} (hbefore : Passes exchange before doc page)
      (hcontainer : (app.target? exchange.sent.routing.proxiedPath).bind
        (App.container? (mountFirst exchange first page)) = some container) :
      Mounts exchange (before ++ .mounting (first ++ app :: rest) :: after) doc app
        ⟨(mountFirst exchange first page).size⟩

/-- The element that a mounted app gets. -/
theorem element?_mount {routed : String × String} {path : String} {container : NodeId}
    (hcontainer : (app.target? path).bind (App.container? doc) = some container) :
    (App.mount path routed doc app).Has ⟨doc.size⟩ ∧
      (App.mount path routed doc app).data ⟨doc.size⟩ =
        .element (.ofTag app.element (app.elementAttrs routed)) := by
  let data := NodeData.element (.ofTag app.element (app.elementAttrs routed))
  have hnode : ((doc.removeChildren container).create data).1 = ⟨doc.size⟩ :=
    congrArg NodeId.mk (IsForest.size_removeFirst container doc.size doc)
  have hcreated := has_created (doc.removeChildren container) data
  have hdata := data_created (doc.removeChildren container) data
  have hkeeps : KeepsData ((doc.removeChildren container).create data).2
      (App.mount path routed doc app) := by
    rw [App.mount, hcontainer]
    exact (KeepsData.appendChild _ container _).trans (.addBundle app _)
  rw [hnode] at hcreated hdata
  exact ⟨hkeeps.has hcreated, (hkeeps.data _ hcreated).trans hdata⟩

/-- The element that was made for an app is in the final page as it was made. -/
theorem Mounts.element?_eq (h : Mounts exchange transformers doc app node)
    (hhtml : exchange.headers.isHtml = true) (hpasses : Passes exchange transformers doc page) :
    page.element? node =
      some (.ofTag app.element (app.elementAttrs (App.routed exchange.sent))) := by
  cases h with
  | @intro before after first rest app doc mid container hbefore hcontainer =>
    have happlies : (Transformer.mounting (first ++ app :: rest)).applies exchange = true := by
      rw [Transformer.applies, hhtml]
      simp
    have hall := (hbefore.runAll_append _).symm.trans hpasses.runAll_eq
    rw [runAll, if_pos happlies] at hall
    have hafter : Passes exchange after (mountFirst exchange (first ++ app :: rest) mid) page :=
      runAll_eq_iff.mp hall
    have hlater : KeepsData (App.mount exchange.sent.routing.proxiedPath (App.routed exchange.sent)
        (mountFirst exchange first mid) app) page := by
      rw [mountFirst, List.foldl_append, List.foldl_cons] at hafter
      exact (KeepsData.foldl (fun doc app => .mount _ _ doc app) rest _).trans hafter.keepsData
    obtain ⟨hhas, hdata⟩ := element?_mount hcontainer
    rw [element?, hlater.data _ hhas, hdata]

end TransformerChain

/-! ## The whole way -/

namespace Gateway

/-- What the element of an app tells, in terms of what the request addresses. -/
theorem attr?_routePath_iff {app : App} {routing : RoutingContext} {value : String} :
    (Element.ofTag app.element (app.elementAttrs
        (Headers.legible routing.appAlias, Headers.legible routing.subpath))).attr?
          "route-path" = some value ↔
      value = routing.subpath ∧ value ≠ "" ∧ HeaderValue.isVisible value = true ∧
        app.appAlias = Headers.legible routing.appAlias := by
  rw [App.attr?_elementAttrs]
  dsimp only
  by_cases hvisible : HeaderValue.isVisible routing.subpath = true
  · have hpath : Headers.legible routing.subpath = routing.subpath := if_pos hvisible
    rw [hpath]
    constructor
    · intro h
      obtain ⟨⟨halias, hne⟩, hvalue⟩ := Option.ite_none_right_eq_some.mp h
      obtain rfl := Option.some.inj hvalue
      exact ⟨rfl, hne, hvisible, halias.symm⟩
    · rintro ⟨rfl, hne, -, halias⟩
      exact if_pos ⟨halias.symm, hne⟩
  · have hpath : Headers.legible routing.subpath = "" := if_neg hvisible
    rw [hpath, if_neg fun h => h.2 rfl]
    constructor
    · intro h
      exact absurd h (by simp)
    · rintro ⟨rfl, -, hread, -⟩
      exact absurd hread hvisible

/-- Where a response is composed, the element of an app that was mounted tells a path just when
the app is the one that the request addresses, as far as its alias can be read, and the path
is not empty and can be read. So the addressed app is told its path if that and the alias can be
read, and other apps are told none. -/
theorem routePath_mounted {gateway : Gateway} {request : Request} {client : Option IpAddress}
    {egress : IpAddress} {sent : SentRequest} {response out : Response} {app : App} {node : NodeId}
    (hsend : gateway.send request client egress = .ok sent)
    (hconnection : request.headers.values "connection" = [])
    (heligible : shouldTransform sent.request.method response.status response.headers = true)
    (hcompose : gateway.composer.compose sent response = .ok out)
    (hmounts : TransformerChain.Mounts (Composer.exchangeOf sent response)
      gateway.composer.chain.transformers (Document.ofBytes response.body) app node) :
    sent.routing = .decode gateway.site.separator gateway.site.appendSlash
        (Text.Percent.decodeText request.uri.path) ∧
      ∃ page element, TransformerChain.Passes (Composer.exchangeOf sent response)
          gateway.composer.chain.transformers (Document.ofBytes response.body) page ∧
        out.body = Text.Utf8.encode page.render.toList ∧
        page.element? node = some element ∧ element.tag = app.element ∧
        (∀ value, element.attr? "route-path" = some value ↔
          value = sent.routing.subpath ∧ value ≠ "" ∧ HeaderValue.isVisible value = true ∧
            app.appAlias = Headers.legible sent.routing.appAlias) ∧
        (app.appAlias = sent.routing.appAlias → sent.routing.subpath ≠ "" →
          (element.attr? "route-path" = some sent.routing.subpath ↔
            HeaderValue.isVisible sent.routing.appAlias = true ∧
              HeaderValue.isVisible sent.routing.subpath = true)) ∧
        (app.appAlias ≠ sent.routing.appAlias → app.appAlias ≠ "" →
          element.attr? "route-path" = none) := by
  have hhtml : response.headers.isHtml = true := by
    simp only [shouldTransform, Headers.isTransformable, Bool.and_eq_true] at heligible
    exact heligible.1.2.1
  obtain ⟨hrouting, -⟩ := exists_of_send hsend
  obtain ⟨page, hpasses, hcarries⟩ := Composer.exists_of_compose heligible hcompose
  -- the element is made with what is read of the two fields, and no transformer changes it later
  have helement := hmounts.element?_eq hhtml hpasses
  rw [Composer.exchangeOf, routed_send hsend hconnection] at helement
  refine ⟨hrouting, page, _, hpasses, hcarries.body, helement, app.tag_elementAttrs _,
    fun value => attr?_routePath_iff, fun halias hne => ?_, fun halias hne => ?_⟩
  · rw [attr?_routePath_iff, halias, eq_comm (b := Headers.legible _),
      Headers.legible_eq_self_iff]
    tauto
  · refine Option.eq_none_iff_forall_ne_some.mpr fun value hvalue => ?_
    obtain ⟨-, -, -, hread⟩ := attr?_routePath_iff.mp hvalue
    rw [Headers.legible] at hread
    split at hread
    · exact halias hread
    · exact hne hread

/-! ### A path that is read and one that is not -/

/-- An app on one page. -/
def mainApp : App :=
  { appAlias := "app1", address := "site.test", element := "app-one", path := "/app1.js"
    targets := [{ path := "/page" }] }

/-- The gateway in front of `http://site.test` that mounts the app. -/
def mainGateway : Gateway :=
  { sampleGateway with
    composer :=
      { chain := { transformers := [.mounting [mainApp]] }, maxDocumentBytes := 1000 } }

/-- A request for a path inside the app. -/
def mainRequest (path : String) : Request := { uri := { path := "/page/_/app1/" ++ path } }

/-- The request as it goes to the site. -/
def mainSent (path : String) : SentRequest :=
  (mainGateway.send (mainRequest path) none (.v4 0)).toOption.getD { request := {} }

/-- A response with the page that the app is mounted on. -/
def mainResponse : Response :=
  { headers := ⟨[("content-type", "text/html")]⟩, body := Text.Utf8.encode "<main>".toList }

/-- The element that the app gets. -/
def mainNode : NodeId := ⟨(Document.ofBytes mainResponse.body).size⟩

theorem mounts_main {sent : SentRequest} (hpage : sent.routing.proxiedPath = "/page") :
    TransformerChain.Mounts (Composer.exchangeOf sent mainResponse)
      mainGateway.composer.chain.transformers (Document.ofBytes mainResponse.body) mainApp
        mainNode := by
  have hcontainer : (mainApp.target? sent.routing.proxiedPath).bind
      (App.container? (Document.ofBytes mainResponse.body)) = some ⟨4⟩ := by
    rw [hpage]
    decide +kernel
  exact @TransformerChain.Mounts.intro _ [] [] [] [] mainApp _ _ ⟨4⟩ (.done _) hcontainer

/-- The page with the app in it. -/
def mainPage (sent : SentRequest) : Document :=
  App.mountAll [mainApp] sent (Document.ofBytes mainResponse.body)

theorem passes_main (sent : SentRequest) :
    TransformerChain.Passes (Composer.exchangeOf sent mainResponse)
      mainGateway.composer.chain.transformers (Document.ofBytes mainResponse.body)
        (mainPage sent) := by
  have hhtml : mainResponse.headers.isHtml = true := by decide +kernel
  exact .step (by rw [Transformer.applies, Composer.exchangeOf, hhtml]; rfl) rfl (.done _)

theorem exists_compose_main {sent : SentRequest} (hmethod : sent.request.method = "GET") :
    shouldTransform sent.request.method mainResponse.status mainResponse.headers = true ∧
      ∃ out, mainGateway.composer.compose sent mainResponse = .ok out := by
  have heligible :
      shouldTransform sent.request.method mainResponse.status mainResponse.headers = true := by
    rw [hmethod]
    decide +kernel
  obtain ⟨out, hout, -⟩ :=
    Composer.compose_of_passes heligible (by decide +kernel) (passes_main sent)
  exact ⟨heligible, out, hout⟩

theorem routePath_mounted_main :
    mainGateway.send (mainRequest "cafe") none (.v4 0) = .ok (mainSent "cafe") ∧
      ∃ (out : Response) (page : Document) (element : Element),
        mainGateway.composer.compose (mainSent "cafe") mainResponse = .ok out ∧
        out.body = Text.Utf8.encode page.render.toList ∧
        page.element? mainNode = some element ∧ element.attr? "route-path" = some "/cafe" := by
  have hsend : mainGateway.send (mainRequest "cafe") none (.v4 0) = .ok (mainSent "cafe") := by
    decide +kernel
  have hpage : (mainSent "cafe").routing.proxiedPath = "/page" := by decide +kernel
  have hmethod : (mainSent "cafe").request.method = "GET" := by decide +kernel
  obtain ⟨heligible, out, hcompose⟩ := exists_compose_main hmethod
  obtain ⟨-, page, element, -, hbody, helement, -, hexact, -⟩ :=
    routePath_mounted hsend rfl heligible hcompose (mounts_main hpage)
  exact ⟨hsend, out, page, element, hcompose, hbody, helement,
    (hexact "/cafe").mpr (by decide +kernel)⟩

/-- It is not so that the element of the addressed app is always told the path inside it, even
where it is still in the page at the end. -/
theorem not_every_path_arrives :
    ¬∀ (gateway : Gateway) (request : Request) (client : Option IpAddress) (egress : IpAddress)
      (sent : SentRequest) (response out : Response) (app : App) (node : NodeId) (page : Document),
      gateway.send request client egress = .ok sent →
      request.headers.values "connection" = [] →
      shouldTransform sent.request.method response.status response.headers = true →
      gateway.composer.compose sent response = .ok out →
      TransformerChain.Mounts (Composer.exchangeOf sent response)
        gateway.composer.chain.transformers (Document.ofBytes response.body) app node →
      TransformerChain.Passes (Composer.exchangeOf sent response)
        gateway.composer.chain.transformers (Document.ofBytes response.body) page →
      node ∈ page.subtree Document.root → app.appAlias = sent.routing.appAlias →
      sent.routing.subpath ≠ "" →
        (page.element? node).bind (·.attr? "route-path") = some sent.routing.subpath := by
  intro hall
  let sent := mainSent "caf%C3%A9"
  have hmethod : sent.request.method = "GET" := by decide +kernel
  obtain ⟨heligible, out, hcompose⟩ := exists_compose_main hmethod
  have hpath := hall mainGateway (mainRequest "caf%C3%A9") none (.v4 0) sent mainResponse out
    mainApp mainNode (mainPage sent) (by decide +kernel) rfl heligible hcompose
    (mounts_main (by decide +kernel)) (passes_main sent) (by decide +kernel) (by decide +kernel)
    (by decide +kernel)
  have hnone : ((mainPage sent).element? mainNode).bind (·.attr? "route-path") = none := by
    decide +kernel
  exact absurd (hnone.symm.trans hpath) (by simp)

end Gateway

end ComposingProxy
