import ComposingProxy.Proofs.Page.RoutePath

/-!
# Which apps stay mounted

An app is mounted into what its container is when its turn comes, and that is emptied first. So
what an app finds in its container may be the element of an app that was mounted before it.
That element leaves the page with the rest, while the bundle of its app is loaded all the same.

> `App.exists_loads_iff`: a bundle is loaded just if the app has a container and the page a body.
> `App.isMountedAt_mountAll`: the element of an app whose bundle is loaded is under its container at
> the end just if no later app is mounted into that container or into a node around it.

Nothing is asked of the aliases: two apps that share a container are enough for the first one to be
lost, whatever they are called (`App.not_every_app_stays`).
-/

namespace ComposingProxy

open Markup Document

namespace App

variable {page : String} {routed : String × String} {doc : Document} {app : App}
  {node container : NodeId}

/-! ## Emptied nodes -/

/-- Whether an app that is mounted into a page empties a node: its container is the node or lies
around it. -/
def empties (app : App) (page : String) (doc : Document) (x : NodeId) : Bool :=
  match (app.target? page).bind (container? doc) with
  | none => false
  | some container => doc.isInside x container

/-- Whether one of several apps that are mounted one after the other empties a node. -/
def emptiesAny (page : String) (routed : String × String) :
    List App → Document → NodeId → Bool
  | [], _, _ => false
  | app :: rest, doc, x =>
    app.empties page doc x || emptiesAny page routed rest (mount page routed doc app) x

/-- An app owns the children of what it empties. -/
theorem owns_eq_empties (h : doc.WellFormed) (hparent : doc.parent? node = some container) :
    app.owns page doc node = app.empties page doc container := by
  unfold owns empties
  cases (app.target? page).bind (container? doc) with
  | none => rfl
  | some other =>
    dsimp only
    rw [Bool.eq_iff_iff, h.isBelow_iff, h.isInside_iff, Relation.TransGen.tail'_iff]
    constructor
    · rintro ⟨holder, hwithin, hholder⟩
      obtain rfl : container = holder := Option.some.inj (hparent.symm.trans hholder)
      exact hwithin
    · intro hwithin
      exact ⟨container, hwithin, hparent⟩

/-- A child is owned by one of several apps if one of them empties the node that holds it. -/
theorem ownsAll_eq_emptiesAny (routed : String × String) : ∀ (apps : List App) {doc : Document},
    doc.WellFormed → doc.parent? node = some container →
      ownsAll page routed apps doc node = emptiesAny page routed apps doc container := by
  intro apps
  induction apps with
  | nil => intro doc _ _; rfl
  | cons app rest ih =>
    intro doc h hparent
    have hfirst : app.owns page doc node = app.empties page doc container :=
      owns_eq_empties h hparent
    rw [ownsAll, emptiesAny, hfirst]
    cases hempties : app.empties page doc container with
    | true => rfl
    | false =>
      -- the child is still there, so the other apps see the same two nodes
      have hkeeps := app.keeps_mount page routed h
      have hsame := hkeeps.parent_of_eq_false (has_of_parent? hparent) (hfirst.trans hempties)
      rw [Bool.false_or, Bool.false_or, ih hkeeps.wellFormed (hsame.trans hparent)]

/-! ## Mounting one app -/

/-- The element of an app is in a page, under a container. -/
structure IsMountedAt (app : App) (doc : Document) (container node : NodeId) : Prop where
  inTree : doc.InTree node
  parent : doc.parent? node = some container
  element : ∃ element, doc.element? node = some element ∧ element.tag = app.element ∧
    element.attr? "id" = some app.appAlias

/-- While an app is mounted into a page, a script is made for its bundle and put somewhere. -/
def Loads (app : App) (page : String) (routed : String × String) (doc : Document)
    (script : NodeId) : Prop :=
  ¬doc.Has script ∧ ((mount page routed doc app).parent? script).isSome = true ∧
    (mount page routed doc app).data script =
      .element (.ofTag "script" [("type", "module"), ("src", app.bundleAddress)])

instance (app : App) (page : String) (routed : String × String) (doc : Document)
    (script : NodeId) : Decidable (app.Loads page routed doc script) :=
  inferInstanceAs (Decidable (_ ∧ _ ∧ _))

theorem attr?_id_elementAttrs (app : App) (routed : String × String) :
    (Element.ofTag app.element (app.elementAttrs routed)).attr? "id" = some app.appAlias := by
  unfold elementAttrs
  split
  · rfl
  · rfl

/-- Filling a container makes one node. -/
theorem size_fill (app : App) (routed : String × String) (doc : Document) (container : NodeId) :
    (app.fill routed doc container).size = doc.size + 1 := by
  have hfilled := size_appendCreated (doc.removeChildren container) container
    (.element (.ofTag app.element (app.elementAttrs routed)))
  rwa [Document.removeChildren, IsForest.size_removeFirst] at hfilled

/-- A page stays well formed when a container is filled, and the container holds the new element. -/
theorem parent?_fill (h : doc.WellFormed) (hcontainer : doc.Has container) (app : App)
    (routed : String × String) :
    (app.fill routed doc container).WellFormed ∧
      (app.fill routed doc container).parent? ⟨doc.size⟩ = some container := by
  let data := NodeData.element (.ofTag app.element (app.elementAttrs routed))
  have hemptied := h.removeChildren container
  have hhas := hcontainer.removeChildren container
  have hnode : ((doc.removeChildren container).create data).1 = ⟨doc.size⟩ :=
    congrArg NodeId.mk (IsForest.size_removeFirst container doc.size doc)
  have hlinked := IsForest.appendChild_linkedIn (hemptied.create data) (has_create _ data hhas)
    (has_created _ data)
  refine ⟨hemptied.appendCreated hhas data, ?_⟩
  rw [← hnode]
  exact (hlinked.parent _).trans (if_pos rfl)

/-- A bundle is loaded only for an app whose container is there. -/
theorem Loads.exists_container {script : NodeId} (h : app.Loads page routed doc script) :
    ∃ container, (app.target? page).bind (container? doc) = some container := by
  obtain ⟨hnew, hparent, -⟩ := h
  cases htarget : (app.target? page).bind (container? doc) with
  | some container => exact ⟨container, rfl⟩
  | none =>
    rw [mount, htarget] at hparent
    obtain ⟨holder, hholder⟩ := Option.isSome_iff_exists.mp hparent
    exact absurd (has_of_parent? hholder) hnew

/-- Where there is a body, a bundle gets a new script in it. -/
theorem addBundle_of_body? {body : NodeId} (h : doc.WellFormed) (hbody : doc.body? = some body)
    (app : App) : ∃ script, ¬doc.Has script ∧ (app.addBundle doc).parent? script = some body ∧
      (app.addBundle doc).data script =
        .element (.ofTag "script" [("type", "module"), ("src", app.bundleAddress)]) := by
  let data := NodeData.element
    (.ofTag "script" [("type", "module"), ("src", app.bundleAddress)])
  have hadd : app.addBundle doc = (doc.create data).2.appendChild body (doc.create data).1 := by
    rw [addBundle, hbody]
    rfl
  have hlinked := IsForest.appendChild_linkedIn (h.create data)
    (has_create _ data (h.inTree_of_findWhere? hbody).1) (has_created _ data)
  refine ⟨(doc.create data).1, not_has_created doc data, ?_, ?_⟩
  · rw [hadd, hlinked.parent, if_pos rfl]
  · rw [hadd, data_appendChild, data_created]

/-- A bundle is loaded for every app whose container is there, if the page then has a body. -/
theorem exists_loads (h : doc.WellFormed)
    (hcontainer : (app.target? page).bind (container? doc) = some container)
    (hbody : (app.fill routed doc container).body?.isSome = true) :
    ∃ script, app.Loads page routed doc script := by
  obtain ⟨target, -, hfound⟩ := Option.bind_eq_some_iff.mp hcontainer
  obtain ⟨hwell, -⟩ := parent?_fill h (inTree_of_container? h hfound).1 app routed
  obtain ⟨body, hbody⟩ := Option.isSome_iff_exists.mp hbody
  obtain ⟨script, hnew, hparent, hdata⟩ := addBundle_of_body? hwell hbody app
  have hkeeps : KeepsData doc (app.fill routed doc container) :=
    (KeepsData.removeChildren doc container).trans (.appendCreated _ container _)
  have hmount : mount page routed doc app = app.addBundle (app.fill routed doc container) := by
    rw [mount, hcontainer]
  refine ⟨script, fun hold => hnew (hkeeps.has hold), ?_, ?_⟩
  · rw [hmount, hparent]
    rfl
  · rw [hmount, hdata]

/-- For no other app a bundle is loaded: without a body nothing is added but the element of the app,
and that has a name of its own, which a script has not. -/
theorem exists_loads_iff (h : doc.WellFormed) : (∃ script, app.Loads page routed doc script) ↔
    ∃ container, (app.target? page).bind (container? doc) = some container ∧
      (app.fill routed doc container).body?.isSome = true := by
  constructor
  · rintro ⟨script, hloads⟩
    obtain ⟨container, hcontainer⟩ := hloads.exists_container
    refine ⟨container, hcontainer, ?_⟩
    cases hbody : (app.fill routed doc container).body? with
    | some body => rfl
    | none =>
      have hmount : mount page routed doc app = app.fill routed doc container := by
        rw [mount, hcontainer]
        dsimp only
        rw [addBundle, hbody]
      obtain ⟨hnew, hparent, hdata⟩ := hloads
      obtain ⟨holder, hholder⟩ := Option.isSome_iff_exists.mp hparent
      have hhas : (mount page routed doc app).Has script := has_of_parent? hholder
      rw [hmount, Has, size_fill] at hhas
      rw [Has] at hnew
      have hindex : script.index = doc.size := by omega
      have hscript : script = ⟨doc.size⟩ := congrArg NodeId.mk hindex
      obtain ⟨-, helement⟩ :=
        @TransformerChain.element?_mount doc app routed page container hcontainer
      rw [hscript, helement] at hdata
      have hname : (Element.ofTag app.element (app.elementAttrs routed)).attr? "id" = none :=
        congrArg (·.attr? "id") (NodeData.element.inj hdata)
      exact absurd ((app.attr?_id_elementAttrs routed).symm.trans hname) (by simp)
  · rintro ⟨container, hcontainer, hbody⟩
    exact exists_loads h hcontainer hbody

/-- A mounted app has its element under its container, until the next one is mounted. -/
theorem isMountedAt_mount (h : doc.WellFormed)
    (hcontainer : (app.target? page).bind (container? doc) = some container) :
    app.IsMountedAt (mount page routed doc app) container ⟨doc.size⟩ := by
  obtain ⟨target, -, hfound⟩ := Option.bind_eq_some_iff.mp hcontainer
  have htree := inTree_of_container? h hfound
  have hkeeps := app.keeps_mount page routed h
  obtain ⟨hhas, hdata⟩ := @TransformerChain.element?_mount doc app routed page container hcontainer
  have hparent : (mount page routed doc app).parent? ⟨doc.size⟩ = some container := by
    obtain ⟨hwell, hfilled⟩ := parent?_fill h htree.1 app routed
    have hextends : Extends (app.fill routed doc container) (mount page routed doc app) := by
      rw [mount, hcontainer]
      exact app.extends_addBundle hwell
    exact (Edited.parent_of_eq_false hextends (has_of_parent? hfilled) rfl).trans hfilled
  refine ⟨⟨hhas, ?_⟩, hparent, _, ?_, app.tag_elementAttrs routed, app.attr?_id_elementAttrs routed⟩
  · -- the container does not lie below itself, so it is still in the page
    have howned : app.owns page doc container = false := by
      rw [owns, hcontainer, ← Bool.not_eq_true, h.isBelow_iff]
      exact IsForest.not_transGen_self h container
    exact ((hkeeps.within_iff container htree.1).mpr ⟨htree.2, howned⟩).tail hparent
  · rw [element?, hdata]

/-! ## Mounting all apps -/

/-- An element that is mounted stays so while other apps are mounted just if none of them empties
its container. -/
theorem IsMountedAt.foldl_mount_iff (h : app.IsMountedAt doc container node)
    (hdoc : doc.WellFormed) (rest : List App) :
    (app.IsMountedAt (rest.foldl (mount page routed) doc) container node ↔
        emptiesAny page routed rest doc container = false) ∧
      ((rest.foldl (mount page routed) doc).InTree node ↔
        emptiesAny page routed rest doc container = false) := by
  have hkeeps := keeps_mountAll page routed rest hdoc
  have hnode := h.inTree.1
  rw [← ownsAll_eq_emptiesAny routed rest hdoc h.parent]
  have htree : (rest.foldl (mount page routed) doc).InTree node ↔
      ownsAll page routed rest doc node = false := by
    rw [InTree, hkeeps.within_iff node hnode]
    exact ⟨fun hin => hin.2.2, fun hspared => ⟨hkeeps.has hnode, h.inTree.2, hspared⟩⟩
  refine ⟨⟨fun hmounted => htree.mp hmounted.inTree, fun hspared => ?_⟩, htree⟩
  obtain ⟨element, helement, hnames⟩ := h.element
  refine ⟨htree.mpr hspared, (hkeeps.parent_of_eq_false hnode hspared).trans h.parent,
    element, ?_, hnames⟩
  rw [element?, hkeeps.data node hnode]
  exact helement

/-- Apps are mounted one after the other. -/
theorem mountAll_append (first rest : List App) (sent : SentRequest) (doc : Document) :
    mountAll (first ++ rest) sent doc =
      rest.foldl (mount sent.routing.proxiedPath (App.routed sent)) (mountAll first sent doc) :=
  List.foldl_append

/-- The bundle of an app is loaded just if its container is there when its turn comes and the page
has a body then. An app whose bundle is loaded gets a new element under its container. At the end
that is still there, and in the page at all, just if no app that is mounted later empties the
container. -/
theorem isMountedAt_mountAll {apps first rest : List App} {sent : SentRequest}
    (h : doc.WellFormed) (happs : apps = first ++ app :: rest) :
    ((∃ script, app.Loads sent.routing.proxiedPath (App.routed sent) (mountAll first sent doc)
        script) ↔
      ∃ container, (app.target? sent.routing.proxiedPath).bind
          (container? (mountAll first sent doc)) = some container ∧
        (app.fill (App.routed sent) (mountAll first sent doc) container).body?.isSome = true) ∧
    ∀ script, app.Loads sent.routing.proxiedPath (App.routed sent) (mountAll first sent doc)
        script →
      ∃ container node,
        (app.target? sent.routing.proxiedPath).bind (container? (mountAll first sent doc)) =
          some container ∧
        ¬(mountAll first sent doc).Has node ∧
        app.IsMountedAt (mountAll (first ++ [app]) sent doc) container node ∧
        (app.IsMountedAt (mountAll apps sent doc) container node ↔
          emptiesAny sent.routing.proxiedPath (App.routed sent) rest
            (mountAll (first ++ [app]) sent doc) container = false) ∧
        ((mountAll apps sent doc).InTree node ↔
          emptiesAny sent.routing.proxiedPath (App.routed sent) rest
            (mountAll (first ++ [app]) sent doc) container = false) := by
  have hfirst := keeps_mountAll sent.routing.proxiedPath (App.routed sent) first h
  refine ⟨exists_loads_iff hfirst.wellFormed, fun script hscript => ?_⟩
  have hone : mountAll (first ++ [app]) sent doc =
      mount sent.routing.proxiedPath (App.routed sent) (mountAll first sent doc) app :=
    mountAll_append first [app] sent doc
  have hall : mountAll apps sent doc =
      rest.foldl (mount sent.routing.proxiedPath (App.routed sent))
        (mountAll (first ++ [app]) sent doc) := by
    rw [happs, hone]
    exact mountAll_append first (app :: rest) sent doc
  obtain ⟨container, hcontainer⟩ := hscript.exists_container
  have hmounted : app.IsMountedAt (mountAll (first ++ [app]) sent doc) container
      ⟨(mountAll first sent doc).size⟩ := hone ▸ isMountedAt_mount hfirst.wellFormed hcontainer
  have hwell : (mountAll (first ++ [app]) sent doc).WellFormed :=
    (keeps_mountAll sent.routing.proxiedPath (App.routed sent) (first ++ [app]) h).wellFormed
  obtain ⟨hstays, htree⟩ := hmounted.foldl_mount_iff hwell rest
  rw [hall]
  exact ⟨container, _, hcontainer, Nat.lt_irrefl _, hmounted, hstays, htree⟩

/-! ### An app that stays and one that is lost -/

/-- An app in the main element of the page. -/
def outerApp : App :=
  { appAlias := "outer", address := "site.test", element := "outer-app", path := "/outer.js"
    targets := [{ path := "/" }] }

/-- An app in the element of the one before. -/
def innerApp : App :=
  { appAlias := "inner", address := "site.test", element := "inner-app", path := "/inner.js"
    targets := [{ path := "/", container := "outer" }] }

/-- An app that is in the main element, too. -/
def otherApp : App :=
  { appAlias := "other", address := "site.test", element := "other-app", path := "/other.js"
    targets := [{ path := "/", container := "main" }] }

/-- A request for the page. -/
def pageSent : SentRequest := { request := {}, routing := { proxiedPath := "/" } }

/-- An app that is mounted into the element of another one does not take that away. -/
theorem isMountedAt_mountAll_nested :
    TransformerChain.linkedPage.WellFormed ∧
      outerApp.Loads "/" (App.routed pageSent)
        (mountAll [] pageSent TransformerChain.linkedPage) ⟨12⟩ ∧
      ∃ container node, ¬(mountAll [] pageSent TransformerChain.linkedPage).Has node ∧
        outerApp.IsMountedAt
          (mountAll [outerApp, innerApp] pageSent TransformerChain.linkedPage) container node := by
  have hloads : outerApp.Loads "/" (App.routed pageSent)
      (mountAll [] pageSent TransformerChain.linkedPage) ⟨12⟩ := by
    decide +kernel
  have happs : [outerApp, innerApp] = [] ++ outerApp :: [innerApp] := rfl
  obtain ⟨container, node, hcontainer, hnew, -, hstays, -⟩ :=
    (isMountedAt_mountAll TransformerChain.wellFormed_linkedPage happs).2 ⟨12⟩ hloads
  have hmain : (outerApp.target? pageSent.routing.proxiedPath).bind
      (container? (mountAll [] pageSent TransformerChain.linkedPage)) = some ⟨9⟩ := by
    decide +kernel
  obtain rfl := Option.some.inj (hcontainer.symm.trans hmain)
  exact ⟨TransformerChain.wellFormed_linkedPage, hloads, _, node, hnew,
    hstays.mpr (by decide +kernel)⟩

/-- It is not so that every app whose bundle is loaded has its element under its container at the
end, not even where all aliases are different. -/
theorem not_every_app_stays :
    ¬∀ (apps first rest : List App) (app : App) (sent : SentRequest) (doc : Document)
      (script : NodeId),
      doc.WellFormed → (apps.map (·.appAlias)).Nodup → apps = first ++ app :: rest →
      app.Loads sent.routing.proxiedPath (App.routed sent) (mountAll first sent doc) script →
        ∃ container node,
          (app.target? sent.routing.proxiedPath).bind (container? (mountAll first sent doc)) =
            some container ∧
          ¬doc.Has node ∧ app.IsMountedAt (mountAll apps sent doc) container node := by
  intro hall
  obtain ⟨container, ⟨number⟩, -, hnew, hmounted⟩ :=
    hall [outerApp, otherApp] [] [otherApp] outerApp pageSent TransformerChain.linkedPage ⟨12⟩
      TransformerChain.wellFormed_linkedPage (by decide) rfl (by decide +kernel)
  -- of the new nodes one has the name of the element, and nothing holds it any more
  have hlost : ∀ i < (mountAll [outerApp, otherApp] pageSent TransformerChain.linkedPage).size,
      ¬TransformerChain.linkedPage.Has ⟨i⟩ →
        (mountAll [outerApp, otherApp] pageSent TransformerChain.linkedPage).isElement ⟨i⟩
          "outer-app" = true →
        (mountAll [outerApp, otherApp] pageSent TransformerChain.linkedPage).parent? ⟨i⟩ =
          none := by
    decide +kernel
  obtain ⟨element, helement, htag, -⟩ := hmounted.element
  have hnone := hlost number hmounted.inTree.1 hnew (by
    rw [isElement, helement, Option.map_some, Option.getD_some, htag]
    rfl)
  exact absurd (hnone.symm.trans hmounted.parent) (by simp)

end App

end ComposingProxy
