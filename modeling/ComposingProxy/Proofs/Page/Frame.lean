import Mathlib.Control.Monad.Basic
import ComposingProxy.Page.Chain
import ComposingProxy.Proofs.Page.ImportMapScript
import ComposingProxy.Proofs.Tree.Frame

/-!
# What the transformers leave alone

The transformers of a chain work on one page, and each looks up nodes that an earlier one may
have made or taken away. What a transformer *owns* in the page that it finds is little: what
is below a container that it fills, below the script that it writes, or in an item of the
navigation. Everything else stays, whichever transformers run, in whichever order:

> `TransformerChain.run_frame`: after a run, whether it ended early or not, the page is well
> formed, and every node that no transformer owned when it ran is in the page with its
> data, its parent and its place among its siblings; all other nodes of the page are new.

One transformer is `Transformer.keeps_transform`; a run is put together from them.
-/

namespace ComposingProxy

open Markup

namespace Markup.Document

variable {doc doc' : Document} {id : NodeId}

/-! ## Below and inside -/

/-- Whether a node lies strictly below another one. -/
def isBelow (doc : Document) (x top : NodeId) : Bool := (doc.ancestors x).elem top

/-- Whether a node is another one or lies below it. -/
def isInside (doc : Document) (x top : NodeId) : Bool := x == top || doc.isBelow x top

/-- The test for nodes below another one. -/
theorem WellFormed.isBelow_iff (h : doc.WellFormed) {x top : NodeId} :
    doc.isBelow x top = true ↔ Relation.TransGen doc.IsParent top x := by
  rw [isBelow, List.elem_iff, IsForest.mem_ancestors_iff h]

theorem WellFormed.isInside_iff (h : doc.WellFormed) {x top : NodeId} :
    doc.isInside x top = true ↔ doc.Within x top := by
  rw [isInside, Bool.or_eq_true, beq_iff_eq, h.isBelow_iff]
  exact Relation.reflTransGen_iff_eq_or_transGen.symm

/-- What is found by name is in the tree. -/
theorem WellFormed.inTree_of_findWhere? (h : doc.WellFormed) {tag : String}
    {test : Element → Bool} (hfound : doc.findWhere? tag test root = some id) : doc.InTree id := by
  obtain ⟨element, helement, -⟩ := exists_of_findWhere?_eq_some hfound
  exact ⟨has_of_element? helement, h.within_of_mem_subtree (List.mem_of_find?_eq_some hfound)⟩

/-- What is found by its id is in the tree. -/
theorem WellFormed.inTree_of_findId? (h : doc.WellFormed) {name : String}
    (hfound : doc.findId? name = some id) : doc.InTree id := by
  have htest := List.find?_some hfound
  rw [beq_iff_eq, Option.bind_eq_some_iff] at htest
  obtain ⟨element, helement, -⟩ := htest
  exact ⟨has_of_element? helement, h.within_of_mem_subtree (List.mem_of_find?_eq_some hfound)⟩

/-! ## Emptying a node -/

theorem Has.removeChildren {x : NodeId} (h : doc.Has x) (id : NodeId) :
    (doc.removeChildren id).Has x := by
  rwa [Has, Document.removeChildren, IsForest.size_removeFirst]

/-- Where the children of a node are taken out and new nodes are put in, what was below the
node is gone and the rest is kept. -/
theorem keeps_of_removeChildren (h : doc.WellFormed) (hid : doc.InTree id)
    (hrest : Extends (doc.removeChildren id) doc') : Keeps doc doc' (doc.isBelow · id) := by
  have hforest := IsForest.removeChildren h id
  have howned : ∀ c ∈ doc.children id, doc.isBelow c id = true := fun c hc =>
    h.isBelow_iff.mpr (.single (h.isParent_iff.mpr hc))
  have hemptied : Edited doc (doc.removeChildren id) (doc.isBelow · id) :=
    (Edited.refl h _).removeChildren fun c hc _ => howned c hc
  refine (hemptied.trans_extends hrest).keeps h (fun p c hp hbelow => ?_) fun x _ hbelow => ?_
  · exact h.isBelow_iff.mpr ((h.isBelow_iff.mp hbelow).tail hp)
  · -- `x` lies within a child of the node, and that child is cut off for good
    obtain ⟨c, hc, hxc⟩ := Relation.TransGen.head'_iff.mp (h.isBelow_iff.mp hbelow)
    refine ⟨c, hxc, Relation.TransGen.tail' hid.2 hc, ?_⟩
    have hhas : (doc.removeChildren id).Has c := hemptied.has (has_of_parent? hc)
    rw [Edited.parent_of_eq_false hrest hhas rfl]
    by_contra hsome
    obtain ⟨p, hp⟩ := Option.ne_none_iff_exists'.mp hsome
    have hmem := (hforest.mem_iff p c).mpr hp
    rw [Function.update_apply] at hmem
    split at hmem
    · exact List.not_mem_nil hmem
    · next hne => exact hne (IsForest.eq_of_mem h hmem (h.isParent_iff.mp hc))

end Markup.Document

open Document

variable {doc doc' : Document}

/-! ## Apps -/

namespace App

variable {page : String} {routed : String × String}

/-- What an app owns in a page: all that is below the container that it is mounted in. -/
def owns (app : App) (page : String) (doc : Document) (x : NodeId) : Bool :=
  match (app.target? page).bind (container? doc) with
  | none => false
  | some container => doc.isBelow x container

/-- What apps own that are mounted one after the other. -/
def ownsAll (page : String) (routed : String × String) : List App → Document → NodeId → Bool
  | [], _, _ => false
  | app :: rest, doc, x =>
    app.owns page doc x || ownsAll page routed rest (mount page routed doc app) x

/-- A container that is found is in the page. -/
theorem inTree_of_container? (h : doc.WellFormed) {target : AppTarget} {container : NodeId}
    (hfound : container? doc target = some container) : doc.InTree container := by
  rw [container?, Option.or_eq_some_iff] at hfound
  rcases hfound with hid | ⟨-, hmain⟩
  · exact h.inTree_of_findId? hid
  · split at hmain
    · exact h.inTree_of_findWhere? hmain
    · exact absurd hmain (by simp)

/-- The script of an app is new, and nothing is taken out for it. -/
theorem extends_addBundle (app : App) (h : doc.WellFormed) : Extends doc (app.addBundle doc) := by
  unfold addBundle
  split
  · exact Edited.refl h _
  · next body hbody =>
    exact (Edited.refl h _).appendCreated (h.inTree_of_findWhere? hbody).1 _

/-- Mounting an app keeps all but what is below its container. -/
theorem keeps_mount (app : App) (page : String) (routed : String × String) (h : doc.WellFormed) :
    Keeps doc (mount page routed doc app) (app.owns page doc) := by
  unfold mount owns
  cases htarget : (app.target? page).bind (container? doc) with
  | none => exact Keeps.refl h
  | some container =>
    obtain ⟨target, -, hcontainer⟩ := Option.bind_eq_some_iff.mp htarget
    have htree := inTree_of_container? h hcontainer
    have hfill : Extends (doc.removeChildren container) (app.fill routed doc container) :=
      (Edited.refl (h.removeChildren container) _).appendCreated
        (htree.1.removeChildren container) _
    exact keeps_of_removeChildren h htree
      (hfill.trans_extends (app.extends_addBundle hfill.wellFormed))

/-- Mounting apps takes out what they own, each when its turn comes. -/
theorem keeps_mountAll (page : String) (routed : String × String) :
    ∀ (apps : List App) {doc : Document}, doc.WellFormed →
      Keeps doc (apps.foldl (mount page routed) doc) (ownsAll page routed apps doc) := by
  intro apps
  induction apps with
  | nil => intro doc h; exact Keeps.refl h
  | cons app rest ih =>
    intro doc h
    have hfirst := app.keeps_mount page routed h
    exact hfirst.trans (ih hfirst.wellFormed)

end App

/-! ## Modules -/

namespace ImportMapSettings

/-- What the import map of a page owns: all that is below its script. -/
def owns (doc : Document) (x : NodeId) : Bool :=
  match script? doc with
  | none => false
  | some script => doc.isBelow x script

theorem extends_addModule (settings : ImportMapSettings) (h : doc.WellFormed) :
    Extends doc (settings.addModule doc) := by
  unfold addModule
  split
  · exact Edited.refl h _
  · split
    · exact Edited.refl h _
    · next body hbody =>
      exact (Edited.refl h _).appendFilled (h.inTree_of_findWhere? hbody).1 _ settings.moduleBody

/-- What storing the import map does to a page. -/
theorem exists_of_transform_eq_ok {settings : ImportMapSettings}
    (htransform : settings.transform doc = .ok doc') : ∃ script page map,
      ensureScript doc = .ok (script, page) ∧
        ImportMap.parse? (page.collectText script) = some map ∧
          doc' = settings.addModule
            (page.setText script (map.mergeImports settings.moduleImports).toJson) := by
  unfold transform at htransform
  cases hensure : ensureScript doc with
  | error cause =>
    rw [hensure] at htransform
    exact absurd htransform (by simp [bind, Except.bind])
  | ok ensured =>
    obtain ⟨script, page⟩ := ensured
    rw [hensure] at htransform
    dsimp only [bind, Except.bind] at htransform
    split at htransform
    · exact absurd htransform (by simp)
    · next map hparse =>
      exact ⟨script, page, map, rfl, hparse, (Except.ok.inj htransform).symm⟩

/-- A script that is made for the import map is new and empty. -/
theorem extends_ensureScript (h : doc.WellFormed) (hscript : script? doc = none)
    {script : NodeId} (hensure : ensureScript doc = .ok (script, doc')) :
    Extends doc doc' ∧ doc'.Has script ∧ doc'.children script = [] := by
  cases hhead : doc.head? with
  | none =>
    rw [ensureScript, hscript, hhead] at hensure
    exact absurd hensure (by simp)
  | some head =>
    obtain ⟨made, page, hmade, -, himport, hempty⟩ := ensureScript_of_none h hscript hhead
    obtain ⟨rfl, rfl⟩ := Prod.mk.inj (Except.ok.inj (hmade.symm.trans hensure))
    refine ⟨?_, himport.has, hempty⟩
    rw [ensureScript, hscript, hhead, Except.ok.injEq, Prod.mk.injEq] at hensure
    rw [← hensure.2]
    exact (Edited.refl h _).prependCreated (h.inTree_of_findWhere? hhead).1 _

/-- Storing the import map keeps all but what is below its script. -/
theorem keeps_transform {settings : ImportMapSettings} (h : doc.WellFormed)
    (htransform : settings.transform doc = .ok doc') : Keeps doc doc' (owns doc) := by
  obtain ⟨script, page, map, hensure, -, rfl⟩ := exists_of_transform_eq_ok htransform
  generalize (map.mergeImports settings.moduleImports).toJson = text
  unfold owns
  cases hscript : script? doc with
  | some found =>
    rw [ensureScript, hscript, Except.ok.injEq, Prod.mk.injEq] at hensure
    obtain ⟨rfl, rfl⟩ := hensure
    have htree := h.inTree_of_findWhere? hscript
    have hfill : Extends (doc.removeChildren found) (doc.setText found text) :=
      (Edited.refl (h.removeChildren found) _).appendCreated (htree.1.removeChildren found) _
    exact keeps_of_removeChildren h htree
      (hfill.trans_extends (settings.extends_addModule hfill.wellFormed))
  | none =>
    obtain ⟨hmade, hhas, hempty⟩ := extends_ensureScript h hscript hensure
    have hfill : Extends doc (page.setText script text) :=
      hmade.setText hhas (by simp [hempty]) text
    exact Extends.keeps (hfill.trans_extends (settings.extends_addModule hfill.wellFormed)) h

/-- Where the modules cannot be put into a page, it has not been edited either. -/
theorem eq_of_transform_eq_error {settings : ImportMapSettings} {cause : ModulesError}
    (h : doc.WellFormed) (htransform : settings.transform doc = .error cause) {script : NodeId}
    (hensure : ensureScript doc = .ok (script, doc')) : doc' = doc := by
  cases hscript : script? doc with
  | some found =>
    rw [ensureScript, hscript, Except.ok.injEq, Prod.mk.injEq] at hensure
    exact hensure.2.symm
  | none =>
    cases hhead : doc.head? with
    | none =>
      rw [ensureScript, hscript, hhead] at hensure
      exact absurd hensure (by simp)
    | some head =>
      -- the text of a new script is empty, and that is an import map
      have hmap : ReadsAs doc {} := by
        unfold ReadsAs
        rw [hscript, hhead]
        exact ⟨rfl, rfl⟩
      obtain ⟨-, page, hok, -⟩ := transform_eq_ok settings h hmap
      exact absurd (hok.symm.trans htransform) (by simp)

end ImportMapSettings

/-! ## Metadata -/

/-- The metadata are new, and nothing is taken out for them. -/
theorem MetaSettings.extends_transform (settings : MetaSettings) (separator : String)
    (h : doc.WellFormed) : Extends doc (settings.transform separator doc) := by
  unfold MetaSettings.transform
  split
  · exact Edited.refl h _
  · next head hhead =>
    exact (Edited.refl h _).appendCreated (h.inTree_of_findWhere? hhead).1 _

/-! ## Navigation -/

namespace Markup.Document

/-- Once nodes are taken out one after the other, none of them has a parent. -/
theorem WellFormed.parent?_foldl_detach : ∀ (ids : List NodeId) {doc : Document},
    doc.WellFormed → ∀ x, x ∈ ids ∨ doc.parent? x = none →
      (ids.foldl Document.detach doc).parent? x = none := by
  intro ids
  induction ids with
  | nil => intro doc _ x hx; exact hx.elim (fun hmem => absurd hmem List.not_mem_nil) id
  | cons id rest ih =>
    intro doc h x hx
    refine ih (h.detach id) x ?_
    rw [(IsForest.detach_cutOut h id).parent]
    by_cases heq : x = id
    · exact Or.inr (if_pos heq)
    · rw [if_neg heq]
      exact hx.imp (fun hmem => (List.mem_cons.mp hmem).resolve_left heq) fun hnone => hnone

/-- Owned nodes may be taken out one after the other. -/
theorem Edited.foldl_detach {owned : NodeId → Bool} : ∀ (ids : List NodeId) {cur : Document},
    Edited doc cur owned → (∀ c ∈ ids, doc.Has c → owned c = true) →
      Edited doc (ids.foldl Document.detach cur) owned := by
  intro ids
  induction ids with
  | nil => intro cur h _; exact h
  | cons id rest ih =>
    intro cur h howned
    obtain ⟨hid, hrest⟩ := List.forall_mem_cons.mp howned
    exact ih (h.detach hid) hrest

end Markup.Document

namespace Navigation

/-- What the navigation of a page owns: the items that it finds, with all that is in them. -/
def owns (navigation : Navigation) (doc : Document) (x : NodeId) : Bool :=
  (navigation.query.selectAll doc root).any (doc.isInside x)

theorem extends_insertCopies (source : Document) (place : NodeId) :
    ∀ (nodes : List NodeId) {cur : Document}, Extends doc cur → cur.Has place →
      Extends doc (insertCopies cur source place nodes) := by
  intro nodes
  induction nodes with
  | nil => intro cur h _; exact h
  | cons node rest ih =>
    intro cur h hplace
    have hcopied := (Edited.refl h.wellFormed fun _ => false).insertCopy source node hplace
    exact ih (h.insertCopy source node hplace) (hcopied.has hplace)

/-- Writing the navigation anew keeps all but the items that were there. -/
theorem keeps_transform (navigation : Navigation) (loggedIn : Bool) (h : doc.WellFormed) :
    Keeps doc (navigation.transform loggedIn doc) (navigation.owns doc) := by
  unfold transform
  split
  · next hnone =>
    have howns : navigation.owns doc = fun _ => false := by
      funext x
      rw [owns, hnone, List.any_nil]
    exact howns ▸ Keeps.refl h
  · next first others hfound =>
    dsimp only
    set source := Document.ofFragment _ _ with hsource
    set page := insertCopies doc source first source.fragmentNodes with hpage
    have hitems : ∀ c ∈ first :: others, Relation.TransGen doc.IsParent root c := by
      intro c hc
      rw [← hfound, Selector.selectAll] at hc
      exact h.mem_tail_subtree_iff.mp (List.mem_of_mem_filter hc)
    have howned : ∀ x, navigation.owns doc x = true ↔ ∃ c ∈ first :: others, doc.Within x c := by
      intro x
      rw [owns, hfound, List.any_eq_true]
      exact exists_congr fun c => and_congr_right fun _ => h.isInside_iff
    have hfirst : doc.Has first := by
      obtain ⟨p, -, hp⟩ := Relation.TransGen.tail'_iff.mp (hitems first List.mem_cons_self)
      exact has_of_parent? hp
    have hinserted : Extends doc page :=
      extends_insertCopies source first _ (Edited.refl h _) hfirst
    have hdetached := (Edited.refl hinserted.wellFormed (navigation.owns doc)).foldl_detach
      (first :: others) fun c hc _ => (howned c).mpr ⟨c, hc, .refl⟩
    -- an owned node is in one of the items, which have no parent any more
    refine (Edited.of_extends hinserted hdetached).keeps h (fun p c hp hin => ?_) fun x _ hin => ?_
    · obtain ⟨top, htop, hwithin⟩ := (howned p).mp hin
      exact (howned c).mpr ⟨top, htop, hwithin.tail hp⟩
    · obtain ⟨top, htop, hwithin⟩ := (howned x).mp hin
      exact ⟨top, hwithin, hitems top htop,
        hinserted.wellFormed.parent?_foldl_detach _ top (Or.inl htop)⟩

end Navigation

/-! ## The chain -/

/-- The alias that the path addresses, and the path inside that app, as they were sent. -/
def App.routed (sent : SentRequest) : String × String :=
  (sent.request.headers.lookUp Headers.appAliasField,
    sent.request.headers.lookUp Headers.appSubpathField)

namespace Transformer

/-- What a transformer owns in a page. -/
def owns (exchange : Exchange) (doc : Document) (x : NodeId) : Transformer → Bool
  | .modules _ => ImportMapSettings.owns doc x
  | .mounting apps =>
    App.ownsAll exchange.sent.routing.proxiedPath (App.routed exchange.sent) apps doc x
  | .metadata _ _ => false
  | .navigation none => false
  | .navigation (some items) => items.owns doc x

/-- A transformer keeps all that it does not own. -/
theorem keeps_transform {transformer : Transformer} {exchange : Exchange} (h : doc.WellFormed)
    (htransform : transformer.transform exchange doc = .ok doc') :
    Keeps doc doc' (transformer.owns exchange doc) := by
  cases transformer with
  | modules settings => exact ImportMapSettings.keeps_transform h htransform
  | mounting apps =>
    obtain rfl := Except.ok.inj htransform
    exact App.keeps_mountAll _ _ apps h
  | metadata separator settings =>
    obtain rfl := Except.ok.inj htransform
    exact Extends.keeps (settings.extends_transform separator h) h
  | navigation items =>
    cases items with
    | none =>
      obtain rfl := Except.ok.inj htransform
      exact Keeps.refl h
    | some navigation =>
      obtain rfl := Except.ok.inj htransform
      exact navigation.keeps_transform _ h

end Transformer

namespace TransformerChain

/-- What transformers own that work one after the other, each in the page that it finds. One
that fails owns nothing. -/
def ownsAll (exchange : Exchange) : List Transformer → Document → NodeId → Bool
  | [], _ => fun _ => false
  | transformer :: rest, doc =>
    if transformer.applies exchange then
      match transformer.transform exchange doc with
      | .ok page => fun x => transformer.owns exchange doc x || ownsAll exchange rest page x
      | .error _ => fun _ => false
    else ownsAll exchange rest doc

/-- A run of transformers takes out what they own, also if one of them fails. -/
theorem keeps_runAll (exchange : Exchange) : ∀ (transformers : List Transformer)
    {doc : Document}, doc.WellFormed →
      Keeps doc (runAll exchange transformers doc).doc (ownsAll exchange transformers doc) := by
  intro transformers
  induction transformers with
  | nil => intro doc h; exact Keeps.refl h
  | cons transformer rest ih =>
    intro doc h
    unfold runAll ownsAll
    by_cases happlies : transformer.applies exchange = true
    · simp only [if_pos happlies]
      cases htransform : transformer.transform exchange doc with
      | ok page =>
        have hfirst := Transformer.keeps_transform h htransform
        exact hfirst.trans (ih hfirst.wellFormed)
      | error cause => exact Keeps.refl h
    · simp only [if_neg happlies]
      exact ih h

/-- What a chain owns in a page. -/
def owns (chain : TransformerChain) (exchange : Exchange) (doc : Document) : NodeId → Bool :=
  ownsAll exchange chain.transformers doc

/-- After a run the page is well formed, and all that no transformer owned when it ran is where
it was. -/
theorem run_frame (chain : TransformerChain) (exchange : Exchange) (h : doc.WellFormed) :
    Frame doc (chain.run exchange doc).doc (chain.owns exchange doc) :=
  (keeps_runAll exchange chain.transformers h).frame h

/-- Edits that make a page with an import map, a list of links and a main element that holds a
link, too. -/
def linkedEdits : List Document.Edit :=
  [.createElement "html" [], .appendChild root ⟨1⟩, .createElement "head" [],
    .appendChild ⟨1⟩ ⟨2⟩, .createElement "script" [("type", "importmap")], .appendChild ⟨2⟩ ⟨3⟩,
    .appendText ⟨3⟩ "\x7b\x7d", .createElement "body" [], .appendChild ⟨1⟩ ⟨5⟩,
    .createElement "nav" [], .appendChild ⟨5⟩ ⟨6⟩, .createElement "a" [("href", "/b")],
    .appendChild ⟨6⟩ ⟨7⟩, .appendText ⟨7⟩ "B", .createElement "main" [], .appendChild ⟨5⟩ ⟨9⟩,
    .createElement "a" [("href", "/c")], .appendChild ⟨9⟩ ⟨10⟩]

def linkedPage : Document := applyAll {} linkedEdits

theorem wellFormed_linkedPage : linkedPage.WellFormed :=
  WellFormed.empty.applyAll linkedEdits (by decide +kernel) linkedEdits.length

/-- All transformers, the app on every page. -/
def fullChain : TransformerChain :=
  { transformers :=
      [.modules { moduleBody := "run();" },
        .mounting [{ appAlias := "app1", address := "site.test", element := "my-app"
                     path := "/a.js", targets := [{ path := "/" }] }],
        .metadata "/_/" {},
        .navigation (some
          { query := { first := { tag := some "a" } }, fields := [⟨"href", none, "href"⟩],
            template := ⟨[.literal "<a>", .field "href", .literal "</a>"]⟩, templatePaths := [],
            protectedPaths := [] })] }

/-- An answer with a page. -/
def pageExchange : Exchange :=
  { sent := { request := {}, routing := { proxiedPath := "/" } }, status := 200,
    headers := Headers.append {} "content-type" "text/html" }

/-- The text of the import map, what the main element held and the link of the list are owned,
and the other nodes of the page are not. -/
theorem run_frame_linked : linkedPage.WellFormed ∧
    (linkedPage.subtree root).filter (fullChain.owns pageExchange linkedPage) =
      [⟨4⟩, ⟨7⟩, ⟨8⟩, ⟨10⟩] ∧
    Frame linkedPage (fullChain.run pageExchange linkedPage).doc
      (fullChain.owns pageExchange linkedPage) :=
  ⟨wellFormed_linkedPage, by decide +kernel,
    run_frame fullChain pageExchange wellFormed_linkedPage⟩

end TransformerChain

end ComposingProxy
