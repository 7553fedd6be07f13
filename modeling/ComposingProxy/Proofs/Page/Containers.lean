import ComposingProxy.Proofs.Page.Mounted
import ComposingProxy.Proofs.Routing.KeptEscapes
import ComposingProxy.Proofs.Tree.Search

/-!
# Apps in containers of their own

Each app that is mounted edits the page, and the next one looks its container up in what came of
that: by its id, or else as the main element. Where the containers lie apart, and no app brings an
id or a name that is looked for, the look-ups are not led astray:

> `App.mountAll_side_by_side`: at the end every container that was there at the start holds the
> element of its app and nothing else, the body has one script more for each of them, in their
> order, and the rest of the page is what it was.

One app is `App.isMountedInto_mount`, which says all that becomes of the page. What that leaves of
the containers of the others is `App.HaveOwnContainers.mount`: they are found again, and they still
lie apart.
-/

namespace ComposingProxy

open Markup Document

namespace Markup.Document

variable {doc doc' : Document} {owned : NodeId → Bool} {tag name : String}

/-! ## Looking up again -/

/-- The first element of a name is found again if it stays and no new one has the name. -/
theorem Keeps.find?_eq (h : Keeps doc doc' owned) (hdoc : doc.WellFormed) (hroot : doc.Has root)
    (hnew : ∀ x element, ¬doc.Has x → doc'.element? x = some element → element.tag ≠ tag)
    (hspared : ∀ found, doc.find? tag = some found → owned found = false) :
    doc'.find? tag = doc.find? tag := by
  refine h.find?_subtree_eq hdoc hroot (fun x hx => ?_) (fun x hx => ?_) hspared
  · rw [element?, element?, h.data x hx]
  · cases helement : doc'.element? x with
    | none => rfl
    | some element => simp [hnew x element hx helement]

/-- The first element of an id is found again if it stays and no new one has the id. -/
theorem Keeps.findId?_eq (h : Keeps doc doc' owned) (hdoc : doc.WellFormed) (hroot : doc.Has root)
    (hnew : ∀ x element, ¬doc.Has x → doc'.element? x = some element →
      element.attr? "id" ≠ some name)
    (hspared : ∀ found, doc.findId? name = some found → owned found = false) :
    doc'.findId? name = doc.findId? name := by
  refine h.find?_subtree_eq hdoc hroot (fun x hx => ?_) (fun x hx => ?_) hspared
  · rw [element?, element?, h.data x hx]
  · cases helement : doc'.element? x with
    | none => rfl
    | some element => simp [hnew x element hx helement]

/-- What is not inside a node is not below it. -/
theorem isBelow_of_isInside_eq_false {x top : NodeId} (h : doc.isInside x top = false) :
    doc.isBelow x top = false := by
  rw [isInside, Bool.or_eq_false_iff] at h
  exact h.2

/-- No node of before gets below a node that it was not below. -/
theorem Edited.isBelow_eq_false (h : Edited doc doc' owned) (hdoc : doc.WellFormed)
    {x top : NodeId} (hx : doc.Has x) (hbelow : doc.isBelow x top = false) :
    doc'.isBelow x top = false := by
  rw [← Bool.not_eq_true, hdoc.isBelow_iff, Relation.TransGen.tail'_iff] at hbelow
  rw [← Bool.not_eq_true, h.wellFormed.isBelow_iff, Relation.TransGen.tail'_iff]
  rintro ⟨holder, hwithin, hholder⟩
  have hbefore : doc.IsParent holder x := by
    rcases h.parent x hx with heq | ⟨-, hnone⟩
    · exact heq.symm.trans hholder
    · exact absurd (hnone.symm.trans hholder) (by simp)
  exact hbelow ⟨holder,
    h.within_of_within hdoc (IsForest.has_parent hdoc hbefore) hwithin, hbefore⟩

/-- What was not inside a node is not inside it after the edits: only new nodes are put in. -/
theorem Edited.isInside_eq_false (h : Edited doc doc' owned) (hdoc : doc.WellFormed)
    {x top : NodeId} (hx : doc.Has x) (hinside : doc.isInside x top = false) :
    doc'.isInside x top = false := by
  rw [isInside, Bool.or_eq_false_iff] at hinside ⊢
  exact ⟨hinside.1, h.isBelow_eq_false hdoc hx hinside.2⟩

/-! ## A new node at the end of another one -/

/-- The data of all nodes are known after a new one is put at the end of another. -/
theorem data_appendCreated (doc : Document) (p : NodeId) (data : NodeData) (x : NodeId) :
    ((doc.create data).2.appendChild p (doc.create data).1).data x =
      if x = ⟨doc.size⟩ then data else doc.data x := by
  rw [data_appendChild, Document.data, node_create]
  show (if x = ⟨doc.size⟩ then _ else _ : Node).data = _
  split <;> rfl

end Markup.Document

/-- What is at the end of a text is at the end of its last part. -/
theorem Text.dropLastOf_append {c : Char} {s t : String} (ht : t ≠ "") :
    dropLastOf c (s ++ t) = s ++ dropLastOf c t := by
  have hne : t.toList ≠ [] := by
    rwa [Ne, String.toList_eq_nil_iff]
  have hends : endsIn c (s ++ t) = endsIn c t := by
    rw [endsIn, endsIn, String.toList_append, List.getLast?_append_of_ne_nil _ hne]
  rw [dropLastOf, dropLastOf, hends]
  split
  · apply String.toList_inj.mp
    rw [String.toList_ofList, String.toList_append, String.toList_append, String.toList_ofList,
      List.dropLast_append_of_ne_nil hne]
  · rfl

namespace App

variable {page : String} {routed : String × String} {doc doc' mid : Document} {app : App}
  {apps rest : List App} {container body : NodeId}

/-! ## What is put in -/

/-- The element that an app gets: it tells the alias of the app and, if the app is the addressed
one, the path inside it. -/
def mountedElement (app : App) (routed : String × String) : Element :=
  { name := .html app.element
    attrs := ⟨.plain "id", app.appAlias⟩ ::
      if routed.1 = app.appAlias ∧ routed.2 ≠ "" then [⟨.plain "route-path", routed.2⟩] else [] }

/-- The script that loads the bundle of an app, with one slash where address and path meet. -/
def bundleScript (app : App) : Element :=
  { name := .html "script"
    attrs :=
      [⟨.plain "type", "module"⟩,
       ⟨.plain "src", Text.dropLastOf '/' ("http:" ++ "//" ++ app.address) ++ "/" ++
         Text.dropFirstOf '/' app.path⟩] }

/-- The element that is made for an app is the one that it gets. -/
theorem ofTag_elementAttrs (app : App) (routed : String × String) :
    Element.ofTag app.element (app.elementAttrs routed) = app.mountedElement routed := by
  unfold elementAttrs mountedElement
  split <;> rfl

/-- The script that is made for an app is the one that loads its bundle. -/
theorem ofTag_bundleAddress (app : App) :
    Element.ofTag "script" [("type", "module"), ("src", app.bundleAddress)] =
      app.bundleScript := by
  rw [bundleScript, ← Routing.joinPaths_eq]
  rfl

/-! ## One app -/

/-- The document `doc'` is `doc` with an app in a container and its script at the end of the body,
and with everything else as it was. -/
structure IsMountedInto (app : App) (routed : String × String) (container body : NodeId)
    (doc doc' : Document) : Prop where
  keeps : Keeps doc doc' (doc.isBelow · container)
  size : doc'.size = doc.size + 2
  data : ∀ x, doc'.data x =
    if x = ⟨doc.size + 1⟩ then .element app.bundleScript
    else if x = ⟨doc.size⟩ then .element (app.mountedElement routed)
    else doc.data x
  children : ∀ x, doc'.children x =
    if x = body then doc.children body ++ [⟨doc.size + 1⟩]
    else if x = container then [⟨doc.size⟩]
    else doc.children x

/-- What a container is filled with. -/
theorem fill_eq (h : doc.WellFormed) (hcontainer : doc.InTree container) (app : App)
    (routed : String × String) :
    Keeps doc (app.fill routed doc container) (doc.isBelow · container) ∧
      (app.fill routed doc container).size = doc.size + 1 ∧
      (∀ x, (app.fill routed doc container).data x =
        if x = ⟨doc.size⟩ then .element (app.mountedElement routed) else doc.data x) ∧
      ∀ x, (app.fill routed doc container).children x =
        if x = container then [⟨doc.size⟩] else doc.children x := by
  have hforest := IsForest.removeChildren h container
  have hsize : (doc.removeChildren container).size = doc.size :=
    IsForest.size_removeFirst container doc.size doc
  have hhas := hcontainer.1.removeChildren container
  have hfill : app.fill routed doc container =
      ((doc.removeChildren container).create (.element (app.mountedElement routed))).2.appendChild
        container ((doc.removeChildren container).create
          (.element (app.mountedElement routed))).1 := by
    rw [fill, ← ofTag_elementAttrs]
    rfl
  refine ⟨?_, ?_, fun x => ?_, fun x => ?_⟩
  · rw [hfill]
    exact keeps_of_removeChildren h hcontainer
      ((Edited.refl hforest.wellFormed _).appendCreated hhas _)
  · rw [hfill, size_appendCreated, hsize]
  · rw [hfill, data_appendCreated, hsize]
    exact ite_congr rfl (fun _ => rfl) fun _ => data_removeFirst container x doc.size doc
  · rw [hfill, hforest.wellFormed.children_appendCreated hhas, hforest.children_eq,
      hforest.children_eq, Function.update_self, Function.update_apply]
    show (if x = container then [(⟨(doc.removeChildren container).size⟩ : NodeId)] else _) = _
    rw [hsize]
    split <;> rfl

/-- The body is found again in a page with a container filled. -/
theorem body?_fill (h : doc.WellFormed) (hcontainer : doc.InTree container)
    (hbody : doc.body? = some body) (hspared : doc.isInside body container = false)
    (hname : app.element ≠ "body") : (app.fill routed doc container).body? = some body := by
  obtain ⟨hkeeps, -, hdata, -⟩ := fill_eq h hcontainer app routed
  have hroot := h.has_of_within hcontainer.1 hcontainer.2
  rw [← hbody]
  refine hkeeps.find?_eq h hroot (fun x element hx helement => ?_) fun found hfound => ?_
  · rw [element?, hdata, data_of_not_has hx] at helement
    split at helement
    · next value heq =>
      split at heq
      · obtain rfl := NodeData.element.inj heq
        exact Option.some.inj helement ▸ hname
      · exact absurd heq (by simp)
    · exact absurd helement (by simp)
  · obtain rfl : found = body := Option.some.inj (hfound.symm.trans hbody)
    exact isBelow_of_isInside_eq_false hspared

/-- Where an app has a container that is not around the body, it is mounted into it. -/
theorem isMountedInto_mount (h : doc.WellFormed)
    (hcontainer : (app.target? page).bind (container? doc) = some container)
    (hbody : doc.body? = some body) (hspared : doc.isInside body container = false)
    (hname : app.element ≠ "body") :
    IsMountedInto app routed container body doc (mount page routed doc app) := by
  obtain ⟨target, -, hfound⟩ := Option.bind_eq_some_iff.mp hcontainer
  have htree := inTree_of_container? h hfound
  obtain ⟨hkeeps, hsize, hdata, hchildren⟩ := fill_eq h htree app routed
  have hbodyhas : (app.fill routed doc container).Has body :=
    hkeeps.has (h.inTree_of_findWhere? hbody).1
  have hne : body ≠ container := by
    rintro rfl
    exact absurd hspared (by simp [isInside])
  have hmount : mount page routed doc app =
      ((app.fill routed doc container).create (.element app.bundleScript)).2.appendChild body
        ((app.fill routed doc container).create (.element app.bundleScript)).1 := by
    rw [mount, hcontainer]
    show app.addBundle _ = _
    rw [addBundle, body?_fill h htree hbody hspared hname, ← ofTag_bundleAddress]
    rfl
  refine ⟨?_, ?_, fun x => ?_, fun x => ?_⟩
  · have howns : app.owns page doc = (doc.isBelow · container) := by
      funext x
      rw [owns, hcontainer]
    exact howns ▸ app.keeps_mount page routed h
  · rw [hmount, size_appendCreated, hsize]
  · rw [hmount, data_appendCreated, hsize, hdata]
  · rw [hmount, hkeeps.wellFormed.children_appendCreated hbodyhas, hchildren, hchildren,
      if_neg hne]
    show (if x = body then _ ++ [(⟨(app.fill routed doc container).size⟩ : NodeId)] else _) = _
    rw [hsize]

namespace IsMountedInto

/-- The new elements of a page. -/
theorem element_of_not_has (h : IsMountedInto app routed container body doc doc') {x : NodeId}
    {element : Element} (hx : ¬doc.Has x) (helement : doc'.element? x = some element) :
    element = app.bundleScript ∨ element = app.mountedElement routed := by
  rw [element?, h.data, data_of_not_has hx] at helement
  split at helement
  · next value heq =>
    obtain rfl := Option.some.inj helement
    split at heq
    · exact Or.inl (NodeData.element.inj heq).symm
    · split at heq
      · exact Or.inr (NodeData.element.inj heq).symm
      · exact absurd heq (by simp)
  · exact absurd helement (by simp)

/-- No new element has a name that is neither the one of scripts nor the one of the app. -/
theorem find?_eq (h : IsMountedInto app routed container body doc doc') (hdoc : doc.WellFormed)
    (hroot : doc.Has root) {tag : String} (hscript : tag ≠ "script") (hname : app.element ≠ tag)
    (hspared : ∀ found, doc.find? tag = some found → doc.isBelow found container = false) :
    doc'.find? tag = doc.find? tag := by
  refine h.keeps.find?_eq hdoc hroot (fun x element hx helement => ?_) hspared
  rcases h.element_of_not_has hx helement with rfl | rfl
  · exact hscript.symm
  · exact hname

/-- The only id of a new element is the alias of the app. -/
theorem findId?_eq (h : IsMountedInto app routed container body doc doc') (hdoc : doc.WellFormed)
    (hroot : doc.Has root) {name : String} (halias : app.appAlias ≠ name)
    (hspared : ∀ found, doc.findId? name = some found → doc.isBelow found container = false) :
    doc'.findId? name = doc.findId? name := by
  refine h.keeps.findId?_eq hdoc hroot (fun x element hx helement => ?_) hspared
  rcases h.element_of_not_has hx helement with rfl | rfl
  · exact fun hid => absurd hid.symm (Option.some_ne_none name)
  · exact fun hid => halias (Option.some.inj hid)

/-- Another container is found where it was, or is missing as it was. -/
theorem container?_eq (h : IsMountedInto app routed container body doc doc')
    (hdoc : doc.WellFormed) (hroot : doc.Has root) {target : AppTarget}
    (halias : app.appAlias ≠ target.containerId) (hname : app.element ≠ "main")
    (hspared : ∀ found, container? doc target = some found →
      doc.isBelow found container = false) :
    container? doc' target = container? doc target := by
  have hid : doc'.findId? target.containerId = doc.findId? target.containerId := by
    refine h.findId?_eq hdoc hroot halias fun found hfound => hspared found ?_
    rw [container?, hfound, Option.some_or]
  unfold container?
  rw [hid]
  cases hfirst : doc.findId? target.containerId with
  | some found => rw [Option.some_or, Option.some_or]
  | none =>
    split
    · next huses =>
      refine congrArg (Option.or none) (h.find?_eq hdoc hroot (by decide) hname ?_)
      intro found hfound
      refine hspared found ?_
      rw [container?, hfirst, if_pos huses, Option.none_or, hfound]
    · rfl

end IsMountedInto

/-! ## The containers of a page -/

/-- The apps that are mounted into a page, each with its container as the page has it now. -/
def placed (page : String) (doc : Document) (apps : List App) : List (App × NodeId) :=
  apps.filterMap fun app => ((app.target? page).bind (container? doc)).map (app, ·)

theorem mount_of_none (h : (app.target? page).bind (container? doc) = none) :
    mount page routed doc app = doc := by
  rw [mount, h]

theorem placed_cons_of_none (h : (app.target? page).bind (container? doc) = none) :
    placed page doc (app :: rest) = placed page doc rest := by
  rw [placed, List.filterMap_cons_none (by rw [h]; rfl)]
  rfl

theorem placed_cons_of_some (h : (app.target? page).bind (container? doc) = some container) :
    placed page doc (app :: rest) = (app, container) :: placed page doc rest := by
  rw [placed, List.filterMap_cons_some (by rw [h]; rfl)]
  rfl

/-- An app is placed where it finds a container. -/
theorem mem_placed_iff {entry : App × NodeId} : entry ∈ placed page doc apps ↔
    entry.1 ∈ apps ∧ (entry.1.target? page).bind (container? doc) = some entry.2 := by
  obtain ⟨app, container⟩ := entry
  simp only [placed, List.mem_filterMap, Option.map_eq_some_iff, Prod.mk.injEq]
  constructor
  · rintro ⟨_, hmem, _, hfound, rfl, rfl⟩
    exact ⟨hmem, hfound⟩
  · rintro ⟨hmem, hfound⟩
    exact ⟨app, hmem, container, hfound, rfl, rfl⟩

/-- The containers that apps have in a page lie apart, and none of them is around the body. The apps
bring neither an id nor a name that a container is looked up by, and no body. -/
structure HaveOwnContainers (page : String) (doc : Document) (body : NodeId) (apps : List App) :
    Prop where
  wellFormed : doc.WellFormed
  body_eq : doc.body? = some body
  apart : (placed page doc apps).Pairwise fun one other =>
    doc.isInside one.2 other.2 = false ∧ doc.isInside other.2 one.2 = false
  spared : ∀ entry ∈ placed page doc apps, doc.isInside body entry.2 = false
  ids : ∀ app ∈ apps, ∀ other ∈ apps, ∀ target ∈ other.target? page,
    app.appAlias ≠ target.containerId
  names : ∀ app ∈ apps, app.element ≠ "main" ∧ app.element ≠ "body"

namespace HaveOwnContainers

theorem has_root (h : HaveOwnContainers page doc body apps) : doc.Has root := by
  have hbody := h.wellFormed.inTree_of_findWhere? h.body_eq
  exact h.wellFormed.has_of_within hbody.1 hbody.2

/-- The containers are in the page. -/
theorem inTree_container (h : HaveOwnContainers page doc body apps) {entry : App × NodeId}
    (hentry : entry ∈ placed page doc apps) : doc.InTree entry.2 := by
  obtain ⟨target, -, hfound⟩ := Option.bind_eq_some_iff.mp (mem_placed_iff.mp hentry).2
  exact inTree_of_container? h.wellFormed hfound

/-- An app without a container may be left out. -/
theorem tail_of_none (h : HaveOwnContainers page doc body (app :: rest))
    (hnone : (app.target? page).bind (container? doc) = none) :
    HaveOwnContainers page doc body rest where
  wellFormed := h.wellFormed
  body_eq := h.body_eq
  apart := placed_cons_of_none hnone ▸ h.apart
  spared := placed_cons_of_none hnone ▸ h.spared
  ids := fun one hone other hother =>
    h.ids one (List.mem_cons_of_mem _ hone) other (List.mem_cons_of_mem _ hother)
  names := fun one hone => h.names one (List.mem_cons_of_mem _ hone)

/-- The first app is mounted into its container, and all else stays as it was. -/
theorem isMountedInto (h : HaveOwnContainers page doc body (app :: rest))
    (hcontainer : (app.target? page).bind (container? doc) = some container)
    (routed : String × String) :
    IsMountedInto app routed container body doc (App.mount page routed doc app) := by
  have hmem : (app, container) ∈ placed page doc (app :: rest) :=
    mem_placed_iff.mpr ⟨List.mem_cons_self, hcontainer⟩
  exact isMountedInto_mount h.wellFormed hcontainer h.body_eq (h.spared _ hmem)
    (h.names app List.mem_cons_self).2

/-- The containers of the other apps are found again. -/
theorem placed_mount (h : HaveOwnContainers page doc body (app :: rest))
    (hcontainer : (app.target? page).bind (container? doc) = some container)
    (routed : String × String) :
    placed page (App.mount page routed doc app) rest = placed page doc rest := by
  have hmounted := h.isMountedInto hcontainer routed
  have hfirst := (List.pairwise_cons.mp (placed_cons_of_some hcontainer ▸ h.apart)).1
  refine List.filterMap_congr fun other hother => congrArg (Option.map (other, ·)) ?_
  cases htarget : other.target? page with
  | none => rfl
  | some target =>
    refine hmounted.container?_eq h.wellFormed h.has_root
      (h.ids app List.mem_cons_self other (List.mem_cons_of_mem _ hother) target htarget)
      (h.names app List.mem_cons_self).1 fun found hfound => ?_
    have hmem : (other, found) ∈ placed page doc rest :=
      mem_placed_iff.mpr ⟨hother, by rw [htarget]; exact hfound⟩
    exact isBelow_of_isInside_eq_false (hfirst _ hmem).2

/-- The other apps still have containers of their own. -/
theorem mount (h : HaveOwnContainers page doc body (app :: rest))
    (hcontainer : (app.target? page).bind (container? doc) = some container)
    (routed : String × String) :
    HaveOwnContainers page (App.mount page routed doc app) body rest := by
  have hmounted := h.isMountedInto hcontainer routed
  have hplaced := h.placed_mount hcontainer routed
  have hall : placed page doc (app :: rest) = (app, container) :: placed page doc rest :=
    placed_cons_of_some hcontainer
  have hlater : ∀ entry ∈ placed page doc rest, entry ∈ placed page doc (app :: rest) :=
    fun entry hentry => hall ▸ List.mem_cons_of_mem _ hentry
  have hinside : ∀ {x top}, doc.Has x → doc.isInside x top = false →
      (App.mount page routed doc app).isInside x top = false :=
    fun hx houtside => hmounted.keeps.isInside_eq_false h.wellFormed hx houtside
  have hbody := h.wellFormed.inTree_of_findWhere? h.body_eq
  refine ⟨hmounted.keeps.wellFormed, ?_, ?_, ?_, ?_, ?_⟩
  · refine (hmounted.find?_eq h.wellFormed h.has_root (by decide)
      (h.names app List.mem_cons_self).2 fun found hfound => ?_).trans h.body_eq
    obtain rfl : found = body := Option.some.inj (hfound.symm.trans h.body_eq)
    exact isBelow_of_isInside_eq_false (h.spared _ (hall ▸ List.mem_cons_self))
  · rw [hplaced]
    refine (List.pairwise_cons.mp (hall ▸ h.apart)).2.imp_of_mem fun hone hother hapart => ?_
    exact ⟨hinside (h.inTree_container (hlater _ hone)).1 hapart.1,
      hinside (h.inTree_container (hlater _ hother)).1 hapart.2⟩
  · intro entry hentry
    rw [hplaced] at hentry
    exact hinside hbody.1 (h.spared entry (hlater entry hentry))
  · exact fun one hone other hother =>
      h.ids one (List.mem_cons_of_mem _ hone) other (List.mem_cons_of_mem _ hother)
  · exact fun one hone => h.names one (List.mem_cons_of_mem _ hone)

end HaveOwnContainers

/-! ## All apps -/

/-- An app is alone in its container, with a new element, and a new script loads its bundle. -/
structure IsAloneIn (routed : String × String) (doc doc' : Document) (entry : App × NodeId)
    (nodes : NodeId × NodeId) : Prop where
  isNew : ¬doc.Has nodes.1 ∧ ¬doc.Has nodes.2
  container : doc'.children entry.2 = [nodes.1]
  element : doc'.data nodes.1 = .element (entry.1.mountedElement routed)
  script : doc'.data nodes.2 = .element entry.1.bundleScript
  empty : doc'.children nodes.1 = [] ∧ doc'.children nodes.2 = []

/-- The document `doc'` is `doc` with apps alone in their containers, their scripts in order at the
end of the body, and everything else as it was; `made` has the element and the script of each. -/
structure StandSideBySide (routed : String × String) (body : NodeId)
    (containers : List (App × NodeId)) (doc doc' : Document) (made : List (NodeId × NodeId)) :
    Prop where
  wellFormed : doc'.WellFormed
  size : doc'.size = doc.size + 2 * containers.length
  body_eq : doc'.body? = some body
  alone : List.Forall₂ (IsAloneIn routed doc doc') containers made
  scripts : doc'.children body = doc.children body ++ made.map (·.2)
  children : ∀ x, doc.Has x → x ≠ body → (∀ entry ∈ containers, x ≠ entry.2) →
    doc'.children x = doc.children x
  data : ∀ x, doc.Has x → doc'.data x = doc.data x
  inTree : ∀ x, doc.InTree x → (∀ entry ∈ containers, doc.isBelow x entry.2 = false) →
    doc'.InTree x

/-- An app is mounted in front of others that stand side by side in the page with it. -/
theorem IsMountedInto.standSideBySide (h : IsMountedInto app routed container body doc mid)
    (hdoc : doc.WellFormed) {others : List (App × NodeId)} {made : List (NodeId × NodeId)}
    (hrest : StandSideBySide routed body others mid doc' made)
    (hcontainer : doc.Has container) (hbody : doc.Has body) (hne : container ≠ body)
    (hothers : ∀ entry ∈ others, doc.Has entry.2 ∧ container ≠ entry.2) :
    StandSideBySide routed body ((app, container) :: others) doc doc'
      ((⟨doc.size⟩, ⟨doc.size + 1⟩) :: made) := by
  have hnew : ¬doc.Has ⟨doc.size⟩ ∧ ¬doc.Has ⟨doc.size + 1⟩ :=
    ⟨Nat.lt_irrefl _, Nat.not_lt_of_le (Nat.le_succ _)⟩
  have hmade : mid.Has ⟨doc.size⟩ ∧ mid.Has ⟨doc.size + 1⟩ := by
    simp only [Has, h.size]
    omega
  -- the new nodes are neither the body nor a container, so the other apps leave them empty
  have hempty : ∀ x, ¬doc.Has x → mid.Has x → doc'.children x = [] := by
    intro x hx hmid
    have hxbody : x ≠ body := fun heq => hx (heq ▸ hbody)
    have hxcontainer : x ≠ container := fun heq => hx (heq ▸ hcontainer)
    rw [hrest.children x hmid hxbody fun entry hentry heq =>
      hx (heq ▸ (hothers entry hentry).1), h.children, if_neg hxbody, if_neg hxcontainer,
      IsForest.kids_eq_nil hdoc hx]
  have helement : mid.data ⟨doc.size⟩ = .element (app.mountedElement routed) := by
    rw [h.data, if_neg (by simp), if_pos rfl]
  have hscript : mid.data ⟨doc.size + 1⟩ = .element app.bundleScript := by
    rw [h.data, if_pos rfl]
  refine ⟨hrest.wellFormed, ?_, hrest.body_eq, ?_, ?_, ?_, ?_, ?_⟩
  · rw [hrest.size, h.size, List.length_cons]
    omega
  · refine .cons ⟨hnew, ?_, ?_, ?_, hempty _ hnew.1 hmade.1, hempty _ hnew.2 hmade.2⟩ ?_
    · rw [hrest.children container (h.keeps.has hcontainer) hne fun entry hentry =>
        (hothers entry hentry).2, h.children, if_neg hne, if_pos rfl]
    · rw [hrest.data _ hmade.1, helement]
    · rw [hrest.data _ hmade.2, hscript]
    · exact hrest.alone.imp fun entry nodes hentry =>
        { hentry with isNew := hentry.isNew.imp (mt h.keeps.has) (mt h.keeps.has) }
  · rw [hrest.scripts, h.children, if_pos rfl, List.append_assoc]
    rfl
  · intro x hx hxbody hxcontainers
    obtain ⟨hxcontainer, hxothers⟩ := List.forall_mem_cons.mp hxcontainers
    rw [hrest.children x (h.keeps.has hx) hxbody hxothers, h.children, if_neg hxbody,
      if_neg hxcontainer]
  · intro x hx
    rw [hrest.data x (h.keeps.has hx), h.keeps.data x hx]
  · intro x hx hxcontainers
    obtain ⟨hxcontainer, hxothers⟩ := List.forall_mem_cons.mp hxcontainers
    have hmid : mid.InTree x :=
      ⟨h.keeps.has hx.1, (h.keeps.within_iff x hx.1).mpr ⟨hx.2, hxcontainer⟩⟩
    exact hrest.inTree x hmid fun entry hentry =>
      h.keeps.isBelow_eq_false hdoc hx.1 (hxothers entry hentry)

/-- Apps that have containers of their own stand side by side once they are mounted. -/
theorem exists_standSideBySide (page : String) (routed : String × String) :
    ∀ (apps : List App) {doc : Document}, HaveOwnContainers page doc body apps →
      ∃ made, StandSideBySide routed body (placed page doc apps) doc
        (apps.foldl (mount page routed) doc) made := by
  intro apps
  induction apps with
  | nil =>
    intro doc h
    exact ⟨[], h.wellFormed, rfl, h.body_eq, .nil, (List.append_nil _).symm,
      fun _ _ _ _ => rfl, fun _ _ => rfl, fun _ hx _ => hx⟩
  | cons app rest ih =>
    intro doc h
    rw [List.foldl_cons]
    cases hcontainer : (app.target? page).bind (container? doc) with
    | none =>
      rw [placed_cons_of_none hcontainer, mount_of_none hcontainer]
      exact ih (h.tail_of_none hcontainer)
    | some container =>
      have hmounted := h.isMountedInto hcontainer routed
      obtain ⟨made, hrest⟩ := ih (h.mount hcontainer routed)
      rw [h.placed_mount hcontainer routed] at hrest
      have hall : placed page doc (app :: rest) = (app, container) :: placed page doc rest :=
        placed_cons_of_some hcontainer
      have hfirst := (List.pairwise_cons.mp (hall ▸ h.apart)).1
      have hmem : (app, container) ∈ placed page doc (app :: rest) := hall ▸ List.mem_cons_self
      rw [hall]
      refine ⟨_, hmounted.standSideBySide h.wellFormed hrest (h.inTree_container hmem).1
        (h.wellFormed.inTree_of_findWhere? h.body_eq).1 ?_ fun entry hentry => ⟨?_, ?_⟩⟩
      · rintro rfl
        exact absurd (h.spared _ hmem) (by simp [isInside])
      · exact (h.inTree_container (hall ▸ List.mem_cons_of_mem _ hentry)).1
      · intro heq
        exact absurd (hfirst entry hentry).1 (by simp [heq, isInside])

/-- An app without a target or a container might as well not be there. -/
theorem foldl_mount_placed (page : String) (routed : String × String) :
    ∀ (apps : List App) {doc : Document}, HaveOwnContainers page doc body apps →
      apps.foldl (mount page routed) doc =
        ((placed page doc apps).map (·.1)).foldl (mount page routed) doc := by
  intro apps
  induction apps with
  | nil => intro doc _; rfl
  | cons app rest ih =>
    intro doc h
    rw [List.foldl_cons]
    cases hcontainer : (app.target? page).bind (container? doc) with
    | none =>
      rw [placed_cons_of_none hcontainer, mount_of_none hcontainer]
      exact ih (h.tail_of_none hcontainer)
    | some container =>
      rw [placed_cons_of_some hcontainer, List.map_cons, List.foldl_cons,
        ih (h.mount hcontainer routed), h.placed_mount hcontainer routed]

/-- The target of an app is the first one with the path of the page, one slash at the end or not. -/
theorem target?_eq_some_iff {target : AppTarget} : app.target? page = some target ↔
    ∃ before after, app.targets = before ++ target :: after ∧
      Text.dropLastOf '/' target.path = Text.dropLastOf '/' page ∧
      ∀ other ∈ before, Text.dropLastOf '/' other.path ≠ Text.dropLastOf '/' page := by
  rw [target?, List.find?_eq_some_iff_append, beq_iff_eq]
  constructor
  · rintro ⟨hpath, before, after, htargets, hothers⟩
    exact ⟨before, after, htargets, hpath, fun other hother => by simpa using hothers other hother⟩
  · rintro ⟨before, after, htargets, hpath, hothers⟩
    exact ⟨hpath, before, after, htargets, fun other hother => by simpa using hothers other hother⟩

/-- The bundle of an app is at its address. -/
theorem attr?_src_bundleScript (haddress : app.address ≠ "") :
    app.bundleScript.attr? "src" =
      some ("http:" ++ "//" ++ Text.dropLastOf '/' app.address ++ "/" ++
        Text.dropFirstOf '/' app.path) := by
  rw [← Text.dropLastOf_append haddress]
  rfl

/-- Apps that have containers of their own are mounted side by side: each is alone in the container
that it has at the start, and is told the path inside it if the request addresses it; the body gets
the scripts of the bundles in order; and nothing else changes. Apps without a target or a container
might as well not be there, and of the targets of an app the first one that fits counts. -/
theorem mountAll_side_by_side {sent : SentRequest}
    (h : HaveOwnContainers sent.routing.proxiedPath doc body apps) :
    (∃ made, StandSideBySide
      (sent.request.headers.lookUp Headers.appAliasField,
        sent.request.headers.lookUp Headers.appSubpathField)
      body (placed sent.routing.proxiedPath doc apps) doc (mountAll apps sent doc) made) ∧
    mountAll apps sent doc =
      mountAll ((placed sent.routing.proxiedPath doc apps).map (·.1)) sent doc ∧
    (∀ app ∈ apps, ∀ target, app.target? sent.routing.proxiedPath = some target ↔
      ∃ before after, app.targets = before ++ target :: after ∧
        Text.dropLastOf '/' target.path = Text.dropLastOf '/' sent.routing.proxiedPath ∧
        ∀ other ∈ before,
          Text.dropLastOf '/' other.path ≠ Text.dropLastOf '/' sent.routing.proxiedPath) ∧
    ∀ app ∈ apps, app.address ≠ "" → app.bundleScript.attr? "src" =
      some ("http:" ++ "//" ++ Text.dropLastOf '/' app.address ++ "/" ++
        Text.dropFirstOf '/' app.path) :=
  ⟨exists_standSideBySide _ _ apps h, foldl_mount_placed _ _ apps h,
    fun _ _ _ => target?_eq_some_iff, fun _ _ => attr?_src_bundleScript⟩

/-! ### A page with two containers -/

/-- Edits that make a page with a slot and a main element, both of which hold something. -/
def shopEdits : List Document.Edit :=
  [.createElement "html" [], .appendChild root ⟨1⟩, .createElement "head" [],
    .appendChild ⟨1⟩ ⟨2⟩, .createElement "body" [], .appendChild ⟨1⟩ ⟨3⟩,
    .createElement "div" [("id", "slot")], .appendChild ⟨3⟩ ⟨4⟩, .createElement "p" [],
    .appendChild ⟨4⟩ ⟨5⟩, .createElement "main" [], .appendChild ⟨3⟩ ⟨6⟩,
    .createElement "h1" [], .appendChild ⟨6⟩ ⟨7⟩]

def shopPage : Document := applyAll {} shopEdits

/-- An app for the slot, one for the main element, one for a container that the page does not have
and one for another page. -/
def shopApps : List App :=
  [{ appAlias := "cart", address := "site.test/", element := "cart-view", path := "/cart.js"
     targets := [{ path := "/shop/", container := "slot" }] },
   { appAlias := "list", address := "site.test", element := "list-view", path := "list.js"
     targets := [{ path := "/" }, { path := "/shop" }, { path := "/shop", container := "slot" }] },
   { appAlias := "chat", address := "site.test", element := "chat-view", path := "/chat.js"
     targets := [{ path := "/shop", container := "aside" }] },
   { appAlias := "blog", address := "site.test", element := "blog-view", path := "/blog.js"
     targets := [{ path := "/blog" }] }]

/-- A request for the page that addresses the first app. -/
def shopSent : SentRequest :=
  { request := { headers := ⟨[("x-kdex-proxy-app-alias", "cart"),
      ("x-kdex-proxy-app-path", "/items")]⟩ }
    routing := { proxiedPath := "/shop" } }

/-- The first two apps get the slot and the main element, and the other two nothing. -/
theorem mountAll_side_by_side_shop :
    HaveOwnContainers "/shop" shopPage ⟨3⟩ shopApps ∧
      (placed "/shop" shopPage shopApps).map (fun entry => (entry.1.appAlias, entry.2)) =
        [("cart", ⟨4⟩), ("list", ⟨6⟩)] ∧
      ∃ made, StandSideBySide ("cart", "/items") ⟨3⟩ (placed "/shop" shopPage shopApps) shopPage
        (mountAll shopApps shopSent shopPage) made := by
  have hown : HaveOwnContainers "/shop" shopPage ⟨3⟩ shopApps :=
    { wellFormed := WellFormed.empty.applyAll shopEdits (by decide +kernel) shopEdits.length
      body_eq := by decide +kernel
      apart := by decide +kernel
      spared := by decide +kernel
      ids := by decide +kernel
      names := by decide +kernel }
  obtain ⟨hmounted, -⟩ := @mountAll_side_by_side shopPage shopApps ⟨3⟩ shopSent hown
  exact ⟨hown, by decide +kernel, hmounted⟩

end App

end ComposingProxy
