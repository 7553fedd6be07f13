import ComposingProxy.Proofs.Page.Frame
import ComposingProxy.Proofs.Page.Items
import ComposingProxy.Proofs.Tree.Contents

/-!
# What the navigation keeps to itself

A client that is not logged in is not shown the items whose address begins with a protected path.
What such an item says can still come through in the fields of other items: a field takes the text
of all that is in an item, also of protected items in there.

> `Navigation.transform_eq_of_indistinct`: that is the only way. Two pages that differ in hidden
> texts and attribute values become the same page, if no field that is written of an allowed
> item looks at a hidden node.
> `Navigation.isClear_of_apart`: so where no allowed item is in a protected one or around it, nothing
> comes through.

With a protected item in an allowed one, a label that is the text of the item tells what is hidden
(`Navigation.not_every_secret_kept`).
-/

namespace ComposingProxy

open Markup Document

variable {doc doc' : Document} {hidden : NodeId → Bool} {item x : NodeId}

/-! ## Alike nodes -/

namespace Markup.NodeData

/-- The same data but for the words of a text or comment and the values of attributes. -/
def IsAlike : NodeData → NodeData → Prop
  | .text _, .text _ => True
  | .comment _, .comment _ => True
  | .element first, .element second =>
    second.name = first.name ∧ second.attrs.map (·.name) = first.attrs.map (·.name) ∧
      second.contents = first.contents
  | first, second => second = first

theorem IsAlike.refl (data : NodeData) : data.IsAlike data := by
  cases data with
  | text value => trivial
  | comment value => trivial
  | element element => exact ⟨rfl, rfl, rfl⟩
  | _ => exact rfl

end Markup.NodeData

namespace Navigation

variable {navigation : Navigation}

/-! ## Hidden nodes -/

/-- The item that a node is in, the nearest one if there are several. -/
def itemAround? (navigation : Navigation) (doc : Document) (x : NodeId) : Option NodeId :=
  (x :: doc.ancestors x).find? (navigation.found doc).elem

/-- Whether a node is in an item that is kept from those who are not logged in. -/
def hides (navigation : Navigation) (doc : Document) (x : NodeId) : Bool :=
  (navigation.itemAround? doc x).any (navigation.guards doc)

/-- An item that is found is in the page. -/
theorem below_of_mem_found (h : doc.WellFormed) (hitem : item ∈ navigation.found doc) :
    Relation.TransGen doc.IsParent root item := by
  rw [found, Selector.selectAll] at hitem
  exact h.mem_tail_subtree_iff.mp (List.mem_of_mem_filter hitem)

theorem parent?_ne_none_of_mem_found (h : doc.WellFormed) (hitem : item ∈ navigation.found doc) :
    doc.parent? item ≠ none := by
  obtain ⟨p, -, hp⟩ := Relation.TransGen.tail'_iff.mp (below_of_mem_found h hitem)
  intro hnone
  exact absurd (hnone.symm.trans hp) (by simp)

/-- A hidden node lies within a protected item. -/
theorem exists_of_hides (h : doc.WellFormed) (hx : navigation.hides doc x = true) :
    ∃ item ∈ navigation.found doc, navigation.guards doc item = true ∧ doc.Within x item := by
  obtain ⟨item, haround, hguards⟩ := (Option.any_eq_true _ _).mp hx
  have hitem := List.find?_some haround
  have hwithin := List.mem_cons.mp (List.mem_of_find?_eq_some haround)
  exact ⟨item, List.elem_iff.mp hitem, hguards,
    (IsForest.within_iff h x item).mpr (hwithin.imp Eq.symm id)⟩

theorem has_of_hides (h : doc.WellFormed) (hx : navigation.hides doc x = true) : doc.Has x := by
  obtain ⟨item, hitem, -, hwithin⟩ := exists_of_hides h hx
  obtain ⟨p, -, hp⟩ := Relation.TransGen.tail'_iff.mp
    ((below_of_mem_found h hitem).trans_left hwithin)
  exact has_of_parent? hp

/-- The root is in no item. -/
theorem hides_root (h : doc.WellFormed) : navigation.hides doc root = false := by
  by_contra hroot
  obtain ⟨item, hitem, -, hwithin⟩ := exists_of_hides h (Bool.not_eq_false _ ▸ hroot)
  exact IsForest.not_transGen_self h root ((below_of_mem_found h hitem).trans_left hwithin)

/-- A node that is not an item is hidden with the node that holds it. -/
theorem hides_of_parent? (h : doc.WellFormed) {p : NodeId} (hp : doc.parent? x = some p)
    (hx : x ∉ navigation.found doc) : navigation.hides doc x = navigation.hides doc p := by
  have hskip : (x :: p :: doc.ancestors p).find? (navigation.found doc).elem =
      (p :: doc.ancestors p).find? (navigation.found doc).elem :=
    List.find?_cons_of_neg (by rwa [List.elem_iff])
  rw [hides, hides, itemAround?, itemAround?, IsForest.ancestors_of_parent? h hp, hskip]

/-- No template that is written holds what was in the page before. -/
theorem hasNewContents_transform (navigation : Navigation) (loggedIn : Bool) (doc : Document) :
    HasNewContents doc (navigation.transform loggedIn doc) := by
  unfold transform
  split
  · exact .refl doc
  · refine HasNewContents.foldl (fun item h => h.detach item) _ ?_
    refine HasNewContents.foldl (fun node h => ?_) _ (.refl doc)
    exact (HasNewContents.copyWithin _ _ node h).2.insertBefore _ _

/-! ## Two pages -/

/-- Copies are put into both pages in the same way. -/
theorem agreeOff_insertCopies (source : Document) (place : NodeId) (nodes : List NodeId)
    (h : AgreeOff hidden doc doc') :
    AgreeOff hidden (insertCopies doc source place nodes)
      (insertCopies doc' source place nodes) := by
  refine AgreeOff.foldl (fun {cur cur'} node hcur => ?_) nodes h
  obtain ⟨hsame, hcopied⟩ := hcur.copyWithin source source.size node
  show AgreeOff hidden
    ((copyWithin source source.size cur node).2.insertBefore place
      (copyWithin source source.size cur node).1)
    ((copyWithin source source.size cur' node).2.insertBefore place
      (copyWithin source source.size cur' node).1)
  rw [hsame]
  exact hcopied.insertBefore place _

/-- Pages that are the same to a transformer turn out the same if it writes the same markup. -/
theorem agreeOff_transform (h : AgreeOff hidden doc doc')
    (hfound : navigation.found doc' = navigation.found doc)
    (hmarkup : navigation.markup (navigation.items doc' (navigation.found doc) false) =
      navigation.markup (navigation.items doc (navigation.found doc) false))
    (hcontext : ∀ x, contextOf doc' x = contextOf doc x) :
    AgreeOff hidden (navigation.transform false doc) (navigation.transform false doc') := by
  unfold found at hfound hmarkup
  unfold transform
  rw [hfound]
  cases hitems : navigation.query.selectAll doc root with
  | nil => exact h
  | cons first others =>
    rw [hitems] at hmarkup
    dsimp only
    rw [hmarkup, hcontext first]
    exact AgreeOff.foldl (fun item hcur => hcur.detach item) _ (agreeOff_insertCopies _ _ _ h)

/-- Nothing holds an item any more once the navigation is written. -/
theorem parent?_transform_of_mem (h : doc.WellFormed) (hitem : item ∈ navigation.found doc)
    (loggedIn : Bool) : (navigation.transform loggedIn doc).parent? item = none := by
  unfold found at hitem
  unfold transform
  split
  · next hnone =>
    rw [hnone] at hitem
    exact absurd hitem List.not_mem_nil
  · next first others hfound =>
    rw [hfound] at hitem
    have hfirst : first ∈ navigation.found doc := by
      rw [found, hfound]
      exact List.mem_cons_self
    have hhas : doc.Has first := by
      obtain ⟨p, hp⟩ := Option.ne_none_iff_exists'.mp (parent?_ne_none_of_mem_found h hfirst)
      exact has_of_parent? hp
    exact (extends_insertCopies _ first _ (Edited.refl h _) hhas).wellFormed.parent?_foldl_detach
      _ item (Or.inl hitem)

/-- Nothing hidden is left in what is shown: hidden nodes hang together, up to items that are
taken out, and new nodes are not hidden. -/
theorem isShownWhole_transform (h : doc.WellFormed) (hown : doc.HasOwnContents)
    (loggedIn : Bool) :
    IsShownWhole (navigation.hides doc) (navigation.transform loggedIn doc) := by
  have hkeeps := navigation.keeps_transform loggedIn h
  constructor
  case child =>
    intro p c hp hparent
    -- a hidden node that is no item is hidden with its parent, and items have lost theirs
    by_contra hc
    rw [Bool.not_eq_false] at hc
    have hnot : c ∉ navigation.found doc := by
      intro hitem
      rw [parent?_transform_of_mem h hitem] at hparent
      exact absurd hparent (by simp)
    have hbefore : doc.parent? c = some p := by
      rcases hkeeps.parent c (has_of_hides h hc) with hsame | ⟨-, hnone⟩
      · exact hsame.symm.trans hparent
      · exact absurd (hnone.symm.trans hparent) (by simp)
    rw [hides_of_parent? h hbefore hnot, hp] at hc
    exact absurd hc (by simp)
  case contents =>
    intro p c hp hcontents
    by_contra hc
    rw [Bool.not_eq_false] at hc
    by_cases hhas : doc.Has p
    · -- the contents of a template of before are a tree of their own, so they are in no item
      rw [contents?_eq (hkeeps.data p hhas)] at hcontents
      obtain ⟨item, hitem, -, hwithin⟩ := exists_of_hides h hc
      obtain rfl := eq_of_within (hown p c hcontents) hwithin
      exact parent?_ne_none_of_mem_found h hitem (hown p c hcontents)
    · exact (navigation.hasNewContents_transform loggedIn doc).contents p c hhas hcontents
        (has_of_hides h hc)

/-! ## Pages that differ in what is hidden -/

/-- Pages of one shape, with the same items and the same protected ones among them, that differ
only in texts and attribute values of hidden nodes. -/
structure Indistinct (navigation : Navigation) (doc doc' : Document) : Prop
    extends AgreeOff (navigation.hides doc) doc doc' where
  alike : ∀ x, (doc.data x).IsAlike (doc'.data x)
  found : navigation.found doc' = navigation.found doc
  guards : ∀ item ∈ navigation.found doc, navigation.guards doc' item = navigation.guards doc item

/-- No field that has a say in what is written of an allowed item looks at a hidden node. -/
def IsClear (navigation : Navigation) (doc : Document) : Prop :=
  ∀ item ∈ navigation.found doc, navigation.guards doc item = false →
    ∀ field ∈ navigation.fields, navigation.shows field = true →
      ∀ x ∈ field.looksAt doc item, navigation.hides doc x = false

instance (navigation : Navigation) (doc : Document) : Decidable (navigation.IsClear doc) :=
  inferInstanceAs (Decidable (∀ item ∈ _, _ → ∀ field ∈ _, _ → ∀ x ∈ _, _))

/-- Where allowed items are neither in protected ones nor around them, no field looks at anything
hidden. -/
theorem isClear_of_apart (h : doc.WellFormed)
    (hapart : ∀ secret ∈ navigation.found doc, ∀ item ∈ navigation.found doc,
      navigation.guards doc secret = true → navigation.guards doc item = false →
        ¬doc.Within secret item ∧ ¬doc.Within item secret) : navigation.IsClear doc := by
  intro item hitem hallowed field _ _ x hx
  by_contra hhidden
  rw [Bool.not_eq_false] at hhidden
  obtain ⟨secret, hsecret, hguards, hwithin⟩ := exists_of_hides h hhidden
  obtain ⟨hout, hin⟩ := hapart secret hsecret item hitem hguards hallowed
  rcases field.within_of_mem_looksAt h hx with hbelow | habove
  · exact (within_or_within hwithin hbelow).elim hout hin
  · exact hin (hwithin.trans habove)

namespace Indistinct

variable (hsame : navigation.Indistinct doc doc')

include hsame

/-- The element that holds a node has the same name in both pages. -/
theorem contextOf_eq (x : NodeId) : contextOf doc' x = contextOf doc x := by
  have htag : ∀ p, (doc'.element? p).map (·.tag) = (doc.element? p).map (·.tag) := by
    intro p
    have halike := hsame.alike p
    rw [element?, element?]
    cases hbefore : doc.data p <;> cases hafter : doc'.data p <;> rw [hbefore, hafter] at halike
    case element.element => exact congrArg some (congrArg Name.tag halike.1)
    all_goals first
      | rfl
      | exact absurd halike (by simp [NodeData.IsAlike])
  unfold contextOf
  rw [hsame.parent]
  cases doc.parent? x with
  | none => rfl
  | some p =>
    rw [Option.bind_some, Option.bind_some, htag]

/-- The navigation of both pages is written with the same markup. -/
theorem markup_eq (h : doc.WellFormed) (hclear : navigation.IsClear doc) :
    navigation.markup (navigation.items doc' (navigation.found doc) false) =
      navigation.markup (navigation.items doc (navigation.found doc) false) := by
  refine markup_items_eq hsame.guards fun item hitem hallowed => ?_
  refine trace_eq fun field hfield hshows => ?_
  exact field.read_eq hsame.toAgreeOff h (hclear item hitem hallowed field hfield hshows)

end Indistinct

/-- Pages that differ in what is hidden become the same page for a client that is not logged in, if
no field that has a say in what is written of an allowed item looks at a hidden node. -/
theorem transform_eq_of_indistinct (h : doc.WellFormed) (hown : doc.HasOwnContents)
    (hsame : navigation.Indistinct doc doc') (hclear : navigation.IsClear doc) :
    (navigation.transform false doc').render = (navigation.transform false doc).render ∧
      ∀ x, ((navigation.transform false doc').InTree x ↔
          (navigation.transform false doc).InTree x) ∧
        ((navigation.transform false doc).InTree x →
          (navigation.transform false doc').node x = (navigation.transform false doc).node x) := by
  have hkeeps := navigation.keeps_transform false h
  have hagree := agreeOff_transform hsame.toAgreeOff hsame.found (hsame.markup_eq h hclear)
    hsame.contextOf_eq
  have hwhole : IsShownWhole (navigation.hides doc) (navigation.transform false doc) :=
    isShownWhole_transform h hown false
  have hroot : navigation.hides doc root = false := hides_root h
  refine ⟨hagree.render_eq hkeeps.wellFormed hwhole hroot, fun x => ⟨hagree.inTree_iff x, ?_⟩⟩
  intro hx
  exact hagree.node_eq (hwhole.of_within hroot hx.2)

/-! ### A secret that is kept and one that is told -/

/-- Another text in the place of a hidden one, if no item is told by it. -/
theorem indistinct_of_text {id : NodeId} {before after : String}
    (hhidden : navigation.hides doc id = true) (htext : doc.data id = .text before)
    (hfound : navigation.found (doc.modifyData id fun _ => .text after) = navigation.found doc)
    (hguards : ∀ item ∈ navigation.found doc,
      navigation.guards (doc.modifyData id fun _ => .text after) item =
        navigation.guards doc item) :
    navigation.Indistinct doc (doc.modifyData id fun _ => .text after) where
  toAgreeOff := AgreeOff.modifyData doc hhidden _
  alike x := by
    rw [Document.data, Document.data, modifyData, node_modify]
    split
    · next hboth =>
      rw [hboth.1]
      show NodeData.IsAlike (doc.data id) (.text after)
      rw [htext]
      trivial
    · exact .refl _
  found := hfound
  guards := hguards

/-- Edits that make a page with a list in which an item holds another list. -/
def nestedEdits : List Document.Edit :=
  [.createElement "html" [], .appendChild root ⟨1⟩, .createElement "body" [],
    .appendChild ⟨1⟩ ⟨2⟩, .createElement "ul" [], .appendChild ⟨2⟩ ⟨3⟩,
    .createElement "li" [], .appendChild ⟨3⟩ ⟨4⟩, .createElement "a" [("href", "/docs")],
    .appendChild ⟨4⟩ ⟨5⟩, .appendText ⟨5⟩ "Docs", .createElement "ul" [], .appendChild ⟨4⟩ ⟨7⟩,
    .createElement "li" [], .appendChild ⟨7⟩ ⟨8⟩, .createElement "a" [("href", "/admin")],
    .appendChild ⟨8⟩ ⟨9⟩, .appendText ⟨9⟩ "Secret"]

def nestedPage : Document := applyAll {} nestedEdits

theorem wellFormed_nestedPage : nestedPage.WellFormed :=
  WellFormed.empty.applyAll nestedEdits (by decide +kernel) nestedEdits.length

theorem hasOwnContents_nestedPage : nestedPage.HasOwnContents := by
  have hnone : ∀ i < nestedPage.size, nestedPage.contents? ⟨i⟩ = none := by decide +kernel
  intro x c hc
  obtain ⟨element, helement, -⟩ := Option.bind_eq_some_iff.mp hc
  exact absurd (hc.symm.trans (hnone x.index (has_of_element? helement))) (by simp)

/-- The page with another text in the inner item. -/
def otherPage : Document := nestedPage.modifyData ⟨10⟩ fun _ => .text "Other"

/-- The links of a page. -/
def links : Selector := { first := { tag := some "a" } }

/-- A navigation of linked items that keeps some to itself. The label of an item is the text of what
`label` finds, or of the whole item. -/
def listNavigation (label : Option Selector) : Navigation :=
  { query := { first := { tag := some "li" } }
    fields := [⟨"href", some links, "href"⟩, ⟨"label", label, ""⟩]
    template :=
      ⟨[.literal "<a href=\"", .field "href", .literal "\">", .field "label", .literal "</a>"]⟩
    templatePaths := []
    protectedPaths := ["/admin"] }

theorem indistinct_otherPage {label : Option Selector} (h : label = none ∨ label = some links) :
    (listNavigation label).Indistinct nestedPage otherPage := by
  rcases h with rfl | rfl
  · exact @indistinct_of_text nestedPage (listNavigation none) ⟨10⟩ "Secret" "Other"
      (by decide +kernel) (by decide +kernel) (by decide +kernel) (by decide +kernel)
  · exact @indistinct_of_text nestedPage (listNavigation (some links)) ⟨10⟩ "Secret" "Other"
      (by decide +kernel) (by decide +kernel) (by decide +kernel) (by decide +kernel)

/-- A label that is the text of a link tells nothing of the links further down. -/
theorem transform_eq_of_indistinct_nested :
    nestedPage.WellFormed ∧ nestedPage.HasOwnContents ∧
      (listNavigation (some links)).Indistinct nestedPage otherPage ∧
      (listNavigation (some links)).IsClear nestedPage ∧
      ((listNavigation (some links)).transform false otherPage).render =
        ((listNavigation (some links)).transform false nestedPage).render := by
  have hsame := indistinct_otherPage (Or.inr rfl)
  have hclear : (listNavigation (some links)).IsClear nestedPage := by decide +kernel
  exact ⟨wellFormed_nestedPage, hasOwnContents_nestedPage, hsame, hclear,
    (transform_eq_of_indistinct wellFormed_nestedPage hasOwnContents_nestedPage hsame hclear).1⟩

/-- It is not so that pages that differ in what is hidden always become the same page for a client
that is not logged in. -/
theorem not_every_secret_kept :
    ¬∀ (navigation : Navigation) (doc doc' : Document), doc.WellFormed → doc.HasOwnContents →
      navigation.Indistinct doc doc' →
        (navigation.transform false doc').render = (navigation.transform false doc).render := by
  intro hall
  -- the label of the outer item is the text of both links
  have htold : ((listNavigation none).transform false otherPage).render ≠
      ((listNavigation none).transform false nestedPage).render := by
    decide +kernel
  exact htold (hall _ nestedPage otherPage wellFormed_nestedPage hasOwnContents_nestedPage
    (indistinct_otherPage (Or.inl rfl)))

end Navigation

end ComposingProxy
