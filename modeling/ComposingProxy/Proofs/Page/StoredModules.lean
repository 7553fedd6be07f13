import ComposingProxy.Proofs.Page.Frame
import ComposingProxy.Proofs.Tree.Search

/-!
# The modules in a page

What storing the configured modules makes of a page, seen from the page as it was: which script
holds the import map, which map it holds then, where the module that every page runs is put, and
that nothing else changes.

> `ImportMapSettings.editInPlace_eq`: the page is edited step by step, and a step that fails comes
> before the first edit, so a page that the modules cannot be put into is as it was.
> `ImportMapSettings.transform_eq_error_iff`: that is so where the import map of the page is none,
> and where there is no head to make one in.
> `ImportMapSettings.transform_edits`: in all other pages the map is stored, and again no edit but
> those that are said changes anything.

`Edits` says what is done to a page. Which script and which body are looked up afterwards follows
from the order of what stays (`Keeps.isFirst_iff`): the script that holds the map is still the first
one, so the same settings find it again and store the same text.
-/

namespace ComposingProxy

open Markup

namespace Markup.Document

variable {doc : Document} {id p x : NodeId}

/-! ## What is made -/

/-- A number that is not the new one stands for what it stood for, also if it was not given out. -/
theorem data_create_of_ne (data : NodeData) (h : x ≠ (doc.create data).1) :
    (doc.create data).2.data x = doc.data x := by
  rw [Document.data, node_create, if_neg h]
  rfl

theorem element?_eq_none_of_data (data : NodeData) (hdata : doc.data x = data)
    (h : ∀ element, data ≠ .element element) : doc.element? x = none := by
  rw [element?, hdata]
  cases data with
  | element element => exact absurd rfl (h element)
  | _ => rfl

/-- A text that is put into a node is no element, and nothing else is new. -/
theorem element?_appendText_of_not_has (hempty : doc.last? id = none) (text : String)
    (hx : ¬doc.Has x) : (doc.appendText id text).element? x = none := by
  have happend : doc.appendText id text =
      (doc.createText text).2.appendChild id (doc.createText text).1 := by
    rw [Document.appendText, hempty, Option.filter_none]
  rw [happend]
  by_cases heq : x = (doc.create (.text text)).1
  · subst heq
    refine element?_eq_none_of_data (.text text) ?_ (by simp)
    rw [data_appendChild]
    exact data_created doc (.text text)
  · refine element?_eq_none_of_data .document ?_ (by simp)
    rw [data_appendChild]
    exact (data_create_of_ne (.text text) heq).trans (data_of_not_has hx)

/-- Setting a text makes no element. -/
theorem element?_setText_of_not_has (h : doc.WellFormed) (id : NodeId) (text : String)
    (hx : ¬doc.Has x) : (doc.setText id text).element? x = none := by
  have hforest := IsForest.removeChildren h id
  have hlast : (doc.removeChildren id).last? id = none := by
    rw [hforest.last, Function.update_self]
    rfl
  have hemptied : ¬(doc.removeChildren id).Has x := by
    rwa [Has, Document.removeChildren, IsForest.size_removeFirst]
  have hnone := element?_appendText_of_not_has hlast text hemptied
  rwa [Document.appendText, hlast, Option.filter_none] at hnone

section AppendFilled

variable {data : NodeData} {text : String}

/-- A new node has no children yet. -/
theorem WellFormed.children_created (h : doc.WellFormed) (data : NodeData) :
    (doc.create data).2.children (doc.create data).1 = [] := by
  rw [h.children_create, IsForest.kids_eq_nil h (not_has_created doc data)]

theorem WellFormed.last?_created (h : doc.WellFormed) (data : NodeData) :
    (doc.create data).2.last? (doc.create data).1 = none := by
  rw [(h.create data).last, h.children_created data]
  rfl

/-- A new node with a text brings one element at most, which is the node itself. -/
theorem WellFormed.element?_appendFilled_of_not_has (h : doc.WellFormed) (p : NodeId)
    (hx : ¬doc.Has x) (hne : x ≠ (doc.create data).1) :
    (doc.appendFilled p data text).element? x = none := by
  have hcreated : ¬(doc.create data).2.Has x := fun hhas =>
    (has_or_eq_of_has_create hhas).elim hx hne
  rw [Document.appendFilled, element?, data_appendChild]
  exact element?_appendText_of_not_has (h.last?_created data) text hcreated

/-- A new element that is filled and put in a place is that element. -/
theorem element?_appendFilled_created (doc : Document) (p : NodeId) {element : Element} :
    (doc.appendFilled p (.element element) text).element? (doc.create (.element element)).1 =
      some element := by
  have hcreated := has_created doc (.element element)
  rw [Document.appendFilled, element?, data_appendChild]
  show ((doc.create (.element element)).2.appendText _ text).element? _ = _
  rw [element?_appendText _ _ hcreated, element?, data_created]

/-- The new node holds the text. -/
theorem WellFormed.exists_holdsText_appendFilled (h : doc.WellFormed) (hp : doc.Has p)
    (data : NodeData) (text : String) :
    ∃ own, (doc.appendFilled p data text).HoldsText (doc.create data).1 own text := by
  have hnew := not_has_created doc data
  have hcreated := has_created doc data
  have hwell := h.create data
  obtain ⟨own, hown, hholds⟩ :=
    hwell.exists_holdsText_appendText hcreated (h.children_created data) text
  refine ⟨own, hholds.appendChild (hwell.appendText hcreated text)
    (has_appendText hwell hcreated text (has_create doc data hp))
    (has_appendText hwell hcreated text hcreated) (h.not_within_filled hp data text) ?_ ?_ ?_⟩
  · rintro rfl
    exact hnew hp
  · rintro rfl
    exact hown (has_create doc data hp)
  · exact hholds.ne.symm

/-- The new node is the last child of its parent, and all other lists stay as they are. -/
theorem WellFormed.children_appendFilled (h : doc.WellFormed) (hp : doc.Has p) (hx : doc.Has x) :
    (doc.appendFilled p data text).children x =
      if x = p then doc.children p ++ [(doc.create data).1] else doc.children x := by
  have hnew := not_has_created doc data
  have hcreated := has_created doc data
  have hwell := h.create data
  have hforest := IsForest.appendChild (hwell.appendText hcreated text)
    (has_appendText hwell hcreated text (has_create doc data hp))
    (has_appendText hwell hcreated text hcreated) (h.not_within_filled hp data text)
  -- the text that is put into the new node is in no list of the others
  have hsame : ∀ y, doc.Has y →
      ((doc.create data).2.appendText (doc.create data).1 text).children y = doc.children y := by
    intro y hy
    have hne : y ≠ (doc.create data).1 := by
      rintro rfl
      exact hnew hy
    rw [Document.appendText, h.last?_created, Option.filter_none]
    refine (hwell.children_appendCreated hcreated (.text text) y).trans ?_
    rw [if_neg hne, h.children_create]
  have herase : ∀ y, (doc.children y).erase (doc.create data).1 = doc.children y :=
    fun y => List.erase_of_not_mem fun hmem => hnew (IsForest.has_child h hmem)
  rw [Document.appendFilled, hforest.children_eq, Function.update_apply, hsame p hp, hsame x hx,
    herase, herase]

end AppendFilled

end Markup.Document

open Document

namespace ImportMapSettings

variable {settings : ImportMapSettings} {doc doc' page : Document} {script : NodeId}
  {map : ImportMap}

/-! ## Where a page is looked up -/

/-- Whether an element says that it holds an import map. -/
def hasMapType (element : Element) : Bool := element.attr? "type" == some "importmap"

/-- The node is a script for an import map. -/
def IsMapScript (doc : Document) : NodeId → Prop := doc.IsNamed "script" hasMapType

def IsHead (doc : Document) : NodeId → Prop := doc.IsNamed "head" fun _ => true

def IsBody (doc : Document) : NodeId → Prop := doc.IsNamed "body" fun _ => true

/-- An import map is a script for one in the tree. -/
theorem isImportMap_iff :
    IsImportMap doc script ↔ doc.Within script root ∧ IsMapScript doc script := by
  constructor
  · rintro ⟨hwithin, element, helement, htag, htype⟩
    exact ⟨hwithin, element, helement, htag, beq_iff_eq.mpr htype⟩
  · rintro ⟨hwithin, element, helement, htag, htype⟩
    exact ⟨hwithin, element, helement, htag, beq_iff_eq.mp htype⟩

/-- The script that is found is the first one for an import map. -/
theorem script?_eq_some_iff (h : doc.WellFormed) :
    script? doc = some script ↔ doc.IsFirst (IsMapScript doc) root script :=
  h.findWhere?_eq_some_iff

theorem script?_eq_none_iff (h : doc.WellFormed) :
    script? doc = none ↔ ∀ x, doc.Within x root → ¬IsMapScript doc x :=
  h.findWhere?_eq_none_iff

/-! ## Editing in place -/

/-- The script that holds the import map, and the page after it was made where there was none. -/
def ensureInPlace (doc : Document) : Except ModulesError NodeId × Document :=
  match script? doc with
  | some script => (.ok script, doc)
  | none =>
    match doc.head? with
    | none => (.error .noHead, doc)
    | some head =>
      let (script, doc) := doc.createElement "script" [("type", "importmap")]
      (.ok script, doc.prependChild head script)

/-- Puts the configured modules into a page step by step. A step that fails leaves the page as the
steps before it made it. -/
def editInPlace (settings : ImportMapSettings) (doc : Document) :
    Except ModulesError Unit × Document :=
  match ensureInPlace doc with
  | (.error cause, doc) => (.error cause, doc)
  | (.ok script, doc) =>
    match ImportMap.parse? (doc.collectText script) with
    | none => (.error .badImportMap, doc)
    | some map =>
      let text := (map.mergeImports settings.moduleImports).toJson
      (.ok (), settings.addModule (doc.setText script text))

/-- Making the script in place leaves the page alone where it fails. -/
theorem ensureInPlace_eq (doc : Document) :
    ensureInPlace doc =
      match ensureScript doc with
      | .ok (script, page) => (.ok script, page)
      | .error cause => (.error cause, doc) := by
  unfold ensureInPlace ensureScript
  cases script? doc with
  | some script => rfl
  | none =>
    cases doc.head? with
    | none => rfl
    | some head => rfl

/-- What fails has edited nothing: a script is made only where its text, which is empty, is the
text of a map. -/
theorem editInPlace_eq (settings : ImportMapSettings) (h : doc.WellFormed) :
    settings.editInPlace doc =
      match settings.transform doc with
      | .ok doc' => (.ok (), doc')
      | .error cause => (.error cause, doc) := by
  unfold editInPlace
  rw [ensureInPlace_eq]
  cases hensure : ensureScript doc with
  | error cause =>
    unfold transform
    rw [hensure]
    rfl
  | ok ensured =>
    obtain ⟨script, page⟩ := ensured
    dsimp only
    cases hparse : ImportMap.parse? (page.collectText script) with
    | none =>
      have htransform : settings.transform doc = .error .badImportMap := by
        unfold transform
        rw [hensure]
        dsimp only [bind, Except.bind]
        rw [hparse]
      rw [htransform, eq_of_transform_eq_error h htransform hensure]
    | some map =>
      unfold transform
      rw [hensure]
      dsimp only [bind, Except.bind]
      rw [hparse]

/-! ## Pages that are refused -/

/-- Why the modules cannot be put into a page: its import map is none, or it has neither an import
map nor a head. -/
def Refuses (doc : Document) : ModulesError → Prop
  | .badImportMap => ∃ script, doc.IsFirst (IsMapScript doc) root script ∧
      ImportMap.parse? (doc.collectText script) = none
  | .noHead => (∀ x, doc.Within x root → ¬IsMapScript doc x) ∧
      ∀ x, doc.Within x root → ¬IsHead doc x

/-- A page with an import map is refused only for what the first one holds. -/
theorem refuses_iff_of_isFirst (h : doc.WellFormed) {cause : ModulesError}
    (hfirst : doc.IsFirst (IsMapScript doc) root script) :
    Refuses doc cause ↔
      cause = .badImportMap ∧ ImportMap.parse? (doc.collectText script) = none := by
  cases cause with
  | noHead =>
    refine iff_of_false ?_ (by simp)
    rintro ⟨hnone, -⟩
    exact hnone script hfirst.within hfirst.passes
  | badImportMap =>
    constructor
    · rintro ⟨other, hother, hparse⟩
      rw [h.isFirst_unique hfirst hother]
      exact ⟨rfl, hparse⟩
    · rintro ⟨-, hparse⟩
      exact ⟨script, hfirst, hparse⟩

/-- A page without an import map is refused only for want of a head. -/
theorem refuses_iff_of_none {cause : ModulesError}
    (hnone : ∀ x, doc.Within x root → ¬IsMapScript doc x) :
    Refuses doc cause ↔ cause = .noHead ∧ ∀ x, doc.Within x root → ¬IsHead doc x := by
  cases cause with
  | noHead => exact ⟨fun hrefuses => ⟨rfl, hrefuses.2⟩, fun hboth => ⟨hnone, hboth.2⟩⟩
  | badImportMap =>
    refine iff_of_false ?_ (by simp)
    rintro ⟨script, hfirst, -⟩
    exact hnone script hfirst.within hfirst.passes

/-- Where there is an import map, the rest depends on whether it can be read. -/
theorem transform_of_script? (settings : ImportMapSettings) (hscript : script? doc = some script) :
    settings.transform doc =
      match ImportMap.parse? (doc.collectText script) with
      | none => .error .badImportMap
      | some map =>
        .ok (settings.addModule (doc.setText script
          (map.mergeImports settings.moduleImports).toJson)) := by
  unfold transform
  rw [ensureScript, hscript]
  rfl

/-- Storing fails for the causes that a page is refused for, and for no others. -/
theorem transform_eq_error_iff (h : doc.WellFormed) {cause : ModulesError} :
    settings.transform doc = .error cause ↔ Refuses doc cause := by
  cases hscript : script? doc with
  | some script =>
    rw [refuses_iff_of_isFirst h ((script?_eq_some_iff h).mp hscript),
      settings.transform_of_script? hscript]
    cases ImportMap.parse? (doc.collectText script) with
    | none => simp [eq_comm]
    | some map => simp
  | none =>
    rw [refuses_iff_of_none ((script?_eq_none_iff h).mp hscript)]
    cases hhead : doc.head? with
    | none =>
      have htransform : settings.transform doc = .error .noHead := by
        unfold transform
        rw [ensureScript, hscript, hhead]
        rfl
      have hnone : ∀ x, doc.Within x root → ¬IsHead doc x := h.findWhere?_eq_none_iff.mp hhead
      rw [htransform, and_iff_left hnone, Except.error.injEq, eq_comm]
    | some head =>
      -- the text of a new script is empty, and that is an import map
      have hmap : ReadsAs doc {} := by
        unfold ReadsAs
        rw [hscript, hhead]
        exact ⟨rfl, rfl⟩
      obtain ⟨-, doc', htransform, -⟩ := transform_eq_ok settings h hmap
      have hfirst := h.findWhere?_eq_some_iff.mp hhead
      rw [htransform]
      refine iff_of_false (by simp) ?_
      rintro ⟨-, hnone⟩
      exact hnone head hfirst.within hfirst.passes

/-! ## The script -/

/-- Where the script of an import map comes from, and the map that it held. -/
inductive Origin (doc doc' : Document) (script : NodeId) (map : ImportMap) : Prop
  /-- It is the first one of the page. -/
  | found (hfirst : doc.IsFirst (IsMapScript doc) root script)
    (hmap : ImportMap.parse? (doc.collectText script) = some map)
  /-- It is made at the beginning of the head, since there is none. -/
  | made {head : NodeId} (hnone : ∀ x, doc.Within x root → ¬IsMapScript doc x)
    (hhead : doc.IsFirst (IsHead doc) root head) (hnew : ¬doc.Has script)
    (hchildren : doc'.children head = script :: doc.children head) (hmap : map = {})

/-- A page after a script was made in it where there was none. -/
structure IsEnsured (doc page : Document) (script : NodeId) (map : ImportMap) : Prop where
  extended : Extends doc page
  isImportMap : IsImportMap page script
  origin : Origin doc page script map
  /-- Nothing but the script is new, and nothing but the head has a new child. -/
  new : ∀ x, ¬doc.Has x → x ≠ script → page.element? x = none
  others : ∀ p, doc.Has p → doc.Has script ∨ ¬doc.IsFirst (IsHead doc) root p →
    page.children p = doc.children p

/-- Where there is a script, nothing is made. -/
theorem isEnsured_of_some (h : doc.WellFormed) (hscript : script? doc = some script)
    (hparse : ImportMap.parse? (doc.collectText script) = some map) :
    IsEnsured doc doc script map where
  extended := Edited.refl h _
  isImportMap := isImportMap_of_script? h hscript
  origin := .found ((script?_eq_some_iff h).mp hscript) hparse
  new x hx _ := element?_eq_none_of_data .document (data_of_not_has hx) (by simp)
  others _ _ _ := rfl

/-- A script that is made stands first in the head, and holds the empty map. -/
theorem isEnsured_of_none (h : doc.WellFormed) (hscript : script? doc = none) {head : NodeId}
    (hhead : doc.head? = some head) (hensure : ensureScript doc = .ok (script, page))
    (hparse : ImportMap.parse? (page.collectText script) = some map) :
    IsEnsured doc page script map := by
  have hheadFirst : doc.IsFirst (IsHead doc) root head := h.findWhere?_eq_some_iff.mp hhead
  obtain ⟨hextended, -, hempty⟩ := extends_ensureScript h hscript hensure
  obtain ⟨made, other, hmade, hwell, himport, -⟩ := ensureScript_of_none h hscript hhead
  obtain ⟨rfl, rfl⟩ := Prod.mk.inj (Except.ok.inj (hmade.symm.trans hensure))
  have hblank : other.collectText made = "" :=
    (hwell.collectText_of_leaf himport.has hempty).trans himport.ownText
  have hmap : map = {} := by
    rw [hblank] at hparse
    exact (Option.some.inj hparse).symm
  rw [ensureScript, hscript, hhead, Except.ok.injEq, Prod.mk.injEq] at hensure
  obtain ⟨rfl, rfl⟩ := hensure
  let data := NodeData.element (.ofTag "script" [("type", "importmap")])
  have hforest := h.prependCreated hheadFirst.passes.has data
  have hnew := not_has_created doc data
  refine {
    extended := hextended
    isImportMap := himport
    origin := .made ((script?_eq_none_iff h).mp hscript) hheadFirst hnew ?_ hmap
    new := fun x hx hne => element?_eq_none_of_data .document ?_ (by simp)
    others := fun p hp hother => ?_ }
  · exact (hforest.children_eq head).trans (Function.update_self ..)
  · exact (data_prependChild _ _ _ x).trans
      ((data_create_of_ne data hne).trans (data_of_not_has hx))
  · refine (hforest.children_eq p).trans (Function.update_of_ne ?_ _ _)
    rintro rfl
    exact hother.elim hnew fun hnot => hnot hheadFirst

/-- When the script is found or made, the page is as it was but for a new script at the beginning
of the head. -/
theorem isEnsured_of_ensureScript (h : doc.WellFormed)
    (hensure : ensureScript doc = .ok (script, page))
    (hparse : ImportMap.parse? (page.collectText script) = some map) :
    IsEnsured doc page script map := by
  cases hscript : script? doc with
  | some found =>
    rw [ensureScript, hscript, Except.ok.injEq, Prod.mk.injEq] at hensure
    obtain ⟨rfl, rfl⟩ := hensure
    exact isEnsured_of_some h hscript hparse
  | none =>
    cases hhead : doc.head? with
    | none =>
      rw [ensureScript, hscript, hhead] at hensure
      exact absurd hensure (by simp)
    | some head => exact isEnsured_of_none h hscript hhead hensure hparse

/-! ## The module -/

/-- The element that a module is made as. -/
def moduleElement : Element := .ofTag "script" [("type", "module")]

/-- A module is put into the first body, where one is configured and there is a body. -/
theorem addModule_cases (settings : ImportMapSettings) (h : page.WellFormed) :
    (settings.addModule page = page ∧
        (settings.moduleBody = "" ∨ ∀ x, page.Within x root → ¬IsBody page x)) ∨
      ∃ body, settings.moduleBody ≠ "" ∧ page.IsFirst (IsBody page) root body ∧
        settings.addModule page =
          page.appendFilled body (.element moduleElement) settings.moduleBody := by
  unfold addModule
  by_cases hbody : settings.moduleBody = ""
  · rw [if_pos hbody]
    exact Or.inl ⟨rfl, Or.inl hbody⟩
  · rw [if_neg hbody]
    cases hfind : page.body? with
    | none => exact Or.inl ⟨rfl, Or.inr (h.findWhere?_eq_none_iff.mp hfind)⟩
    | some body => exact Or.inr ⟨body, hbody, h.findWhere?_eq_some_iff.mp hfind, rfl⟩

/-- Nothing new is an element, apart from the module. -/
theorem eq_moduleElement_of_addModule (settings : ImportMapSettings) (h : page.WellFormed)
    {x : NodeId} (hx : ¬page.Has x) {element : Element}
    (helement : (settings.addModule page).element? x = some element) :
    element = moduleElement := by
  rcases settings.addModule_cases h with ⟨heq, -⟩ | ⟨body, -, -, heq⟩
  · rw [heq] at helement
    exact absurd (has_of_element? helement) hx
  · rw [heq] at helement
    by_cases hmodule : x = (page.create (.element moduleElement)).1
    · rw [hmodule, element?_appendFilled_created] at helement
      exact (Option.some.inj helement).symm
    · rw [h.element?_appendFilled_of_not_has body hx hmodule] at helement
      exact absurd helement (by simp)

/-- The module is put into the body that is found afterwards too. -/
theorem isFirst_body_addModule (settings : ImportMapSettings) (h : page.WellFormed)
    {body : NodeId} :
    (settings.addModule page).IsFirst (IsBody (settings.addModule page)) root body ↔
      page.IsFirst (IsBody page) root body := by
  have hkeeps := Extends.keeps (settings.extends_addModule h) h
  have hnew : ∀ x, ¬page.Has x → ¬IsBody (settings.addModule page) x := by
    rintro x hx ⟨element, helement, htag, -⟩
    rw [settings.eq_moduleElement_of_addModule h hx helement] at htag
    exact absurd htag (by decide)
  refine (hkeeps.isFirst_iff h (fun x hx => isNamed_congr (hkeeps.data x hx)) hnew).trans ?_
  exact isFirst_congr fun x => ⟨fun hboth => hboth.1.2, fun hbody => ⟨⟨hbody.has, hbody⟩, rfl⟩⟩

/-- Adding the module changes no child list but that of the body, and that one only for a module
with a text. -/
theorem children_addModule (settings : ImportMapSettings) (h : page.WellFormed) {p : NodeId}
    (hp : page.Has p) (hbody : settings.moduleBody = "" ∨ ¬page.IsFirst (IsBody page) root p) :
    (settings.addModule page).children p = page.children p := by
  rcases settings.addModule_cases h with ⟨heq, -⟩ | ⟨body, hsome, hfirst, heq⟩
  · rw [heq]
  · rw [heq, h.children_appendFilled hfirst.passes.has hp, if_neg]
    rintro rfl
    exact hbody.elim hsome fun hnot => hnot hfirst

/-! ## The whole edit -/

/-- What storing the modules does to a page. -/
structure Edits (settings : ImportMapSettings) (doc doc' : Document) (script : NodeId)
    (map : ImportMap) : Prop where
  wellFormed : doc'.WellFormed
  data : ∀ x, doc.Has x → doc'.data x = doc.data x
  origin : Origin doc doc' script map
  isFirst : doc'.IsFirst (IsMapScript doc') root script
  /-- The script holds one text, that of a map with the configured modules and else what was
  there. -/
  stored : ∃ child stored, doc'.HoldsText script child (ImportMap.toJson stored) ∧
    ImportMap.parse? stored.toJson = some stored ∧
    (∀ name, stored.imports.get? name =
      (settings.moduleImports.get? name).or (map.imports.get? name)) ∧
    stored.integrity = map.integrity ∧ stored.scopes = map.scopes
  /-- The body is the one that was there, unless that lay in the script. -/
  body_iff : ∀ body, doc'.IsFirst (IsBody doc') root body ↔
    doc.IsFirst (fun x => IsBody doc x ∧ ¬Relation.TransGen doc.IsParent script x) root body
  /-- One module is made, with the configured text, as the last child of the body. -/
  addsModule : settings.moduleBody ≠ "" → ∀ body, doc'.IsFirst (IsBody doc') root body →
    ∃ added own, ¬doc.Has added ∧ added ≠ script ∧
      doc'.element? added = some moduleElement ∧
      doc'.HoldsText added own settings.moduleBody ∧
      doc'.children body = doc.children body ++ [added] ∧
      ∀ other, ¬doc.Has other → other ≠ script → other ≠ added → doc'.element? other = none
  /-- No module is made where none is configured or there is no body. -/
  addsNone : settings.moduleBody = "" ∨ (∀ x, doc'.Within x root → ¬IsBody doc' x) →
    ∀ other, ¬doc.Has other → other ≠ script → doc'.element? other = none
  /-- All other lists of children stay as they are. -/
  others : ∀ p, doc.Has p → p ≠ script → doc.Has script ∨ ¬doc.IsFirst (IsHead doc) root p →
    settings.moduleBody = "" ∨ ¬doc'.IsFirst (IsBody doc') root p →
      doc'.children p = doc.children p

/-- What the import map does not own is what is not below its script, wherever that comes from. -/
theorem owns_eq_false_iff (h : doc.WellFormed) (horigin : Origin doc doc' script map) {x : NodeId} :
    owns doc x = false ↔ ¬Relation.TransGen doc.IsParent script x := by
  unfold owns
  cases horigin with
  | found hfirst _ =>
    rw [(script?_eq_some_iff h).mpr hfirst, ← h.isBelow_iff, Bool.not_eq_true]
  | made hnone _ hnew _ _ =>
    rw [(script?_eq_none_iff h).mpr hnone]
    exact iff_of_true rfl fun hbelow => hnew (IsForest.has_of_transGen h hbelow)

/-- A page after a text was put into the script of its import map. -/
structure IsStored (doc page : Document) (script : NodeId) (map : ImportMap) (text : String) :
    Prop where
  keepsData : KeepsData doc page
  holds : HoldsImportMap page script text
  origin : Origin doc page script map
  new : ∀ x, ¬doc.Has x → x ≠ script → page.element? x = none
  others : ∀ p, doc.Has p → p ≠ script → doc.Has script ∨ ¬doc.IsFirst (IsHead doc) root p →
    page.children p = doc.children p

/-- Putting a text into the script changes the script alone. -/
theorem IsEnsured.isStored_setText (h : IsEnsured doc page script map) (text : String) :
    IsStored doc (page.setText script text) script map text where
  keepsData := h.extended.toKeepsData.trans (.setText page script text)
  holds := holdsImportMap_setText h.extended.wellFormed h.isImportMap text
  origin := by
    cases h.origin with
    | found hfirst hmap => exact .found hfirst hmap
    | @made head hnone hhead hnew hchildren hmap =>
      refine .made hnone hhead hnew ?_ hmap
      have hne : head ≠ script := fun heq => hnew (heq ▸ hhead.passes.has)
      rw [h.extended.wellFormed.children_setText h.isImportMap.has text hne, hchildren]
  new x hx hne := by
    by_cases hhas : page.Has x
    · rw [element?, data_setText script text hhas]
      exact h.new x hx hne
    · exact element?_setText_of_not_has h.extended.wellFormed script text hhas
  others p hp hne hother := by
    rw [h.extended.wellFormed.children_setText h.isImportMap.has text hne]
    exact h.others p hp hother

namespace IsStored

variable {text : String}

/-- Nothing but the script and the module is a new element. -/
theorem eq_moduleElement (h : IsStored doc page script map text) {x : NodeId} (hx : ¬doc.Has x)
    (hne : x ≠ script) {element : Element}
    (helement : (settings.addModule page).element? x = some element) :
    element = moduleElement := by
  by_cases hhas : page.Has x
  · have hsame := (settings.extends_addModule h.holds.wellFormed).data x hhas
    rw [element?, hsame] at helement
    exact absurd ((h.new x hx hne).symm.trans helement) (by simp)
  · exact settings.eq_moduleElement_of_addModule h.holds.wellFormed hhas helement

/-- The script that holds the text is one for an import map. -/
theorem isMapScript (h : IsStored doc page script map text) : IsMapScript page script :=
  (isImportMap_iff.mp h.holds.isImportMap).2

/-- The script is the first one for an import map again. -/
theorem isFirst_script (h : IsStored doc page script map text) (hdoc : doc.WellFormed)
    (hkeeps : Keeps doc (settings.addModule page) (owns doc)) :
    (settings.addModule page).IsFirst (IsMapScript (settings.addModule page)) root script := by
  have hnew : ∀ x, ¬doc.Has x → x ≠ script → ¬IsMapScript (settings.addModule page) x := by
    rintro x hx hne ⟨element, helement, -, htype⟩
    rw [h.eq_moduleElement hx hne helement] at htype
    exact absurd htype (by decide)
  cases h.origin with
  | found hfirst _ =>
    refine hkeeps.isFirst hdoc (fun x hx => isNamed_congr (hkeeps.data x hx)) (fun x hx => ?_) ?_
    · exact hnew x hx fun heq => hx (heq ▸ hfirst.passes.has)
    · refine ⟨hfirst.within, ⟨⟨hfirst.passes.has, hfirst.passes⟩, ?_⟩, ?_⟩
      · exact (owns_eq_false_iff hdoc h.origin).mpr (IsForest.not_transGen_self hdoc script)
      · exact fun other hother hpasses => hfirst.first other hother hpasses.1.2
  | made hnone _ _ _ _ =>
    obtain ⟨hwithin, hscript⟩ := isImportMap_iff.mp (h.holds.addModule settings).isImportMap
    refine ⟨hwithin, hscript, fun other hother hpasses => Or.inl ?_⟩
    -- what was there before is no such script, and nothing else is new
    by_contra hne
    by_cases hhas : doc.Has other
    · exact hnone other ((hkeeps.within_iff other hhas).mp hother).1
        ((isNamed_congr (hkeeps.data other hhas)).mp hpasses)
    · exact hnew other hhas hne hpasses

/-- The body is the first one that does not lie in the script. -/
theorem isFirst_body_iff (h : IsStored doc page script map text) (hdoc : doc.WellFormed)
    (hkeeps : Keeps doc (settings.addModule page) (owns doc)) (body : NodeId) :
    (settings.addModule page).IsFirst (IsBody (settings.addModule page)) root body ↔
      doc.IsFirst (fun x => IsBody doc x ∧ ¬Relation.TransGen doc.IsParent script x) root body := by
  have hscript := (isImportMap_iff.mp (h.holds.addModule settings).isImportMap).2
  have hnew : ∀ x, ¬doc.Has x → ¬IsBody (settings.addModule page) x := by
    intro x hx hbody
    have hne : x ≠ script := hbody.ne hscript (by decide)
    obtain ⟨element, helement, htag, -⟩ := hbody
    rw [h.eq_moduleElement hx hne helement] at htag
    exact absurd htag (by decide)
  refine (hkeeps.isFirst_iff hdoc (fun x hx => isNamed_congr (hkeeps.data x hx)) hnew).trans ?_
  refine isFirst_congr fun x => ?_
  rw [owns_eq_false_iff hdoc h.origin]
  exact and_congr_left fun _ => ⟨fun hboth => hboth.2, fun hbody => ⟨hbody.has, hbody⟩⟩

/-- The children of a node, where neither a script nor a module is put in. -/
theorem children_addModule (h : IsStored doc page script map text) {p : NodeId} (hp : doc.Has p)
    (hbody : settings.moduleBody = "" ∨
      ¬(settings.addModule page).IsFirst (IsBody (settings.addModule page)) root p) :
    (settings.addModule page).children p = page.children p := by
  rw [settings.isFirst_body_addModule h.holds.wellFormed] at hbody
  exact settings.children_addModule h.holds.wellFormed (h.keepsData.has hp) hbody

/-- What is made of a page that holds the map, by way of the module. -/
theorem edits (h : IsStored doc page script map (map.mergeImports settings.moduleImports).toJson)
    (hdoc : doc.WellFormed) (hkeeps : Keeps doc (settings.addModule page) (owns doc)) :
    Edits settings doc (settings.addModule page) script map where
  wellFormed := hkeeps.wellFormed
  data := hkeeps.data
  isFirst := h.isFirst_script hdoc hkeeps
  body_iff := h.isFirst_body_iff hdoc hkeeps
  origin := by
    cases h.origin with
    | found hfirst hmap => exact .found hfirst hmap
    | made hnone hhead hnew hchildren hmap =>
      refine .made hnone hhead hnew ?_ hmap
      -- the head is no body, so the module is not put into it
      rw [h.children_addModule hhead.passes.has (Or.inr fun hbody => ?_), hchildren]
      have hsame := (isNamed_congr (hkeeps.data _ hhead.passes.has)).mpr hhead.passes
      exact hsame.ne hbody.passes (by decide) rfl
  stored := by
    obtain ⟨child, hholds⟩ := (h.holds.addModule settings).holdsText
    exact ⟨child, map.mergeImports settings.moduleImports, hholds, ImportMap.parse?_toJson _,
      fun name => Table.get?_merge _ _ name, rfl, rfl⟩
  addsModule hsome body hfirst := by
    have hwell := h.holds.wellFormed
    have hbefore := (settings.isFirst_body_addModule hwell).mp hfirst
    rcases settings.addModule_cases hwell with ⟨-, hnone | hnone⟩ | ⟨other, -, hother, heq⟩
    · exact absurd hnone hsome
    · exact absurd hbefore.passes (hnone body hbefore.within)
    · obtain rfl := hwell.isFirst_unique hbefore hother
      have hbodydoc := ((h.isFirst_body_iff hdoc hkeeps body).mp hfirst).passes.1
      have hscript : body ≠ script := hbefore.passes.ne h.isMapScript (by decide)
      have hmodule := not_has_created page (.element moduleElement)
      obtain ⟨own, hown⟩ := hwell.exists_holdsText_appendFilled hbefore.passes.has
        (.element moduleElement) settings.moduleBody
      rw [heq]
      refine ⟨_, own, fun hhas => hmodule (h.keepsData.has hhas), ?_,
        element?_appendFilled_created page body, hown, ?_, fun x hx hne hnemodule => ?_⟩
      · exact fun heq => hmodule (heq ▸ h.isMapScript.has)
      · rw [hwell.children_appendFilled hbefore.passes.has hbefore.passes.has, if_pos rfl,
          h.others body hbodydoc.has hscript (Or.inr fun hhead => ?_)]
        exact hhead.passes.ne hbodydoc (by decide) rfl
      · by_cases hhas : page.Has x
        · rw [element?_appendFilled body _ _ hhas]
          exact h.new x hx hne
        · exact hwell.element?_appendFilled_of_not_has body hhas hnemodule
  addsNone hnone x hx hne := by
    have hwell := h.holds.wellFormed
    rcases settings.addModule_cases hwell with ⟨heq, -⟩ | ⟨body, hsome, hbody, -⟩
    · rw [heq]
      exact h.new x hx hne
    · have hafter := (settings.isFirst_body_addModule hwell).mpr hbody
      exact hnone.elim (absurd · hsome) fun hall =>
        absurd hafter.passes (hall body hafter.within)
  others p hp hne hhead hbody := by
    rw [h.children_addModule hp hbody]
    exact h.others p hp hne hhead

end IsStored

/-- A page that the modules are put into is edited as is said, and no further. -/
theorem edits_of_transform_eq_ok (h : doc.WellFormed)
    (htransform : settings.transform doc = .ok doc') :
    ∃ script map, settings.Edits doc doc' script map := by
  have hkeeps := keeps_transform h htransform
  obtain ⟨script, page, map, hensure, hparse, rfl⟩ := exists_of_transform_eq_ok htransform
  have hensured := isEnsured_of_ensureScript h hensure hparse
  exact ⟨script, map, (hensured.isStored_setText _).edits h hkeeps⟩

/-! ## Editing again -/

/-- Modules that are in a map already add nothing to it. -/
theorem mergeImports_eq_self {stored : ImportMap} {entries : Table String}
    (h : ∀ name, stored.imports.get? name =
      (entries.get? name).or (map.imports.get? name)) : stored.mergeImports entries = stored := by
  have hsame : stored.imports.merge entries = stored.imports := by
    refine Table.ext_get? fun name => ?_
    rw [Table.get?_merge, h name]
    cases entries.get? name <;> rfl
  rw [ImportMap.mergeImports, hsame]

/-- No script is made where there is one. -/
theorem Edits.eq_of_isFirst (h : settings.Edits doc doc' script map) (hdoc : doc.WellFormed)
    {first : NodeId} (hfirst : doc.IsFirst (IsMapScript doc) root first) : script = first := by
  cases h.origin with
  | found hscript _ => exact hdoc.isFirst_unique hscript hfirst
  | made hnone _ _ _ _ => exact absurd hfirst.passes (hnone first hfirst.within)

/-- The same settings find the same script again, and leave its text as it is. -/
theorem Edits.again (h : settings.Edits doc doc' script map) :
    ∃ doc'', settings.transform doc' = .ok doc'' ∧
      doc''.IsFirst (IsMapScript doc'') root script ∧
        doc''.collectText script = doc'.collectText script := by
  obtain ⟨child, stored, hholds, hparse, himports, -, -⟩ := h.stored
  have himport : IsImportMap doc' script :=
    isImportMap_iff.mpr ⟨h.isFirst.within, h.isFirst.passes⟩
  have htext : doc'.collectText script = stored.toJson :=
    hholds.collectText h.wellFormed himport.ownText
  have htransform := settings.transform_of_script?
    ((script?_eq_some_iff h.wellFormed).mpr h.isFirst)
  rw [htext, hparse] at htransform
  dsimp only at htransform
  rw [mergeImports_eq_self himports] at htransform
  have hagain := (holdsImportMap_setText h.wellFormed himport stored.toJson).addModule settings
  obtain ⟨other, held, hedits⟩ := edits_of_transform_eq_ok h.wellFormed htransform
  obtain rfl := hedits.eq_of_isFirst h.wellFormed h.isFirst
  exact ⟨_, htransform, hedits.isFirst, hagain.collectText.trans htext.symm⟩

/-- In every well-formed page the modules are put in as `Edits` says and stay so when they are put
in again, except where the import map is none or there is no place for one. There the page,
although it is edited step by step, is as it was. -/
theorem transform_edits (settings : ImportMapSettings) (h : doc.WellFormed) :
    (settings.editInPlace doc =
      match settings.transform doc with
      | .ok doc' => (.ok (), doc')
      | .error cause => (.error cause, doc)) ∧
    (∀ cause, settings.transform doc = .error cause ↔ Refuses doc cause) ∧
    ∀ doc', settings.transform doc = .ok doc' →
      ∃ script map, settings.Edits doc doc' script map ∧
        ∃ doc'', settings.transform doc' = .ok doc'' ∧
          doc''.IsFirst (IsMapScript doc'') root script ∧
            doc''.collectText script = doc'.collectText script := by
  refine ⟨settings.editInPlace_eq h, fun cause => transform_eq_error_iff h, ?_⟩
  intro doc' htransform
  obtain ⟨script, map, hedits⟩ := edits_of_transform_eq_ok h htransform
  exact ⟨script, map, hedits, hedits.again⟩

/-- Edits that make a page with an import map and a body. -/
def mappedEdits : List Document.Edit :=
  [.createElement "html" [], .appendChild root ⟨1⟩, .createElement "head" [],
    .appendChild ⟨1⟩ ⟨2⟩, .createElement "script" [("type", "importmap")], .appendChild ⟨2⟩ ⟨3⟩,
    .appendText ⟨3⟩ "\x7b\"imports\":\x7b\"a\":\"/a.js\"\x7d\x7d", .createElement "body" [],
    .appendChild ⟨1⟩ ⟨5⟩]

def mappedPage : Document := Document.applyAll {} mappedEdits

/-- The page with the import map was made by edits that are permitted. -/
theorem wellFormed_mappedPage : mappedPage.WellFormed :=
  WellFormed.empty.applyAll mappedEdits (by decide +kernel) mappedEdits.length

/-- One more import, and a module that uses it. -/
def runningModule : ImportMapSettings :=
  { moduleImports := Table.ofList [("b", "/b.js")], moduleBody := "import \"b\";" }

/-- One more import is stored and the module is added. -/
theorem transform_edits_mapped : mappedPage.WellFormed ∧
    ∃ doc' script map, runningModule.transform mappedPage = .ok doc' ∧
      runningModule.Edits mappedPage doc' script map := by
  have htransform : runningModule.transform mappedPage =
      .ok ((runningModule.transform mappedPage).toOption.getD {}) := by decide +kernel
  obtain ⟨-, -, hall⟩ := transform_edits runningModule wellFormed_mappedPage
  obtain ⟨script, map, hedits, -⟩ := hall _ htransform
  exact ⟨wellFormed_mappedPage, _, script, map, htransform, hedits⟩

end ImportMapSettings

end ComposingProxy
