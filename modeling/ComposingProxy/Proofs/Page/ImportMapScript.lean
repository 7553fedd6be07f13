import Mathlib.Control.Monad.Basic
import ComposingProxy.Page.Modules
import ComposingProxy.Markup.Writer
import ComposingProxy.Proofs.Markup.ScriptReading
import ComposingProxy.Proofs.Page.ImportMapText
import ComposingProxy.Proofs.Tree.Attached

/-!
# The import map in a page

Where a page has an import map, or a head for one, the merged map is stored in a script as
its compact JSON text and nothing else. The page is written with that text as it stands.

> `ImportMapSettings.transform_stores`: the map that is stored, when its text has the beginning of
> an end tag or of a comment in it, and what a reader makes of it with and without.
-/

namespace ComposingProxy

open Markup

namespace Markup.Document

variable {doc : Document} {id : NodeId}

/-- What is found is an element of the name that satisfies the test. -/
theorem exists_of_findWhere?_eq_some {tag : String} {test : Element → Bool} {top : NodeId}
    (h : doc.findWhere? tag test top = some id) :
    ∃ element, doc.element? id = some element ∧ element.tag = tag ∧ test element = true := by
  have hfound := List.find?_some h
  split at hfound
  · next element helement =>
    rw [Bool.and_eq_true, beq_iff_eq] at hfound
    exact ⟨element, helement, hfound⟩
  · exact absurd hfound Bool.false_ne_true

end Markup.Document

namespace ImportMapSettings

variable {doc : Document} {script : NodeId} {map : ImportMap} {text : String}

/-! ## Pages and their import maps -/

/-- The node is a script for an import map in the page. -/
structure IsImportMap (doc : Document) (script : NodeId) : Prop where
  attached : doc.Within script Document.root
  element : ∃ element, doc.element? script = some element ∧ element.tag = "script" ∧
    element.attr? "type" = some "importmap"

/-- The import map of a page: that of the first script for one, and an empty one where there is
no such script but a head. -/
def ReadsAs (doc : Document) (map : ImportMap) : Prop :=
  match script? doc with
  | some script => ImportMap.parse? (doc.collectText script) = some map
  | none => doc.head?.isSome ∧ map = {}

instance (doc : Document) (map : ImportMap) : Decidable (ReadsAs doc map) := by
  unfold ReadsAs
  split <;> infer_instance

/-- A script for an import map that holds one text. -/
structure HoldsImportMap (doc : Document) (script : NodeId) (text : String) : Prop where
  wellFormed : doc.WellFormed
  isImportMap : IsImportMap doc script
  holdsText : ∃ child, doc.HoldsText script child text

theorem IsImportMap.has (h : IsImportMap doc script) : doc.Has script := by
  obtain ⟨element, helement, -⟩ := h.element
  exact Document.has_of_element? helement

theorem IsImportMap.ownText (h : IsImportMap doc script) : doc.ownText script = "" := by
  obtain ⟨element, helement, -⟩ := h.element
  exact Document.ownText_of_element? helement

/-- The script that is found is an import map in the tree. -/
theorem isImportMap_of_script? (hdoc : doc.WellFormed) (h : script? doc = some script) :
    IsImportMap doc script := by
  obtain ⟨element, helement, htag, htype⟩ := Document.exists_of_findWhere?_eq_some h
  exact ⟨hdoc.within_of_mem_subtree (List.mem_of_find?_eq_some h),
    element, helement, htag, beq_iff_eq.mp htype⟩

/-- A script stays one as long as it stays what it is and nothing around it loses children. -/
theorem IsImportMap.of_edit {doc' : Document} (h : IsImportMap doc script)
    (hdoc : doc.WellFormed) (hdoc' : doc'.WellFormed)
    (hchildren : ∀ p ≠ script, doc.children p ⊆ doc'.children p)
    (helement : doc'.element? script = doc.element? script) : IsImportMap doc' script where
  attached := hdoc.within_of_children_subset hdoc' hchildren h.attached
  element := by
    obtain ⟨element, hscript, hrest⟩ := h.element
    exact ⟨element, helement.trans hscript, hrest⟩

/-- The text of the script is the text that it holds. -/
theorem HoldsImportMap.collectText (h : HoldsImportMap doc script text) :
    doc.collectText script = text := by
  obtain ⟨child, hholds⟩ := h.holdsText
  exact hholds.collectText h.wellFormed h.isImportMap.ownText

/-! ## The script of a page -/

/-- The script that is made in a head is empty. -/
theorem ensureScript_of_none (hdoc : doc.WellFormed) (hscript : script? doc = none)
    {head : NodeId} (hhead : doc.head? = some head) :
    ∃ script doc', ensureScript doc = .ok (script, doc') ∧ doc'.WellFormed ∧
      IsImportMap doc' script ∧ doc'.children script = [] := by
  obtain ⟨element, helement, -⟩ := Document.exists_of_findWhere?_eq_some hhead
  have hhas := Document.has_of_element? helement
  let data := NodeData.element (.ofTag "script" [("type", "importmap")])
  have hnew := Document.not_has_created doc data
  have hne : (doc.create data).1 ≠ head := by
    intro heq
    exact hnew (heq ▸ hhas)
  have hforest := hdoc.prependCreated hhas data
  -- the head is found from the root, and the edit takes no child away that could cut it off
  have hwithin : doc.Within head Document.root :=
    hdoc.within_of_mem_subtree (List.mem_of_find?_eq_some hhead)
  have hkept := hdoc.within_of_children_subset hforest.wellFormed (fun p hp => by
    rw [hforest.children_eq, Function.update_of_ne hp]
    exact fun _ hmem => hmem) hwithin
  refine ⟨(doc.create data).1, (doc.create data).2.prependChild head (doc.create data).1, ?_,
    hforest.wellFormed, ⟨hkept.tail ?_, .ofTag "script" [("type", "importmap")], ?_, rfl,
      by decide⟩, ?_⟩
  · rw [ensureScript, hscript, hhead]
    rfl
  · rw [hforest.wellFormed.isParent_iff, hforest.children_eq, Function.update_self]
    exact List.mem_cons_self
  · rw [Document.element?, Document.data_prependChild, Document.data_created]
  · rw [hforest.children_eq, Function.update_of_ne hne, Document.IsForest.kids_eq_nil hdoc hnew]

/-- A page that has an import map, or a head for one, has a script for it then, and its text
is that of the map. -/
theorem ensureScript_eq_ok (hdoc : doc.WellFormed) (hmap : ReadsAs doc map) :
    ∃ script doc', ensureScript doc = .ok (script, doc') ∧ doc'.WellFormed ∧
      IsImportMap doc' script ∧ ImportMap.parse? (doc'.collectText script) = some map := by
  unfold ReadsAs at hmap
  split at hmap
  · next script hscript =>
    refine ⟨script, doc, ?_, hdoc, isImportMap_of_script? hdoc hscript, hmap⟩
    rw [ensureScript, hscript]
  · next hscript =>
    obtain ⟨hhead, rfl⟩ := hmap
    obtain ⟨head, hhead⟩ := Option.isSome_iff_exists.mp hhead
    obtain ⟨script, doc', hensure, hdoc', himport, hempty⟩ :=
      ensureScript_of_none hdoc hscript hhead
    refine ⟨script, doc', hensure, hdoc', himport, ?_⟩
    rw [hdoc'.collectText_of_leaf himport.has hempty, himport.ownText]
    rfl

/-! ## Storing the map -/

/-- Setting the text of an import map makes it hold this text. -/
theorem holdsImportMap_setText (hdoc : doc.WellFormed) (himport : IsImportMap doc script)
    (text : String) : HoldsImportMap (doc.setText script text) script text where
  wellFormed := hdoc.setText himport.has text
  isImportMap := by
    refine himport.of_edit hdoc (hdoc.setText himport.has text) (fun p hp => ?_) ?_
    · rw [hdoc.children_setText himport.has text hp]
      exact fun _ hmem => hmem
    · rw [Document.element?, Document.element?, Document.data_setText script text himport.has]
  holdsText := hdoc.exists_holdsText_setText himport.has text

/-- The body is neither the script nor its text. -/
theorem HoldsImportMap.ne_body (h : HoldsImportMap doc script text) {child body : NodeId}
    (hholds : doc.HoldsText script child text) (hbody : doc.body? = some body) :
    doc.Has body ∧ body ≠ script ∧ body ≠ child := by
  obtain ⟨element, helement, htag, -⟩ := h.isImportMap.element
  obtain ⟨found, hfound, hbodytag, -⟩ := Document.exists_of_findWhere?_eq_some hbody
  refine ⟨Document.has_of_element? hfound, ?_, ?_⟩
  · rintro rfl
    rw [hfound, Option.some.injEq] at helement
    rw [helement, htag] at hbodytag
    exact absurd hbodytag (by decide)
  · rintro rfl
    have hdata := hholds.data
    rw [Document.data_of_element? hfound] at hdata
    exact NodeData.noConfusion hdata

/-- The module at the end of the body leaves the import map alone. -/
theorem HoldsImportMap.addModule (h : HoldsImportMap doc script text)
    (settings : ImportMapSettings) : HoldsImportMap (settings.addModule doc) script text := by
  unfold ImportMapSettings.addModule
  split
  · exact h
  · split
    · exact h
    · next body hbody =>
      obtain ⟨child, hholds⟩ := h.holdsText
      obtain ⟨hhas, hscript, hchild⟩ := h.ne_body hholds hbody
      let data := NodeData.element (.ofTag "script" [("type", "module")])
      have hwell := h.wellFormed.appendFilled hhas data settings.moduleBody
      exact {
        wellFormed := hwell
        isImportMap := h.isImportMap.of_edit h.wellFormed hwell
          (fun p _ => h.wellFormed.children_subset_appendFilled hhas data settings.moduleBody p)
          (Document.element?_appendFilled body data settings.moduleBody h.isImportMap.has)
        holdsText :=
          ⟨child, hholds.appendFilled h.wellFormed hhas hscript hchild data settings.moduleBody⟩ }

/-- Where a page has an import map or a head, the merged map is stored. -/
theorem transform_eq_ok (settings : ImportMapSettings) (hdoc : doc.WellFormed)
    (hmap : ReadsAs doc map) :
    ∃ script doc', settings.transform doc = .ok doc' ∧
      HoldsImportMap doc' script (map.mergeImports settings.moduleImports).toJson := by
  obtain ⟨script, doc', hensure, hdoc', himport, hparse⟩ := ensureScript_eq_ok hdoc hmap
  refine ⟨script, settings.addModule (doc'.setText script
    (map.mergeImports settings.moduleImports).toJson), ?_,
    (holdsImportMap_setText hdoc' himport _).addModule settings⟩
  unfold transform
  rw [hensure]
  dsimp only [bind, Except.bind]
  rw [hparse]

/-! ## Writing and reading the map -/

/-- A script that holds one text is written with the text as it stands. -/
theorem node_script {child : NodeId} (h : doc.HoldsText script child text) {element : Element}
    (helement : doc.element? script = some element) (hname : element.name = .html "script")
    (hcontents : element.contents = none) (depth : Nat) :
    Writer.node doc (depth + 2) {} script =
      Writer.startTag element ++ text.toList ++ "</script>".toList := by
  have htag : element.tag = "script" := congrArg Name.tag hname
  have hinside : ({} : Writer.Surroundings).inside element = { raw := true } := by
    rw [Writer.Surroundings.inside, htag, hname]
    rfl
  have hline : Writer.needsLineEnd doc element script = false := by
    rw [Writer.needsLineEnd, htag, show Writer.lineEndTags.elem "script" = false by decide,
      Bool.and_false, Bool.false_and]
  have hchild : Writer.node doc (depth + 1) { raw := true } child = text.toList := by
    rw [Writer.node, h.data]
    rfl
  have hend : Writer.endTag element = "</script>".toList := by
    rw [Writer.endTag, htag]
    rfl
  rw [Writer.node, Document.data_of_element? helement]
  dsimp only
  rw [hinside, hline, hcontents, Option.getD_none, h.children, List.flatMap_singleton, hchild,
    hend]
  simp

/-- The text of a map can stand in a script just when all its strings can. -/
theorem isScriptText_toJson_iff (map : ImportMap) :
    IsScriptText map.toJson.toList ↔
      ∀ text ∈ map.texts, ∀ mark ∈ scriptMarks, ¬Json.IsMarked mark text.toList := by
  constructor
  · intro h text htext mark hmark hmarked
    have hiff := map.isMarked_toJson_iff (isMark_of_mem_scriptMarks mark hmark)
    exact h.unmarked mark hmark (hiff.mpr ⟨text, htext, hmarked⟩)
  · intro h
    refine ⟨fun hzero => absurd (map.isPrintable_toJson _ hzero) (by decide), ?_⟩
    intro mark hmark hmarked
    have hiff := map.isMarked_toJson_iff (isMark_of_mem_scriptMarks mark hmark)
    obtain ⟨text, htext, htextmarked⟩ := hiff.mp hmarked
    exact h text htext mark hmark htextmarked

theorem toJson_ne_nil (map : ImportMap) : map.toJson.toList ≠ [] := by
  rw [map.toList_toJson]
  exact List.cons_ne_nil _ _

/-- A page stores a map in a script. -/
structure StoresMap (doc : Document) (script : NodeId) (map : ImportMap) : Prop where
  holds : HoldsImportMap doc script map.toJson
  /-- The text of the script stands for the map. -/
  parses : ImportMap.parse? (doc.collectText script) = some map
  /-- The text has the beginning of an end tag or of a comment in it if a string of the map has. -/
  marked : ∀ mark ∈ scriptMarks, Json.IsMarked mark (doc.collectText script).toList ↔
    ∃ text ∈ map.texts, Json.IsMarked mark text.toList
  /-- The text is written as it stands. -/
  written : ∀ element, doc.element? script = some element → element.name = .html "script" →
    element.contents = none → ∀ depth, Writer.node doc (depth + 2) {} script =
      Writer.startTag element ++ (doc.collectText script).toList ++ "</script>".toList
  /-- Where no string has such a beginning in it, the script is read back with the same map. -/
  readsBack : (∀ text ∈ map.texts, ∀ mark ∈ scriptMarks, ¬Json.IsMarked mark text.toList) →
    ∀ (reading : Reading) (node : NodeId), reading.AtScript node → ∀ rest,
      reading.EndsScript node ((doc.collectText script).toList ++ "</script>".toList ++ rest)
        (doc.collectText script).toList rest
  /-- Where an end tag stands in the text, the script is read up to there only. -/
  cut : ∀ front back, (doc.collectText script).toList = front ++ "</script>".toList ++ back →
    IsScriptText front → ∀ (reading : Reading) (node : NodeId), reading.AtScript node → ∀ rest,
      reading.EndsScript node ((doc.collectText script).toList ++ "</script>".toList ++ rest)
        front (back ++ "</script>".toList ++ rest)

/-- A script that holds the text of a map stores the map. -/
theorem HoldsImportMap.storesMap (h : HoldsImportMap doc script map.toJson) :
    StoresMap doc script map := by
  have htext := h.collectText
  constructor
  case holds => exact h
  case parses => rw [htext, map.parse?_toJson]
  case marked =>
    intro mark hmark
    rw [htext]
    exact map.isMarked_toJson_iff (isMark_of_mem_scriptMarks mark hmark)
  case written =>
    intro element helement hname hcontents depth
    obtain ⟨child, hholds⟩ := h.holdsText
    rw [htext]
    exact node_script hholds helement hname hcontents depth
  case readsBack =>
    intro hfree reading node hreading rest
    rw [htext]
    exact hreading.endsScript ((isScriptText_toJson_iff map).mpr hfree) (toJson_ne_nil map) rest
  case cut =>
    intro front back hsplit hfront reading node hreading rest
    have hne : front ≠ [] := by
      rintro rfl
      rw [htext, map.toList_toJson] at hsplit
      exact absurd (List.cons.inj hsplit).1 (by decide)
    have hends := hreading.endsScript hfront hne (back ++ "</script>".toList ++ rest)
    rw [hsplit]
    simpa only [List.append_assoc] using hends

/-- Where a page has an import map or a head, the map is merged with the configured modules and
stored in a script of the page. -/
theorem transform_stores (settings : ImportMapSettings) (hdoc : doc.WellFormed)
    (hmap : ReadsAs doc map) : ∃ script doc', settings.transform doc = .ok doc' ∧
      StoresMap doc' script (map.mergeImports settings.moduleImports) := by
  obtain ⟨script, doc', htransform, hholds⟩ := transform_eq_ok settings hdoc hmap
  exact ⟨script, doc', htransform, hholds.storesMap⟩

/-- Edits that make a page whose import map has an end tag in an address, which its text has
with an escape. -/
def escapedEdits : List Document.Edit :=
  [.createElement "html" [], .appendChild Document.root ⟨1⟩, .createElement "head" [],
    .appendChild ⟨1⟩ ⟨2⟩, .createElement "script" [("type", "importmap")], .appendChild ⟨2⟩ ⟨3⟩,
    .appendText ⟨3⟩ "\x7b\"imports\":\x7b\"a\":\"<\\/script>\"\x7d\x7d"]

def escapedPage : Document := Document.applyAll {} escapedEdits

/-- The page with the escaped end tag was made by edits that are permitted. -/
theorem wellFormed_escapedPage : escapedPage.WellFormed :=
  Document.WellFormed.empty.applyAll escapedEdits (by decide +kernel) escapedEdits.length

/-- The map of the page. -/
def escapedMap : ImportMap := { imports := Table.ofList [("a", "</script>")] }

/-- One more module for every page. -/
def oneModule : ImportMapSettings := { moduleImports := Table.ofList [("b", "/b.js")] }

/-- The map with the end tag is stored with one import more. -/
theorem transform_stores_escaped : ReadsAs escapedPage escapedMap ∧
    ∃ script doc', oneModule.transform escapedPage = .ok doc' ∧
      StoresMap doc' script (escapedMap.mergeImports oneModule.moduleImports) :=
  ⟨by decide +kernel, transform_stores oneModule wellFormed_escapedPage (by decide +kernel)⟩

/-- The page after its import map was stored. -/
def storedPage : Document := (oneModule.transform escapedPage).toOption.getD {}

/-- Not every page that is written has its import map when it is read again: writing the text
of the map takes an escape away that kept the script from ending. -/
theorem not_every_map_read_back :
    ¬∀ (settings : ImportMapSettings) (doc doc' : Document) (map : ImportMap), doc.WellFormed →
      ReadsAs doc map → settings.transform doc = .ok doc' →
        ∃ script, script? (Document.ofText doc'.render) = some script ∧
          ImportMap.parse? ((Document.ofText doc'.render).collectText script) =
            some (map.mergeImports settings.moduleImports) := by
  intro hall
  have htransform : oneModule.transform escapedPage = .ok storedPage := by decide +kernel
  obtain ⟨script, hscript, hparse⟩ := hall oneModule escapedPage storedPage escapedMap
    wellFormed_escapedPage (by decide +kernel) htransform
  -- the script that is read back ends inside the string, so its text is no JSON
  have hfirst : script? (Document.ofText storedPage.render) = some ⟨3⟩ := by decide +kernel
  have hcut : ImportMap.parse? ((Document.ofText storedPage.render).collectText ⟨3⟩) = none := by
    decide +kernel
  rw [hfirst, Option.some.injEq] at hscript
  subst hscript
  rw [hcut] at hparse
  exact absurd hparse (by simp)

end ImportMapSettings

end ComposingProxy
