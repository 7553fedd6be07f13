import ComposingProxy.Proofs.Tree.Texts

/-!
# What stays in a page

A node is in a page as long as it lies within the root. An edit that takes no children away,
other than those of the node itself, leaves it there:

> `WellFormed.within_of_children_subset`: what keeps its place among the children stays.
-/

namespace ComposingProxy.Markup.Document

variable {doc doc' : Document} {id top x : NodeId}

/-- A node stays where it was if no node but itself loses children. -/
theorem WellFormed.within_of_children_subset (h : doc.WellFormed) (hdoc' : doc'.WellFormed)
    (hchildren : ∀ p ≠ x, doc.children p ⊆ doc'.children p) (hx : doc.Within x top) :
    doc'.Within x top := by
  induction hx using Relation.ReflTransGen.head_induction_on with
  | refl => exact .refl
  | @head p c hparent hbelow ih =>
    have hne : p ≠ x := by
      rintro rfl
      exact IsForest.not_transGen_self h p (.head' hparent hbelow)
    exact .head (hdoc'.isParent_iff.mpr (hchildren p hne (h.isParent_iff.mp hparent))) ih

/-- Appending text takes nothing out of any child list. -/
theorem WellFormed.children_subset_appendText (h : doc.WellFormed) (hid : doc.Has id)
    (text : String) (p : NodeId) : doc.children p ⊆ (doc.appendText id text).children p := by
  unfold Document.appendText
  split
  · next last _ =>
    have hlinks : SameLinks doc (doc.extendText last text) := modifyData_sameLinks doc last _
    rw [(hlinks.isForest h).children_eq]
    exact fun _ hmem => hmem
  · intro c hc
    refine (h.children_appendCreated hid (.text text) p).symm ▸ ?_
    split
    · next heq => exact List.mem_append_left _ (heq ▸ hc)
    · exact hc

/-- A new node with a text of its own takes no children away. -/
theorem WellFormed.children_subset_appendFilled (h : doc.WellFormed) {p : NodeId}
    (hp : doc.Has p) (data : NodeData) (text : String) (q : NodeId) :
    doc.children q ⊆ (doc.appendFilled p data text).children q := by
  intro c hc
  have hcreated := has_created doc data
  have hwell := (h.create data).appendText hcreated text
  have hforest := IsForest.appendChild hwell
    (has_appendText (h.create data) hcreated text (has_create doc data hp))
    (has_appendText (h.create data) hcreated text hcreated) (h.not_within_filled hp data text)
  have hne : c ≠ (doc.create data).1 := by
    rintro rfl
    exact not_has_created doc data (IsForest.has_child h hc)
  have hmem := (h.create data).children_subset_appendText hcreated text q
    ((h.children_create data q).symm ▸ hc)
  rw [Document.appendFilled, hforest.children_eq, Function.update_apply]
  split
  · next heq =>
    exact List.mem_append_left _ ((List.mem_erase_of_ne hne).mpr (heq ▸ hmem))
  · exact (List.mem_erase_of_ne hne).mpr hmem

end ComposingProxy.Markup.Document
