import ComposingProxy.Proofs.Tree.Data

/-!
# The contents of templates

The contents of a template are a tree of their own, so they are not below the template. A series of
edits gives a new template no contents but new ones:

> `HasNewContents.copyWithin`: in a copy all templates have copies of their contents.
-/

namespace ComposingProxy.Markup.Document

variable {doc cur next : Document}

/-- The contents of templates are trees of their own. -/
def HasOwnContents (doc : Document) : Prop :=
  ∀ x c, doc.contents? x = some c → doc.parent? c = none

/-- The numbers of `doc` are given out, and templates that were made after it have contents that
were made after it. -/
structure HasNewContents (doc cur : Document) : Prop where
  size : doc.size ≤ cur.size
  contents : ∀ x c, ¬doc.Has x → cur.contents? x = some c → ¬doc.Has c

/-- The contents of a template are part of its data. -/
theorem contents?_eq (h : cur.data x = next.data x) : cur.contents? x = next.contents? x := by
  rw [contents?, contents?, element?, element?, h]

namespace HasNewContents

theorem refl (doc : Document) : HasNewContents doc doc where
  size := Nat.le_refl _
  contents x c hx hc := by
    obtain ⟨element, helement, -⟩ := Option.bind_eq_some_iff.mp hc
    exact absurd (has_of_element? helement) hx

/-- Edits that make no node make no template. -/
theorem edit (h : HasNewContents doc cur) (hsize : next.size = cur.size)
    (hdata : ∀ x, next.data x = cur.data x) : HasNewContents doc next where
  size := hsize ▸ h.size
  contents x c hx hc := h.contents x c hx ((contents?_eq (hdata x)).symm.trans hc)

theorem appendChild (h : HasNewContents doc cur) (p c : NodeId) :
    HasNewContents doc (cur.appendChild p c) :=
  h.edit (size_appendChild cur p c) (data_appendChild cur p c)

theorem insertBefore (h : HasNewContents doc cur) (sibling c : NodeId) :
    HasNewContents doc (cur.insertBefore sibling c) :=
  h.edit (size_insertBefore cur sibling c) (data_insertBefore cur sibling c)

theorem detach (h : HasNewContents doc cur) (c : NodeId) : HasNewContents doc (cur.detach c) :=
  h.edit (size_detach cur c) (data_detach cur c)

/-- A node that is made later has a number that the document did not give out. -/
theorem not_has_created (h : HasNewContents doc cur) (data : NodeData) :
    ¬doc.Has (cur.create data).1 :=
  fun hold => Document.not_has_created cur data (Nat.lt_of_lt_of_le hold h.size)

/-- A template that is made later may have contents that were made later. -/
theorem create (h : HasNewContents doc cur) (data : NodeData) {contents : Option NodeId}
    (hcontents : ∀ c, contents = some c → ¬doc.Has c) :
    HasNewContents doc (cur.create (copiedData data contents)).2 where
  size := Nat.le_trans h.size (KeepsData.create cur _).size
  contents x c hx hc := by
    by_cases hnew : x = (cur.create (copiedData data contents)).1
    · rw [contents?, element?, hnew, data_created] at hc
      refine hcontents c ?_
      cases data with
      | element element => exact hc
      | _ => exact absurd hc (by simp [copiedData])
    · have hsame : (cur.create (copiedData data contents)).2.data x = cur.data x := by
        rw [Document.data, node_create, if_neg hnew]
        rfl
      exact h.contents x c hx ((contents?_eq hsame).symm.trans hc)

/-- A run of edits that each make new contents only does so as a whole. -/
theorem foldl {α : Type} {step : Document → α → Document}
    (hstep : ∀ {cur : Document} (item : α), HasNewContents doc cur →
      HasNewContents doc (step cur item)) :
    ∀ (items : List α) {cur : Document}, HasNewContents doc cur →
      HasNewContents doc (items.foldl step cur) := by
  intro items
  induction items with
  | nil => intro cur h; exact h
  | cons item rest ih =>
    intro cur h
    exact ih (hstep item h)

/-- A copy is a new node, and so are the contents of all templates in it. -/
theorem copyWithin (source : Document) : ∀ (depth : Nat) {cur : Document} (id : NodeId),
    HasNewContents doc cur →
      ¬doc.Has (copyWithin source depth cur id).1 ∧
        HasNewContents doc (copyWithin source depth cur id).2 := by
  intro depth
  induction depth with
  | zero =>
    intro cur id h
    exact ⟨h.not_has_created _, h.create (source.data id) fun c hc => absurd hc (by simp)⟩
  | succ depth ih =>
    intro cur id h
    unfold Document.copyWithin
    cases source.contents? id with
    | none =>
      dsimp only
      exact ⟨h.not_has_created _, foldl (fun child h => (ih child h).2.appendChild _ _) _
        (h.create (source.data id) fun c hc => absurd hc (by simp))⟩
    | some contents =>
      obtain ⟨hnew, hcopied⟩ := ih contents h
      dsimp only
      exact ⟨hcopied.not_has_created _, foldl (fun child h => (ih child h).2.appendChild _ _) _
        (hcopied.create (source.data id) fun c hc => Option.some.inj hc ▸ hnew)⟩

end HasNewContents

end ComposingProxy.Markup.Document
