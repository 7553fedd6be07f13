import ComposingProxy.Proofs.Tree.Nesting

/-!
# Deep copies

`copied_copyWithin` says where the top of a copy is; here is what is below it. A copy is compared
with its original level by level: the data is the same, apart from the number of the contents,
the children are copies of the children in order, and the contents are a copy of the contents.

> `isCopy_copyFrom`: in a document without cycles a copy is like its original at every depth,
> although it is made with a bound on the depth.

Making a copy changes nothing that was there (`staysAt_copyWithin`). The children of a copy are
put below it one by one, so what is known of the first ones is carried over the making of the
others (`IsCopyTo.mono`).
-/

namespace ComposingProxy

/-- A relation of what may be there can be widened. -/
theorem rel_imp {α β : Type} {R S : α → β → Prop} (himp : ∀ a b, R a b → S a b) {a : Option α}
    {b : Option β} (h : Option.Rel R a b) : Option.Rel S a b := by
  cases h with
  | some h => exact .some (himp _ _ h)
  | none => exact .none

end ComposingProxy

namespace ComposingProxy.Markup.Document

variable {doc doc' mid source : Document} {isNew isNew' : NodeId → Prop} {id copy x : NodeId}
  {depth : Nat}

/-! ## Like the original -/

/-- So many levels down, `copy` is in `doc` what `id` is in `source`, and is made of new nodes. -/
def IsCopyTo (source doc : Document) (isNew : NodeId → Prop) : Nat → NodeId → NodeId → Prop
  | 0, _, _ => True
  | depth + 1, id, copy =>
    isNew copy ∧ doc.Has copy ∧
      doc.data copy = copiedData (source.data id) (doc.contents? copy) ∧
      Option.Rel (IsCopyTo source doc isNew depth) (source.contents? id) (doc.contents? copy) ∧
      List.Forall₂ (IsCopyTo source doc isNew depth) (source.children id) (doc.children copy)

/-- At every depth, `copy` is in `doc` what `id` is in `source`, and is made of new nodes. -/
def IsCopy (source doc : Document) (isNew : NodeId → Prop) (id copy : NodeId) : Prop :=
  ∀ depth, IsCopyTo source doc isNew depth id copy

/-- The node is the same data in both documents and has the same children. -/
structure StaysAt (doc doc' : Document) (x : NodeId) : Prop where
  has : doc'.Has x
  data : doc'.data x = doc.data x
  children : doc'.children x = doc.children x

/-- A node that stays during two series of edits stays during both. -/
theorem StaysAt.trans {doc'' : Document} (h : StaysAt doc doc' x) (h' : StaysAt doc' doc'' x) :
    StaysAt doc doc'' x :=
  ⟨h'.has, h'.data.trans h.data, h'.children.trans h.children⟩

/-- A copy stays one where its nodes stay as they are. -/
theorem IsCopyTo.mono (hnew : ∀ x, isNew x → doc.Has x → isNew' x ∧ StaysAt doc doc' x) :
    ∀ {depth : Nat} {id copy : NodeId}, IsCopyTo source doc isNew depth id copy →
      IsCopyTo source doc' isNew' depth id copy := by
  intro depth
  induction depth with
  | zero => intro _ _ _; trivial
  | succ depth ih =>
    intro id copy ⟨hcopy, hhas, hdata, hcontents, hchildren⟩
    obtain ⟨hcopy', hstays⟩ := hnew copy hcopy hhas
    have hsame : doc'.contents? copy = doc.contents? copy := contents?_eq hstays.data
    refine ⟨hcopy', hstays.has, ?_, ?_, ?_⟩
    · rw [hsame, hstays.data, hdata]
    · rw [hsame]
      exact rel_imp (fun _ _ => ih) hcontents
    · rw [hstays.children]
      exact hchildren.imp fun _ _ => ih

/-- A copy stays a copy while its nodes stay as they are. -/
theorem IsCopy.mono (h : IsCopy source doc isNew id copy)
    (hnew : ∀ x, isNew x → doc.Has x → isNew' x ∧ StaysAt doc doc' x) :
    IsCopy source doc' isNew' id copy :=
  fun depth => (h depth).mono hnew

/-- Copies are new nodes. -/
theorem isNew_of_mem {ids copies : List NodeId}
    (h : List.Forall₂ (IsCopy source doc isNew) ids copies) (hcopy : copy ∈ copies) :
    isNew copy := by
  induction h with
  | nil => exact absurd hcopy List.not_mem_nil
  | cons hfirst _ ih =>
    rcases List.mem_cons.mp hcopy with rfl | hrest
    · exact (hfirst 1).1
    · exact ih hrest

/-! ## What making a copy leaves alone -/

theorem WellFormed.staysAt_create (h : doc.WellFormed) (data : NodeData) (hx : doc.Has x) :
    StaysAt doc (doc.create data).2 x :=
  ⟨has_create doc data hx, data_create_of_has data hx, h.children_create data x⟩

/-- A new node has no children. -/
theorem WellFormed.children_new (h : doc.WellFormed) (data : NodeData) :
    (doc.create data).2.children (doc.create data).1 = [] :=
  (h.children_create data _).trans (IsForest.kids_eq_nil h (not_has_created doc data))

/-- A copy is put below the copy of its parent as the last child, and that is all. -/
theorem Copied.children_appendChild (h : Copied doc copy mid) {child : NodeId}
    (hchild : Copied mid child doc') (x : NodeId) :
    (doc'.appendChild copy child).children x =
      if x = copy then doc'.children copy ++ [child] else doc'.children x := by
  have hne : copy ≠ child := fun he => hchild.new (he ▸ h.has)
  have halone : doc'.parent? copy = none := (hchild.grows.parent copy h.has).trans h.alone
  have hforest := IsForest.appendChild hchild.wellFormed (hchild.grows.has h.has) hchild.has
    fun hw => hne (eq_of_within halone hw)
  have herase : ∀ p, (doc'.children p).erase child = doc'.children p := fun p =>
    List.erase_of_not_mem (IsForest.not_mem_of_parent?_eq_none hchild.wellFormed hchild.alone p)
  rw [hforest.children_eq, Function.update_apply, herase, herase]

/-- Nodes other than the copy of the parent stay as they are. -/
theorem Copied.staysAt_appendChild (h : Copied doc copy mid) {child : NodeId}
    (hchild : Copied mid child doc') (hx : doc'.Has x) (hne : x ≠ copy) :
    StaysAt doc' (doc'.appendChild copy child) x where
  has := by rwa [Has, size_appendChild]
  data := data_appendChild doc' copy child x
  children := by rw [h.children_appendChild hchild, if_neg hne]

/-- Makes a copy of a child and puts it below the copy of its parent. -/
def appendCopy (source : Document) (depth : Nat) (copy : NodeId) (doc : Document)
    (child : NodeId) : Document :=
  (copyWithin source depth doc child).2.appendChild copy (copyWithin source depth doc child).1

/-- Puts copies of all children below the copy of their parent. -/
def appendCopies (source : Document) (depth : Nat) (copy : NodeId) (children : List NodeId)
    (doc : Document) : Document :=
  children.foldl (appendCopy source depth copy) doc

theorem appendCopies_cons (source : Document) (depth : Nat) (copy child : NodeId)
    (rest : List NodeId) (doc : Document) :
    appendCopies source depth copy (child :: rest) doc =
      appendCopies source depth copy rest (appendCopy source depth copy doc child) :=
  List.foldl_cons

/-- Makes a node of some data with copies of the children of a node. -/
def createCopy (source : Document) (depth : Nat) (id : NodeId) (data : NodeData)
    (doc : Document) : NodeId × Document :=
  let (copy, doc) := doc.create data
  (copy, appendCopies source depth copy (source.children id) doc)

/-- A node without contents is copied with its data and its children. -/
theorem copyWithin_of_none (hcontents : source.contents? id = none) (doc : Document) :
    copyWithin source (depth + 1) doc id =
      createCopy source depth id (copiedData (source.data id) none) doc := by
  rw [copyWithin, hcontents]
  rfl

/-- The contents of a template are copied first, and the copy is made with these. -/
theorem copyWithin_of_some {contents : NodeId} (hcontents : source.contents? id = some contents)
    (doc : Document) :
    copyWithin source (depth + 1) doc id =
      createCopy source depth id
        (copiedData (source.data id) (some (copyWithin source depth doc contents).1))
        (copyWithin source depth doc contents).2 := by
  rw [copyWithin, hcontents]
  rfl

/-- One more child may be copied and put below a copy. -/
theorem Copied.appendCopy (h : Copied doc copy mid) (source : Document) (depth : Nat)
    (child : NodeId) : Copied doc copy (appendCopy source depth copy mid child) :=
  h.appendChild (copied_copyWithin source depth mid child h.wellFormed)

/-- Nodes other than the copy of the parent stay as they are when a child is copied. -/
theorem Copied.staysAt_appendCopy (h : Copied doc copy mid)
    (hcopy : ∀ (doc : Document) (id x : NodeId), doc.WellFormed → doc.Has x →
      StaysAt doc (copyWithin source depth doc id).2 x)
    (child : NodeId) (hx : mid.Has x) (hne : x ≠ copy) :
    StaysAt mid (Document.appendCopy source depth copy mid child) x := by
  have hmade := hcopy mid child x h.wellFormed hx
  exact hmade.trans (h.staysAt_appendChild
    (copied_copyWithin source depth mid child h.wellFormed) hmade.has hne)

/-- Putting copies below a new node changes that node and none that was there. -/
theorem staysAt_appendCopies
    (hcopy : ∀ (doc : Document) (id x : NodeId), doc.WellFormed → doc.Has x →
      StaysAt doc (copyWithin source depth doc id).2 x) :
    ∀ (children : List NodeId) {mid : Document}, Copied doc copy mid →
      ∀ x, mid.Has x → x ≠ copy → StaysAt mid (appendCopies source depth copy children mid) x := by
  intro children
  induction children with
  | nil => intro mid _ x hx _; exact ⟨hx, rfl, rfl⟩
  | cons child rest ih =>
    intro mid h x hx hne
    have hput := h.staysAt_appendCopy hcopy child hx hne
    rw [appendCopies_cons]
    exact hput.trans (ih (h.appendCopy source depth child) x hput.has hne)

theorem WellFormed.staysAt_createCopy (h : doc.WellFormed)
    (hcopy : ∀ (doc : Document) (id x : NodeId), doc.WellFormed → doc.Has x →
      StaysAt doc (copyWithin source depth doc id).2 x)
    (id : NodeId) (data : NodeData) (hx : doc.Has x) :
    StaysAt doc (createCopy source depth id data doc).2 x := by
  have hcreate := h.staysAt_create data hx
  refine hcreate.trans (staysAt_appendCopies hcopy _ (copied_create h data) x hcreate.has ?_)
  rintro rfl
  exact not_has_created doc data hx

/-- Making a copy leaves everything alone that was there. -/
theorem staysAt_copyWithin (source : Document) :
    ∀ (depth : Nat) (doc : Document) (id x : NodeId), doc.WellFormed → doc.Has x →
      StaysAt doc (copyWithin source depth doc id).2 x := by
  intro depth
  induction depth with
  | zero => intro doc id x h hx; exact h.staysAt_create _ hx
  | succ depth ih =>
    intro doc id x h hx
    cases hc : source.contents? id with
    | none =>
      rw [copyWithin_of_none hc]
      exact h.staysAt_createCopy ih id _ hx
    | some contents =>
      have hcontents := copied_copyWithin source depth doc contents h
      have hfirst := ih doc contents x h hx
      rw [copyWithin_of_some hc]
      exact hfirst.trans (hcontents.wellFormed.staysAt_createCopy ih id _ hfirst.has)

/-! ## Below a copy -/

/-- The copies of children, put below a new node one after the other. -/
theorem exists_children_appendCopies
    (hcopy : ∀ (doc : Document) (id : NodeId), source.Fits depth id → doc.WellFormed →
      IsCopy source (copyWithin source depth doc id).2 (¬doc.Has ·) id
        (copyWithin source depth doc id).1) :
    ∀ (children : List NodeId) {mid : Document}, (∀ child ∈ children, source.Fits depth child) →
      Copied doc copy mid →
      (appendCopies source depth copy children mid).Has copy ∧
        (appendCopies source depth copy children mid).data copy = mid.data copy ∧
        ∃ copies, (appendCopies source depth copy children mid).children copy =
            mid.children copy ++ copies ∧
          List.Forall₂ (IsCopy source (appendCopies source depth copy children mid) (¬mid.Has ·))
            children copies := by
  intro children
  induction children with
  | nil => intro mid _ h; exact ⟨h.has, rfl, [], (List.append_nil _).symm, .nil⟩
  | cons child rest ih =>
    intro mid hfits h
    obtain ⟨hfirst, hrest⟩ := List.forall_mem_cons.mp hfits
    have hchild := copied_copyWithin source depth mid child h.wellFormed
    have hmade := staysAt_copyWithin source depth mid child copy h.wellFormed h.has
    have hput := h.appendCopy source depth child
    have hlater := staysAt_appendCopies (staysAt_copyWithin source depth) rest hput
    obtain ⟨hhas, hdata, copies, hlist, hcopies⟩ := ih hrest hput
    have hbelow : (Document.appendCopy source depth copy mid child).children copy =
        mid.children copy ++ [(copyWithin source depth mid child).1] := by
      rw [Document.appendCopy, h.children_appendChild hchild, if_pos rfl, hmade.children]
    have hsame : (Document.appendCopy source depth copy mid child).data copy = mid.data copy := by
      rw [Document.appendCopy, data_appendChild, hmade.data]
    rw [appendCopies_cons]
    refine ⟨hhas, hdata.trans hsame, (copyWithin source depth mid child).1 :: copies, ?_,
      .cons ?_ ?_⟩
    · rw [hlist, hbelow, List.append_assoc, List.singleton_append]
    · -- the nodes of the first copy are not the parent, so they stay as they are
      refine (hcopy mid child hfirst h.wellFormed).mono fun x hnew hx => ⟨hnew, ?_⟩
      have hne : x ≠ copy := fun he => hnew (he ▸ h.has)
      have hstays := h.staysAt_appendChild hchild hx hne
      exact hstays.trans (hlater x hstays.has hne)
    · refine hcopies.imp fun _ _ hisCopy => hisCopy.mono fun x hnew hx =>
        ⟨fun hold => hnew ?_, hx, rfl, rfl⟩
      rw [appendCopy, Has, size_appendChild]
      exact hchild.grows.has hold

/-- The contents of a copy are those that it was made with. -/
theorem contents?_copied {contents : Option NodeId}
    (hdata : doc.data copy = copiedData (source.data id) contents)
    (hcontents : source.contents? id = none → contents = none) : doc.contents? copy = contents := by
  rw [contents?, element?, hdata]
  cases hsource : source.data id with
  | element element => rfl
  | _ =>
    refine (hcontents ?_).symm
    rw [contents?, element?, hsource]
    rfl

/-- A node is a copy if it is made with a copy of the contents and gets copies of the children. -/
theorem isCopy_createCopy {contents : Option NodeId}
    (hcopy : ∀ (doc : Document) (id : NodeId), source.Fits depth id → doc.WellFormed →
      IsCopy source (copyWithin source depth doc id).2 (¬doc.Has ·) id
        (copyWithin source depth doc id).1)
    (hchildren : ∀ child ∈ source.children id, source.Fits depth child)
    (hmid : mid.WellFormed) (hgrows : ∀ x, doc.Has x → mid.Has x)
    (hcontents : Option.Rel (IsCopy source mid (¬doc.Has ·)) (source.contents? id) contents) :
    IsCopy source (createCopy source depth id (copiedData (source.data id) contents) mid).2
      (¬doc.Has ·) id
      (createCopy source depth id (copiedData (source.data id) contents) mid).1 := by
  have hcreated := data_created mid (copiedData (source.data id) contents)
  have htop := copied_create hmid (copiedData (source.data id) contents)
  have hbelow := hmid.children_new (copiedData (source.data id) contents)
  have hstays : ∀ x, mid.Has x →
      StaysAt mid (mid.create (copiedData (source.data id) contents)).2 x :=
    fun _ => hmid.staysAt_create (copiedData (source.data id) contents)
  unfold createCopy
  generalize mid.create (copiedData (source.data id) contents) = made at *
  obtain ⟨copy, made⟩ := made
  dsimp only at *
  obtain ⟨hhas, hdata, copies, hlist, hcopies⟩ :=
    exists_children_appendCopies hcopy _ hchildren htop
  -- what is copied behind the node touches neither the node nor its contents
  have hlater := staysAt_appendCopies (staysAt_copyWithin source depth) (source.children id) htop
  have hnone : source.contents? id = none → contents = none := by
    intro heq
    rw [heq] at hcontents
    cases hcontents
    rfl
  have hsame := contents?_copied (hdata.trans hcreated) hnone
  intro level
  cases level with
  | zero => trivial
  | succ level =>
    refine ⟨fun hold => htop.new (hgrows copy hold), hhas, ?_, ?_, ?_⟩
    · rw [hsame, hdata, hcreated]
    · rw [hsame]
      refine rel_imp (fun _ _ hisCopy => (hisCopy.mono fun x hnew hx => ⟨hnew, ?_⟩) level) hcontents
      have hmade := hstays x hx
      exact hmade.trans (hlater x hmade.has fun he => htop.new (he ▸ hx))
    · rw [hlist, hbelow, List.nil_append]
      refine hcopies.imp fun _ _ hisCopy => (hisCopy.mono fun x hnew hx => ⟨?_, hx, rfl, rfl⟩) level
      exact fun hold => hnew (htop.grows.has (hgrows x hold))

/-- A copy that is made deep enough is like its original. -/
theorem isCopy_copyWithin (hsource : source.WellFormed) :
    ∀ (depth : Nat) (doc : Document) (id : NodeId), source.Fits depth id → doc.WellFormed →
      IsCopy source (copyWithin source depth doc id).2 (¬doc.Has ·) id
        (copyWithin source depth doc id).1 := by
  intro depth
  induction depth with
  | zero =>
    intro doc id hfits h
    have hchildren : source.children id = [] := by
      refine List.eq_nil_iff_forall_not_mem.mpr fun c hc => ?_
      exact hfits c (Or.inl (hsource.isParent_iff.mpr hc))
    have hcontents : source.contents? id = none := by
      cases hc : source.contents? id with
      | none => rfl
      | some c => exact absurd (Or.inr hc) (hfits c)
    have hdata := data_created doc (copiedData (source.data id) none)
    have hnone := contents?_copied hdata fun _ => rfl
    intro level
    cases level with
    | zero => trivial
    | succ level =>
      refine ⟨not_has_created doc _, has_created doc _, ?_, ?_, ?_⟩
      · exact hdata.trans (by rw [copyWithin, hnone])
      · rw [hcontents, copyWithin, hnone]
        exact .none
      · rw [hchildren, copyWithin, h.children_new]
        exact .nil
  | succ depth ih =>
    intro doc id hfits h
    have hchildren : ∀ child ∈ source.children id, source.Fits depth child := fun child hchild =>
      hfits child (Or.inl (hsource.isParent_iff.mpr hchild))
    cases hc : source.contents? id with
    | none =>
      rw [copyWithin_of_none hc]
      exact isCopy_createCopy ih hchildren h (fun _ hx => hx) (by rw [hc]; exact .none)
    | some contents =>
      have hcontents := copied_copyWithin source depth doc contents h
      rw [copyWithin_of_some hc]
      refine isCopy_createCopy ih hchildren hcontents.wellFormed
        (fun _ hx => hcontents.grows.has hx) ?_
      rw [hc]
      exact .some (ih doc contents (hfits contents (Or.inr hc)) h)

/-- In a document without cycles everything in a node is copied. -/
theorem isCopy_copyFrom (hsource : source.WellFormed) (hacyclic : source.IsAcyclic)
    (h : doc.WellFormed) (id : NodeId) :
    IsCopy source (doc.copyFrom source id).2 (¬doc.Has ·) id (doc.copyFrom source id).1 :=
  isCopy_copyWithin hsource source.size doc id (hacyclic.fits hsource id) h

end ComposingProxy.Markup.Document
