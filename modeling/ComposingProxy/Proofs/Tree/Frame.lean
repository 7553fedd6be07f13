import ComposingProxy.Proofs.Tree.Attached
import ComposingProxy.Proofs.Tree.Data

/-!
# What a series of edits leaves alone

A document that is edited while others hold numbers of its nodes must not lose what they
know. `Edited` is the invariant that the edits of a page keep, relative to the document at
the start of the series: only *owned* nodes are taken from their parents, only new
nodes are put in, and no node that was there becomes another one.

> `Edited.step`: to see that an edit keeps the invariant it is enough to look at the child
> lists, and there only at the nodes of the start.
> `Edited.keeps`: when all that is owned is cut off at the end of the series, the tree that
> was there at the start is there still, apart from what is owned (`Keeps`).

Both compose (`Edited.trans`, `Keeps.trans`), so a series is looked at edit by edit.
-/

namespace ComposingProxy.Markup.Document

variable {doc doc' mid cur next : Document} {owned first second : NodeId → Bool}
  {kids : NodeId → List NodeId}

/-! ## Edits that put in what is new and take out what is owned -/

/-- A node of the document at the start that is not owned. -/
def isSpared (doc : Document) (owned : NodeId → Bool) (x : NodeId) : Bool :=
  decide (doc.Has x) && !owned x

/-- The document `doc'` comes from `doc` by edits that take only owned nodes from their
parents, put only new nodes in and change no data. -/
structure Edited (doc doc' : Document) (owned : NodeId → Bool) : Prop
    extends KeepsData doc doc' where
  wellFormed : doc'.WellFormed
  parent : ∀ x, doc.Has x →
    doc'.parent? x = doc.parent? x ∨ owned x = true ∧ doc'.parent? x = none
  /-- The children that are not owned stay, in their order. -/
  children : ∀ p, doc.Has p →
    (doc'.children p).filter (doc.isSpared owned) = (doc.children p).filter (doc.isSpared owned)

/-- Edits that only put new nodes in. -/
def Extends (doc doc' : Document) : Prop := Edited doc doc' fun _ => false

/-- Only nodes that were there are spared. -/
theorem isSpared_eq_false_of_not_has {x : NodeId} (h : ¬doc.Has x) :
    doc.isSpared owned x = false := by
  rw [isSpared, decide_eq_false h, Bool.false_and]

theorem isSpared_eq_true_iff {x : NodeId} :
    doc.isSpared owned x = true ↔ doc.Has x ∧ owned x = false := by
  rw [isSpared, Bool.and_eq_true, decide_eq_true_eq, Bool.not_eq_true']

/-- A filter that drops a node does not see it erased. -/
theorem filter_erase_of_eq_false {test : NodeId → Bool} {x : NodeId} (h : test x = false)
    (l : List NodeId) : (l.erase x).filter test = l.filter test := by
  induction l with
  | nil => rfl
  | cons y rest ih =>
    by_cases hyx : y = x
    · rw [hyx, List.erase_cons_head, List.filter_cons, h]
      rfl
    · rw [List.erase_cons_tail (by simpa using hyx), List.filter_cons, List.filter_cons, ih]

namespace Edited

/-- Nothing has been edited at the start. -/
theorem refl (h : doc.WellFormed) (owned : NodeId → Bool) : Edited doc doc owned where
  toKeepsData := KeepsData.refl doc
  wellFormed := h
  parent _ _ := Or.inl rfl
  children _ _ := rfl

/-- An edit keeps the invariant if it puts no node of the start in anywhere and leaves the
spared ones in their lists. -/
theorem step (h : Edited doc cur owned) (hforest : next.IsForest kids)
    (hdata : KeepsData cur next)
    (hold : ∀ p c, doc.Has c → c ∈ kids p → c ∈ cur.children p)
    (hspared : ∀ p, (kids p).filter (doc.isSpared owned) =
      (cur.children p).filter (doc.isSpared owned)) : Edited doc next owned where
  toKeepsData := h.toKeepsData.trans hdata
  wellFormed := hforest.wellFormed
  parent x hx := by
    cases hnext : next.parent? x with
    | some p =>
      -- a parent now was the parent before the edit
      have hcur := (IsForest.mem_iff h.wellFormed p x).mp
        (hold p x hx ((hforest.mem_iff p x).mpr hnext))
      exact (h.parent x hx).imp (fun heq => hcur.symm.trans heq)
        fun hout => absurd (hcur.symm.trans hout.2) (by simp)
    | none =>
      cases howned : owned x with
      | true => exact Or.inr ⟨rfl, rfl⟩
      | false =>
        rcases h.parent x hx with heq | ⟨htrue, -⟩
        · cases hp : doc.parent? x with
          | none => exact Or.inl rfl
          | some p =>
            -- a spared node stays in the list that it was in
            have hmem := (IsForest.mem_iff h.wellFormed p x).mpr (heq.trans hp)
            have htest := isSpared_eq_true_iff.mpr ⟨hx, howned⟩
            have hfiltered := List.mem_filter.mpr ⟨hmem, htest⟩
            rw [← hspared p] at hfiltered
            have hin := (hforest.mem_iff p x).mp (List.mem_filter.mp hfiltered).1
            exact absurd (hnext.symm.trans hin) (by simp)
        · exact absurd (howned.symm.trans htrue) (by simp)
  children p hp := by
    rw [hforest.children_eq, hspared, h.children p hp]

/-! ### Single edits -/

/-- A node may be made. -/
theorem create (h : Edited doc cur owned) (data : NodeData) :
    Edited doc (cur.create data).2 owned :=
  h.step ((create_sameLinks cur data).isForest h.wellFormed) (.create cur data)
    (fun _ _ _ hc => hc) fun _ => rfl

/-- The number of a node that is made during the series was not there at the start. -/
theorem not_has_created (h : Edited doc cur owned) (data : NodeData) :
    ¬doc.Has (cur.create data).1 :=
  fun hx => Document.not_has_created cur data (h.has hx)

/-- A node that is new may be appended to any node. -/
theorem appendChild (h : Edited doc cur owned) {p c : NodeId} (hp : cur.Has p) (hc : cur.Has c)
    (hnew : ¬doc.Has c) (hout : ¬cur.Within p c) : Edited doc (cur.appendChild p c) owned := by
  have hcut : doc.isSpared owned c = false := isSpared_eq_false_of_not_has hnew
  refine h.step (IsForest.appendChild h.wellFormed hp hc hout) (.appendChild cur p c)
    (fun q x hx hmem => ?_) fun q => ?_
  · rw [Function.update_apply] at hmem
    split at hmem
    · next heq =>
      rcases List.mem_append.mp hmem with hmem | hlast
      · exact heq ▸ List.mem_of_mem_erase hmem
      · exact absurd (List.mem_singleton.mp hlast ▸ hx) hnew
    · exact List.mem_of_mem_erase hmem
  · rw [Function.update_apply]
    split
    · next heq => simp [heq, hcut, filter_erase_of_eq_false hcut]
    · exact filter_erase_of_eq_false hcut _

/-- Nothing happens before a node without a parent. -/
theorem insertBefore (h : Edited doc cur owned) {sibling c : NodeId} (hc : cur.Has c)
    (hnew : ¬doc.Has c) (hout : ∀ p, cur.parent? sibling = some p → c ≠ sibling ∧ ¬cur.Within p c) :
    Edited doc (cur.insertBefore sibling c) owned := by
  cases hp : cur.parent? sibling with
  | none => rwa [Document.insertBefore, hp]
  | some p =>
    obtain ⟨hne, hwithin⟩ := hout p hp
    have hcut : doc.isSpared owned c = false := isSpared_eq_false_of_not_has hnew
    have hmem : sibling ∈ (cur.children p).erase c :=
      (List.mem_erase_of_ne (Ne.symm hne)).mpr ((IsForest.mem_iff h.wellFormed p sibling).mpr hp)
    obtain ⟨before, after, hk⟩ := List.append_of_mem hmem
    refine h.step (IsForest.insertBefore h.wellFormed before after hc hk hwithin)
      (.insertBefore cur sibling c) (fun q x hx hin => ?_) fun q => ?_
    · rw [Function.update_apply] at hin
      split at hin
      · next heq =>
        have hxc : x ≠ c := fun he => hnew (he ▸ hx)
        have hrest : x ∈ before ++ sibling :: after := by
          simp only [List.mem_append, List.mem_cons] at hin ⊢
          tauto
        rw [← hk] at hrest
        exact heq ▸ List.mem_of_mem_erase hrest
      · exact List.mem_of_mem_erase hin
    · rw [Function.update_apply]
      split
      · next heq =>
        rw [← filter_erase_of_eq_false hcut (cur.children q), heq, hk]
        simp [hcut]
      · exact filter_erase_of_eq_false hcut _

/-- A node that is new may be put at the beginning of any node. -/
theorem prependChild (h : Edited doc cur owned) {p c : NodeId} (hp : cur.Has p) (hc : cur.Has c)
    (hnew : ¬doc.Has c) (hout : ¬cur.Within p c) (hfirst : cur.first? p ≠ some c) :
    Edited doc (cur.prependChild p c) owned := by
  unfold Document.prependChild
  cases hk : cur.first? p with
  | none => exact h.appendChild hp hc hnew hout
  | some sibling =>
    rw [hk] at hfirst
    refine h.insertBefore hc hnew fun q hq => ?_
    have hmem := h.wellFormed.first p
    rw [hk] at hmem
    have hparent := (IsForest.mem_iff h.wellFormed p sibling).mp (List.mem_of_head? hmem.symm)
    rw [hparent, Option.some.injEq] at hq
    exact ⟨fun heq => hfirst (congrArg some heq.symm), hq ▸ hout⟩

/-- A node may be taken out if it is new or owned. -/
theorem detach (h : Edited doc cur owned) {c : NodeId} (hc : doc.Has c → owned c = true) :
    Edited doc (cur.detach c) owned := by
  have hcut : doc.isSpared owned c = false := by
    by_cases hhas : doc.Has c
    · rw [isSpared, hc hhas, Bool.not_true, Bool.and_false]
    · exact isSpared_eq_false_of_not_has hhas
  exact h.step (IsForest.detach h.wellFormed c) (.detach cur c)
    (fun _ _ _ hmem => List.mem_of_mem_erase hmem) fun _ => filter_erase_of_eq_false hcut _

/-- The children of a node may be taken out if each of them is new or owned. -/
theorem removeChildren (h : Edited doc cur owned) {p : NodeId}
    (hp : ∀ c ∈ cur.children p, doc.Has c → owned c = true) :
    Edited doc (cur.removeChildren p) owned := by
  refine h.step (IsForest.removeChildren h.wellFormed p) (.removeChildren cur p)
    (fun q x _ hmem => ?_) fun q => ?_
  · rw [Function.update_apply] at hmem
    split at hmem
    · exact absurd hmem List.not_mem_nil
    · exact hmem
  · rw [Function.update_apply]
    split
    · next heq =>
      refine (List.filter_eq_nil_iff.mpr fun c hc htest => ?_).symm
      obtain ⟨hhas, hspared⟩ := isSpared_eq_true_iff.mp htest
      exact absurd ((hp c (heq ▸ hc) hhas).symm.trans hspared) (by simp)
    · rfl

/-- A new node is put after the children of a node. -/
theorem appendCreated (h : Edited doc cur owned) {p : NodeId} (hp : cur.Has p)
    (data : NodeData) :
    Edited doc ((cur.create data).2.appendChild p (cur.create data).1) owned :=
  (h.create data).appendChild (has_create cur data hp) (has_created cur data)
    (h.not_has_created data) (not_within_created h.wellFormed data hp)

/-- A new node is put before the children of a node. -/
theorem prependCreated (h : Edited doc cur owned) {p : NodeId} (hp : cur.Has p)
    (data : NodeData) :
    Edited doc ((cur.create data).2.prependChild p (cur.create data).1) owned := by
  refine (h.create data).prependChild (has_create cur data hp) (has_created cur data)
    (h.not_has_created data) (not_within_created h.wellFormed data hp) fun heq => ?_
  rw [(create_sameLinks cur data).first, h.wellFormed.first] at heq
  exact Document.not_has_created cur data (IsForest.has_child h.wellFormed (List.mem_of_head? heq))

/-- The text of a node may be set if each of its children is new or owned. -/
theorem setText (h : Edited doc cur owned) {p : NodeId} (hp : cur.Has p)
    (howned : ∀ c ∈ cur.children p, doc.Has c → owned c = true) (text : String) :
    Edited doc (cur.setText p text) owned :=
  (h.removeChildren howned).appendCreated
    (by rwa [Has, Document.removeChildren, IsForest.size_removeFirst]) (.text text)

/-- Text is added to a node that has no children. -/
theorem appendText (h : Edited doc cur owned) {p : NodeId} (hp : cur.Has p)
    (hempty : cur.children p = []) (text : String) : Edited doc (cur.appendText p text) owned := by
  have hlast : cur.last? p = none := by rw [h.wellFormed.last, hempty]; rfl
  rw [Document.appendText, hlast, Option.filter_none]
  exact h.appendCreated hp (.text text)

/-- A new node with a text of its own is put after the children of a node. -/
theorem appendFilled (h : Edited doc cur owned) {p : NodeId} (hp : cur.Has p) (data : NodeData)
    (text : String) : Edited doc (cur.appendFilled p data text) owned := by
  have hcreated := has_created cur data
  have hwell := h.wellFormed.create data
  have hempty : (cur.create data).2.children (cur.create data).1 = [] := by
    rw [h.wellFormed.children_create,
      IsForest.kids_eq_nil h.wellFormed (Document.not_has_created cur data)]
  exact ((h.create data).appendText hcreated hempty text).appendChild
    (has_appendText hwell hcreated text (has_create cur data hp))
    (has_appendText hwell hcreated text hcreated) (h.not_has_created data)
    (h.wellFormed.not_within_filled hp data text)

/-! ### Copies -/

/-- Nodes of before a copy do not lie within it. -/
theorem not_within_of_grows (hgrows : Grows doc doc') (hdoc : doc.WellFormed) {x copy : NodeId}
    (hx : doc.Has x) (hcopy : ¬doc.Has copy) : ¬doc'.Within x copy := by
  intro hwithin
  induction hwithin with
  | refl => exact hcopy hx
  | @tail q y _ hqy ih =>
    have hparent : doc.parent? y = some q := (hgrows.parent y hx).symm.trans hqy
    exact ih (IsForest.has_parent hdoc hparent)

/-- A copy that is put below another one is put nowhere else. -/
theorem appendCopy {copy child : NodeId} (h : Edited doc next owned)
    (hcopied : Copied cur copy mid) (hchild : Copied mid child next) (hnew : ¬doc.Has child) :
    Edited doc (next.appendChild copy child) owned := by
  have hcopy : next.Has copy := hchild.grows.has hcopied.has
  have halone : next.parent? copy = none :=
    (hchild.grows.parent copy hcopied.has).trans hcopied.alone
  refine h.appendChild hcopy hchild.has hnew fun hw => ?_
  exact hchild.new (eq_of_within halone hw ▸ hcopied.has)

/-- The copies of a row of children may be made and put in one after the other. -/
theorem foldl_appendCopy {source : Document} {depth : Nat} {copy : NodeId}
    (hcopy : ∀ {cur : Document} (id : NodeId), Edited doc cur owned →
      Edited doc (copyWithin source depth cur id).2 owned) :
    ∀ (children : List NodeId) {mid : Document}, Edited doc mid owned → Copied cur copy mid →
      Edited doc (children.foldl (fun doc child =>
        (copyWithin source depth doc child).2.appendChild copy
          (copyWithin source depth doc child).1) mid) owned := by
  intro children
  induction children with
  | nil => intro mid h _; exact h
  | cons child rest ih =>
    intro mid h hcopied
    have hchild := copied_copyWithin source depth mid child h.wellFormed
    have hnew : ¬doc.Has (copyWithin source depth mid child).1 := fun hx =>
      hchild.new (h.has hx)
    exact ih ((hcopy child h).appendCopy hcopied hchild hnew) (hcopied.appendChild hchild)

/-- Copying a node from another document puts it nowhere yet. -/
theorem copyWithin (source : Document) :
    ∀ (depth : Nat) {cur : Document} (id : NodeId), Edited doc cur owned →
      Edited doc (copyWithin source depth cur id).2 owned := by
  intro depth
  induction depth with
  | zero => intro cur id h; exact h.create _
  | succ depth ih =>
    intro cur id h
    unfold Document.copyWithin
    cases source.contents? id with
    | none => exact foldl_appendCopy ih _ (h.create _) (copied_create h.wellFormed _)
    | some contents =>
      have hcontents := ih contents h
      exact foldl_appendCopy ih _ (hcontents.create _) (copied_create hcontents.wellFormed _)

/-- A copy is put before a node that was there before it was made. -/
theorem insertCopy (h : Edited doc cur owned) (source : Document) (id : NodeId)
    {sibling : NodeId} (hsibling : cur.Has sibling) :
    Edited doc ((cur.copyFrom source id).2.insertBefore sibling (cur.copyFrom source id).1)
      owned := by
  have hcopied := copied_copyWithin source source.size cur id h.wellFormed
  have hcopy : Edited doc (cur.copyFrom source id).2 owned := h.copyWithin source source.size id
  refine hcopy.insertBefore hcopied.has (fun hx => hcopied.new (h.has hx)) fun p hp => ?_
  have hparent := (hcopied.grows.parent sibling hsibling).symm.trans hp
  exact ⟨fun heq => hcopied.new (heq ▸ hsibling), not_within_of_grows hcopied.grows h.wellFormed
    (IsForest.has_parent h.wellFormed hparent) hcopied.new⟩

/-! ### Series after series -/

/-- What is owned first or later is spared by neither of two series. -/
theorem isSpared_or (x : NodeId) (hsize : doc.size ≤ mid.size) :
    doc.isSpared (fun x => first x || second x) x =
      (doc.isSpared first x && mid.isSpared second x) := by
  rw [Bool.eq_iff_iff, Bool.and_eq_true, isSpared_eq_true_iff, isSpared_eq_true_iff,
    isSpared_eq_true_iff, Bool.or_eq_false_iff]
  have hmono : doc.Has x → mid.Has x := fun hx => Nat.lt_of_lt_of_le hx hsize
  tauto

/-- What two series own together is what one owns or the other. -/
theorem trans (h : Edited doc mid first) (h' : Edited mid doc' second) :
    Edited doc doc' fun x => first x || second x where
  toKeepsData := h.toKeepsData.trans h'.toKeepsData
  wellFormed := h'.wellFormed
  parent x hx := by
    rw [Bool.or_eq_true]
    rcases h'.parent x (h.has hx) with heq | ⟨hsecond, hnone⟩
    · rw [heq]
      exact (h.parent x hx).imp id fun hout => ⟨Or.inl hout.1, hout.2⟩
    · exact Or.inr ⟨Or.inr hsecond, hnone⟩
  children p hp := by
    have hboth : doc.isSpared (fun x => first x || second x) =
        fun x => doc.isSpared first x && mid.isSpared second x :=
      funext fun x => isSpared_or x h.size
    rw [hboth, ← List.filter_filter, h'.children p (h.has hp), ← List.filter_filter]
    simp only [List.filter_filter, Bool.and_comm (doc.isSpared first _)]
    simp only [← List.filter_filter, h.children p hp]

theorem owned_congr (h : Edited doc doc' first) (heq : ∀ x, first x = second x) :
    Edited doc doc' second :=
  funext heq ▸ h

/-- What is put in later owns nothing. -/
theorem trans_extends (h : Edited doc mid owned) (h' : Extends mid doc') :
    Edited doc doc' owned :=
  (h.trans h').owned_congr fun _ => Bool.or_false _

/-- A series that only puts new nodes in may come before any other. -/
theorem of_extends (h : Extends doc mid) (h' : Edited mid doc' owned) : Edited doc doc' owned :=
  (Edited.trans h h').owned_congr fun _ => Bool.false_or _

/-! ## The tree that is left -/

/-- A node that is not owned keeps its parent. -/
theorem parent_of_eq_false (h : Edited doc doc' owned) {x : NodeId} (hx : doc.Has x)
    (howned : owned x = false) : doc'.parent? x = doc.parent? x :=
  (h.parent x hx).elim id fun hout => absurd (howned.symm.trans hout.1) (by simp)

/-- A node of the start that is in the tree at the end was in it before. -/
theorem within_of_within (h : Edited doc doc' owned) (hdoc : doc.WellFormed) {x top : NodeId}
    (hx : doc.Has x) (hwithin : doc'.Within x top) : doc.Within x top := by
  induction hwithin with
  | refl => exact .refl
  | @tail q y _ hqy ih =>
    have hparent : doc.parent? y = some q := by
      rcases h.parent y hx with heq | ⟨-, hnone⟩
      · exact heq.symm.trans hqy
      · exact absurd (hnone.symm.trans hqy) (by simp)
    exact (ih (IsForest.has_parent hdoc hparent)).tail hparent

/-- A node stays in the tree if all that lies within owned nodes is owned and it is not. -/
theorem within_of_closed (h : Edited doc doc' owned)
    (hclosed : ∀ p c, doc.parent? c = some p → owned p = true → owned c = true) {x top : NodeId}
    (hwithin : doc.Within x top) (howned : owned x = false) : doc'.Within x top := by
  induction hwithin with
  | refl => exact .refl
  | @tail q y _ hqy ih =>
    have hparent : doc'.parent? y = some q :=
      (h.parent_of_eq_false (has_of_parent? hqy) howned).trans hqy
    refine (ih ?_).tail hparent
    by_contra hq
    rw [Bool.not_eq_false] at hq
    exact absurd ((hclosed q y hqy hq).symm.trans howned) (by simp)

/-- Nothing that lies within a node that was cut off is in the tree. -/
theorem not_within_of_cut (h : Edited doc doc' owned) (hdoc : doc.WellFormed) {x y top : NodeId}
    (hxy : doc.Within x y) (hbelow : Relation.TransGen doc.IsParent top y)
    (hcut : doc'.parent? y = none) : ¬doc'.Within x top := by
  have htop : ∀ z, doc.Within z y → z ≠ top := by
    rintro z hz rfl
    exact IsForest.not_transGen_self hdoc z (hbelow.trans_left hz)
  induction hxy with
  | refl =>
    intro hwithin
    exact htop y .refl (eq_of_within hcut hwithin)
  | @tail q z hq hqz ih =>
    intro hwithin
    rcases Relation.ReflTransGen.cases_tail hwithin with heq | ⟨p, hp, hpz⟩
    · exact htop z (hq.tail hqz) heq
    · -- the parent is still the one of before, which is not in the tree
      rcases h.parent z (has_of_parent? hqz) with hsame | ⟨-, hnone⟩
      · obtain rfl : p = q := Option.some.inj (hpz.symm.trans (hsame.trans hqz))
        exact ih hp
      · exact absurd (hnone.symm.trans hpz) (by simp)

end Edited

/-- After a series of edits the tree holds the nodes that it held before, less what is owned,
and new ones. -/
structure Keeps (doc doc' : Document) (owned : NodeId → Bool) : Prop
    extends Edited doc doc' owned where
  within_iff : ∀ x, doc.Has x →
    (doc'.Within x root ↔ doc.Within x root ∧ owned x = false)

/-- If what is owned has all below it and ends up cut off, the rest of the tree is kept. -/
theorem Edited.keeps (h : Edited doc doc' owned) (hdoc : doc.WellFormed)
    (hclosed : ∀ p c, doc.parent? c = some p → owned p = true → owned c = true)
    (hcut : ∀ x, doc.Within x root → owned x = true → ∃ y, doc.Within x y ∧
      Relation.TransGen doc.IsParent root y ∧ doc'.parent? y = none) : Keeps doc doc' owned where
  toEdited := h
  within_iff x hx := by
    constructor
    · intro hwithin
      have hbefore := h.within_of_within hdoc hx hwithin
      refine ⟨hbefore, ?_⟩
      by_contra howned
      obtain ⟨y, hxy, hbelow, hnone⟩ := hcut x hbefore (Bool.not_eq_false _ ▸ howned)
      exact h.not_within_of_cut hdoc hxy hbelow hnone hwithin
    · rintro ⟨hwithin, howned⟩
      exact h.within_of_closed hclosed hwithin howned

/-- Where nothing is owned, the whole tree is kept. -/
theorem Extends.keeps (h : Extends doc doc') (hdoc : doc.WellFormed) :
    Keeps doc doc' fun _ => false :=
  Edited.keeps h hdoc (fun _ _ _ howned => absurd howned (by simp))
    fun _ _ howned => absurd howned (by simp)

namespace Keeps

/-- A document keeps what it holds while nothing is edited. -/
theorem refl (h : doc.WellFormed) : Keeps doc doc fun _ => false :=
  Extends.keeps (Edited.refl h _) h

/-- After two series the tree has lost what either of them owned. -/
theorem trans (h : Keeps doc mid first) (h' : Keeps mid doc' second) :
    Keeps doc doc' fun x => first x || second x where
  toEdited := h.toEdited.trans h'.toEdited
  within_iff x hx := by
    rw [h'.within_iff x (h.has hx), h.within_iff x hx, Bool.or_eq_false_iff, and_assoc]

end Keeps

/-- The node was given out and lies within the root. -/
def InTree (doc : Document) (x : NodeId) : Prop := doc.Has x ∧ doc.Within x root

/-- A node that is not owned stays in the tree with its data, its parent and its place among
the siblings that stay, and every other node of the tree is a new one. -/
structure Frame (doc doc' : Document) (owned : NodeId → Bool) : Prop where
  wellFormed : doc'.WellFormed
  attached : ∀ x, doc.InTree x → owned x = false → doc'.InTree x
  data : ∀ x, doc.Has x → doc'.data x = doc.data x
  parent : ∀ x, doc.Has x → owned x = false → doc'.parent? x = doc.parent? x
  order : ∀ p, doc.InTree p → owned p = false →
    (doc'.children p).filter (doc.Has ·) = (doc.children p).filter (!owned ·)
  new : ∀ x, doc'.InTree x → doc.InTree x ∧ owned x = false ∨ ¬doc.Has x

/-- What a series of edits keeps is what an observer of the tree sees of it. -/
theorem Keeps.frame (h : Keeps doc doc' owned) (hdoc : doc.WellFormed) : Frame doc doc' owned where
  wellFormed := h.wellFormed
  attached x hx howned := ⟨h.has hx.1, (h.within_iff x hx.1).mpr ⟨hx.2, howned⟩⟩
  data x hx := h.data x hx
  parent x hx howned := h.parent_of_eq_false hx howned
  order p hp howned := by
    have hwithin := (h.within_iff p hp.1).mpr ⟨hp.2, howned⟩
    -- an old child of a node that is in the tree is in it too, so it is not owned
    have hafter : ∀ c ∈ doc'.children p, decide (doc.Has c) = doc.isSpared owned c := by
      intro c hc
      by_cases hhas : doc.Has c
      · have hchild := hwithin.tail (h.wellFormed.isParent_iff.mpr hc)
        rw [isSpared, ((h.within_iff c hhas).mp hchild).2, Bool.not_false, Bool.and_true]
      · rw [isSpared_eq_false_of_not_has hhas, decide_eq_false hhas]
    have hbefore : ∀ c ∈ doc.children p, doc.isSpared owned c = !owned c := by
      intro c hc
      rw [isSpared, decide_eq_true (IsForest.has_child hdoc hc), Bool.true_and]
    rw [List.filter_congr hafter, h.children p hp.1, List.filter_congr hbefore]
  new x hx := by
    by_cases hhas : doc.Has x
    · obtain ⟨hwithin, howned⟩ := (h.within_iff x hhas).mp hx.2
      exact Or.inl ⟨⟨hhas, hwithin⟩, howned⟩
    · exact Or.inr hhas

end ComposingProxy.Markup.Document
