import ComposingProxy.Proofs.Markup.Parsing
import ComposingProxy.Proofs.Page.Secrecy
import ComposingProxy.Proofs.Tree.DeepCopies
import ComposingProxy.Proofs.Tree.Preorder

/-!
# What becomes of the items of a page

The items of a page may stand anywhere, also in each other. Copies of what is written go in front of
the first one, and then all items are taken out one by one. That this puts the copies in the place
of the first item rests on three facts.

* The node that holds the first item is in no item, since items are found in document order
  (`not_within_first`). So it is not taken out, and it holds the copies in the end.
* The copies are new, so none of them is an item, and none of their nodes is taken out
  (`exists_replaced`).
* What is written has been read, so it has no cycles, and the copies are whole
  (`Document.wellNested_ofFragment`, `isCopy_copyFrom`).

> `transform_replaces`: the first item is replaced by copies of what is written, the other items are
> gone, and all else is as it was.
-/

namespace ComposingProxy

/-- A list with some entries in the place of one of them and without others. -/
theorem flatMap_replace {α : Type} [DecidableEq α] {row ids copies before after : List α}
    {first : α} (hnodup : row.Nodup) (hrow : row = before ++ first :: after)
    (hfirst : first ∈ ids) (hnew : ∀ c ∈ copies, c ∉ ids) :
    row.flatMap (fun c => if c = first then copies else if c ∈ ids then [] else [c]) =
      (before ++ copies ++ first :: after).filter (· ∉ ids) := by
  have hother : ∀ l : List α, first ∉ l →
      l.flatMap (fun c => if c = first then copies else if c ∈ ids then [] else [c]) =
        l.filter (· ∉ ids) := by
    intro l hl
    induction l with
    | nil => rfl
    | cons c rest ih =>
      rw [List.mem_cons, not_or] at hl
      obtain ⟨hc, hrest⟩ := hl
      rw [List.flatMap_cons, ih hrest, if_neg (Ne.symm hc)]
      by_cases hids : c ∈ ids <;> simp [hids]
  rw [hrow, List.nodup_middle, List.nodup_cons, List.mem_append, not_or] at hnodup
  rw [hrow, List.flatMap_append, List.flatMap_cons, if_pos rfl, hother before hnodup.1.1,
    hother after hnodup.1.2, List.filter_append, List.filter_append, List.filter_cons,
    List.filter_eq_self.mpr fun c hc => decide_eq_true (hnew c hc)]
  simp [hfirst]

open Markup Document

variable {navigation : Navigation} {loggedIn : Bool} {doc doc' made source : Document}
  {place parent copy x first : NodeId} {others before after : List NodeId}

namespace Markup.Document

/-- Once nodes are taken out one after the other, the child lists are those of before without
them. -/
theorem WellFormed.children_foldl_detach : ∀ (ids : List NodeId) {doc : Document},
    doc.WellFormed → ∀ p,
      (ids.foldl Document.detach doc).children p = (doc.children p).filter (· ∉ ids) := by
  intro ids
  induction ids with
  | nil => intro doc _ p; exact (List.filter_eq_self.mpr fun _ _ => by simp).symm
  | cons id rest ih =>
    intro doc h p
    rw [List.foldl_cons, ih (h.detach id), (IsForest.detach h id).children_eq,
      (h.nodup p).erase_eq_filter, List.filter_filter]
    refine List.filter_congr fun c _ => ?_
    by_cases hc : c = id <;> simp [hc]

/-- Taking out a node that is not a child takes nothing away. -/
theorem WellFormed.staysAt_foldl_detach (h : doc.WellFormed) {ids : List NodeId} (hx : doc.Has x)
    (hids : ∀ c ∈ doc.children x, c ∉ ids) : StaysAt doc (ids.foldl Document.detach doc) x where
  has := (KeepsData.foldl .detach ids doc).has hx
  data := (KeepsData.foldl .detach ids doc).data x hx
  children := by
    rw [h.children_foldl_detach]
    exact List.filter_eq_self.mpr fun c hc => decide_eq_true (hids c hc)

/-- A copy that is put before a node comes between it and what was before it. -/
theorem Copied.isForest_insertBefore (h : Copied doc copy made) (hdoc : doc.WellFormed)
    (hstays : StaysAt doc made parent) (hk : doc.children parent = before ++ place :: after) :
    (made.insertBefore place copy).IsForest
      (Function.update made.children parent (before ++ copy :: place :: after)) := by
  have hmem : place ∈ doc.children parent := by rw [hk]; simp
  have hparent := IsForest.has_parent hdoc (hdoc.isParent_iff.mpr hmem)
  have herase : ∀ p, (made.children p).erase copy = made.children p := fun p =>
    List.erase_of_not_mem (IsForest.not_mem_of_parent?_eq_none h.wellFormed h.alone p)
  have hforest := IsForest.insertBefore h.wellFormed before after h.has
    ((herase parent).trans (hstays.children.trans hk))
    (Edited.not_within_of_grows h.grows hdoc hparent h.new)
  rwa [funext herase] at hforest

end Markup.Document

namespace Navigation

/-- Copies that are put before a node come one after the other between it and what was before it.
Nothing else changes. -/
theorem exists_children_insertCopies (hsource : source.WellFormed) (hacyclic : source.IsAcyclic) :
    ∀ (nodes : List NodeId) {doc : Document} {before : List NodeId}, doc.WellFormed →
      doc.children parent = before ++ place :: after →
      ∃ copies, (insertCopies doc source place nodes).children parent =
          before ++ copies ++ place :: after ∧
        List.Forall₂ (IsCopy source (insertCopies doc source place nodes) (¬doc.Has ·))
          nodes copies ∧
        ∀ x, doc.Has x → x ≠ parent → StaysAt doc (insertCopies doc source place nodes) x := by
  intro nodes
  induction nodes with
  | nil =>
    intro doc before _ hk
    exact ⟨[], by rw [List.append_nil]; exact hk, .nil, fun x hx _ => ⟨hx, rfl, rfl⟩⟩
  | cons node rest ih =>
    intro doc before h hk
    have hmem : place ∈ doc.children parent := by rw [hk]; simp
    have hparent := IsForest.has_parent h (h.isParent_iff.mpr hmem)
    have hcopied := copied_copyWithin source source.size doc node h
    have hmade := staysAt_copyWithin source source.size doc node
    have hforest := hcopied.isForest_insertBefore h (hmade parent h hparent) hk
    have hisCopy := isCopy_copyFrom hsource hacyclic h node
    have hput : ∀ x, (doc.copyFrom source node).2.Has x → x ≠ parent →
        StaysAt (doc.copyFrom source node).2
          ((doc.copyFrom source node).2.insertBefore place (doc.copyFrom source node).1) x := by
      intro x hx hne
      refine ⟨by rwa [Has, size_insertBefore], data_insertBefore _ _ _ _, ?_⟩
      exact (hforest.children_eq x).trans (Function.update_of_ne hne _ _)
    -- the copy now stands in front of the place, with what was there
    have hk' := hforest.children_eq parent
    rw [Function.update_self, ← List.singleton_append, ← List.append_assoc] at hk'
    obtain ⟨copies, hchildren, hcopies, hothers⟩ := ih hforest.wellFormed hk'
    refine ⟨(doc.copyFrom source node).1 :: copies, ?_, .cons ?_ ?_, fun x hx hne => ?_⟩
    · rw [List.append_assoc, List.append_assoc, List.singleton_append] at hchildren
      rw [List.append_assoc, List.cons_append]
      exact hchildren
    · -- the nodes of the first copy are not the parent, so they stay as they are
      refine hisCopy.mono fun x hnew hx => ⟨hnew, ?_⟩
      have hne : x ≠ parent := fun he => hnew (he ▸ hparent)
      have hstays := hput x hx hne
      exact hstays.trans (hothers x hstays.has hne)
    · refine hcopies.imp fun _ _ hcopy => hcopy.mono fun x hnew hx =>
        ⟨fun hold => hnew ?_, hx, rfl, rfl⟩
      rw [Has, size_insertBefore]
      exact hcopied.grows.has hold
    · have hstays := hput x (hmade x h hx).has hne
      exact ((hmade x h hx).trans hstays).trans (hothers x hstays.has hne)

/-- The items are found in document order. -/
theorem pairwise_found (navigation : Navigation) (h : doc.WellFormed) :
    (navigation.found doc).Pairwise doc.Precedes :=
  (h.pairwise_tail_subtree root).sublist List.filter_sublist

theorem has_of_mem_found (h : doc.WellFormed) {item : NodeId}
    (hitem : item ∈ navigation.found doc) : doc.Has item := by
  obtain ⟨p, -, hp⟩ := Relation.TransGen.tail'_iff.mp (below_of_mem_found h hitem)
  exact has_of_parent? hp

/-- The navigation owns the items that it finds, with all that is in them. -/
theorem owns_iff (h : doc.WellFormed) :
    navigation.owns doc x = true ↔ ∃ item ∈ navigation.found doc, doc.Within x item := by
  rw [owns, List.any_eq_true]
  exact exists_congr fun _ => and_congr_right fun _ => h.isInside_iff

/-- The node that holds the first item is in no item. -/
theorem owns_parent_first (h : doc.WellFormed) (hfound : navigation.found doc = first :: others)
    (hparent : doc.parent? first = some parent) : navigation.owns doc parent = false := by
  rw [← Bool.not_eq_true, owns_iff h]
  rintro ⟨item, hitem, hwithin⟩
  have hbelow : Relation.TransGen doc.IsParent item first := .tail' hwithin hparent
  rw [hfound] at hitem
  rcases List.mem_cons.mp hitem with rfl | hlater
  · exact IsForest.not_transGen_self h _ hbelow
  · -- a later item does not hold the first one, which would follow it
    have hordered := hfound ▸ navigation.pairwise_found h
    have hbefore := (List.pairwise_cons.mp hordered).1 item hlater
    exact h.not_precedes_of_precedes hbefore (Or.inl hbelow)

/-- The edits that put copies in the place of a node and take nodes out, that one included. -/
theorem exists_replaced (hsource : source.WellFormed) (hacyclic : source.IsAcyclic)
    (h : doc.WellFormed) {ids : List NodeId} (hparent : doc.parent? first = some parent)
    (hfirst : first ∈ ids) (hids : ∀ c ∈ ids, doc.Has c) (nodes : List NodeId) :
    ∃ copies, List.Forall₂
        (IsCopy source (ids.foldl Document.detach (insertCopies doc source first nodes))
          (¬doc.Has ·)) nodes copies ∧
      (ids.foldl Document.detach (insertCopies doc source first nodes)).children parent =
        (doc.children parent).flatMap (fun c =>
          if c = first then copies else if c ∈ ids then [] else [c]) ∧
      ∀ p, doc.Has p → p ≠ parent →
        (ids.foldl Document.detach (insertCopies doc source first nodes)).children p =
          (doc.children p).filter (· ∉ ids) := by
  obtain ⟨before, after, hk⟩ := List.append_of_mem (h.isParent_iff.mp hparent)
  obtain ⟨copies, hchildren, hcopies, hothers⟩ :=
    exists_children_insertCopies hsource hacyclic nodes h hk
  have hinserted : Extends doc (insertCopies doc source first nodes) :=
    extends_insertCopies source first nodes (Edited.refl h _) (has_of_parent? hparent)
  generalize insertCopies doc source first nodes = page at *
  have hdetached := hinserted.wellFormed.children_foldl_detach ids
  have hnew : ∀ copy ∈ copies, copy ∉ ids := fun copy hcopy hin =>
    isNew_of_mem hcopies hcopy (hids copy hin)
  have hleft : List.Forall₂ (IsCopy source (ids.foldl Document.detach page) (¬doc.Has ·))
      nodes copies := by
    refine hcopies.imp fun _ _ hcopy => hcopy.mono fun x hx hhas => ⟨hx, ?_⟩
    -- a child of a new node is new, so it is not taken out
    refine hinserted.wellFormed.staysAt_foldl_detach hhas fun c hc hin => hx ?_
    have hold := hinserted.parent_of_eq_false (hids c hin) rfl
    rw [hinserted.wellFormed.isParent_iff.mpr hc] at hold
    exact IsForest.has_parent h hold.symm
  refine ⟨copies, hleft, ?_, ?_⟩
  · rw [hdetached, hchildren]
    exact (flatMap_replace (h.nodup parent) hk hfirst hnew).symm
  · intro p hp hne
    rw [hdetached, (hothers p hp hne).children]

/-- The page that the items of a navigation are written as, one behind the other, each as the
template renders its fields, for the node that they are put in. -/
def written (navigation : Navigation) (loggedIn : Bool) (doc : Document) (parent : NodeId) :
    Document :=
  Document.ofFragment
    (String.join ((navigation.items doc (navigation.found doc) loggedIn).map fun item =>
      navigation.template.render item.fields))
    (((doc.element? parent).map (·.tag)).getD "body")

/-- Where items are found, the copies come in front of the first, and then all of them are taken
out. -/
theorem transform_eq (hfound : navigation.found doc = first :: others)
    (hparent : doc.parent? first = some parent) :
    navigation.transform loggedIn doc = (navigation.found doc).foldl Document.detach
      (insertCopies doc (navigation.written loggedIn doc parent) first
        (navigation.written loggedIn doc parent).fragmentNodes) := by
  have hcontext : contextOf doc first = ((doc.element? parent).map (·.tag)).getD "body" := by
    rw [contextOf, hparent]
    rfl
  rw [written, hfound, ← hcontext]
  rw [found] at hfound
  rw [transform, hfound]
  rfl

/-- Where a page has no items it stays as it is. Otherwise the first item, in document order, is
replaced by copies of what is written, the other items are taken out of the lists that they stand
in, all other lists are as they were, and no item is below the root any more. -/
theorem transform_replaces (navigation : Navigation) (loggedIn : Bool) (h : doc.WellFormed) :
    (navigation.found doc = [] → navigation.transform loggedIn doc = doc) ∧
    (navigation.found doc).Pairwise doc.Precedes ∧
    ∀ first others, navigation.found doc = first :: others →
      ∃ parent copies, doc.parent? first = some parent ∧
        List.Forall₂ (IsCopy (navigation.written loggedIn doc parent)
            (navigation.transform loggedIn doc) (¬doc.Has ·))
          (navigation.written loggedIn doc parent).fragmentNodes copies ∧
        (navigation.transform loggedIn doc).children parent =
          (doc.children parent).flatMap (fun c =>
            if c = first then copies else if c ∈ navigation.found doc then [] else [c]) ∧
        (∀ p, doc.Has p → p ≠ parent → (navigation.transform loggedIn doc).children p =
          (doc.children p).filter (· ∉ navigation.found doc)) ∧
        (navigation.transform loggedIn doc).Within parent root ∧
        ∀ item ∈ navigation.found doc,
          ¬(navigation.transform loggedIn doc).Within item root := by
  refine ⟨fun hnone => ?_, navigation.pairwise_found h, fun first others hfound => ?_⟩
  · rw [found] at hnone
    rw [transform, hnone]
  · -- the parent of the first item is in no item, so it holds the copies and stays in the page
    have hfirst : first ∈ navigation.found doc := by
      rw [hfound]
      exact List.mem_cons_self
    obtain ⟨parent, habove, hparent⟩ := Relation.TransGen.tail'_iff.mp (below_of_mem_found h hfirst)
    have hsource : (navigation.written loggedIn doc parent).WellNested := wellNested_ofFragment _ _
    obtain ⟨copies, hcopies, hchildren, hothers⟩ :=
      exists_replaced hsource.wellFormed hsource.acyclic h hparent hfirst
        (fun _ hitem => has_of_mem_found h hitem)
        (navigation.written loggedIn doc parent).fragmentNodes
    rw [← transform_eq hfound hparent] at hcopies hchildren hothers
    have hkeeps := navigation.keeps_transform loggedIn h
    refine ⟨parent, copies, hparent, hcopies, hchildren, hothers, ?_, fun item hitem hin => ?_⟩
    · have hspared := owns_parent_first h hfound hparent
      exact (hkeeps.within_iff parent (IsForest.has_parent h hparent)).mpr ⟨habove, hspared⟩
    · have hkept := ((hkeeps.within_iff item (has_of_mem_found h hitem)).mp hin).2
      have howned := (owns_iff h).mpr ⟨item, hitem, Relation.ReflTransGen.refl⟩
      exact absurd howned (by rw [hkept]; exact Bool.false_ne_true)

/-- An item in an item: the outer one is replaced, and the inner one is gone with it. -/
theorem transform_replaces_nested :
    nestedPage.WellFormed ∧ (listNavigation none).found nestedPage = [⟨4⟩, ⟨8⟩] ∧
      ∃ copies, List.Forall₂ (IsCopy ((listNavigation none).written false nestedPage ⟨3⟩)
            ((listNavigation none).transform false nestedPage) (¬nestedPage.Has ·))
          ((listNavigation none).written false nestedPage ⟨3⟩).fragmentNodes copies ∧
        ((listNavigation none).transform false nestedPage).children ⟨3⟩ = copies ∧
        copies.length = 1 := by
  have hfound : (listNavigation none).found nestedPage = [⟨4⟩, ⟨8⟩] := by decide +kernel
  have hparent : nestedPage.parent? ⟨4⟩ = some ⟨3⟩ := by decide +kernel
  have hrow : nestedPage.children ⟨3⟩ = [⟨4⟩] := by decide +kernel
  have hwritten : ((listNavigation none).written false nestedPage ⟨3⟩).fragmentNodes.length = 1 := by
    decide +kernel
  obtain ⟨-, -, hreplaced⟩ := transform_replaces (listNavigation none) false wellFormed_nestedPage
  obtain ⟨parent, copies, hheld, hcopies, hchildren, -⟩ := hreplaced ⟨4⟩ [⟨8⟩] hfound
  obtain rfl := Option.some.inj (hheld.symm.trans hparent)
  refine ⟨wellFormed_nestedPage, hfound, copies, hcopies, ?_, hcopies.length_eq ▸ hwritten⟩
  rw [hchildren, hrow]
  simp

end Navigation

end ComposingProxy
