import ComposingProxy.Proofs.Tree.Shape

/-!
# Document order

`Document.subtree` walks from node to node along the links: down to the first child, else to the
next sibling, else up to the nearest node above that has one. The walk never goes above
the node it began at and keeps no list of what is still to come. Seen from the child lists it is the
recursion that one would write down:

> `WellFormed.subtree_eq`: the subtree of a node is the node, and then the subtrees of its
> children, one after the other.

From this follow what is met and in which order. `Precedes` is the order of a document as the
tree tells it, without any walk: a node precedes what is below it, and what is below a sibling that
comes later precedes nothing of what is below an earlier one.

> `WellFormed.mem_subtree_iff`: a walk meets the node and all that is below it.
> `WellFormed.nodup_subtree`, `WellFormed.pairwise_subtree`: each of them once, in document order.
> `WellFormed.isFirst_of_find?`: what a search finds is the first of its kind.

`Traverses` is the invariant: whatever a walk has still to do after a node, it does after the
subtree of that node. Where a walk leaves a subtree, `beyond?` says where it goes on.
-/

namespace ComposingProxy

/-- Of two nodes of a list without repetition one comes before the other. -/
theorem not_sublist_of_sublist {α : Type} {row : List α} {a b : α} (hnodup : row.Nodup)
    (h : [a, b].Sublist row) : ¬[b, a].Sublist row := by
  induction row with
  | nil => exact absurd h (by simp)
  | cons first rest ih =>
    obtain ⟨hfirst, hrest⟩ := List.nodup_cons.mp hnodup
    intro h'
    cases h with
    | cons _ h =>
      cases h' with
      | cons _ h' => exact ih hrest h h'
      | cons_cons _ h' => exact hfirst (h.subset (List.mem_cons_of_mem a List.mem_cons_self))
    | cons_cons _ h =>
      cases h' with
      | cons _ h' => exact hfirst (h'.subset (List.mem_cons_of_mem b List.mem_cons_self))
      | cons_cons _ h' => exact hfirst (h.subset List.mem_cons_self)

end ComposingProxy

namespace ComposingProxy.Markup.Document

variable {doc : Document} {n top x y : NodeId} {l : List NodeId}

/-! ## Leaving a subtree -/

/-- Where a walk through the subtree of `top` goes on after the subtree of a node. -/
def beyond? (doc : Document) (top n : NodeId) : Option NodeId := doc.nextAbove? top doc.size n

/-- A node has fewer nodes above it than there are in the document. -/
theorem WellFormed.length_ancestors_lt (h : doc.WellFormed) (hn : doc.Has n) :
    (doc.ancestors n).length < doc.size := by
  obtain ⟨-, hnodup, hmem⟩ := IsForest.walks_ancestors h n
  have hself : n ∉ doc.ancestors n := fun hn => IsForest.not_transGen_self h n ((hmem n).mp hn)
  refine length_le_size (l := n :: doc.ancestors n) (List.nodup_cons.mpr ⟨hself, hnodup⟩) ?_
  refine List.forall_mem_cons.mpr ⟨hn, fun y hy => ?_⟩
  exact IsForest.has_of_transGen h ((hmem y).mp hy)

/-- Going up takes a step for each ancestor, and more steps make no difference. -/
theorem WellFormed.nextAbove?_eq (h : doc.WellFormed) (top : NodeId) :
    ∀ (steps steps' : Nat) (n : NodeId), (doc.ancestors n).length < steps →
      (doc.ancestors n).length < steps' →
        doc.nextAbove? top steps n = doc.nextAbove? top steps' n := by
  intro steps
  induction steps with
  | zero => intro steps' n hlt; omega
  | succ steps ih =>
    intro steps' n hlt hlt'
    obtain ⟨steps', rfl⟩ : ∃ k, steps' = k + 1 := ⟨steps' - 1, by omega⟩
    rw [nextAbove?, nextAbove?]
    cases hp : doc.parent? n with
    | none => rfl
    | some p =>
      rw [IsForest.ancestors_of_parent? h hp, List.length_cons] at hlt hlt'
      dsimp only
      rw [ih steps' p (by omega) (by omega)]

/-- A walk through the subtree of a node ends behind that node. -/
theorem beyond?_self (doc : Document) (top : NodeId) : doc.beyond? top top = none := by
  unfold beyond?
  cases doc.size with
  | zero => rfl
  | succ steps => rw [nextAbove?, if_pos rfl]

/-- Behind a node comes its next sibling, and behind the last child what comes behind the
parent. -/
theorem WellFormed.beyond?_of_child (h : doc.WellFormed) {p c : NodeId} {before after : List NodeId}
    (hchildren : doc.children p = before ++ c :: after) (hp : doc.Within p top) :
    doc.beyond? top c = after.head?.or (doc.beyond? top p) := by
  have hc : c ∈ doc.children p := by simp [hchildren]
  have hparent := h.isParent_iff.mpr hc
  have hne : c ≠ top := by
    rintro rfl
    exact IsForest.not_transGen_self h p (.head' hparent hp)
  have hnext := (h.siblings p before c after hchildren).2
  have hlt := h.length_ancestors_lt (IsForest.has_child h hc)
  rw [IsForest.ancestors_of_parent? h hparent, List.length_cons] at hlt
  obtain ⟨steps, hsteps⟩ : ∃ k, doc.size = k + 1 := ⟨doc.size - 1, by omega⟩
  unfold beyond?
  rw [hsteps, nextAbove?, if_neg hne, hnext]
  cases after with
  | nil =>
    -- the walk goes up by one step
    have hsome : doc.parent? c = some p := hparent
    simp only [List.head?_nil, hsome, Option.none_or]
    exact h.nextAbove?_eq top steps (steps + 1) p (by omega) (by omega)
  | cons s rest => rfl

/-- Where there is nothing below a node, the walk goes on behind it. -/
theorem WellFormed.after?_of_children_nil (h : doc.WellFormed) (hchildren : doc.children n = [])
    (top : NodeId) : doc.after? top n = doc.beyond? top n := by
  have hfirst := h.first n
  rw [hchildren] at hfirst
  unfold after?
  rw [hfirst]
  rfl

/-- Where there is something below a node, the walk goes down to the first child. -/
theorem WellFormed.after?_of_children_cons (h : doc.WellFormed) {c : NodeId} {rest : List NodeId}
    (hchildren : doc.children n = c :: rest) (top : NodeId) : doc.after? top n = some c := by
  have hfirst := h.first n
  rw [hchildren] at hfirst
  unfold after?
  rw [hfirst]
  rfl

/-! ## Siblings -/

/-- The subtrees of two children of a node have nothing in common. -/
theorem WellFormed.eq_of_within_children (h : doc.WellFormed) {p c d : NodeId}
    (hc : doc.IsParent p c) (hd : doc.IsParent p d) (hxc : doc.Within x c)
    (hxd : doc.Within x d) : c = d := by
  have hone : ∀ {a b : NodeId}, doc.IsParent p a → doc.IsParent p b → doc.Within a b → a = b := by
    intro a b ha hb hab
    rcases Relation.ReflTransGen.cases_tail hab with heq | ⟨q, hq, hqa⟩
    · exact heq
    · -- the parent of both would be below one of them
      obtain rfl : q = p := Option.some.inj (hqa.symm.trans ha)
      exact absurd (.head' hb hq) (IsForest.not_transGen_self h q)
  rcases within_or_within hxc hxd with hcd | hdc
  · exact hone hc hd hcd
  · exact (hone hd hc hdc).symm

/-- What holds of a node as soon as it holds of its children holds of all nodes. -/
theorem WellFormed.induction_children (h : doc.WellFormed) {P : NodeId → Prop}
    (hstep : ∀ n, (∀ c ∈ doc.children n, P c) → P n) (n : NodeId) : P n := by
  -- children are further from the top, and no further than there are nodes
  induction hdepth : doc.size - (doc.ancestors n).length using Nat.strongRecOn generalizing n with
  | _ depth ih =>
    refine hstep n fun c hc => ih _ ?_ c rfl
    have hlt := h.length_ancestors_lt (IsForest.has_child h hc)
    rw [IsForest.ancestors_of_parent? h (h.isParent_iff.mpr hc), List.length_cons] at hlt ⊢
    omega

/-! ## The walk -/

/-- The list is the subtree of the node, and a walk that comes to the node goes through the list
and then on behind it. -/
structure Traverses (doc : Document) (n : NodeId) (l : List NodeId) : Prop where
  nodup : l.Nodup
  mem_iff : ∀ x, x ∈ l ↔ doc.Within x n
  walks : ∀ (top : NodeId) (rest : List NodeId), doc.Within n top →
    Walks (doc.after? top) (doc.beyond? top n) rest →
      Walks (doc.after? top) (some n) (l ++ rest)

/-- The subtree is the list that a walk goes through. -/
theorem Traverses.subtree_eq (h : doc.Traverses n l) (hn : doc.Has n) :
    doc.subtree n = l := by
  have hwalk : Walks (doc.after? n) (some n) (l ++ []) :=
    h.walks n [] .refl (by rw [beyond?_self]; trivial)
  rw [List.append_nil] at hwalk
  refine hwalk.follow_eq (length_le_size h.nodup fun x hx => ?_)
  rcases Relation.ReflTransGen.cases_tail ((h.mem_iff x).mp hx) with rfl | ⟨p, -, hp⟩
  · exact hn
  · exact has_of_parent? hp

/-- A walk goes through the subtrees of the children and then on behind the parent. -/
theorem WellFormed.walks_flatMap_subtree (h : doc.WellFormed)
    (hall : ∀ c ∈ doc.children n, doc.Traverses c (doc.subtree c)) (hn : doc.Within n top)
    {rest : List NodeId} (hrest : Walks (doc.after? top) (doc.beyond? top n) rest) :
    ∀ (after before : List NodeId), doc.children n = before ++ after →
      Walks (doc.after? top) (after.head?.or (doc.beyond? top n))
        (after.flatMap doc.subtree ++ rest) := by
  -- on the children that the walk has still to come to; `before` are those it has left
  intro after
  induction after with
  | nil => intro before _; exact hrest
  | cons c after ih =>
    intro before hchildren
    have hc : c ∈ doc.children n := by simp [hchildren]
    rw [List.flatMap_cons, List.append_assoc]
    refine (hall c hc).walks top _ (hn.tail (h.isParent_iff.mpr hc)) ?_
    rw [h.beyond?_of_child hchildren hn]
    exact ih (before ++ [c]) (by rw [hchildren, List.append_assoc]; rfl)

/-- A node with what its children have below them. -/
theorem WellFormed.traverses_cons (h : doc.WellFormed)
    (hall : ∀ c ∈ doc.children n, doc.Traverses c (doc.subtree c)) :
    doc.Traverses n (n :: (doc.children n).flatMap doc.subtree) where
  nodup := by
    refine List.nodup_cons.mpr ⟨fun hself => ?_, List.nodup_flatMap.mpr ⟨fun c hc => ?_, ?_⟩⟩
    · -- a node is in no subtree of its own children
      obtain ⟨c, hc, hnc⟩ := List.mem_flatMap.mp hself
      have hwithin := ((hall c hc).mem_iff n).mp hnc
      exact IsForest.not_transGen_self h n (.head' (h.isParent_iff.mpr hc) hwithin)
    · exact (hall c hc).nodup
    · -- the subtrees of two children have no node in common
      refine (h.nodup n).imp_of_mem fun hc hd hne x hxc hxd => hne ?_
      exact h.eq_of_within_children (h.isParent_iff.mpr hc) (h.isParent_iff.mpr hd)
        (((hall _ hc).mem_iff x).mp hxc) (((hall _ hd).mem_iff x).mp hxd)
  mem_iff x := by
    rw [List.mem_cons, List.mem_flatMap]
    constructor
    · rintro (rfl | ⟨c, hc, hx⟩)
      · exact .refl
      · exact .head (h.isParent_iff.mpr hc) (((hall c hc).mem_iff x).mp hx)
    · intro hx
      rcases Relation.ReflTransGen.cases_head hx with rfl | ⟨c, hparent, hxc⟩
      · exact Or.inl rfl
      · have hc := h.isParent_iff.mp hparent
        exact Or.inr ⟨c, hc, ((hall c hc).mem_iff x).mpr hxc⟩
  walks top rest hn hrest := by
    have hwalk := h.walks_flatMap_subtree hall hn hrest (doc.children n) [] rfl
    refine ⟨rfl, ?_⟩
    cases hchildren : doc.children n with
    | nil =>
      rw [hchildren] at hwalk
      rw [h.after?_of_children_nil hchildren]
      exact hwalk
    | cons c after =>
      rw [hchildren] at hwalk
      rw [h.after?_of_children_cons hchildren]
      exact hwalk

/-- The subtree of a node that was given out is what a walk from the node goes through. -/
theorem WellFormed.traverses_subtree (h : doc.WellFormed) (hn : doc.Has n) :
    doc.Traverses n (doc.subtree n) := by
  induction n using h.induction_children with
  | hstep n ih =>
    have hwhole := h.traverses_cons fun c hc => ih c hc (IsForest.has_child h hc)
    -- the list that is put together is the one that is walked
    rw [hwhole.subtree_eq hn]
    exact hwhole

/-- The subtree of a node is the node, and then the subtrees of its children in their order. -/
theorem WellFormed.subtree_eq (h : doc.WellFormed) (hn : doc.Has n) :
    doc.subtree n = n :: (doc.children n).flatMap doc.subtree :=
  (h.traverses_cons fun _ hc => h.traverses_subtree (IsForest.has_child h hc)).subtree_eq hn

/-- A walk meets all that is in a subtree. -/
theorem WellFormed.mem_subtree_iff (h : doc.WellFormed) (hn : doc.Has n) :
    x ∈ doc.subtree n ↔ doc.Within x n :=
  (h.traverses_subtree hn).mem_iff x

/-- A walk meets no node twice. -/
theorem WellFormed.nodup_subtree (h : doc.WellFormed) (hn : doc.Has n) : (doc.subtree n).Nodup :=
  (h.traverses_subtree hn).nodup

/-- A number that was not given out has nothing below it. -/
theorem subtree_of_not_has (hn : ¬doc.Has n) : doc.subtree n = [] ∨ doc.subtree n = [n] := by
  have hfirst : doc.first? n = none := by rw [first?, node_of_not_has hn]
  unfold subtree
  cases doc.size with
  | zero => exact Or.inl rfl
  | succ steps =>
    have hafter : doc.after? n n = none := by
      unfold after?
      rw [hfirst]
      exact beyond?_self doc n
    refine Or.inr ?_
    rw [follow, hafter]
    cases steps <;> rfl

theorem tail_subtree_of_not_has (hn : ¬doc.Has n) : (doc.subtree n).tail = [] := by
  rcases subtree_of_not_has hn with heq | heq <;> rw [heq] <;> rfl

/-- What a walk through a subtree finds lies within its top. -/
theorem WellFormed.within_of_mem_subtree (h : doc.WellFormed) (hx : x ∈ doc.subtree n) :
    doc.Within x n := by
  by_cases hn : doc.Has n
  · exact (h.mem_subtree_iff hn).mp hx
  · rcases subtree_of_not_has hn with heq | heq
    · exact absurd (heq ▸ hx) List.not_mem_nil
    · exact List.mem_singleton.mp (heq ▸ hx) ▸ .refl

/-- A walk comes from a node to all that is below it. -/
theorem WellFormed.mem_tail_subtree_iff (h : doc.WellFormed) :
    x ∈ (doc.subtree n).tail ↔ Relation.TransGen doc.IsParent n x := by
  by_cases hn : doc.Has n
  · have hself : n ∉ (doc.subtree n).tail := by
      have hnodup := h.nodup_subtree hn
      rw [h.subtree_eq hn] at hnodup ⊢
      exact (List.nodup_cons.mp hnodup).1
    have hmem := h.mem_subtree_iff (x := x) hn
    rw [Within, Relation.reflTransGen_iff_eq_or_transGen, h.subtree_eq hn, List.mem_cons] at hmem
    constructor
    · intro hx
      rw [h.subtree_eq hn] at hx
      refine (hmem.mp (Or.inr hx)).resolve_left ?_
      rintro rfl
      exact hself (h.subtree_eq hn ▸ hx)
    · intro hx
      rw [h.subtree_eq hn]
      refine (hmem.mpr (Or.inr hx)).resolve_left ?_
      rintro rfl
      exact IsForest.not_transGen_self h _ hx
  · rw [tail_subtree_of_not_has hn]
    refine iff_of_false List.not_mem_nil fun hx => ?_
    obtain ⟨c, hc, -⟩ := Relation.TransGen.head'_iff.mp hx
    exact hn (IsForest.has_parent h hc)

/-! ## The order -/

/-- A node precedes what is below it, and what is below one child of a node precedes what is below
a later one. -/
def Precedes (doc : Document) (x y : NodeId) : Prop :=
  Relation.TransGen doc.IsParent x y ∨
    ∃ p c d, [c, d].Sublist (doc.children p) ∧ doc.Within x c ∧ doc.Within y d

/-- A walk goes in document order. -/
theorem WellFormed.pairwise_subtree (h : doc.WellFormed) (hn : doc.Has n) :
    (doc.subtree n).Pairwise doc.Precedes := by
  induction n using h.induction_children with
  | hstep n ih =>
    have hmem : ∀ c ∈ doc.children n, ∀ x ∈ doc.subtree c, doc.Within x c :=
      fun c hc x hx => (h.mem_subtree_iff (IsForest.has_child h hc)).mp hx
    rw [h.subtree_eq hn, List.pairwise_cons, List.pairwise_flatMap]
    refine ⟨fun y hy => ?_, fun c hc => ih c hc (IsForest.has_child h hc), ?_⟩
    · obtain ⟨c, hc, hyc⟩ := List.mem_flatMap.mp hy
      exact Or.inl (.head' (h.isParent_iff.mpr hc) (hmem c hc y hyc))
    · refine List.pairwise_iff_forall_sublist.mpr fun {c d} hsub x hx y hy => ?_
      have hc : c ∈ doc.children n := hsub.subset List.mem_cons_self
      have hd : d ∈ doc.children n := hsub.subset (List.mem_cons_of_mem c List.mem_cons_self)
      exact Or.inr ⟨n, c, d, hsub, hmem c hc x hx, hmem d hd y hy⟩

/-- The same holds below the node that a walk begins at. -/
theorem WellFormed.nodup_tail_subtree (h : doc.WellFormed) (n : NodeId) :
    (doc.subtree n).tail.Nodup := by
  by_cases hn : doc.Has n
  · exact (h.nodup_subtree hn).sublist (List.tail_sublist _)
  · rw [tail_subtree_of_not_has hn]
    exact List.nodup_nil

theorem WellFormed.pairwise_tail_subtree (h : doc.WellFormed) (n : NodeId) :
    (doc.subtree n).tail.Pairwise doc.Precedes := by
  by_cases hn : doc.Has n
  · exact (h.pairwise_subtree hn).sublist (List.tail_sublist _)
  · rw [tail_subtree_of_not_has hn]
    exact List.Pairwise.nil

theorem WellFormed.ne_of_sublist (h : doc.WellFormed) {p c d : NodeId}
    (hsub : [c, d].Sublist (doc.children p)) : c ≠ d := by
  have hpair := (h.nodup p).sublist hsub
  simpa using hpair

/-- What is around a child is the child itself or around its parent. -/
theorem eq_or_within_of_isParent {p c : NodeId} (hp : doc.IsParent p c) (h : doc.Within c top) :
    c = top ∨ doc.Within p top := by
  rcases Relation.ReflTransGen.cases_tail h with heq | ⟨q, hq, hqc⟩
  · exact Or.inl heq
  · obtain rfl : q = p := Option.some.inj (hqc.symm.trans hp)
    exact Or.inr hq

/-- No two nodes precede each other. -/
theorem WellFormed.not_precedes_of_precedes (h : doc.WellFormed) (hxy : doc.Precedes x y) :
    ¬doc.Precedes y x := by
  -- a node in the subtrees of two siblings would make them the same
  have hapart : ∀ {p c d z : NodeId}, [c, d].Sublist (doc.children p) → doc.Within z c →
      ¬doc.Within z d := by
    intro p c d z hsub hzc hzd
    have hc : doc.IsParent p c := h.isParent_iff.mpr (hsub.subset List.mem_cons_self)
    have hd : doc.IsParent p d :=
      h.isParent_iff.mpr (hsub.subset (List.mem_cons_of_mem c List.mem_cons_self))
    exact h.ne_of_sublist hsub (h.eq_of_within_children hc hd hzc hzd)
  rcases hxy with hxy | ⟨p, c, d, hsub, hxc, hyd⟩ <;>
    rintro (hyx | ⟨p', c', d', hsub', hyc', hxd'⟩)
  · exact IsForest.not_transGen_self h x (hxy.trans hyx)
  · exact hapart hsub' hyc' (hxd'.trans hxy.to_reflTransGen)
  · exact hapart hsub hxc (hyd.trans hyx.to_reflTransGen)
  · have hc : doc.IsParent p c := h.isParent_iff.mpr (hsub.subset List.mem_cons_self)
    have hd : doc.IsParent p d :=
      h.isParent_iff.mpr (hsub.subset (List.mem_cons_of_mem c List.mem_cons_self))
    have hc' : doc.IsParent p' c' := h.isParent_iff.mpr (hsub'.subset List.mem_cons_self)
    have hd' : doc.IsParent p' d' :=
      h.isParent_iff.mpr (hsub'.subset (List.mem_cons_of_mem c' List.mem_cons_self))
    -- both nodes branch off at the same place, or one of them would be below both siblings
    have hcd' : c = d' := by
      rcases within_or_within hxc hxd' with hcd' | hd'c
      · rcases eq_or_within_of_isParent hc hcd' with heq | hpd'
        · exact heq
        · exact absurd (hpd'.trans (.head hd hyd)) (hapart hsub' hyc')
      · rcases eq_or_within_of_isParent hd' hd'c with heq | hp'c
        · exact heq.symm
        · exact absurd hyd (hapart hsub (hp'c.trans (.head hc' hyc')))
    subst hcd'
    obtain rfl : p = p' := Option.some.inj (hc.symm.trans hd')
    obtain rfl := h.eq_of_within_children hd hc' hyd hyc'
    exact not_sublist_of_sublist (h.nodup p) hsub hsub'

/-! ## Searching -/

/-- Of the nodes of a subtree that pass a test, the node is the first in document order. -/
structure IsFirst (doc : Document) (test : NodeId → Prop) (top found : NodeId) : Prop where
  within : doc.Within found top
  passes : test found
  first : ∀ other, doc.Within other top → test other → other = found ∨ doc.Precedes found other

theorem WellFormed.isFirst_unique (h : doc.WellFormed) {test : NodeId → Prop}
    {found found' : NodeId} (hfound : doc.IsFirst test top found) (hfound' : doc.IsFirst test top found') :
    found = found' := by
  rcases hfound.first found' hfound'.within hfound'.passes with heq | hbefore
  · exact heq.symm
  · rcases hfound'.first found hfound.within hfound.passes with heq | hafter
    · exact heq
    · exact absurd hafter (h.not_precedes_of_precedes hbefore)

/-- What a search along a walk finds is the first in document order. -/
theorem WellFormed.isFirst_of_find? (h : doc.WellFormed) (htop : doc.Has top)
    {test : NodeId → Bool} {found : NodeId} (hfind : (doc.subtree top).find? test = some found) :
    doc.IsFirst (test · = true) top found where
  within := (h.mem_subtree_iff htop).mp (List.mem_of_find?_eq_some hfind)
  passes := List.find?_some hfind
  first other hother hpasses := by
    obtain ⟨-, before, after, hsubtree, hbefore⟩ := List.find?_eq_some_iff_append.mp hfind
    have hmem := (h.mem_subtree_iff htop).mpr hother
    have hpairwise := h.pairwise_subtree htop
    rw [hsubtree] at hmem hpairwise
    rcases List.mem_append.mp hmem with hin | hin
    · exact absurd hpasses (by simpa using hbefore other hin)
    · obtain ⟨-, hrest, -⟩ := List.pairwise_append.mp hpairwise
      rcases List.mem_cons.mp hin with heq | hlater
      · exact Or.inl heq
      · exact Or.inr ((List.pairwise_cons.mp hrest).1 other hlater)

/-- A search finds what is first, and nothing only if there is nothing to find. -/
theorem WellFormed.find?_subtree_eq_some_iff (h : doc.WellFormed) (htop : doc.Has top)
    {test : NodeId → Bool} {found : NodeId} :
    (doc.subtree top).find? test = some found ↔ doc.IsFirst (test · = true) top found := by
  refine ⟨h.isFirst_of_find? htop, fun hfirst => ?_⟩
  cases hfind : (doc.subtree top).find? test with
  | none =>
    have hnone := List.find?_eq_none.mp hfind found ((h.mem_subtree_iff htop).mpr hfirst.within)
    exact absurd hfirst.passes hnone
  | some other => rw [h.isFirst_unique (h.isFirst_of_find? htop hfind) hfirst]

/-- Around a node that was given out there are only nodes that were given out. -/
theorem WellFormed.has_of_within (h : doc.WellFormed) (hhas : doc.Has x)
    (hx : doc.Within x top) : doc.Has top := by
  rcases Relation.ReflTransGen.cases_head hx with rfl | ⟨c, hc, -⟩
  · exact hhas
  · exact IsForest.has_parent h hc

/-- Below a node that was given out there are only nodes that were given out. -/
theorem Within.has (hx : doc.Within x top) (htop : doc.Has top) : doc.Has x := by
  rcases Relation.ReflTransGen.cases_tail hx with rfl | ⟨p, -, hp⟩
  · exact htop
  · exact has_of_parent? hp

/-- Where a node of a subtree passes a test, there is a first one. -/
theorem WellFormed.exists_isFirst (h : doc.WellFormed) {test : NodeId → Prop} (hhas : doc.Has x)
    (hx : doc.Within x top) (hpasses : test x) : ∃ found, doc.IsFirst test top found := by
  classical
  have htop := h.has_of_within hhas hx
  cases hfind : (doc.subtree top).find? (decide <| test ·) with
  | none =>
    have hnone := List.find?_eq_none.mp hfind x ((h.mem_subtree_iff htop).mpr hx)
    exact absurd (decide_eq_true hpasses) hnone
  | some found =>
    have hfirst := h.isFirst_of_find? htop hfind
    simp only [decide_eq_true_eq] at hfirst
    exact ⟨found, hfirst⟩

end ComposingProxy.Markup.Document
