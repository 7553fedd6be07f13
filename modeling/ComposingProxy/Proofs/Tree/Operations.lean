import ComposingProxy.Markup.Copy
import ComposingProxy.Proofs.Tree.Moves

/-!
# What every operation makes of the child lists

One equation for each operation of `Document`, with the fact that the result is a forest
again:

> `detach` erases; `appendChild` erases and adds at the end; `insertBefore` erases and
> adds before the sibling; `prependChild` erases and adds at the front; `removeChildren`
> empties one list; `moveChildren` empties one and adds it to the end of another.

The two loops are bounded by the number of nodes, and a child list is never longer, so the
bound is never met: `removeFirst` and `moveFirst` are stated for any number of steps and
drop or move that many children.
-/

namespace ComposingProxy.Markup.Document

variable {doc doc' : Document} {kids : NodeId → List NodeId}

namespace IsForest

/-! ## Taking out -/

/-- The siblings of a node are nodes of the document. -/
theorem has_siblings (h : doc.IsForest kids) {c x : NodeId}
    (hx : doc.previous? c = some x ∨ doc.next? c = some x) : doc.Has x := by
  cases hp : doc.parent? c with
  | none =>
    obtain ⟨hprevious, hnext⟩ := h.alone c hp
    rw [hprevious, hnext] at hx
    exact absurd hx (by simp)
  | some p =>
    obtain ⟨before, after, hk⟩ := List.append_of_mem ((h.mem_iff p c).mpr hp)
    obtain ⟨hprevious, hnext⟩ := h.siblings p before c after hk
    rw [hprevious, hnext] at hx
    apply h.has_child (p := p)
    rw [hk]
    rcases hx with hx | hx
    · simp [List.mem_of_getLast? hx]
    · simp [List.mem_of_head? hx]

/-- Taking a node out of its place is cutting it out. -/
theorem detach_cutOut (h : doc.IsForest kids) (c : NodeId) : CutOut doc (doc.detach c) c :=
  Document.detach_cutOut (fun _ hx => h.has_siblings (Or.inl hx))
    (fun _ hx => h.has_siblings (Or.inr hx)) (fun _ hx => h.has_parent hx)

/-- `detach` erases a node from the list it is in. -/
theorem detach (h : doc.IsForest kids) (c : NodeId) :
    (doc.detach c).IsForest fun p => (kids p).erase c :=
  h.cutOut (h.detach_cutOut c)

/-- Nothing lies within more nodes after a node is taken out. -/
theorem within_of_detach (h : doc.IsForest kids) {c x top : NodeId}
    (hx : (doc.detach c).Within x top) : doc.Within x top := by
  refine Relation.ReflTransGen.mono ?_ _ _ hx
  intro p y hpy
  rw [IsParent, (h.detach_cutOut c).parent] at hpy
  split at hpy
  · exact absurd hpy (by simp)
  · exact hpy

end IsForest

/-- With a node linked in under `p`, what lies within a node did so before, or `p` did. -/
theorem LinkedIn.within {p c x top : NodeId} {before after : Option NodeId}
    (hlink : LinkedIn doc doc' p c before after) (hx : doc'.Within x top) :
    doc.Within x top ∨ doc.Within p top := by
  induction hx with
  | refl => exact Or.inl Relation.ReflTransGen.refl
  | @tail q y _ hqy ih =>
    rw [IsParent, hlink.parent] at hqy
    split at hqy
    · obtain rfl := Option.some.inj hqy
      exact Or.inr (ih.elim id id)
    · exact ih.imp (fun hq => hq.tail hqy) id

namespace IsForest

/-! ## Putting in -/

/-- Appending a node is linking it in behind the other children. -/
theorem appendChild_linkedIn (h : doc.IsForest kids) {parent child : NodeId}
    (hparent : doc.Has parent) (hchild : doc.Has child) :
    LinkedIn (doc.detach child) (doc.appendChild parent child) parent child
      ((kids parent).erase child).getLast? none := by
  have hcut := h.detach_cutOut child
  have hforest := h.detach child
  rw [← hforest.last parent]
  refine Document.appendChild_linkedIn hparent hchild (by rw [hcut.next, if_pos rfl]) ?_
  intro x hx
  rw [hforest.last] at hx
  have hmem := List.mem_of_getLast? hx
  exact ⟨h.has_child (List.mem_of_mem_erase hmem),
    fun he => ((h.nodup parent).mem_erase_iff.mp hmem).1 he⟩

/-- `appendChild` takes a node from where it is and adds it after the children. -/
theorem appendChild (h : doc.IsForest kids) {parent child : NodeId} (hparent : doc.Has parent)
    (hchild : doc.Has child) (hout : ¬doc.Within parent child) :
    (doc.appendChild parent child).IsForest
      (Function.update (fun p => (kids p).erase child) parent
        ((kids parent).erase child ++ [child])) := by
  have hcut := h.detach_cutOut child
  exact (h.detach child).linkedIn ((kids parent).erase child) []
    (h.appendChild_linkedIn hparent hchild) (by rw [hcut.parent, if_pos rfl])
    (by rw [List.append_nil]) fun hw => hout (h.within_of_detach hw)

/-- What `parent` lies within does not change when a child is put under it. -/
theorem within_of_appendChild (h : doc.IsForest kids) {parent child top : NodeId}
    (hparent : doc.Has parent) (hchild : doc.Has child)
    (hx : (doc.appendChild parent child).Within parent top) : doc.Within parent top :=
  h.within_of_detach (((h.appendChild_linkedIn hparent hchild).within hx).elim id id)

/-- `insertBefore` takes a node from where it is and adds it before the sibling. -/
theorem insertBefore (h : doc.IsForest kids) {parent sibling child : NodeId}
    (before after : List NodeId) (hchild : doc.Has child)
    (hk : (kids parent).erase child = before ++ sibling :: after)
    (hout : ¬doc.Within parent child) :
    (doc.insertBefore sibling child).IsForest
      (Function.update (fun p => (kids p).erase child) parent
        (before ++ child :: sibling :: after)) := by
  have hcut := h.detach_cutOut child
  have hforest := h.detach child
  have hmem : sibling ∈ (kids parent).erase child := by rw [hk]; simp
  obtain ⟨hne, hsibling⟩ := (h.nodup parent).mem_erase_iff.mp hmem
  have hp := (h.mem_iff parent sibling).mp hsibling
  obtain ⟨hprevious, -⟩ := hforest.siblings parent before sibling after hk
  have hlink := insertBefore_linkedIn hp (h.has_parent hp) hchild hne (by
    intro x hx
    rw [hprevious] at hx
    have hxmem : x ∈ (kids parent).erase child := by rw [hk]; simp [List.mem_of_getLast? hx]
    exact ⟨h.has_child (List.mem_of_mem_erase hxmem),
      fun he => ((h.nodup parent).mem_erase_iff.mp hxmem).1 he⟩)
  rw [hprevious] at hlink
  exact hforest.linkedIn before (sibling :: after) hlink (by rw [hcut.parent, if_pos rfl]) hk
    fun hw => hout (h.within_of_detach hw)

/-- `prependChild` takes a node from where it is and adds it before the children. -/
theorem prependChild (h : doc.IsForest kids) {parent child : NodeId} (hparent : doc.Has parent)
    (hchild : doc.Has child) (hout : ¬doc.Within parent child)
    (hfirst : doc.first? parent ≠ some child) :
    (doc.prependChild parent child).IsForest
      (Function.update (fun p => (kids p).erase child) parent
        (child :: (kids parent).erase child)) := by
  unfold Document.prependChild
  rw [h.first] at hfirst ⊢
  cases hk : kids parent with
  | nil =>
    have happend := h.appendChild hparent hchild hout
    rw [hk] at happend
    exact happend
  | cons first rest =>
    rw [hk, List.head?_cons] at hfirst
    have hne : first ≠ child := fun he => hfirst (congrArg some he)
    have herase : (first :: rest).erase child = first :: rest.erase child :=
      List.erase_cons_tail (by simpa using hne)
    rw [herase]
    exact h.insertBefore [] (rest.erase child) hchild (by rw [hk, herase]; rfl) hout

/-! ## All children -/

/-- A node has no more children than there are nodes. -/
theorem length_kids_le (h : doc.IsForest kids) (p : NodeId) : (kids p).length ≤ doc.size :=
  length_le_size (h.nodup p) fun _ hc => h.has_child hc

/-- Each step of `removeFirst` takes the first child that is left. -/
theorem removeFirst {p : NodeId} :
    ∀ (steps : Nat) {doc : Document} {kids : NodeId → List NodeId}, doc.IsForest kids →
      (doc.removeFirst p steps).IsForest (Function.update kids p ((kids p).drop steps)) := by
  intro steps
  induction steps with
  | zero =>
    intro doc kids h
    rw [List.drop_zero, Function.update_eq_self]
    exact h
  | succ steps ih =>
    intro doc kids h
    rw [Document.removeFirst, h.first]
    cases hk : kids p with
    | nil =>
      have hself := Function.update_eq_self p kids
      rw [hk] at hself
      rw [List.drop_nil, hself]
      exact h
    | cons c rest =>
      have hcut := h.cutOut_of_mem [] rest (h.detach_cutOut c) hk
      have hrest := ih hcut
      rw [List.nil_append, Function.update_self, Function.update_idem] at hrest
      exact hrest

theorem size_removeFirst (p : NodeId) :
    ∀ (steps : Nat) (doc : Document), (doc.removeFirst p steps).size = doc.size := by
  intro steps
  induction steps with
  | zero => intro doc; rfl
  | succ steps ih =>
    intro doc
    rw [Document.removeFirst]
    split
    · rfl
    · next c _ => rw [ih, size_detach]

/-- `removeChildren` takes all children out: the loop ends before its bound does. -/
theorem removeChildren (h : doc.IsForest kids) (p : NodeId) :
    (doc.removeChildren p).IsForest (Function.update kids p []) := by
  have hremove := removeFirst (p := p) doc.size h
  rwa [List.drop_eq_nil_of_le (h.length_kids_le p)] at hremove

/-- Each step of `moveFirst` adds the first child that is left to the end of `target`. -/
theorem moveFirst {source target : NodeId} (hne : target ≠ source) :
    ∀ (steps : Nat) {doc : Document} {kids : NodeId → List NodeId}, doc.IsForest kids →
      doc.Has target → ¬doc.Within target source →
      (doc.moveFirst source target steps).IsForest
        (Function.update (Function.update kids source ((kids source).drop steps)) target
          (kids target ++ (kids source).take steps)) := by
  intro steps
  induction steps with
  | zero =>
    intro doc kids h _ _
    rw [List.drop_zero, List.take_zero, List.append_nil, Function.update_eq_self,
      Function.update_eq_self]
    exact h
  | succ steps ih =>
    intro doc kids h htarget hout
    rw [Document.moveFirst, h.first]
    cases hk : kids source with
    | nil =>
      have hself := Function.update_eq_self source kids
      rw [hk] at hself
      rw [List.drop_nil, List.take_nil, List.append_nil, hself, Function.update_eq_self]
      exact h
    | cons c rest =>
      have hmem : c ∈ kids source := by rw [hk]; simp
      have hchild := h.has_child hmem
      have hcout : ¬doc.Within target c := fun hw => hout (hw.head ((h.mem_iff source c).mp hmem))
      have hstep := h.appendChild htarget hchild hcout
      have hcut := h.erase_eq_update [] rest hk
      have hct : (kids target).erase c = kids target :=
        List.erase_of_not_mem fun hc => hne (h.eq_of_mem hc hmem)
      rw [hcut, hct, List.nil_append] at hstep
      have hsize : (doc.appendChild target c).size = doc.size :=
        (h.appendChild_linkedIn htarget hchild).size.trans (h.detach_cutOut c).size
      -- what is left of the loop moves `rest`, and the two updates of each list become one
      have hrest := ih hstep (by rw [Has, hsize]; exact htarget)
        fun hw => hout (h.within_of_appendChild htarget hchild hw)
      rw [Function.update_self, Function.update_of_ne (Ne.symm hne), Function.update_self,
        Function.update_comm (Ne.symm hne), Function.update_idem, Function.update_comm hne,
        Function.update_idem, List.append_assoc] at hrest
      exact hrest

/-- `moveChildren` moves all children: the loop ends before its bound does. -/
theorem moveChildren (h : doc.IsForest kids) {source target : NodeId} (htarget : doc.Has target)
    (hout : ¬doc.Within target source) :
    (doc.moveChildren source target).IsForest
      (Function.update (Function.update kids source []) target
        (kids target ++ kids source)) := by
  have hne : target ≠ source := fun he => hout (he ▸ Relation.ReflTransGen.refl)
  have hmove := moveFirst hne doc.size h htarget hout
  have hlength := h.length_kids_le source
  rwa [List.drop_eq_nil_of_le hlength, List.take_of_length_le hlength] at hmove

end IsForest

end ComposingProxy.Markup.Document
