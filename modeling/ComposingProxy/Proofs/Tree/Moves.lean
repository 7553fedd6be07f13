import ComposingProxy.Proofs.Tree.Shape
import Mathlib.Logic.Function.Basic

/-!
# What an edit does to the child lists

The two moves of `Links` seen on child lists: cutting a node out erases it from the list it
is in (`IsForest.cutOut`), linking it in inserts it (`IsForest.linkedIn`). Both keep a
forest a forest; a node is only linked in under a parent that does not lie within it.
-/

namespace ComposingProxy

/-! ## Rows in two parts -/

section Rows

variable {α : Type} {x y : α}

/-- An element of a list in two parts is in the first or in the second. -/
theorem append_eq_append_cons {before after b a : List α}
    (h : before ++ after = b ++ x :: a) :
    (∃ m, before = b ++ x :: m ∧ a = m ++ after) ∨
      (∃ m, b = before ++ m ∧ after = m ++ x :: a) := by
  rcases List.append_eq_append_iff.mp h with ⟨m, hb, hafter⟩ | ⟨m, hbefore, ha⟩
  · exact Or.inr ⟨m, hb, hafter⟩
  · cases m with
    | nil =>
      right
      rw [List.nil_append] at ha
      exact ⟨[], by rw [hbefore, List.append_nil, List.append_nil], ha.symm⟩
    | cons y m =>
      rw [List.cons_append, List.cons.injEq] at ha
      obtain ⟨rfl, rfl⟩ := ha
      exact Or.inl ⟨m, hbefore, rfl⟩

/-- The last element of a list that ends in `x :: m` is not `x`, unless `m` is empty. -/
theorem getLast?_ne_of_cons {b m : List α}
    (hnodup : (b ++ x :: y :: m).Nodup) : (b ++ x :: y :: m).getLast? ≠ some x := by
  intro h
  rw [List.getLast?_append_of_ne_nil _ (by simp), List.getLast?_cons_cons] at h
  have hmem : x ∈ y :: m := List.mem_of_getLast? h
  exact (List.nodup_cons.mp (List.nodup_append.mp hnodup).2.1).1 hmem

end Rows

end ComposingProxy

namespace ComposingProxy.Markup.Document

variable {doc doc' : Document} {kids : NodeId → List NodeId}

/-! ## The same links -/

/-- Documents with the same links have the same trees. -/
theorem SameLinks.isForest (hsame : SameLinks doc doc') (h : doc.IsForest kids) :
    doc'.IsForest kids where
  first p := (hsame.first p).trans (h.first p)
  last p := (hsame.last p).trans (h.last p)
  nodup := h.nodup
  mem_iff p c := by rw [hsame.parent]; exact h.mem_iff p c
  siblings p before c after hk := by
    rw [hsame.previous, hsame.next]
    exact h.siblings p before c after hk
  alone c hc := by
    rw [hsame.parent] at hc
    rw [hsame.previous, hsame.next]
    exact h.alone c hc
  acyclic := by
    have heq : doc'.IsParent = doc.IsParent := by
      funext p c
      simp only [IsParent, hsame.parent]
    rw [heq]
    exact h.acyclic

/-! ## Cutting out -/

/-- The links of siblings after the node between `before` and `after` is cut out. -/
theorem CutOut.siblings {c x : NodeId} {before after b a : List NodeId}
    (hcut : CutOut doc doc' c) (hnodup : (before ++ c :: after).Nodup)
    (hrow : ∀ b x a, before ++ c :: after = b ++ x :: a →
      doc.previous? x = b.getLast? ∧ doc.next? x = a.head?)
    (hsplit : before ++ after = b ++ x :: a) :
    doc'.previous? x = b.getLast? ∧ doc'.next? x = a.head? := by
  obtain ⟨hprevious, hnext⟩ := hrow before c after rfl
  obtain ⟨hbefore, hafter, hdisjoint⟩ := List.nodup_append.mp hnodup
  rw [hcut.previous, hcut.next, hprevious, hnext]
  rcases append_eq_append_cons hsplit with ⟨m, rfl, rfl⟩ | ⟨m, rfl, rfl⟩
  · -- `x` comes before `c`: its next sibling changes if nothing stands between them
    obtain ⟨hxprevious, hxnext⟩ := hrow b x (m ++ c :: after) (by simp)
    have hxc : x ≠ c := hdisjoint x (by simp) c (by simp)
    have hhead : after.head? ≠ some x := fun h =>
      hdisjoint x (by simp) x (List.mem_cons_of_mem _ (List.mem_of_head? h)) rfl
    rw [hxprevious, hxnext, if_neg hxc, if_neg hxc, if_neg hhead]
    refine ⟨rfl, ?_⟩
    cases m with
    | nil => rw [List.getLast?_concat, if_pos rfl]; rfl
    | cons y m => rw [if_neg (getLast?_ne_of_cons hbefore)]; rfl
  · -- `x` comes after `c`: its previous sibling changes if nothing stands between them
    obtain ⟨hxprevious, hxnext⟩ := hrow (before ++ c :: m) x a (by simp)
    have hxc : x ≠ c := fun h => (List.nodup_cons.mp hafter).1 (h ▸ by simp)
    have hlast : before.getLast? ≠ some x := fun h =>
      hdisjoint x (List.mem_of_getLast? h) x (by simp) rfl
    rw [hxprevious, hxnext, if_neg hxc, if_neg hxc, if_neg hlast]
    refine ⟨?_, rfl⟩
    cases m with
    | nil => rw [List.nil_append, List.head?_cons, if_pos rfl, List.append_nil]
    | cons y m =>
      have hyx : y ≠ x := fun h => by
        have := (List.nodup_cons.mp (List.nodup_cons.mp hafter).2).1
        exact this (h ▸ by simp)
      rw [List.cons_append, List.head?_cons, if_neg (fun h => hyx (Option.some.inj h))]
      simp [List.getLast?_append]

/-- Nodes outside the row of the node that is cut out keep their siblings. -/
theorem CutOut.elsewhere {c x : NodeId} {before after : List NodeId} (hcut : CutOut doc doc' c)
    (hprevious : doc.previous? c = before.getLast?) (hnext : doc.next? c = after.head?)
    (hx : x ∉ before ++ c :: after) :
    doc'.previous? x = doc.previous? x ∧ doc'.next? x = doc.next? x := by
  rw [List.mem_append, List.mem_cons, not_or, not_or] at hx
  obtain ⟨hbefore, hxc, hafter⟩ := hx
  rw [hcut.previous, hcut.next, hprevious, hnext, if_neg hxc, if_neg hxc,
    if_neg fun he => hafter (List.mem_of_head? he),
    if_neg fun he => hbefore (List.mem_of_getLast? he)]
  exact ⟨rfl, rfl⟩

/-- Fewer nodes have a parent when one is cut out. -/
theorem CutOut.acyclic {c : NodeId} (hcut : CutOut doc doc' c)
    (hwf : WellFounded doc.IsParent) : WellFounded doc'.IsParent := by
  refine Subrelation.wf (r := doc.IsParent) ?_ hwf
  intro q x hqx
  rw [IsParent, hcut.parent] at hqx
  split at hqx
  · exact absurd hqx (by simp)
  · exact hqx

/-- Nothing changes when a node without a parent is cut out. -/
theorem CutOut.sameLinks {c : NodeId} (hcut : CutOut doc doc' c) (hp : doc.parent? c = none)
    (hprevious : doc.previous? c = none) (hnext : doc.next? c = none) : SameLinks doc doc' where
  parent x := by rw [hcut.parent]; split <;> simp_all
  first x := by rw [hcut.first]; simp [hp]
  last x := by rw [hcut.last]; simp [hp]
  previous x := by rw [hcut.previous]; split <;> simp_all
  next x := by rw [hcut.next]; split <;> simp_all

namespace IsForest

/-- A node without a parent is in no child list. -/
theorem not_mem_of_parent?_eq_none (h : doc.IsForest kids) {c : NodeId}
    (hc : doc.parent? c = none) (p : NodeId) : c ∉ kids p := fun hmem =>
  absurd (hc.symm.trans ((h.mem_iff p c).mp hmem)) (by simp)

theorem nodup_update (h : doc.IsForest kids) {row : List NodeId} (hrow : row.Nodup)
    (p q : NodeId) : (Function.update kids p row q).Nodup := by
  by_cases hq : q = p
  · subst hq
    rwa [Function.update_self]
  · rw [Function.update_of_ne hq]
    exact h.nodup q

/-- Cutting a node out of its siblings. -/
theorem cutOut_of_mem (h : doc.IsForest kids) {p c : NodeId} (before after : List NodeId)
    (hcut : CutOut doc doc' c) (hk : kids p = before ++ c :: after) :
    doc'.IsForest (Function.update kids p (before ++ after)) := by
  have hmem : c ∈ kids p := by rw [hk]; simp
  have hp : doc.parent? c = some p := (h.mem_iff p c).mp hmem
  obtain ⟨hprevious, hnext⟩ := h.siblings p before c after hk
  have hnodup : (before ++ c :: after).Nodup := hk ▸ h.nodup p
  have hrest : (before ++ after).Nodup ∧ c ∉ before ++ after := by
    rw [List.nodup_middle, List.nodup_cons] at hnodup
    exact ⟨hnodup.2, hnodup.1⟩
  have hother : ∀ {q}, q ≠ p → c ∉ kids q := fun hq hc => hq (h.eq_of_mem hc hmem)
  constructor
  case first =>
    intro q
    rw [hcut.first, hprevious, hnext, hp]
    by_cases hq : q = p
    · subst hq
      rw [Function.update_self, h.first, hk]
      cases before <;> simp
    · rw [Function.update_of_ne hq, if_neg (by simp [Ne.symm hq]), h.first]
  case last =>
    intro q
    rw [hcut.last, hprevious, hnext, hp]
    by_cases hq : q = p
    · subst hq
      rw [Function.update_self, h.last, hk]
      cases after <;> simp [List.getLast?_append]
    · rw [Function.update_of_ne hq, if_neg (by simp [Ne.symm hq]), h.last]
  case nodup => exact h.nodup_update hrest.1 p
  case mem_iff =>
    intro q x
    rw [hcut.parent]
    by_cases hxc : x = c
    · subst hxc
      by_cases hq : q = p
      · subst hq
        simpa using hrest.2
      · -- no other list had `c` in it
        simpa [hq] using hother hq
    · rw [if_neg hxc, ← h.mem_iff]
      by_cases hq : q = p
      · subst hq
        simp [hk, hxc]
      · rw [Function.update_of_ne hq]
  case siblings =>
    intro q b x a hsplit
    by_cases hq : q = p
    · subst hq
      rw [Function.update_self] at hsplit
      -- where `c` was, its neighbours are linked to each other
      exact hcut.siblings hnodup (fun b x a hba => h.siblings q b x a (hk.trans hba)) hsplit
    · rw [Function.update_of_ne hq] at hsplit
      -- no link of another row pointed at `c`
      have hxq : x ∈ kids q := by rw [hsplit]; simp
      have hnot : x ∉ kids p := fun hxp => hq (h.eq_of_mem hxq hxp)
      rw [hk] at hnot
      obtain ⟨hsameprevious, hsamenext⟩ := hcut.elsewhere hprevious hnext hnot
      rw [hsameprevious, hsamenext]
      exact h.siblings q b x a hsplit
  case alone =>
    intro x hx
    rw [hcut.parent] at hx
    by_cases hxc : x = c
    · rw [hcut.previous, hcut.next, if_pos hxc, if_pos hxc]
      exact ⟨rfl, rfl⟩
    · rw [if_neg hxc] at hx
      have hnot : x ∉ kids p := h.not_mem_of_parent?_eq_none hx p
      rw [hk] at hnot
      obtain ⟨hsameprevious, hsamenext⟩ := hcut.elsewhere hprevious hnext hnot
      rw [hsameprevious, hsamenext]
      exact h.alone x hx
  case acyclic => exact hcut.acyclic h.acyclic

/-- Erasing a child from all lists changes the one list it is in. -/
theorem erase_eq_update (h : doc.IsForest kids) {p c : NodeId} (before after : List NodeId)
    (hk : kids p = before ++ c :: after) :
    (fun q => (kids q).erase c) = Function.update kids p (before ++ after) := by
  have hmem : c ∈ kids p := by rw [hk]; simp
  funext q
  by_cases hq : q = p
  · subst hq
    have hnot : c ∉ before := fun hc => by
      have := h.nodup q
      rw [hk, List.nodup_append] at this
      exact this.2.2 c hc c (by simp) rfl
    rw [Function.update_self, hk, List.erase_append_right _ hnot, List.erase_cons_head]
  · rw [Function.update_of_ne hq]
    exact List.erase_of_not_mem fun hc => hq (h.eq_of_mem hc hmem)

/-- Cutting a node out erases it from the list it is in. -/
theorem cutOut (h : doc.IsForest kids) {c : NodeId} (hcut : CutOut doc doc' c) :
    doc'.IsForest fun p => (kids p).erase c := by
  cases hp : doc.parent? c with
  | none =>
    have hnot := h.not_mem_of_parent?_eq_none hp
    have hsame := hcut.sameLinks hp (h.alone c hp).1 (h.alone c hp).2
    have heq : (fun p => (kids p).erase c) = kids := funext fun p => List.erase_of_not_mem (hnot p)
    rw [heq]
    exact hsame.isForest h
  | some p =>
    obtain ⟨before, after, hk⟩ := List.append_of_mem ((h.mem_iff p c).mpr hp)
    rw [h.erase_eq_update before after hk]
    exact h.cutOut_of_mem before after hcut hk

end IsForest

/-! ## Linking in -/

/-- The links of siblings after a node is linked in between `before` and `after`. -/
theorem LinkedIn.siblings {p c x : NodeId} {before after b a : List NodeId}
    (hlink : LinkedIn doc doc' p c before.getLast? after.head?)
    (hnodup : (before ++ c :: after).Nodup)
    (hrow : ∀ b x a, before ++ after = b ++ x :: a →
      doc.previous? x = b.getLast? ∧ doc.next? x = a.head?)
    (hsplit : before ++ c :: after = b ++ x :: a) :
    doc'.previous? x = b.getLast? ∧ doc'.next? x = a.head? := by
  obtain ⟨hbefore, hafter, hdisjoint⟩ := List.nodup_append.mp hnodup
  rw [hlink.previous, hlink.next]
  rcases append_eq_append_cons hsplit with ⟨m, rfl, rfl⟩ | ⟨m, rfl, hm⟩
  · -- `x` comes before `c`: its next sibling is `c` if nothing stands between them
    obtain ⟨hxprevious, hxnext⟩ := hrow b x (m ++ after) (by simp)
    have hxc : x ≠ c := hdisjoint x (by simp) c (by simp)
    have hhead : after.head? ≠ some x := fun h =>
      hdisjoint x (by simp) x (List.mem_cons_of_mem _ (List.mem_of_head? h)) rfl
    rw [hxprevious, hxnext, if_neg hxc, if_neg hxc, if_neg hhead]
    refine ⟨rfl, ?_⟩
    cases m with
    | nil => rw [List.getLast?_concat, if_pos rfl]; rfl
    | cons y m => rw [if_neg (getLast?_ne_of_cons hbefore)]; rfl
  · cases m with
    | nil =>
      -- `x` is `c` itself
      rw [List.nil_append, List.cons.injEq] at hm
      obtain ⟨rfl, rfl⟩ := hm
      rw [if_pos rfl, if_pos rfl, List.append_nil]
      exact ⟨rfl, rfl⟩
    | cons y m =>
      -- `x` comes after `c`: its previous sibling is `c` if nothing stands between them
      rw [List.cons_append, List.cons.injEq] at hm
      obtain ⟨rfl, rfl⟩ := hm
      obtain ⟨hxprevious, hxnext⟩ := hrow (before ++ m) x a (by simp)
      have hxc : x ≠ c := fun h => (List.nodup_cons.mp hafter).1 (h ▸ by simp)
      have hlast : before.getLast? ≠ some x := fun h =>
        hdisjoint x (List.mem_of_getLast? h) x (by simp) rfl
      rw [hxprevious, hxnext, if_neg hxc, if_neg hxc, if_neg hlast]
      refine ⟨?_, rfl⟩
      cases m with
      | nil => simp
      | cons y m =>
        have hyx : y ≠ x := fun h => by
          have := (List.nodup_cons.mp (List.nodup_cons.mp hafter).2).1
          exact this (h ▸ by simp)
        rw [List.cons_append, List.head?_cons, if_neg (fun h => hyx (Option.some.inj h))]
        simp [List.getLast?_append]

/-- Nodes outside the row that a node is linked into keep their siblings. -/
theorem LinkedIn.elsewhere {p c x : NodeId} {before after : List NodeId}
    (hlink : LinkedIn doc doc' p c before.getLast? after.head?) (hxc : x ≠ c)
    (hx : x ∉ before ++ after) :
    doc'.previous? x = doc.previous? x ∧ doc'.next? x = doc.next? x := by
  rw [List.mem_append, not_or] at hx
  obtain ⟨hbefore, hafter⟩ := hx
  rw [hlink.previous, hlink.next, if_neg hxc, if_neg hxc,
    if_neg fun he => hafter (List.mem_of_head? he),
    if_neg fun he => hbefore (List.mem_of_getLast? he)]
  exact ⟨rfl, rfl⟩

/-- A chain of parents stays finite when a node is put under one that does not lie within it. -/
theorem LinkedIn.acyclic {p c : NodeId} {before after : Option NodeId}
    (hlink : LinkedIn doc doc' p c before after) (hwf : WellFounded doc.IsParent)
    (hout : ¬doc.Within p c) : WellFounded doc'.IsParent := by
  have hparent : ∀ {q x}, x ≠ c → doc'.IsParent q x → doc.IsParent q x := by
    intro q x hxc hqx
    rwa [IsParent, hlink.parent, if_neg hxc] at hqx
  -- first the nodes outside `c`: their chains are the same as before
  have houtside : ∀ x, ¬doc.Within x c → Acc doc'.IsParent x := by
    intro x
    induction x using hwf.induction with
    | _ x ih =>
      intro hx
      have hxc : x ≠ c := fun h => hx (h ▸ Relation.ReflTransGen.refl)
      refine ⟨x, fun q hqx => ?_⟩
      have hqx' := hparent hxc hqx
      exact ih q hqx' fun hq => hx (hq.tail hqx')
  have hc : Acc doc'.IsParent c := by
    refine ⟨c, fun q hq => ?_⟩
    rw [IsParent, hlink.parent, if_pos rfl, Option.some.injEq] at hq
    exact hq ▸ houtside p hout
  -- then all of them: a chain of before may now turn off at `c`, and only there
  refine ⟨fun x => ?_⟩
  induction x using hwf.induction with
  | _ x ih =>
    by_cases hxc : x = c
    · exact hxc ▸ hc
    · exact ⟨x, fun q hqx => ih q (hparent hxc hqx)⟩

namespace IsForest

/-- Linking a node in inserts it between its new siblings. -/
theorem linkedIn (h : doc.IsForest kids) {p c : NodeId} (before after : List NodeId)
    (hlink : LinkedIn doc doc' p c before.getLast? after.head?) (hc : doc.parent? c = none)
    (hk : kids p = before ++ after) (hout : ¬doc.Within p c) :
    doc'.IsForest (Function.update kids p (before ++ c :: after)) := by
  have hnot := h.not_mem_of_parent?_eq_none hc
  have hnodup : (before ++ c :: after).Nodup := by
    rw [List.nodup_middle, List.nodup_cons, ← hk]
    exact ⟨hnot p, h.nodup p⟩
  constructor
  case first =>
    intro q
    rw [hlink.first]
    by_cases hq : q = p
    · subst hq
      rw [Function.update_self, h.first, hk]
      cases before <;> simp
    · rw [Function.update_of_ne hq, if_neg (fun he => hq he.2), h.first]
  case last =>
    intro q
    rw [hlink.last]
    by_cases hq : q = p
    · subst hq
      rw [Function.update_self, h.last, hk]
      cases after <;> simp [List.getLast?_append]
    · rw [Function.update_of_ne hq, if_neg (fun he => hq he.2), h.last]
  case nodup => exact h.nodup_update hnodup p
  case mem_iff =>
    intro q x
    rw [hlink.parent]
    by_cases hxc : x = c
    · subst hxc
      by_cases hq : q = p
      · subst hq
        simp
      · simpa [hq, Ne.symm hq] using hnot q
    · rw [if_neg hxc, ← h.mem_iff]
      by_cases hq : q = p
      · subst hq
        simp [hk, hxc]
      · rw [Function.update_of_ne hq]
  case siblings =>
    intro q b x a hsplit
    by_cases hq : q = p
    · subst hq
      rw [Function.update_self] at hsplit
      -- in its row `c` is linked to both neighbours
      exact hlink.siblings hnodup (fun b x a hba => h.siblings q b x a (hk.trans hba)) hsplit
    · rw [Function.update_of_ne hq] at hsplit
      -- no link of another row points at `c`
      have hxq : x ∈ kids q := by rw [hsplit]; simp
      have hxp : x ∉ kids p := fun hxp => hq (h.eq_of_mem hxq hxp)
      have hxc : x ≠ c := fun he => hnot q (he ▸ hxq)
      rw [hk] at hxp
      obtain ⟨hsameprevious, hsamenext⟩ := hlink.elsewhere hxc hxp
      rw [hsameprevious, hsamenext]
      exact h.siblings q b x a hsplit
  case alone =>
    intro x hx
    rw [hlink.parent] at hx
    by_cases hxc : x = c
    · simp [hxc] at hx
    · rw [if_neg hxc] at hx
      have hxp : x ∉ kids p := h.not_mem_of_parent?_eq_none hx p
      rw [hk] at hxp
      obtain ⟨hsameprevious, hsamenext⟩ := hlink.elsewhere hxc hxp
      rw [hsameprevious, hsamenext]
      exact h.alone x hx
  case acyclic => exact hlink.acyclic h.acyclic hout

end IsForest

end ComposingProxy.Markup.Document
