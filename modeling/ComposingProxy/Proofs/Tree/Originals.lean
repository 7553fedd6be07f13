import ComposingProxy.Proofs.Tree.DeepCopies
import ComposingProxy.Proofs.Tree.Growing

/-!
# The originals of copied nodes

A copy is like its original (`IsCopy`), but many nodes of a page are like each other. `Traces` goes
further and assigns to each new node the one it was copied from, so that links lead to the same
originals as the links of the originals do:

> `exists_traces`: after a copy was made, each new node has its original.
> `Traces.enclosed_original_iff`, `Traces.injective`: each node in the original has a copy, and
> where nothing is held twice it has one copy.

The assignment grows along with the document. A copy of a child is traced on its own, and since it
is made of numbers that were not given out before, what it says of them can be added to what is
known already (`Traces.appendChild`). Links of new nodes lead to new nodes and those of old ones to
old ones, so every cycle afterwards is one that was there, in the document or in the source
(`Traces.isGrounded`).
-/

namespace ComposingProxy.Markup.Document

variable {doc doc' mid cur next source : Document} {id copy child p c x y : NodeId}
  {original others : NodeId → NodeId} {row done : List NodeId}

/-! ## Documents without dangling numbers -/

/-- The document is well formed, nothing is inside itself, and the contents of templates were given
out. -/
structure IsGrounded (doc : Document) : Prop where
  wellFormed : doc.WellFormed
  acyclic : doc.IsAcyclic
  contents : ∀ p c, doc.contents? p = some c → doc.Has c

/-- What is held by a node is a node of the document. -/
theorem IsGrounded.has_of_holds (h : doc.IsGrounded) (hpc : doc.Holds p c) : doc.Has c := by
  rcases hpc with hparent | hcontents
  · exact has_of_parent? hparent
  · exact h.contents p c hcontents

/-- No node is inside itself if each is on a lower level than what it holds. -/
theorem isAcyclic_of_rank (rank : NodeId → Nat) (hrank : ∀ p c, doc.Holds p c → rank p < rank c) :
    doc.IsAcyclic := by
  intro x hx
  have hlt : ∀ {y : NodeId}, Relation.TransGen doc.Holds x y → rank x < rank y := by
    intro y hy
    induction hy with
    | single hxy => exact hrank _ _ hxy
    | tail _ hpy ih => exact Nat.lt_trans ih (hrank _ _ hpy)
  exact Nat.lt_irrefl _ (hlt hx)

/-- A node holds its children and the root of its contents. -/
theorem WellFormed.holds_iff (h : doc.WellFormed) :
    doc.Holds p c ↔ c ∈ doc.children p ∨ doc.contents? p = some c := by
  rw [Holds, ← h.isParent_iff, IsParent]

/-- Whether a document is grounded can be told node by node if the levels of its nodes are known. -/
theorem WellFormed.isGrounded_of_rank (h : doc.WellFormed) (rank : NodeId → Nat)
    (hheld : ∀ i < doc.size, ∀ c ∈ doc.children ⟨i⟩ ++ (doc.contents? ⟨i⟩).toList,
      doc.Has c ∧ rank ⟨i⟩ < rank c) : doc.IsGrounded := by
  have hall : ∀ p c, doc.Holds p c → doc.Has c ∧ rank p < rank c := fun p c hpc => by
    refine hheld p.index (h.has_of_holds hpc) c ?_
    rw [List.mem_append, Option.mem_toList]
    exact h.holds_iff.mp hpc
  exact ⟨h, isAcyclic_of_rank rank fun p c hpc => (hall p c hpc).2,
    fun p c hc => (hall p c (Or.inr hc)).1⟩

/-- Nodes that keep their data and their children hold what they held. -/
theorem WellFormed.holds_iff_of_stays (h : doc.WellFormed) (h' : doc'.WellFormed)
    (hstays : ∀ x, doc.Has x → StaysAt doc doc' x) (hp : doc.Has p) :
    doc'.Holds p c ↔ doc.Holds p c := by
  obtain ⟨-, hdata, hchildren⟩ := hstays p hp
  rw [h'.holds_iff, h.holds_iff, hchildren, contents?_eq hdata]

/-- While all nodes stay as they are, what is inside a node stays inside it. -/
theorem WellFormed.enclosed_of_stays (h : doc.WellFormed) (h' : doc'.WellFormed)
    (hstays : ∀ x, doc.Has x → StaysAt doc doc' x) (hin : doc.Enclosed x y) :
    doc'.Enclosed x y := by
  refine Relation.ReflTransGen.mono (fun p c hpc => ?_) _ _ hin
  exact (h.holds_iff_of_stays h' hstays (h.has_of_holds hpc)).mpr hpc

/-- While all nodes stay as they are, nothing new comes inside a node that was there. -/
theorem IsGrounded.transGen_of_stays (h : doc.IsGrounded) (h' : doc'.WellFormed)
    (hstays : ∀ x, doc.Has x → StaysAt doc doc' x) (hx : doc.Has x)
    (hxy : Relation.TransGen doc'.Holds x y) :
    doc.Has y ∧ Relation.TransGen doc.Holds x y := by
  induction hxy with
  | single hxy =>
    have hold := (h.wellFormed.holds_iff_of_stays h' hstays hx).mp hxy
    exact ⟨h.has_of_holds hold, .single hold⟩
  | tail _ hpy ih =>
    have hold := (h.wellFormed.holds_iff_of_stays h' hstays ih.1).mp hpy
    exact ⟨h.has_of_holds hold, ih.2.tail hold⟩

/-! ## What is assigned to a node -/

/-- The node was made after `doc`. -/
def IsNew (doc doc' : Document) (x : NodeId) : Prop := doc'.Has x ∧ ¬doc.Has x

/-- The node is what its original is, it holds new nodes only, and they are the copies of `row` and
of the contents of the original. -/
structure Mirrors (source doc doc' : Document) (original : NodeId → NodeId) (row : List NodeId)
    (x : NodeId) : Prop where
  data : doc'.data x = copiedData (source.data (original x)) (doc'.contents? x)
  contents : (doc'.contents? x).map original = source.contents? (original x)
  children : (doc'.children x).map original = row
  new : ∀ c, c ∈ doc'.children x ∨ doc'.contents? x = some c → IsNew doc doc' c

/-- What a node mirrors does not change when others are made, apart from what is added to its
children. -/
theorem Mirrors.append (h : Mirrors source mid cur others row x) {added : List NodeId}
    (hdata : next.data x = cur.data x) (hchildren : next.children x = cur.children x ++ added)
    (hadded : ∀ c ∈ added, IsNew doc next c) (hx : original x = others x)
    (hheld : ∀ c, IsNew mid cur c → IsNew doc next c ∧ original c = others c) :
    Mirrors source doc next original (row ++ added.map original) x := by
  have hcontents : next.contents? x = cur.contents? x := contents?_eq hdata
  have hmap : ∀ c, c ∈ cur.children x ∨ cur.contents? x = some c → original c = others c :=
    fun c hc => (hheld c (h.new c hc)).2
  refine ⟨?_, ?_, ?_, fun c hc => ?_⟩
  · rw [hdata, hx, hcontents, ← h.data]
  · rw [hx, hcontents, ← h.contents]
    exact Option.map_congr fun c hc => hmap c (Or.inr hc)
  · rw [hchildren, List.map_append, ← h.children]
    exact congrArg (· ++ added.map original) (List.map_congr_left fun c hc => hmap c (Or.inl hc))
  · rw [hchildren, hcontents, List.mem_append] at hc
    rcases hc with (hc | hc) | hc
    · exact (hheld c (h.new c (Or.inl hc))).1
    · exact hadded c hc
    · exact (hheld c (h.new c (Or.inr hc))).1

/-- A node still mirrors its original while it stays as it is and what it holds is still new. -/
theorem Mirrors.mono (h : Mirrors source mid cur others row x) (hstays : StaysAt cur next x)
    (hx : original x = others x)
    (hheld : ∀ c, IsNew mid cur c → IsNew doc next c ∧ original c = others c) :
    Mirrors source doc next original row x := by
  have hsame : next.children x = cur.children x ++ [] := by rw [hstays.children, List.append_nil]
  have happend := h.append hstays.data hsame (fun _ hc => absurd hc List.not_mem_nil) hx hheld
  rwa [List.map_nil, List.append_nil] at happend

/-- A copy of `id` with copies of the nodes `done` below it, each new node with an original. -/
structure Traces (source doc doc' : Document) (original : NodeId → NodeId) (id copy : NodeId)
    (done : List NodeId) : Prop where
  copied : Copied doc copy doc'
  original_copy : original copy = id
  top : Mirrors source doc doc' original done copy
  below : ∀ x, IsNew doc doc' x → x ≠ copy →
    Mirrors source doc doc' original (source.children (original x)) x
  /-- All that is new belongs to the copy. -/
  whole : ∀ x, IsNew doc doc' x → doc'.Enclosed x copy

/-- Every new node of a whole copy mirrors its original. -/
theorem Traces.mirrors (h : Traces source doc doc' original id copy (source.children id))
    (hx : IsNew doc doc' x) :
    Mirrors source doc doc' original (source.children (original x)) x := by
  by_cases hcopy : x = copy
  · rw [hcopy, h.original_copy]
    exact h.top
  · exact h.below x hx hcopy

/-! ## Making a copy -/

/-- A node that is made with a copy of the contents, without children so far. -/
theorem traces_create (original : NodeId → NodeId) (contents : Option NodeId)
    (hmid : mid.WellFormed) (hgrows : Grows doc mid)
    (hcontents : contents.map original = source.contents? id)
    (hnew : ∀ c, contents = some c → IsNew doc mid c)
    (hbelow : ∀ x, IsNew doc mid x →
      Mirrors source doc mid original (source.children (original x)) x ∧
        ∃ c, contents = some c ∧ mid.Enclosed x c) :
    Traces source doc (mid.create (copiedData (source.data id) contents)).2
      (Function.update original (mid.create (copiedData (source.data id) contents)).1 id) id
      (mid.create (copiedData (source.data id) contents)).1 [] := by
  have hcreated := copied_create hmid (copiedData (source.data id) contents)
  have hdata := data_created mid (copiedData (source.data id) contents)
  have hempty := hmid.children_new (copiedData (source.data id) contents)
  have hstays : ∀ x, mid.Has x →
      StaysAt mid (mid.create (copiedData (source.data id) contents)).2 x :=
    fun x => hmid.staysAt_create (copiedData (source.data id) contents)
  have hcases : ∀ x, (mid.create (copiedData (source.data id) contents)).2.Has x →
      mid.Has x ∨ x = (mid.create (copiedData (source.data id) contents)).1 :=
    fun _ => has_or_eq_of_has_create
  generalize mid.create (copiedData (source.data id) contents) = made at *
  obtain ⟨copy, made⟩ := made
  dsimp only at *
  have hnone : source.contents? id = none → contents = none := fun heq =>
    Option.map_eq_none_iff.mp (hcontents.trans heq)
  have hsame := contents?_copied hdata hnone
  -- the number of the copy was not given out, so the originals of other nodes stay
  have hkept : ∀ c, mid.Has c → Function.update original copy id c = original c := by
    rintro c hc
    refine Function.update_of_ne ?_ _ _
    rintro rfl
    exact hcreated.new hc
  have hheld : ∀ c, IsNew doc mid c →
      IsNew doc made c ∧ Function.update original copy id c = original c :=
    fun c hc => ⟨⟨(hstays c hc.1).has, hc.2⟩, hkept c hc.1⟩
  refine ⟨hcreated.after hgrows, Function.update_self _ _ _, ⟨?_, ?_, ?_, fun c hc => ?_⟩,
    fun x hx hne => ?_, fun x hx => ?_⟩
  · rw [Function.update_self, hsame, hdata]
  · rw [Function.update_self, hsame, ← hcontents]
    exact Option.map_congr fun c hc => hkept c (hnew c hc).1
  · rw [hempty, List.map_nil]
  · rw [hempty, hsame] at hc
    exact (hheld c (hnew c (hc.resolve_left List.not_mem_nil))).1
  · have hmidx := (hcases x hx.1).resolve_right hne
    rw [hkept x hmidx]
    exact (hbelow x ⟨hmidx, hx.2⟩).1.mono (hstays x hmidx) (hkept x hmidx) hheld
  · rcases hcases x hx.1 with hmidx | rfl
    · obtain ⟨-, c, hc, hin⟩ := hbelow x ⟨hmidx, hx.2⟩
      exact .head (Or.inr (hsame.trans hc)) (hmid.enclosed_of_stays hcreated.wellFormed hstays hin)
    · exact .refl

/-- Where the copy of a child is put below the copy of its parent, that is one link more. -/
theorem Copied.holds_appendChild (h : Copied doc copy cur) (hchild : Copied cur c mid) :
    (mid.appendChild copy c).Holds copy c ∧
      ∀ p y, mid.Holds p y → (mid.appendChild copy c).Holds p y := by
  have hwell := (h.appendChild hchild).wellFormed
  have hkids := h.children_appendChild hchild
  refine ⟨hwell.holds_iff.mpr (Or.inl (by rw [hkids, if_pos rfl]; simp)), fun p y hpy => ?_⟩
  rw [hwell.holds_iff, contents?_eq (data_appendChild mid copy c p), hkids]
  refine (hchild.wellFormed.holds_iff.mp hpy).imp (fun hy => ?_) id
  split
  · next heq => exact heq ▸ List.mem_append_left _ hy
  · exact hy

/-- The originals of the nodes of `doc`, and of all others. -/
def extended (doc : Document) (original others : NodeId → NodeId) (x : NodeId) : NodeId :=
  if doc.Has x then original x else others x

/-- A traced copy of a child, put below the copy of its parent, belongs to the larger copy. -/
theorem Traces.appendChild (h : Traces source doc cur original id copy done)
    (hchild : Traces source cur mid others child c (source.children child))
    (hstays : ∀ x, cur.Has x → StaysAt cur mid x) :
    Traces source doc (mid.appendChild copy c) (cur.extended original others) id copy
      (done ++ [child]) := by
  have hcopy := h.copied.has
  have hput : ∀ x, mid.Has x → x ≠ copy → StaysAt mid (mid.appendChild copy c) x :=
    fun x => h.copied.staysAt_appendChild hchild.copied
  have hhas : ∀ x, (mid.appendChild copy c).Has x ↔ mid.Has x := fun x => by
    rw [Has, Has, size_appendChild]
  obtain ⟨hlinked, hafter⟩ := h.copied.holds_appendChild hchild.copied
  have horiginal : ∀ y, cur.Has y → cur.extended original others y = original y :=
    fun y hy => if_pos hy
  have hother : ∀ y, ¬cur.Has y → cur.extended original others y = others y :=
    fun y hy => if_neg hy
  -- nodes that were there before the child was copied, and nodes of its copy
  have hold : ∀ y, IsNew doc cur y → IsNew doc (mid.appendChild copy c) y ∧
      cur.extended original others y = original y :=
    fun y hy => ⟨⟨(hhas y).mpr (hstays y hy.1).has, hy.2⟩, horiginal y hy.1⟩
  have hnew : ∀ y, IsNew cur mid y → IsNew doc (mid.appendChild copy c) y ∧
      cur.extended original others y = others y :=
    fun y hy => ⟨⟨(hhas y).mpr hy.1, fun hdoc => hy.2 (h.copied.grows.has hdoc)⟩, hother y hy.2⟩
  have hnewc : IsNew cur mid c := ⟨hchild.copied.has, hchild.copied.new⟩
  refine ⟨h.copied.appendChild hchild.copied, ?_, ?_, fun x hx hne => ?_, fun x hx => ?_⟩
  · rw [horiginal copy hcopy, h.original_copy]
  · have hdata := (data_appendChild mid copy c copy).trans (hstays copy hcopy).data
    have hrow : (mid.appendChild copy c).children copy = cur.children copy ++ [c] := by
      rw [h.copied.children_appendChild hchild.copied, if_pos rfl, (hstays copy hcopy).children]
    have hadded : ∀ y ∈ [c], IsNew doc (mid.appendChild copy c) y :=
      List.forall_mem_singleton.mpr (hnew c hnewc).1
    have htop := h.top.append hdata hrow hadded (horiginal copy hcopy) hold
    rwa [List.map_singleton, hother c hnewc.2, hchild.original_copy] at htop
  · have hmid := (hhas x).mp hx.1
    by_cases hcur : cur.Has x
    · rw [horiginal x hcur]
      exact (h.below x ⟨hcur, hx.2⟩ hne).mono ((hstays x hcur).trans (hput x hmid hne))
        (horiginal x hcur) hold
    · rw [hother x hcur]
      exact (hchild.mirrors ⟨hmid, hcur⟩).mono (hput x hmid hne) (hother x hcur) hnew
  · by_cases hcur : cur.Has x
    · have hin := h.whole x ⟨hcur, hx.2⟩
      exact Relation.ReflTransGen.mono hafter _ _
        (h.copied.wellFormed.enclosed_of_stays hchild.copied.wellFormed hstays hin)
    · refine .head hlinked (Relation.ReflTransGen.mono hafter _ _ ?_)
      exact hchild.whole x ⟨(hhas x).mp hx.1, hcur⟩

/-- A node without contents is made when nothing else has been. -/
theorem exists_traces_create (h : doc.WellFormed) (hcontents : source.contents? id = none) :
    ∃ original, Traces source doc (doc.create (copiedData (source.data id) none)).2 original id
      (doc.create (copiedData (source.data id) none)).1 [] :=
  ⟨_, traces_create (fun x => x) none h (.refl doc) hcontents.symm
    (fun _ hc => absurd hc (by simp)) fun _ hx => absurd hx.1 hx.2⟩

/-- A node with contents is made when they have been copied. -/
theorem Traces.create (h : Traces source doc mid original c child (source.children c))
    (hcontents : source.contents? id = some c) :
    Traces source doc (mid.create (copiedData (source.data id) (some child))).2
      (Function.update original (mid.create (copiedData (source.data id) (some child))).1 id) id
      (mid.create (copiedData (source.data id) (some child))).1 [] := by
  refine traces_create original (some child) h.copied.wellFormed h.copied.grows ?_ ?_ ?_
  · rw [hcontents, Option.map_some, h.original_copy]
  · intro _ heq
    obtain rfl := Option.some.inj heq
    exact ⟨h.copied.has, h.copied.new⟩
  · exact fun x hx => ⟨h.mirrors hx, child, rfl, h.whole x hx⟩

/-- What can be traced for one child can be traced for all of them. -/
theorem Traces.exists_appendCopies {depth : Nat}
    (hcopy : ∀ (doc : Document) (id : NodeId), source.Fits depth id → doc.WellFormed →
      ∃ original, Traces source doc (copyWithin source depth doc id).2 original id
        (copyWithin source depth doc id).1 (source.children id)) :
    ∀ (children : List NodeId) {cur : Document} {original : NodeId → NodeId}
      {done : List NodeId}, (∀ child ∈ children, source.Fits depth child) →
      Traces source doc cur original id copy done →
      ∃ original, Traces source doc (appendCopies source depth copy children cur) original id copy
        (done ++ children) := by
  intro children
  induction children with
  | nil =>
    intro cur original done _ h
    rw [List.append_nil]
    exact ⟨original, h⟩
  | cons child rest ih =>
    intro cur original done hfits h
    obtain ⟨hfirst, hrest⟩ := List.forall_mem_cons.mp hfits
    obtain ⟨others, hchild⟩ := hcopy cur child hfirst h.copied.wellFormed
    have hstays := staysAt_copyWithin source depth cur child
    have hput := h.appendChild hchild fun x => hstays x h.copied.wellFormed
    rw [appendCopies_cons, ← List.singleton_append, ← List.append_assoc]
    exact ih hrest hput

/-- Each node of a copy that is made deep enough has its original. -/
theorem exists_traces (hsource : source.WellFormed) :
    ∀ (depth : Nat) (doc : Document) (id : NodeId), source.Fits depth id → doc.WellFormed →
      ∃ original, Traces source doc (copyWithin source depth doc id).2 original id
        (copyWithin source depth doc id).1 (source.children id) := by
  intro depth
  induction depth with
  | zero =>
    intro doc id hfits h
    have hchildren : source.children id = [] :=
      List.eq_nil_iff_forall_not_mem.mpr fun c hc => hfits c (hsource.holds_iff.mpr (Or.inl hc))
    have hcontents : source.contents? id = none :=
      Option.eq_none_iff_forall_not_mem.mpr fun c hc => hfits c (Or.inr hc)
    rw [hchildren, copyWithin]
    exact exists_traces_create h hcontents
  | succ depth ih =>
    intro doc id hfits h
    have hchildren : ∀ child ∈ source.children id, source.Fits depth child := fun child hchild =>
      hfits child (hsource.holds_iff.mpr (Or.inl hchild))
    cases hc : source.contents? id with
    | none =>
      rw [copyWithin_of_none hc]
      obtain ⟨_, htop⟩ := exists_traces_create h hc
      exact Traces.exists_appendCopies ih _ hchildren htop
    | some contents =>
      obtain ⟨others, hinner⟩ := ih doc contents (hfits contents (Or.inr hc)) h
      rw [copyWithin_of_some hc]
      exact Traces.exists_appendCopies ih _ hchildren (hinner.create hc)

/-! ## What is in a copy -/

namespace Traces

section

variable (h : Traces source doc doc' original id copy (source.children id))

include h

/-- The copy itself is new. -/
theorem isNew_copy : IsNew doc doc' copy := ⟨h.copied.has, h.copied.new⟩

theorem isNew_of_holds (hx : IsNew doc doc' x) (hxc : doc'.Holds x c) : IsNew doc doc' c :=
  (h.mirrors hx).new c (h.copied.wellFormed.holds_iff.mp hxc)

/-- Links of new nodes are links of their originals. -/
theorem holds_original (hsource : source.WellFormed) (hx : IsNew doc doc' x)
    (hxc : doc'.Holds x c) : source.Holds (original x) (original c) := by
  have hmirrors := h.mirrors hx
  rw [hsource.holds_iff, ← hmirrors.children, ← hmirrors.contents]
  rcases h.copied.wellFormed.holds_iff.mp hxc with hchild | hcontents
  · exact Or.inl (List.mem_map_of_mem hchild)
  · exact Or.inr (by rw [hcontents, Option.map_some])

/-- Links of originals are links of their copies. -/
theorem exists_holds (hsource : source.WellFormed) (hx : IsNew doc doc' x)
    (hxy : source.Holds (original x) y) : ∃ c, doc'.Holds x c ∧ original c = y := by
  have hmirrors := h.mirrors hx
  rw [hsource.holds_iff, ← hmirrors.children, ← hmirrors.contents] at hxy
  rcases hxy with hchild | hcontents
  · obtain ⟨c, hc, rfl⟩ := List.mem_map.mp hchild
    exact ⟨c, h.copied.wellFormed.holds_iff.mpr (Or.inl hc), rfl⟩
  · obtain ⟨c, hc, rfl⟩ := Option.map_eq_some_iff.mp hcontents
    exact ⟨c, Or.inr hc, rfl⟩

/-- What is inside the copy is what is new. -/
theorem enclosed_iff : doc'.Enclosed x copy ↔ IsNew doc doc' x := by
  refine ⟨fun hin => ?_, h.whole x⟩
  induction hin with
  | refl => exact h.isNew_copy
  | tail _ hpx ih => exact h.isNew_of_holds ih hpx

/-- The originals are what is inside the node that was copied. -/
theorem enclosed_original_iff (hsource : source.WellFormed) :
    source.Enclosed y id ↔ ∃ x, IsNew doc doc' x ∧ original x = y := by
  constructor
  · intro hin
    induction hin with
    | refl => exact ⟨copy, h.isNew_copy, h.original_copy⟩
    | tail _ hpy ih =>
      obtain ⟨x, hx, rfl⟩ := ih
      obtain ⟨c, hxc, hc⟩ := h.exists_holds hsource hx hpy
      exact ⟨c, h.isNew_of_holds hx hxc, hc⟩
  · rintro ⟨x, hx, rfl⟩
    have hin := h.whole x hx
    induction hin with
    | refl => rw [h.original_copy]; exact .refl
    | @tail p x hp hpx ih =>
      have hnew := h.enclosed_iff.mp hp
      exact (ih hnew).tail (h.holds_original hsource hnew hpx)

/-- A chain of links from a new node is a chain of links between originals. -/
theorem transGen_original (hsource : source.WellFormed) (hx : IsNew doc doc' x)
    (hxy : Relation.TransGen doc'.Holds x y) :
    IsNew doc doc' y ∧ Relation.TransGen source.Holds (original x) (original y) := by
  induction hxy with
  | single hxy => exact ⟨h.isNew_of_holds hx hxy, .single (h.holds_original hsource hx hxy)⟩
  | tail _ hpy ih =>
    exact ⟨h.isNew_of_holds ih.1 hpy, ih.2.tail (h.holds_original hsource ih.1 hpy)⟩

end

variable (h : Traces source doc doc' original id copy (source.children id))

include h

/-- Making a copy adds no cycle and no number that was not given out. -/
theorem isGrounded (hdoc : doc.IsGrounded) (hsource : source.IsGrounded)
    (hstays : ∀ x, doc.Has x → StaysAt doc doc' x) : doc'.IsGrounded where
  wellFormed := h.copied.wellFormed
  acyclic x hx := by
    obtain ⟨c, hxc, -⟩ := Relation.TransGen.head'_iff.mp hx
    have hhas := h.copied.wellFormed.has_of_holds hxc
    by_cases hold : doc.Has x
    · exact hdoc.acyclic x (hdoc.transGen_of_stays h.copied.wellFormed hstays hold hx).2
    · exact hsource.acyclic _ (h.transGen_original hsource.wellFormed ⟨hhas, hold⟩ hx).2
  contents p c hc := by
    by_cases hold : doc.Has p
    · have hpc :=
        (hdoc.wellFormed.holds_iff_of_stays h.copied.wellFormed hstays hold).mp (Or.inr hc)
      exact h.copied.grows.has (hdoc.has_of_holds hpc)
    · exact (h.isNew_of_holds ⟨has_of_contents? hc, hold⟩ (Or.inr hc)).1

/-- Nothing holds the copy, as a child or as contents. -/
theorem not_holds_copy (hdoc : doc.IsGrounded) (hsource : source.IsGrounded)
    (hstays : ∀ x, doc.Has x → StaysAt doc doc' x) (p : NodeId) : ¬doc'.Holds p copy := by
  intro hp
  have hhas := h.copied.wellFormed.has_of_holds hp
  by_cases hold : doc.Has p
  · have hpc := (hdoc.wellFormed.holds_iff_of_stays h.copied.wellFormed hstays hold).mp hp
    exact h.copied.new (hdoc.has_of_holds hpc)
  · have hin := h.whole p ⟨hhas, hold⟩
    exact (h.isGrounded hdoc hsource hstays).acyclic copy (.tail' hin hp)

/-- A new node that is not the copy itself is held by a new node. -/
theorem exists_holder (hx : IsNew doc doc' x) (hne : x ≠ copy) :
    ∃ p, IsNew doc doc' p ∧ doc'.Holds p x := by
  rcases Relation.ReflTransGen.cases_tail (h.whole x hx) with heq | ⟨p, hp, hpx⟩
  · exact absurd heq hne
  · exact ⟨p, h.enclosed_iff.mp hp, hpx⟩

/-- Only the copy itself is a copy of the node. -/
theorem eq_copy (hsource : source.IsGrounded) (hx : IsNew doc doc' x) (hid : original x = id) :
    x = copy := by
  by_contra hne
  obtain ⟨p, hp, hpx⟩ := h.exists_holder hx hne
  have hin := (h.enclosed_original_iff hsource.wellFormed).mpr ⟨p, hp, rfl⟩
  have hheld := h.holds_original hsource.wellFormed hp hpx
  rw [hid] at hheld
  exact hsource.acyclic id (.tail' hin hheld)

/-- Two nodes of which one node of the copy holds copies have two copies there. -/
theorem eq_of_held (hsource : source.WellFormed) (honce : source.HasOwnContents)
    (hp : IsNew doc doc' p) (hx : doc'.Holds p x) (hy : doc'.Holds p y)
    (heq : original x = original y) : x = y := by
  have hmirrors := h.mirrors hp
  have hwell := h.copied.wellFormed
  have hapart : ∀ {a b : NodeId}, a ∈ doc'.children p → doc'.contents? p = some b →
      original a ≠ original b := by
    intro a b ha hb hab
    have hchild : original a ∈ source.children (original p) :=
      hmirrors.children ▸ List.mem_map_of_mem ha
    have hcontents : source.contents? (original p) = some (original a) := by
      rw [← hmirrors.contents, hb, Option.map_some, hab]
    have hparent := hsource.isParent_iff.mpr hchild
    exact absurd (hparent.symm.trans (honce _ _ hcontents)) (by simp)
  rcases hwell.holds_iff.mp hx with hx | hx <;> rcases hwell.holds_iff.mp hy with hy | hy
  · have hnodup := hsource.nodup (original p)
    rw [← hmirrors.children] at hnodup
    exact List.inj_on_of_nodup_map hnodup hx hy heq
  · exact absurd heq (hapart hx hy)
  · exact absurd heq.symm (hapart hy hx)
  · exact Option.some.inj (hx.symm.trans hy)

/-- Where nothing is held twice, each node has one copy. -/
theorem injective (hsource : source.IsGrounded) (honce : source.HoldsOnce)
    (hx : IsNew doc doc' x) (hy : IsNew doc doc' y) (heq : original x = original y) : x = y := by
  have hin := h.whole x hx
  induction hin generalizing y with
  | refl => exact (h.eq_copy hsource hy (heq.symm.trans h.original_copy)).symm
  | @tail p x hp hpx ih =>
    by_cases hcopy : y = copy
    · rw [hcopy, h.original_copy] at heq
      exact (h.eq_copy hsource hx heq).trans hcopy.symm
    · obtain ⟨q, hq, hqy⟩ := h.exists_holder hy hcopy
      have hpnew := h.enclosed_iff.mp hp
      have hheldx := h.holds_original hsource.wellFormed hpnew hpx
      have hheldy := h.holds_original hsource.wellFormed hq hqy
      obtain rfl := ih hpnew hq (honce.eq_of_holds hheldx (heq ▸ hheldy))
      exact h.eq_of_held hsource.wellFormed honce.own hpnew hpx hqy heq

end Traces

end ComposingProxy.Markup.Document
