import ComposingProxy.Markup.Writer
import ComposingProxy.Proofs.Tree.Originals

/-!
# Whole copies

What taking a node over from another document comes to, in one place: it ends, the copy is a tree of
its own with the shape of the original, the document around it stays as it was, and the copy is
written with the same text.

> `copies_iff`: copying ends, and a bound on the depth has no say in it.
> `IsGrounded.exists_copyFrom_eq`: all that holds of a copy.

`Copies` is the recursion without a bound. A document has no cycles and finitely many nodes, so a
node fits into as many levels as the document has nodes, and so does its copy. That is also why the
text of either is written in full (`writer_eq_of_fits`), whichever of the two documents is larger.
-/

namespace ComposingProxy.Markup.Document

variable {doc doc' mid source : Document} {id copy p c x y : NodeId} {depth : Nat}

/-! ## Copying as deep as a node reaches -/

mutual

/-- Copying a node of `source` ends with this copy in this document: the contents are copied, the
copy is made, and the children are copied below it. -/
inductive Copies (source : Document) : Document → NodeId → NodeId × Document → Prop
  | plain {doc doc' : Document} {id : NodeId} (hcontents : source.contents? id = none)
    (below : CopiesAll source (doc.create (copiedData (source.data id) none)).1
      (source.children id) (doc.create (copiedData (source.data id) none)).2 doc') :
    Copies source doc id ((doc.create (copiedData (source.data id) none)).1, doc')
  | template {doc mid doc' : Document} {id c inner : NodeId}
    (hcontents : source.contents? id = some c) (hinner : Copies source doc c (inner, mid))
    (below : CopiesAll source (mid.create (copiedData (source.data id) (some inner))).1
      (source.children id) (mid.create (copiedData (source.data id) (some inner))).2 doc') :
    Copies source doc id ((mid.create (copiedData (source.data id) (some inner))).1, doc')

/-- Copying nodes of `source` one after the other and putting each copy below `copy` ends with this
document. -/
inductive CopiesAll (source : Document) : NodeId → List NodeId → Document → Document → Prop
  | nil {copy : NodeId} {doc : Document} : CopiesAll source copy [] doc doc
  | cons {copy child c : NodeId} {rest : List NodeId} {doc mid doc' : Document}
    (first : Copies source doc child (c, mid))
    (others : CopiesAll source copy rest (mid.appendChild copy c) doc') :
    CopiesAll source copy (child :: rest) doc doc'

end

/-- The children are copied one after the other, so what holds for one copy holds for a row. -/
theorem copiesAll_iff
    (hcopy : ∀ {doc : Document} {id : NodeId} {made : NodeId × Document}, source.Fits depth id →
      (Copies source doc id made ↔ made = copyWithin source depth doc id)) :
    ∀ (children : List NodeId) {cur : Document}, (∀ child ∈ children, source.Fits depth child) →
      (CopiesAll source copy children cur doc' ↔
        doc' = appendCopies source depth copy children cur) := by
  intro children
  induction children with
  | nil =>
    intro cur _
    refine ⟨fun h => ?_, fun heq => heq ▸ .nil⟩
    cases h
    rfl
  | cons child rest ih =>
    intro cur hfits
    obtain ⟨hfirst, hrest⟩ := List.forall_mem_cons.mp hfits
    rw [appendCopies_cons]
    refine ⟨fun h => ?_, fun heq => .cons ((hcopy hfirst).mpr rfl) ((ih hrest).mpr heq)⟩
    cases h with
    | cons first others =>
      obtain rfl := congrArg Prod.fst ((hcopy hfirst).mp first)
      obtain rfl := congrArg Prod.snd ((hcopy hfirst).mp first)
      exact (ih hrest).mp others

/-- Copying ends, with the copy that is made with enough depth. -/
theorem copies_iff (hsource : source.WellFormed) :
    ∀ {depth : Nat} {doc : Document} {id : NodeId} {made : NodeId × Document},
      source.Fits depth id →
        (Copies source doc id made ↔ made = copyWithin source depth doc id) := by
  intro depth
  induction depth with
  | zero =>
    intro doc id made hfits
    -- with no depth left there is nothing to copy below the node
    have hchildren : source.children id = [] :=
      List.eq_nil_iff_forall_not_mem.mpr fun c hc => hfits c (hsource.holds_iff.mpr (Or.inl hc))
    constructor
    · intro h
      cases h with
      | plain _ below =>
        rw [hchildren] at below
        cases below
        rfl
      | template hcontents _ _ => exact absurd (Or.inr hcontents) (hfits _)
    · rintro rfl
      refine .plain (Option.eq_none_iff_forall_not_mem.mpr fun c hc => hfits c (Or.inr hc)) ?_
      rw [hchildren]
      exact .nil
  | succ depth ih =>
    intro doc id made hfits
    have hchildren : ∀ child ∈ source.children id, source.Fits depth child := fun child hchild =>
      hfits child (hsource.holds_iff.mpr (Or.inl hchild))
    have hall : ∀ {copy : NodeId} {cur doc' : Document},
        CopiesAll source copy (source.children id) cur doc' ↔
          doc' = appendCopies source depth copy (source.children id) cur :=
      copiesAll_iff ih (source.children id) hchildren
    constructor
    · intro h
      cases h with
      | plain hcontents below =>
        rw [copyWithin_of_none hcontents, hall.mp below]
        rfl
      | template hcontents hinner below =>
        -- the contents are copied before the node, so what follows begins with them
        have hmade := (ih (hfits _ (Or.inr hcontents))).mp hinner
        rw [copyWithin_of_some hcontents, ← hmade, hall.mp below]
        rfl
    · rintro rfl
      cases hcontents : source.contents? id with
      | none =>
        rw [copyWithin_of_none hcontents]
        exact .plain hcontents (hall.mpr rfl)
      | some contents =>
        rw [copyWithin_of_some hcontents]
        exact .template hcontents ((ih (hfits _ (Or.inr hcontents))).mpr rfl) (hall.mpr rfl)

/-! ## What was there -/

theorem node_eq_links (doc : Document) (x : NodeId) : doc.node x =
    ⟨doc.parent? x, doc.first? x, doc.last? x, doc.previous? x, doc.next? x, doc.data x⟩ := rfl

/-- The links of a node are told by the lists and the parents, so a node that keeps its data and
its parent stays as it is when all lists stay. -/
theorem WellFormed.node_eq_of_stays (h : doc.WellFormed) (h' : doc'.WellFormed)
    (hstays : ∀ x, doc.Has x → StaysAt doc doc' x) (hx : doc.Has x)
    (hparent : doc'.parent? x = doc.parent? x) : doc'.node x = doc.node x := by
  obtain ⟨-, hdata, hchildren⟩ := hstays x hx
  have hfirst : doc'.first? x = doc.first? x := by rw [h'.first, h.first, hchildren]
  have hlast : doc'.last? x = doc.last? x := by rw [h'.last, h.last, hchildren]
  have hsiblings : doc'.previous? x = doc.previous? x ∧ doc'.next? x = doc.next? x := by
    cases hp : doc.parent? x with
    | none =>
      obtain ⟨hprevious, hnext⟩ := h.alone x hp
      obtain ⟨hprevious', hnext'⟩ := h'.alone x (hparent.trans hp)
      exact ⟨hprevious'.trans hprevious.symm, hnext'.trans hnext.symm⟩
    | some p =>
      obtain ⟨before, after, hrow⟩ := List.append_of_mem (h.isParent_iff.mp hp)
      obtain ⟨hprevious, hnext⟩ := h.siblings p before x after hrow
      obtain ⟨hprevious', hnext'⟩ := h'.siblings p before x after
        ((hstays p (IsForest.has_parent h hp)).children.trans hrow)
      exact ⟨hprevious'.trans hprevious.symm, hnext'.trans hnext.symm⟩
  obtain ⟨hprevious, hnext⟩ := hsiblings
  rw [node_eq_links, node_eq_links, hparent, hfirst, hlast, hprevious, hnext, hdata]

/-! ## The text of a copy -/

section

variable {original : NodeId → NodeId}
  (h : Traces source doc doc' original id copy (source.children id))

include h

/-- A new node has the text of its original. -/
theorem Traces.ownText_eq (hx : IsNew doc doc' x) :
    doc'.ownText x = source.ownText (original x) := by
  rw [ownText, ownText, (h.mirrors hx).data]
  cases source.data (original x) <;> rfl

/-- The first child of a new node has the first child of the original as its own original. -/
theorem Traces.first?_eq (hsource : source.WellFormed) (hx : IsNew doc doc' x) :
    source.first? (original x) = (doc'.first? x).map original := by
  rw [hsource.first, h.copied.wellFormed.first, ← (h.mirrors hx).children, List.head?_map]

/-- A copy is written with a line end at its beginning just if its original is. -/
theorem Traces.needsLineEnd_eq (hsource : source.WellFormed) (hx : IsNew doc doc' x)
    (element : Element) (contents : Option NodeId) :
    Writer.needsLineEnd doc' { element with contents } x =
      Writer.needsLineEnd source element (original x) := by
  rw [Writer.needsLineEnd, Writer.needsLineEnd, h.first?_eq hsource hx]
  cases hfirst : doc'.first? x with
  | none => rfl
  | some c =>
    have hc : doc'.Holds x c := by
      rw [h.copied.wellFormed.first] at hfirst
      exact h.copied.wellFormed.holds_iff.mpr (Or.inl (List.mem_of_head? hfirst))
    rw [Option.map_some, Option.map_some, Option.map_some, h.ownText_eq (h.isNew_of_holds hx hc)]
    rfl

/-- Copies are written like their originals, level by level. -/
theorem Traces.writer_eq (hsource : source.WellFormed) :
    ∀ (depth : Nat) (around : Writer.Surroundings) (x : NodeId), IsNew doc doc' x →
      Writer.node doc' depth around x = Writer.node source depth around (original x) := by
  intro depth
  induction depth with
  | zero => intro around x _; rfl
  | succ depth ih =>
    intro around x hx
    have hmirrors := h.mirrors hx
    have hinner : ∀ (within : Writer.Surroundings) (p : NodeId), IsNew doc doc' p →
        (doc'.children p).flatMap (Writer.node doc' depth within) =
          (source.children (original p)).flatMap (Writer.node source depth within) := by
      intro within p hp
      rw [← (h.mirrors hp).children, List.flatMap_map]
      exact List.flatMap_congr fun c hc => ih within c ((h.mirrors hp).new c (Or.inl hc))
    rw [Writer.node, Writer.node, hmirrors.data]
    cases hdata : source.data (original x) with
    | document => exact hinner around x hx
    | element element =>
      -- a template is written with its contents in the place of its children
      have hcontents : (doc'.contents? x).map original = element.contents := by
        rw [hmirrors.contents, contents?, element?, hdata]
        rfl
      have hheld : ∃ p, (doc'.contents? x).getD x = p ∧ IsNew doc doc' p ∧
          element.contents.getD (original x) = original p := by
        rw [← hcontents]
        cases hc : doc'.contents? x with
        | none => exact ⟨x, rfl, hx, rfl⟩
        | some c => exact ⟨c, rfl, hmirrors.new c (Or.inr hc), rfl⟩
      obtain ⟨p, hp, hnew, horiginal⟩ := hheld
      simp only [copiedData, h.needsLineEnd_eq hsource hx, hp, horiginal, hinner _ p hnew]
      rfl
    | _ => rfl

end

/-- The text of a node depends on the number of levels only where its children depend on it, or
those of its contents. -/
theorem writer_congr {levels levels' : Nat}
    (hinner : ∀ p, p = x ∨ doc.contents? x = some p → ∀ c ∈ doc.children p, ∀ around,
      Writer.node doc levels around c = Writer.node doc levels' around c)
    (around : Writer.Surroundings) :
    Writer.node doc (levels + 1) around x = Writer.node doc (levels' + 1) around x := by
  have hrow : ∀ (within : Writer.Surroundings) (p : NodeId), p = x ∨ doc.contents? x = some p →
      (doc.children p).flatMap (Writer.node doc levels within) =
        (doc.children p).flatMap (Writer.node doc levels' within) :=
    fun within p hp => List.flatMap_congr fun c hc => hinner p hp c hc within
  rw [Writer.node, Writer.node]
  cases hdata : doc.data x with
  | document => exact hrow around x (Or.inl rfl)
  | element element =>
    have hheld : element.contents.getD x = x ∨
        doc.contents? x = some (element.contents.getD x) := by
      rw [contents?, element?, hdata]
      show _ ∨ element.contents = _
      cases element.contents with
      | none => exact Or.inl rfl
      | some c => exact Or.inr rfl
    simp only [hrow _ _ hheld]
  | _ => rfl

/-- What fits into fewer levels than are written is written in full. -/
theorem WellFormed.writer_eq_of_fits (h : doc.WellFormed) :
    ∀ (depth : Nat) (x : NodeId), doc.Fits depth x → ∀ (levels levels' : Nat)
      (around : Writer.Surroundings), depth < levels → depth < levels' →
        Writer.node doc levels around x = Writer.node doc levels' around x := by
  intro depth
  induction depth with
  | zero =>
    intro x hfits levels levels' around hlevels hlevels'
    obtain ⟨levels, rfl⟩ : ∃ k, levels = k + 1 := ⟨levels - 1, by omega⟩
    obtain ⟨levels', rfl⟩ : ∃ k, levels' = k + 1 := ⟨levels' - 1, by omega⟩
    refine writer_congr (fun p hp c hc => ?_) around
    rcases hp with rfl | hp
    · exact absurd (h.holds_iff.mpr (Or.inl hc)) (hfits c)
    · exact absurd (Or.inr hp) (hfits p)
  | succ depth ih =>
    intro x hfits levels levels' around hlevels hlevels'
    obtain ⟨levels, rfl⟩ : ∃ k, levels = k + 1 := ⟨levels - 1, by omega⟩
    obtain ⟨levels', rfl⟩ : ∃ k, levels' = k + 1 := ⟨levels' - 1, by omega⟩
    refine writer_congr (fun p hp c hc around => ?_) around
    have hheld : doc.Holds p c := h.holds_iff.mpr (Or.inl hc)
    refine ih c ?_ levels levels' around (by omega) (by omega)
    rcases hp with rfl | hp
    · exact hfits c hheld
    · exact (hfits p (Or.inr hp)).succ c hheld

/-- Copies are written with the same text as their originals. -/
theorem Traces.renderNode_eq {original : NodeId → NodeId}
    (h : Traces source doc doc' original id copy (source.children id))
    (hdoc' : doc'.IsGrounded) (hsource : source.IsGrounded) :
    doc'.renderNode copy = source.renderNode id := by
  have hfits := hdoc'.acyclic.fits hdoc'.wellFormed copy
  have hfits' := hsource.acyclic.fits hsource.wellFormed id
  -- levels enough for both documents
  have hlevels : doc'.size < doc'.size + source.size + 1 := by omega
  have hlevels' : source.size < doc'.size + source.size + 1 := by omega
  refine congrArg String.ofList ?_
  calc Writer.node doc' (doc'.size + 1) {} copy
      = Writer.node doc' (doc'.size + source.size + 1) {} copy :=
        hdoc'.wellFormed.writer_eq_of_fits doc'.size copy hfits _ _ _ (Nat.lt_succ_self _) hlevels
    _ = Writer.node source (doc'.size + source.size + 1) {} id := by
        rw [h.writer_eq hsource.wellFormed _ _ copy h.isNew_copy, h.original_copy]
    _ = Writer.node source (source.size + 1) {} id :=
        hsource.wellFormed.writer_eq_of_fits source.size id hfits' _ _ _ hlevels'
          (Nat.lt_succ_self _)

/-! ## Taking a node over -/

/-- Taking a node over from another document ends. The copy is a new node that nothing holds. What
is inside it are the new nodes, and each of them is what its original is and holds copies of what
that holds, contents included; the originals are what is inside the node that was taken over, and
each has one copy if nothing is held twice. All nodes that were there stay as they were, and the
copy is written with the text of the original. -/
theorem IsGrounded.exists_copyFrom_eq (hdoc : doc.IsGrounded) (hsource : source.IsGrounded)
    (id : NodeId) : ∃ copy doc', doc.copyFrom source id = (copy, doc') ∧
      (∀ made, Copies source doc id made ↔ made = (copy, doc')) ∧
      doc'.IsGrounded ∧
      IsNew doc doc' copy ∧
      (∀ p, ¬doc'.Holds p copy) ∧ doc'.previous? copy = none ∧ doc'.next? copy = none ∧
      (∀ x, doc.Has x → doc'.node x = doc.node x) ∧
      (∃ original : NodeId → NodeId, original copy = id ∧
        (∀ x, doc'.Enclosed x copy ↔ IsNew doc doc' x) ∧
        (∀ x, doc'.Enclosed x copy →
          Mirrors source doc doc' original (source.children (original x)) x) ∧
        (∀ y, source.Enclosed y id ↔ ∃ x, doc'.Enclosed x copy ∧ original x = y) ∧
        (source.HoldsOnce → ∀ x y, doc'.Enclosed x copy → doc'.Enclosed y copy →
          original x = original y → x = y)) ∧
      doc'.renderNode copy = source.renderNode id := by
  have hfits := hsource.acyclic.fits hsource.wellFormed id
  obtain ⟨original, htraces⟩ :=
    exists_traces hsource.wellFormed source.size doc id hfits hdoc.wellFormed
  have hstays : ∀ x, doc.Has x → StaysAt doc (copyWithin source source.size doc id).2 x :=
    fun x => staysAt_copyWithin source source.size doc id x hdoc.wellFormed
  have hcopies : ∀ made, Copies source doc id made ↔ made = copyWithin source source.size doc id :=
    fun _ => copies_iff hsource.wellFormed hfits
  rw [copyFrom]
  generalize copyWithin source source.size doc id = result at *
  obtain ⟨copy, doc'⟩ := result
  dsimp only at htraces hstays
  have hgrounded := htraces.isGrounded hdoc hsource hstays
  have hwell := hgrounded.wellFormed
  have halone := hwell.alone copy htraces.copied.alone
  refine ⟨copy, doc', rfl, hcopies, hgrounded, htraces.isNew_copy,
    htraces.not_holds_copy hdoc hsource hstays, halone.1, halone.2, fun x hx => ?_,
    ⟨original, htraces.original_copy, fun x => htraces.enclosed_iff, fun x hx => ?_, fun y => ?_,
      fun honce x y hx hy => ?_⟩, htraces.renderNode_eq hgrounded hsource⟩
  · exact hdoc.wellFormed.node_eq_of_stays hwell hstays hx (htraces.copied.grows.parent x hx)
  · exact htraces.mirrors (htraces.enclosed_iff.mp hx)
  · simp only [htraces.enclosed_iff]
    exact htraces.enclosed_original_iff hsource.wellFormed
  · exact htraces.injective hsource honce (htraces.enclosed_iff.mp hx)
      (htraces.enclosed_iff.mp hy)

/-- A card with attributes and a template in it, in whose contents there is a paragraph. -/
def cardEdits : List Edit :=
  [.createElement "div" [("id", "a"), ("class", "b")], .appendChild root ⟨1⟩,
    .createNamed (.html "template") [], .appendChild ⟨1⟩ ⟨3⟩, .createElement "p" [],
    .appendChild ⟨2⟩ ⟨4⟩, .appendText ⟨4⟩ "x"]

def cardPage : Document := applyAll {} cardEdits

/-- The contents of the template were made before it. -/
theorem isGrounded_cardPage : cardPage.IsGrounded :=
  (WellFormed.empty.applyAll cardEdits (by decide +kernel) cardEdits.length).isGrounded_of_rank
    (fun x => [0, 1, 3, 2, 4, 5].getD x.index 0) (by decide +kernel)

/-- A list without items. -/
def shelfEdits : List Edit := [.createElement "ul" [], .appendChild root ⟨1⟩]

def shelfPage : Document := applyAll {} shelfEdits

/-- The list without items was made by edits that are permitted. -/
theorem isGrounded_shelfPage : shelfPage.IsGrounded :=
  (WellFormed.empty.applyAll shelfEdits (by decide +kernel) shelfEdits.length).isGrounded_of_rank
    NodeId.index (by decide +kernel)

/-- The number of the contents of the card's template is the number of the copy itself in the other
page. The template in the copy has contents with a number of their own. -/
theorem exists_copyFrom_eq_card : ∃ copy doc', shelfPage.copyFrom cardPage ⟨1⟩ = (copy, doc') ∧
    copy = ⟨2⟩ ∧ cardPage.contents? ⟨3⟩ = some ⟨2⟩ ∧ doc'.contents? ⟨6⟩ = some ⟨3⟩ ∧
    IsNew shelfPage doc' ⟨3⟩ ∧ doc'.node ⟨1⟩ = shelfPage.node ⟨1⟩ ∧
    doc'.renderNode copy =
      "<div id=\"a\" class=\"b\"><template><p>x</p></template></div>" := by
  obtain ⟨copy, doc', heq, -, -, -, -, -, -, hold, ⟨original, -, hinside, hmirrors, -⟩, htext⟩ :=
    isGrounded_shelfPage.exists_copyFrom_eq isGrounded_cardPage ⟨1⟩
  have hcopy : copy = ⟨2⟩ := (congrArg Prod.fst heq).symm.trans (by decide +kernel)
  have hdoc : doc' = (shelfPage.copyFrom cardPage ⟨1⟩).2 := (congrArg Prod.snd heq).symm
  have htemplate : IsNew shelfPage doc' ⟨6⟩ := by
    rw [hdoc]
    exact ⟨by decide +kernel, by decide +kernel⟩
  have hcontents : doc'.contents? ⟨6⟩ = some ⟨3⟩ := by
    rw [hdoc]
    decide +kernel
  refine ⟨copy, doc', heq, hcopy, by decide +kernel, hcontents, ?_,
    hold ⟨1⟩ (by decide +kernel), ?_⟩
  · exact (hmirrors ⟨6⟩ ((hinside ⟨6⟩).mpr htemplate)).new ⟨3⟩ (Or.inr hcontents)
  · rw [htext]
    decide +kernel

end ComposingProxy.Markup.Document
