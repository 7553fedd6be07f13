import ComposingProxy.Markup.Order
import ComposingProxy.Text.Ascii

/-!
# Selectors

A selector is a row of compounds. A compound is a test of one element; the combinator
of a step says how the element of the step before it must stand to this one: as its
parent, or anywhere above it. An element matches if such a row of elements ends in it.
-/

namespace ComposingProxy.Markup

/-- How the element of the step before stands to the element of a step. -/
inductive Combinator where
  /-- Anywhere above it. -/
  | descendant
  /-- As its parent. -/
  | child
  deriving DecidableEq, Repr

/-- A condition on one element. -/
inductive Condition where
  | hasId (id : String)
  | hasClass (name : String)
  | hasAttr (name : String)
  | attrEquals (name value : String)
  deriving DecidableEq, Repr

/-- A test of one element: its name, if one is given, and any number of conditions. -/
structure Compound where
  tag : Option String := none
  conditions : List Condition := []
  deriving DecidableEq, Repr, Inhabited

/-- A compound and how the one before it stands to it. -/
structure Step where
  combinator : Combinator
  compound : Compound
  deriving DecidableEq, Repr

/-- A selector: a first compound and the steps after it. -/
structure Selector where
  first : Compound
  steps : List Step := []
  deriving DecidableEq, Repr

/-- Whether an element satisfies a condition. -/
def Condition.holds (element : Element) : Condition → Bool
  | .hasId id => element.attr? "id" == some id
  | .hasClass name => element.hasClass name
  | .hasAttr name => (element.attr? name).isSome
  | .attrEquals name value => element.attr? name == some value

/-- Whether an element satisfies a compound. Names are compared without case. -/
def Compound.holds (compound : Compound) (element : Element) : Bool :=
  (compound.tag.all fun tag => Text.eqIgnoringCase element.tag.toList tag.toList) &&
    compound.conditions.all (·.holds element)

/-- Whether a node is an element that satisfies a compound. -/
def Compound.holdsAt (compound : Compound) (doc : Document) (id : NodeId) : Bool :=
  ((doc.element? id).map compound.holds).getD false

namespace Selector

/-- Whether a row of elements that ends in `id` satisfies the steps, given latest first, and
before them the first compound. -/
def matchesFrom (doc : Document) (first : Compound) : List Step → NodeId → Bool
  | [], id => first.holdsAt doc id
  | step :: earlier, id =>
    step.compound.holdsAt doc id &&
      match step.combinator with
      | .child => (doc.parent? id).any (matchesFrom doc first earlier)
      | .descendant => (doc.ancestors id).any (matchesFrom doc first earlier)

/-- Whether a node matches. -/
def isMatch (selector : Selector) (doc : Document) (id : NodeId) : Bool :=
  matchesFrom doc selector.first selector.steps.reverse id

/-- The nodes below `top` that match, in document order. -/
def selectAll (selector : Selector) (doc : Document) (top : NodeId) : List NodeId :=
  (doc.subtree top).tail.filter (selector.isMatch doc)

/-- The first node below `top` that matches. -/
def selectFirst? (selector : Selector) (doc : Document) (top : NodeId) : Option NodeId :=
  (doc.subtree top).tail.find? (selector.isMatch doc)

theorem selectFirst?_eq_head? (selector : Selector) (doc : Document) (top : NodeId) :
    selector.selectFirst? doc top = (selector.selectAll doc top).head? := by
  simp [selectFirst?, selectAll, List.head?_filter]

end Selector

end ComposingProxy.Markup
