import ComposingProxy.Markup.Document

/-!
# Document order

The children of a node, its ancestors, and its subtree in document order, found by
following links. A walk takes no more steps than the document has nodes, which is
enough in every well-formed one.
-/

namespace ComposingProxy.Markup.Document

/-- The nodes reached one after the other by a link, at most `steps` of them. -/
def follow (link : NodeId → Option NodeId) : Nat → Option NodeId → List NodeId
  | 0, _ | _, none => []
  | steps + 1, some id => id :: follow link steps (link id)

/-- The children of a node in order. -/
def children (doc : Document) (id : NodeId) : List NodeId :=
  follow doc.next? doc.size (doc.first? id)

/-- The ancestors of a node, nearest first. -/
def ancestors (doc : Document) (id : NodeId) : List NodeId :=
  follow doc.parent? doc.size (doc.parent? id)

/-- The next sibling of a node or of its nearest ancestor below `top` that has one. -/
def nextAbove? (doc : Document) (top : NodeId) : Nat → NodeId → Option NodeId
  | 0, _ => none
  | steps + 1, id =>
    if id = top then none
    else
      match doc.next? id with
      | some sibling => some sibling
      | none =>
        match doc.parent? id with
        | some parent => doc.nextAbove? top steps parent
        | none => none

/-- The node after another one in the document order of the subtree of `top`. -/
def after? (doc : Document) (top id : NodeId) : Option NodeId :=
  match doc.first? id with
  | some child => some child
  | none => doc.nextAbove? top doc.size id

/-- The subtree of a node in document order, the node itself first. -/
def subtree (doc : Document) (id : NodeId) : List NodeId :=
  follow (doc.after? id) doc.size (some id)

/-! ## Finding nodes -/

/-- The first element of a name in a subtree that satisfies a test. -/
def findWhere? (doc : Document) (tag : String) (test : Element → Bool) (top : NodeId) :
    Option NodeId :=
  (doc.subtree top).find? fun id =>
    match doc.element? id with
    | some element => element.tag == tag && test element
    | none => false

/-- The first element of a name in a subtree. -/
def find? (doc : Document) (tag : String) (top : NodeId := root) : Option NodeId :=
  doc.findWhere? tag (fun _ => true) top

/-- The first element of a subtree with an id. -/
def findId? (doc : Document) (id : String) (top : NodeId := root) : Option NodeId :=
  (doc.subtree top).find? fun node => ((doc.element? node).bind (·.attr? "id")) == some id

/-- The head of a page. -/
def head? (doc : Document) : Option NodeId := doc.find? "head"

/-- The body of a page. -/
def body? (doc : Document) : Option NodeId := doc.find? "body"

/-- The text of a node, if it is one. -/
def ownText (doc : Document) (id : NodeId) : String :=
  match doc.data id with
  | .text value => value
  | _ => ""

/-- All text of a subtree. -/
def collectText (doc : Document) (top : NodeId) : String :=
  String.join ((doc.subtree top).map doc.ownText)

end ComposingProxy.Markup.Document
