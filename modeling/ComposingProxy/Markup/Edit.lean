import ComposingProxy.Markup.Order

/-!
# Editing documents

Taking nodes out of a document and putting them in: every edit keeps the links of the
nodes around it in step. A node that is put somewhere is first taken from where it was.
-/

namespace ComposingProxy.Markup.Document

/-! ## Links -/

/-- Links a node to its first child. -/
def setFirst (doc : Document) (id : NodeId) (value : Option NodeId) : Document :=
  doc.modify id fun node => { node with first := value }

/-- Links a node to its last child. -/
def setLast (doc : Document) (id : NodeId) (value : Option NodeId) : Document :=
  doc.modify id fun node => { node with last := value }

/-- Links a node to the sibling in front of it. -/
def setPrevious (doc : Document) (id : NodeId) (value : Option NodeId) : Document :=
  doc.modify id fun node => { node with previous := value }

/-- Links a node to the sibling after it. -/
def setNext (doc : Document) (id : NodeId) (value : Option NodeId) : Document :=
  doc.modify id fun node => { node with next := value }

/-! ## Single nodes -/

/-- Takes a node with its subtree out of its parent. -/
def detach (doc : Document) (id : NodeId) : Document :=
  let parent := doc.parent? id
  let previous := doc.previous? id
  let next := doc.next? id
  let doc :=
    match previous, parent with
    | some previous, _ => doc.setNext previous next
    | none, some parent => doc.setFirst parent next
    | none, none => doc
  let doc :=
    match next, parent with
    | some next, _ => doc.setPrevious next previous
    | none, some parent => doc.setLast parent previous
    | none, none => doc
  doc.modify id fun node => { node with parent := none, previous := none, next := none }

/-- Puts a node after the children of another one. -/
def appendChild (doc : Document) (parent child : NodeId) : Document :=
  let doc := doc.detach child
  let last := doc.last? parent
  let doc := doc.modify child fun node => { node with parent := some parent, previous := last }
  let doc :=
    match last with
    | some last => doc.setNext last (some child)
    | none => doc.setFirst parent (some child)
  doc.setLast parent (some child)

/-- Puts a node directly before another one; nothing happens if that one has no parent. -/
def insertBefore (doc : Document) (sibling child : NodeId) : Document :=
  match doc.parent? sibling with
  | none => doc
  | some parent =>
    let doc := doc.detach child
    let previous := doc.previous? sibling
    let doc := doc.modify child fun node =>
      { node with parent := some parent, previous := previous, next := some sibling }
    let doc := doc.setPrevious sibling (some child)
    match previous with
    | some previous => doc.setNext previous (some child)
    | none => doc.setFirst parent (some child)

/-- Puts a node before the children of another one. -/
def prependChild (doc : Document) (parent child : NodeId) : Document :=
  match doc.first? parent with
  | some first => doc.insertBefore first child
  | none => doc.appendChild parent child

/-! ## All children -/

/-- Takes children out, first one first, at most `steps` of them. -/
def removeFirst (doc : Document) (id : NodeId) : Nat → Document
  | 0 => doc
  | steps + 1 =>
    match doc.first? id with
    | none => doc
    | some child => (doc.detach child).removeFirst id steps

/-- Takes all children out. -/
def removeChildren (doc : Document) (id : NodeId) : Document := doc.removeFirst id doc.size

/-- Moves children to the end of another node, first one first, at most `steps` of them. -/
def moveFirst (doc : Document) (source target : NodeId) : Nat → Document
  | 0 => doc
  | steps + 1 =>
    match doc.first? source with
    | none => doc
    | some child => (doc.appendChild target child).moveFirst source target steps

/-- Moves all children of one node to the end of another one. -/
def moveChildren (doc : Document) (source target : NodeId) : Document :=
  doc.moveFirst source target doc.size

/-! ## Text -/

/-- Whether a node is a text. -/
def isText (doc : Document) (id : NodeId) : Bool :=
  match doc.data id with
  | .text _ => true
  | _ => false

/-- Adds to the end of a text; other nodes stay. -/
def extendText (doc : Document) (id : NodeId) (text : String) : Document :=
  doc.modifyData id fun data =>
    match data with
    | .text value => .text (value ++ text)
    | data => data

/-- Adds text after the children of a node, to the last one if that is a text. -/
def appendText (doc : Document) (parent : NodeId) (text : String) : Document :=
  match (doc.last? parent).filter doc.isText with
  | some last => doc.extendText last text
  | none =>
    let (id, doc) := doc.createText text
    doc.appendChild parent id

/-- Adds text before a node, to the node before it if that is a text. -/
def insertTextBefore (doc : Document) (sibling : NodeId) (text : String) : Document :=
  match (doc.previous? sibling).filter doc.isText with
  | some previous => doc.extendText previous text
  | none =>
    let (id, doc) := doc.createText text
    doc.insertBefore sibling id

/-- Makes a text the only child of a node. -/
def setText (doc : Document) (id : NodeId) (text : String) : Document :=
  let (child, doc) := (doc.removeChildren id).createText text
  doc.appendChild id child

end ComposingProxy.Markup.Document
