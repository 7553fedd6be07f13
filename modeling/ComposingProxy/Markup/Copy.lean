import ComposingProxy.Markup.Edit

/-!
# Copying between documents

A copy of a node with its subtree and, for templates, their contents. The copy belongs
to the document it is made in and has no parent. A copy is at most as deep as the
document it is taken from has nodes.
-/

namespace ComposingProxy.Markup.Document

/-- The data of a copy whose template contents, if any, are at `contents`. -/
def copiedData (data : NodeData) (contents : Option NodeId) : NodeData :=
  match data with
  | .element element => .element { element with contents }
  | data => data

/-- The root of the contents of a template. -/
def contents? (doc : Document) (id : NodeId) : Option NodeId :=
  (doc.element? id).bind (·.contents)

/-- Copies a node of `source` into `doc`, at most `depth` levels of it. -/
def copyWithin (source : Document) : Nat → Document → NodeId → NodeId × Document
  | 0, doc, id => doc.create (copiedData (source.data id) none)
  | depth + 1, doc, id =>
    let (contents, doc) :=
      match source.contents? id with
      | some contents =>
        let (copy, doc) := copyWithin source depth doc contents
        (some copy, doc)
      | none => (none, doc)
    let (copy, doc) := doc.create (copiedData (source.data id) contents)
    let doc := (source.children id).foldl
      (fun doc child =>
        let (childCopy, doc) := copyWithin source depth doc child
        doc.appendChild copy childCopy)
      doc
    (copy, doc)

/-- Copies a node of another document with everything in it. -/
def copyFrom (doc source : Document) (id : NodeId) : NodeId × Document :=
  copyWithin source source.size doc id

end ComposingProxy.Markup.Document
