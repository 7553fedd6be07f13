import ComposingProxy.Proofs.Markup.EscapedText
import ComposingProxy.Proofs.Markup.Parsing

/-!
# Pages with one element in the body

The page whose body holds one element is known node by node (`withElement`, `withText`), so what is
written for it is a text that can be spelled out (`Document.render_withText`), and each tag of that
text is read from a page that is known. Only the characters of the element are of no fixed length,
and for these it is enough that reading adds them to the element:

> `Reading.readText_markup`: the text of such a page is read as the page again, with the characters
> that the element keeps.

The end tags behind the element are read whatever the document has become by then
(`Construction.AtEnd`).
-/

namespace ComposingProxy.Markup

deriving instance DecidableEq for Construction
deriving instance DecidableEq for Reading

namespace Document

/-! ## The pages node by node -/

/-- The page whose body has a node as its only child, with the nodes in the body. -/
def around (child : Option NodeId) (nodes : List Node) : Document :=
  ⟨({ first := some ⟨1⟩, last := some ⟨1⟩, data := .document } ::
    { parent := some ⟨0⟩, first := some ⟨2⟩, last := some ⟨3⟩,
      data := .element { name := .html "html" } } ::
    { parent := some ⟨1⟩, next := some ⟨3⟩, data := .element { name := .html "head" } } ::
    { parent := some ⟨1⟩, first := child, last := child, previous := some ⟨2⟩,
      data := .element { name := .html "body" } } :: nodes).toArray⟩

/-- The page whose body holds nothing. -/
def blank : Document := around none []

/-- The element of the pages that follow. -/
def single : NodeId := ⟨4⟩

/-- The page whose body holds an element that holds nothing. -/
def withElement (tag : String) : Document :=
  around (some single) [{ parent := some ⟨3⟩, data := .element { name := .html tag } }]

/-- The page whose body holds an element that holds a text. -/
def withText (tag text : String) : Document :=
  around (some single)
    [{ parent := some ⟨3⟩, first := some ⟨5⟩, last := some ⟨5⟩,
       data := .element { name := .html tag } },
     { parent := some single, data := .text text }]

/-- Nothing is read as a page whose head and body hold nothing. -/
theorem ofText_empty : ofText "" = blank := by decide +kernel

variable {tag : String}

/-- The first text of the element is a node of its own. -/
theorem appendText_withElement (tag text : String) :
    (withElement tag).appendText single text = withText tag text := by
  simp [appendText, createText, create, withElement, withText, appendChild, detach, setFirst,
    setLast, modify, parent?, last?, next?, previous?, node, around, single]

/-- More text is joined with the one that the element holds. -/
theorem appendText_withText (tag text more : String) :
    (withText tag text).appendText single more = withText tag (text ++ more) := by
  have hlast : ((withText tag text).last? single).filter (withText tag text).isText =
      some ⟨5⟩ := rfl
  rw [appendText, hlast]
  simp [extendText, modifyData, withText, modify, around]

/-- The page whose body holds an element with a text, or with nothing if the text is empty. -/
def holdingChars (tag : String) (chars : List Char) : Document :=
  if chars = [] then withElement tag else withText tag (String.ofList chars)

/-- Characters that are added one by one make one text. -/
theorem typeText_withElement (tag : String) (chars : List Char) :
    (withElement tag).typeText single chars = holdingChars tag chars := by
  have hmore : ∀ (chars : List Char) (text : String),
      (withText tag text).typeText single chars = withText tag (text ++ String.ofList chars) := by
    intro chars
    induction chars with
    | nil => intro text; rw [String.ofList_nil, String.append_empty]; rfl
    | cons c chars ih =>
      intro text
      rw [typeText_cons, appendText_withText, ih, String.append_assoc, ← String.ofList_cons]
  cases chars with
  | nil => rfl
  | cons c chars =>
    rw [typeText_cons, appendText_withElement, hmore, ← String.ofList_cons, holdingChars,
      if_neg (List.cons_ne_nil c chars)]

/-! ## What the pages hold -/

/-- The elements whose text is read with its references. -/
def textTags : List String := ["p", "pre", "textarea", "listing"]

theorem subtree_withElement (tag : String) :
    (withElement tag).subtree root = [⟨0⟩, ⟨1⟩, ⟨2⟩, ⟨3⟩, single] := rfl

theorem subtree_withText (tag text : String) :
    (withText tag text).subtree root = [⟨0⟩, ⟨1⟩, ⟨2⟩, ⟨3⟩, single, ⟨5⟩] := rfl

/-- The page has one element of the name. -/
theorem filter_isElement_holdingChars (htag : tag ∈ textTags) (chars : List Char) :
    ((holdingChars tag chars).subtree root).filter ((holdingChars tag chars).isElement · tag) =
      [single] := by
  have hnames : ("html" == tag) = false ∧ ("head" == tag) = false ∧ ("body" == tag) = false := by
    revert tag
    decide
  unfold holdingChars
  split
  · rw [subtree_withElement]
    simp [isElement, element?, data, node, withElement, around, single, Element.tag, Name.html,
      hnames]
  · rw [subtree_withText]
    simp [isElement, element?, data, node, withText, around, single, Element.tag, Name.html, hnames]

/-- The text of the element is what was put into it. -/
theorem collectText_holdingChars (tag : String) (chars : List Char) :
    (holdingChars tag chars).collectText single = String.ofList chars := by
  unfold holdingChars
  split
  · next hchars =>
    subst hchars
    rfl
  · show String.join ["", String.ofList chars] = _
    simp [String.join]

/-! ## Writing -/

/-- An element without attributes is written as its tags around what its children write, with a
line end where a reader drops one. -/
theorem node_element {doc : Document} {id : NodeId}
    (hdata : doc.data id = .element { name := .html tag })
    (hraw : Writer.rawTextTags.elem tag = false) (hempty : Writer.emptyTags.elem tag = false)
    (depth : Nat) :
    Writer.node doc (depth + 1) {} id = withStartTag tag
      ((if Writer.needsLineEnd doc { name := .html tag } id then ['\n'] else []) ++
        (doc.children id).flatMap (Writer.node doc depth {}) ++ withEndTag tag []) := by
  have hinside : ({} : Writer.Surroundings).inside { name := .html tag } = {} := by
    have hflags : Writer.rawTextTags.elem tag = false ∧ Writer.emptyTags.elem tag = false :=
      ⟨hraw, hempty⟩
    simpa [Writer.Surroundings.inside, Element.tag, Name.html] using hflags
  rw [Writer.node, hdata]
  dsimp only
  rw [hinside]
  simp [Writer.startTag, Writer.endTag, Element.tag, Name.html, withStartTag, withEndTag]

/-- The text of a page whose body holds an element with characters. -/
def markup (tag : String) (chars : List Char) : List Char :=
  withStartTag "html" (withStartTag "head" (withEndTag "head" (withStartTag "body"
    (withStartTag tag (chars.flatMap Writer.escapeText ++
      withEndTag tag (withEndTag "body" (withEndTag "html" [])))))))

/-- The characters that are written for a text, with one for the line end that a reader drops. -/
def writtenChars (tag : String) (text : List Char) : List Char :=
  if Writer.lineEndTags.elem tag = true ∧ text.head? = some '\n' then '\n' :: text else text

/-- The page is written as its markup, with one more line end where a reader drops one. -/
theorem render_withText (htag : tag ∈ textTags) (text : String) :
    (withText tag text).render.toList = markup tag (writtenChars tag text.toList) := by
  have hplain : Writer.rawTextTags.elem tag = false ∧ Writer.emptyTags.elem tag = false := by
    revert tag
    decide
  -- the nodes of the page and their children, from the outside in
  have hroot : (withText tag text).children root = [⟨1⟩] := rfl
  have hhtml : (withText tag text).data ⟨1⟩ = .element { name := .html "html" } ∧
      (withText tag text).children ⟨1⟩ = [⟨2⟩, ⟨3⟩] := ⟨rfl, rfl⟩
  have hhead : (withText tag text).data ⟨2⟩ = .element { name := .html "head" } ∧
      (withText tag text).children ⟨2⟩ = [] := ⟨rfl, rfl⟩
  have hbody : (withText tag text).data ⟨3⟩ = .element { name := .html "body" } ∧
      (withText tag text).children ⟨3⟩ = [single] := ⟨rfl, rfl⟩
  have helement : (withText tag text).data single = .element { name := .html tag } ∧
      (withText tag text).children single = [⟨5⟩] := ⟨rfl, rfl⟩
  have htext : Writer.node (withText tag text) 3 {} ⟨5⟩ =
      text.toList.flatMap Writer.escapeText := rfl
  have hline : Writer.needsLineEnd (withText tag text) { name := .html tag } single =
      (Writer.lineEndTags.elem tag && text.toList.head? == some '\n') := rfl
  have hnone : ∀ id name, Writer.lineEndTags.elem name = false →
      Writer.needsLineEnd (withText tag text) { name := .html name } id = false := by
    intro id name hname
    show (true && Writer.lineEndTags.elem name && _) = false
    rw [hname]
    rfl
  show (String.ofList (((withText tag text).children root).flatMap
    (Writer.node (withText tag text) 6 {}))).toList = _
  rw [String.toList_ofList, hroot, List.flatMap_singleton,
    node_element hhtml.1 (by decide) (by decide), hnone _ _ (by decide), hhtml.2, List.flatMap_cons,
    List.flatMap_singleton, node_element hhead.1 (by decide) (by decide), hnone _ _ (by decide),
    hhead.2, node_element hbody.1 (by decide) (by decide), hnone _ _ (by decide), hbody.2,
    List.flatMap_singleton, node_element helement.1 hplain.1 hplain.2, hline, helement.2,
    List.flatMap_singleton, htext]
  have hwritten : (if (Writer.lineEndTags.elem tag && text.toList.head? == some '\n') = true
      then ['\n'] else []) ++ text.toList.flatMap Writer.escapeText =
        (writtenChars tag text.toList).flatMap Writer.escapeText := by
    unfold writtenChars
    simp only [Bool.and_eq_true, beq_iff_eq]
    split
    · rfl
    · rfl
  rw [hwritten, markup]
  simp only [List.append_assoc, withStartTag_append, withEndTag_append, List.nil_append,
    List.flatMap_nil, Bool.false_eq_true, if_false]

end Document

open Document

/-! ## Closing what is open -/

namespace Construction

variable {page : Construction} {id : NodeId} {older : List NodeId} {tag : String} {token : Token}

/-- The newest open element is in every scope. -/
theorem hasInScope_current (hopen : page.openElements = id :: older)
    (hname : page.nameOf id = .html tag) (scope : Scope) : page.hasInScope scope tag = true := by
  rw [hasInScope, inScope, hopen, inScope.go, hname]
  simp [Name.isHtml, Name.html]

/-- An element that needs its end tag is not closed without one. -/
theorem closeImplied_current (hopen : page.openElements = id :: older)
    (hname : page.nameOf id = .html tag) {tags : List String} (htag : tags.elem tag = false) :
    page.closeImplied tags = page := by
  have hkept : (page.nameOf id).isOneOf tags = false := by
    rw [hname, Name.isOneOf]
    exact Bool.and_eq_false_imp.mpr fun _ => htag
  rw [closeImplied, hopen, List.dropWhile_cons_of_neg (by simpa using hkept), ← hopen]

/-- Closing elements down to the newest one closes just that one. -/
theorem popThroughHtml_current (hopen : page.openElements = id :: older)
    (hname : page.nameOf id = .html tag) :
    page.popThroughHtml tag = { page with openElements := older } := by
  have hfound : (page.nameOf id).isHtml tag = true := by simp [hname, Name.isHtml, Name.html]
  rw [popThroughHtml, popThrough, popWhileNot, hopen,
    List.dropWhile_cons_of_neg (by simpa using hfound)]
  rfl

/-- The end tag of the newest open element closes it. -/
theorem inBody_endTag (hopen : page.openElements = id :: older)
    (hname : page.nameOf id = .html tag) (htag : tag ∈ ["p", "pre", "listing"]) :
    page.inBody (.endTag { name := tag }) =
      ({ page with openElements := older } : Construction).done := by
  have hscope := hasInScope_current hopen hname
  have hpop := popThroughHtml_current hopen hname
  simp only [List.mem_cons, List.not_mem_nil, or_false] at htag
  rcases htag with rfl | rfl | rfl
  · show ((if page.hasInScope .button "p" then page else _ : Construction).closeParagraph).done = _
    rw [hscope, if_pos rfl, closeParagraph, closeImpliedExcept,
      closeImplied_current hopen hname (by decide), hpop]
  · show (if page.hasInScope .default "pre" then _ else _ : Construction).done = _
    rw [hscope, if_pos rfl, closeImplied_current hopen hname (by decide), hpop]
  · show (if page.hasInScope .default "listing" then _ else _ : Construction).done = _
    rw [hscope, if_pos rfl, closeImplied_current hopen hname (by decide), hpop]

/-- The document is complete, and only the end tags of the body and around it are to come. -/
structure AtEnd (page : Construction) : Prop where
  mode : page.mode = .inBody
  opened : page.openElements = [⟨3⟩, ⟨1⟩]
  body : page.nameOf ⟨3⟩ = .html "body"
  isPage : page.context = none
  keepsLineEnd : page.dropsLineEnd = false

namespace AtEnd

theorem adjusted (h : page.AtEnd) : page.adjustedCurrent? = some ⟨3⟩ := by
  rw [adjustedCurrent?, h.opened]
  rfl

theorem space_body (h : page.AtEnd) : (page.nameOf ⟨3⟩).space = .html := by
  rw [h.body]
  rfl

/-- The end tag of the body leads behind it. -/
theorem take_body (h : page.AtEnd) : page.take (.endTag { name := "body" }) =
    ({ page with mode := .afterBody } : Construction).done := by
  refine take_of_inMode h.adjusted h.space_body h.keepsLineEnd ⟨by rintro ⟨⟩, by rintro _ ⟨⟩⟩ ?_
  rw [inMode, h.mode]
  show (if page.hasInScope .default "body" then _ else _ : Construction).done = _
  rw [hasInScope_current h.opened h.body, if_pos rfl]

/-- The end tag of the root element leads behind that. -/
theorem take_html (h : page.AtEnd) :
    ({ page with mode := .afterBody } : Construction).take (.endTag { name := "html" }) =
      ({ page with mode := .afterAfterBody } : Construction).done := by
  refine take_of_inMode h.adjusted h.space_body h.keepsLineEnd ⟨by rintro ⟨⟩, by rintro _ ⟨⟩⟩ ?_
  show (if page.context.isSome then _ else _ : Construction).done = _
  rw [h.isPage]
  rfl

/-- The end of the text behind the root element changes nothing. -/
theorem take_finish (h : page.AtEnd) :
    ({ page with mode := .afterAfterBody } : Construction).take .finish =
      ({ page with mode := .afterAfterBody } : Construction).done :=
  take_of_inMode h.adjusted h.space_body h.keepsLineEnd ⟨by rintro ⟨⟩, by rintro _ ⟨⟩⟩ rfl

end AtEnd

end Construction

namespace Reading

variable {reading : Reading} {page : Construction} {tag : String}

/-- Where an end tag is done with, the reading only has another page and stands in text. -/
theorem takeTag_endTag (hruns : reading.pausing = false)
    (h : reading.page.take (.endTag { name := tag }) = page.done) :
    reading.takeTag (.endTag { name := tag }) = { reading with page, state := .data } := by
  unfold takeTag take
  rw [show (reading.inState .data).page.take (.endTag { name := tag }) = page.done from h]
  show ({ reading with page, state := .data, pausing := false } : Reading) = _
  rw [← hruns]

/-- An end tag among text that the page takes without more. -/
theorem readText_done (reading : Reading) (hstate : reading.state = .data)
    (hruns : reading.pausing = false) (hname : IsPlainName tag)
    (h : reading.page.take (.endTag { name := tag }) = page.done) (rest : List Char) :
    reading.readText 0 (withEndTag tag rest) =
      ({ reading with page, state := .data } : Reading).readText 0 rest := by
  have htake := takeTag_endTag hruns h
  have hgoes : (reading.takeTag (.endTag { name := tag })).pausing = false := by
    rw [htake]
    exact hruns
  rw [reading.readText_endTag hstate hruns hname hgoes, htake]

/-- The reading among text, with its page in another mode. -/
def enter (reading : Reading) (mode : Mode) : Reading :=
  { reading with page := { reading.page with mode }, state := .data }

/-- What is left to read when the document is complete adds nothing to it. -/
theorem readText_end (h : reading.page.AtEnd) (hstate : reading.state = .data)
    (hruns : reading.pausing = false) :
    (reading.readText 0 (withEndTag "body" (withEndTag "html" []))).page.doc =
      reading.page.doc := by
  have hbody : reading.readText 0 (withEndTag "body" (withEndTag "html" [])) =
      (reading.enter .afterBody).readText 0 (withEndTag "html" []) :=
    reading.readText_done hstate hruns (by decide +kernel) h.take_body _
  have hhtml : (reading.enter .afterBody).readText 0 (withEndTag "html" []) =
      (reading.enter .afterAfterBody).readText 0 [] :=
    (reading.enter .afterBody).readText_done rfl hruns (by decide +kernel) h.take_html []
  rw [hbody, hhtml]
  show ((reading.enter .afterAfterBody).page.take .finish).page.doc = _
  rw [show (reading.enter .afterAfterBody).page.take .finish = _ from h.take_finish]
  rfl

/-! ## Reading the pages -/

/-- The reading at the beginning of the body of a page. -/
def inBody : Reading where
  page :=
    { doc := blank
      mode := .inBody
      openElements := [⟨3⟩, ⟨1⟩]
      head := some ⟨2⟩
      isLegacy := true
      framesetAllowed := false }
  opened := some "body"

/-- The reading at the beginning of an element in the body. -/
def inElement (tag : String) : Reading where
  page :=
    { doc := withElement tag
      mode := if tag = "textarea" then .text else .inBody
      nextMode := if tag = "textarea" then .inBody else .initial
      openElements := [single, ⟨3⟩, ⟨1⟩]
      head := some ⟨2⟩
      isLegacy := true
      framesetAllowed := false
      dropsLineEnd := Writer.lineEndTags.elem tag }
  state := if tag = "textarea" then .raw .escapable else .data
  opened := some tag

/-- The reading of a text that is cut at other places. -/
def cutAt (reading : Reading) (seams : List Nat) : Reading := { reading with seams }

/-- The reading stands among tags, and does not pause. -/
def IsAmongTags (reading : Reading) : Prop := reading.state = .data ∧ reading.pausing = false

instance (reading : Reading) : Decidable reading.IsAmongTags :=
  inferInstanceAs (Decidable (_ ∧ _))

/-- A start tag without attributes is read as one token. -/
theorem IsAmongTags.readText_startTag (h : reading.IsAmongTags) (hname : IsPlainName tag)
    (hnext : (reading.takeTag (.startTag { name := tag })).pausing = false) (seams : List Nat)
    (rest : List Char) :
    (reading.cutAt seams).readText 0 (withStartTag tag rest) =
      ((reading.takeTag (.startTag { name := tag })).cutAt seams).readText 0 rest :=
  (reading.cutAt seams).readText_startTag h.1 h.2 hname hnext rest

/-- An end tag is read as one token. -/
theorem IsAmongTags.readText_endTag (h : reading.IsAmongTags) (hname : IsPlainName tag)
    (hnext : (reading.takeTag (.endTag { name := tag })).pausing = false) (seams : List Nat)
    (rest : List Char) :
    (reading.cutAt seams).readText 0 (withEndTag tag rest) =
      ((reading.takeTag (.endTag { name := tag })).cutAt seams).readText 0 rest :=
  (reading.cutAt seams).readText_endTag h.1 h.2 hname hnext rest

/-- The tags in front of the body lead to its beginning; the page is small enough to be read
outright. -/
theorem takeTags_inBody : (((({} : Reading).takeTag (.startTag { name := "html" })).takeTag
    (.startTag { name := "head" })).takeTag (.endTag { name := "head" })).takeTag
      (.startTag { name := "body" }) = inBody := by
  decide +kernel

/-- The tags in front of the body. -/
theorem readText_inBody (seams : List Nat) (rest : List Char) :
    (cutAt {} seams).readText 0 (withStartTag "html" (withStartTag "head" (withEndTag "head"
      (withStartTag "body" rest)))) = (inBody.cutAt seams).readText 0 rest := by
  -- the readings get names, since rewriting would work them out where they stand in full
  obtain ⟨html, hhtml⟩ : ∃ html, html = ({} : Reading).takeTag (.startTag { name := "html" }) :=
    ⟨_, rfl⟩
  obtain ⟨head, hhead⟩ : ∃ head, head = html.takeTag (.startTag { name := "head" }) := ⟨_, rfl⟩
  obtain ⟨body, hbody⟩ : ∃ body, body = head.takeTag (.endTag { name := "head" }) := ⟨_, rfl⟩
  have hopen : body.takeTag (.startTag { name := "body" }) = inBody := by
    rw [hbody, hhead, hhtml, takeTags_inBody]
  have hall : html.IsAmongTags ∧ head.IsAmongTags ∧ body.IsAmongTags := by
    rw [hbody, hhead, hhtml]
    decide +kernel
  obtain ⟨hhtml', hhead', hbody'⟩ := hall
  rw [IsAmongTags.readText_startTag ⟨rfl, rfl⟩ (by decide +kernel) (hhtml ▸ hhtml'.2), ← hhtml,
    hhtml'.readText_startTag (by decide +kernel) (hhead ▸ hhead'.2), ← hhead,
    hhead'.readText_endTag (by decide +kernel) (hbody ▸ hbody'.2), ← hbody,
    hbody'.readText_startTag (by decide +kernel) (by rw [hopen]; rfl), hopen]

theorem isPlainName_of_mem : ∀ tag ∈ textTags, IsPlainName tag := by decide +kernel

/-- The start tag of the element leads to its beginning. -/
theorem takeTag_inElement : ∀ tag ∈ textTags,
    inBody.takeTag (.startTag { name := tag }) = inElement tag := by
  decide +kernel

/-- The start tag of the element is read, however the text behind it is cut into pieces. -/
theorem readText_inElement (htag : tag ∈ textTags) (seams : List Nat) (rest : List Char) :
    (inBody.cutAt seams).readText 0 (withStartTag tag rest) =
      ((inElement tag).cutAt seams).readText 0 rest := by
  have htake := takeTag_inElement tag htag
  have hstart : inBody.IsAmongTags := ⟨rfl, rfl⟩
  rw [hstart.readText_startTag (isPlainName_of_mem tag htag) (by rw [htake]; rfl), htake]

/-! ## The element -/

/-- The page at the beginning of the element was read, so it is sound. -/
theorem sound_inElement (htag : tag ∈ textTags) : (inElement tag).page.Sound := by
  have hbody : inBody.page.Sound := by
    rw [← takeTags_inBody]
    exact (((Construction.sound_empty.take _).take _).take _).take _
  rw [← takeTag_inElement tag htag]
  exact hbody.take _

/-- The reading stands in the text of the element once no line end is dropped. -/
theorem inText_inElement (htag : tag ∈ textTags) (seams : List Nat) :
    ((inElement tag).cutAt seams).keepingLineEnd.InText single where
  page := {
    wellFormed := (sound_inElement htag).nested.wellFormed
    has := show 4 < 5 by decide
    element := by
      refine ⟨{ name := .html tag }, rfl, rfl, ?_, rfl⟩
      revert tag
      decide
    current := rfl
    adjusted := rfl
    mode := by
      show (if tag = "textarea" then Mode.text else .inBody) = .inBody ∨
        (if tag = "textarea" then Mode.text else .inBody) = .text
      split
      · exact .inr rfl
      · exact .inl rfl
    unformatted := rfl
    hasContent := rfl
    keepsLineEnd := rfl }
  state := by
    show TextState.ReadsReferences (if tag = "textarea" then _ else _)
    split
    · exact .inr rfl
    · exact .inl rfl
  runs := rfl

/-- The page in the element, with a document that may have grown. -/
def filledPage (tag : String) (doc : Document) : Construction :=
  { (inElement tag).page with doc, dropsLineEnd := false }

/-- The page behind the element. -/
def closedPage (tag : String) (doc : Document) : Construction :=
  { filledPage tag doc with mode := .inBody, openElements := [⟨3⟩, ⟨1⟩] }

/-- The end tag of the element goes back to the body. -/
theorem take_filledPage (htag : tag ∈ textTags) {doc : Document}
    (hname : (filledPage tag doc).nameOf single = .html tag) :
    (filledPage tag doc).take (.endTag { name := tag }) = (closedPage tag doc).done := by
  have hspace : ((filledPage tag doc).nameOf single).space = .html := by
    rw [hname]
    rfl
  refine Construction.take_of_inMode rfl hspace rfl ⟨by rintro ⟨⟩, by rintro _ ⟨⟩⟩ ?_
  by_cases htext : tag = "textarea"
  · subst htext
    rfl
  · have hmode : (filledPage tag doc).mode = .inBody := if_neg htext
    have hopen : (filledPage tag doc).openElements = [single, ⟨3⟩, ⟨1⟩] := rfl
    have hblock : tag ∈ ["p", "pre", "listing"] := by simpa [textTags, htext] using htag
    have hbody : (filledPage tag doc).inMode (.endTag { name := tag }) =
        (filledPage tag doc).inBody (.endTag { name := tag }) := by
      rw [Construction.inMode, hmode]
    rw [hbody, Construction.inBody_endTag hopen hname hblock, closedPage, ← hmode]

theorem element?_holdingChars (tag : String) (chars : List Char) :
    (holdingChars tag chars).element? single = some { name := .html tag } ∧
      (holdingChars tag chars).element? ⟨3⟩ = some { name := .html "body" } := by
  unfold holdingChars
  split
  · exact ⟨rfl, rfl⟩
  · exact ⟨rfl, rfl⟩

/-- The text of a page whose body holds an element is read as that page, with the text that the
element keeps. -/
theorem readText_markup (htag : tag ∈ textTags) {chars : List Char} (hzero : '\x00' ∉ chars)
    (seams : List Nat) :
    ((cutAt {} seams).readText 0 (markup tag chars)).page.doc =
      holdingChars tag (keptText (Writer.lineEndTags.elem tag) chars) := by
  -- of the document, all that the last tags look at is the names of two elements
  obtain ⟨doc, hdoc⟩ :
      ∃ doc, doc = holdingChars tag (keptText (Writer.lineEndTags.elem tag) chars) := ⟨_, rfl⟩
  obtain ⟨hsingle, hbody⟩ : doc.element? single = some { name := .html tag } ∧
      doc.element? ⟨3⟩ = some { name := .html "body" } := hdoc ▸ element?_holdingChars tag _
  obtain ⟨filled, hfilled⟩ :
      ∃ filled, filled = ((inElement tag).cutAt seams).fill single chars := ⟨_, rfl⟩
  have hpage : filled.page = filledPage tag doc := by
    rw [hfilled, hdoc, ← typeText_withElement]
    rfl
  have hruns : filled.pausing = false := hfilled ▸ rfl
  have htake : filled.page.take (.endTag { name := tag }) = (closedPage tag doc).done := by
    rw [hpage, take_filledPage htag]
    rw [Construction.nameOf, filledPage, hsingle]
    rfl
  have hclose := takeTag_endTag hruns htake
  have hend : (closedPage tag doc).AtEnd :=
    ⟨rfl, rfl, by rw [Construction.nameOf, closedPage, filledPage, hbody]; rfl, rfl, rfl⟩
  have hread := (inText_inElement htag seams).readText_element hzero (isPlainName_of_mem tag htag)
    rfl (by rw [← hfilled, hclose]; exact hruns) (withEndTag "body" (withEndTag "html" []))
  rw [markup, readText_inBody, readText_inElement htag, hread, ← hfilled, hclose, ← hdoc]
  exact readText_end hend rfl hruns

end Reading

end ComposingProxy.Markup
