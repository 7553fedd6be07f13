import ComposingProxy.Markup.Reader
import ComposingProxy.Proofs.Markup.ScriptText
import ComposingProxy.Proofs.Tree.Texts

/-!
# Reading a script

A reading that stands in an empty script puts the text up to the end tag into it, character
by character, and goes on behind the end tag:

> `Reading.AtScript.readText`: a text that a script can have in it is read as it is written.
> `Reading.AtScript.collectText_afterScript`: it is all that the script holds then.
> `Reading.atScript_startTag`: in the head of a page a start tag leads there.
-/

namespace ComposingProxy.Markup

/-! ## Characters in a script -/

namespace Construction

variable {page : Construction} {script : NodeId}

/-- The newest open element is an HTML script, and what comes is text in it. -/
structure InScript (page : Construction) (script : NodeId) : Prop where
  wellFormed : page.doc.WellFormed
  has : page.doc.Has script
  element : ∃ element, page.doc.element? script = some element ∧
    element.name = .html "script" ∧ element.contents = none
  current : page.current? = some script
  adjusted : page.adjustedCurrent? = some script
  mode : page.mode = .text
  keepsLineEnd : page.dropsLineEnd = false

/-- The page after characters were added to the text of a script. -/
def typeText (page : Construction) (script : NodeId) (chars : List Char) : Construction :=
  { page with doc := page.doc.typeText script chars }

namespace InScript

/-- The element in which reading stands is an HTML script. -/
theorem nameOf (h : page.InScript script) : page.nameOf script = .html "script" := by
  obtain ⟨element, helement, hname, -⟩ := h.element
  rw [Construction.nameOf, helement]
  exact hname

/-- A script has no contents apart from its children. -/
theorem inside (h : page.InScript script) : page.inside script = script := by
  obtain ⟨element, helement, -, hcontents⟩ := h.element
  rw [Construction.inside, helement, Option.bind_some, hcontents]
  rfl

/-- Text goes into the script. -/
theorem addCharacter (h : page.InScript script) (c : Char) :
    page.addCharacter c = page.typeText script [c] := by
  have hplace : page.place = .lastOf script := by
    rw [place, h.current, Option.getD_some, placeIn, h.nameOf, h.inside, if_neg]
    rw [show (Name.html "script").isOneOf tableTags = false by decide, Bool.and_false]
    exact Bool.false_ne_true
  rw [Construction.addCharacter, hplace]
  rfl

/-- A script is read by the rules for HTML. -/
theorem not_isForeign (h : page.InScript script) (token : Token) :
    page.isForeign token = false := by
  rw [isForeign, h.adjusted, Option.map_some, h.nameOf]
  rfl

/-- A token that is neither a line end to drop nor one of the few that no mode sees is read by
the rules of the mode. -/
theorem takeAgain (h : page.InScript script) (token : Token) (rounds : Nat)
    (hnext : ∀ mode, (page.inText token).next ≠ .again mode) :
    takeAgain token (rounds + 1) page = page.inText token := by
  have hmode : page.inMode token = page.inText token := by rw [inMode, h.mode]
  rw [Construction.takeAgain, h.not_isForeign, if_neg Bool.false_ne_true, hmode]
  dsimp only
  split
  · next mode hmode => exact absurd hmode (hnext mode)
  · rfl

theorem keepLineEnd (h : page.InScript script) : { page with dropsLineEnd := false } = page :=
  congrArg (fun drops => { page with dropsLineEnd := drops }) h.keepsLineEnd.symm

/-- A character is added to the text of the script. -/
theorem take_character (h : page.InScript script) (c : Char) :
    page.take (.character c) = (page.typeText script [c]).done := by
  unfold take
  rw [h.keepsLineEnd, h.keepLineEnd]
  show Construction.takeAgain (.character c) (4 * page.openElements.length + 20) page = _
  rw [h.takeAgain (.character c) _ fun _ hmode => Continuation.noConfusion hmode]
  show (page.addCharacter c).done = _
  rw [h.addCharacter]

/-- The end tag closes the script, and the page is read on as it was before the script. -/
theorem take_endTag (h : page.InScript script) :
    page.take (.endTag { name := "script" }) =
      ({ page.pop with mode := page.nextMode } : Construction).paused := by
  unfold take
  rw [h.keepsLineEnd, h.keepLineEnd]
  show Construction.takeAgain (.endTag { name := "script" }) (4 * page.openElements.length + 20)
    page = _
  exact h.takeAgain (.endTag { name := "script" }) _ fun _ hmode => Continuation.noConfusion hmode

/-- The page still stands in the script when characters were added to it. -/
theorem typeText (h : page.InScript script) (chars : List Char) :
    (page.typeText script chars).InScript script := by
  obtain ⟨hwell, hhas, helement⟩ := h.wellFormed.typeText h.has chars
  exact { h with
    wellFormed := hwell
    has := hhas
    element := by
      obtain ⟨element, hscript, hrest⟩ := h.element
      exact ⟨element, helement.trans hscript, hrest⟩ }

end InScript

end Construction

/-! ## The text of a script -/

namespace Reading

open TextState (ScriptState Continues)

variable {reading : Reading} {script : NodeId} {given pending : List Char}

/-- The reading stands in the text of an HTML script. -/
structure InScript (reading : Reading) (script : NodeId) : Prop where
  page : reading.page.InScript script
  opened : reading.opened = some "script"
  runs : reading.pausing = false

/-- The reading in another state, after characters were added to the text of a script. -/
def typeText (reading : Reading) (script : NodeId) (chars : List Char) (state : TextState) :
    Reading :=
  { reading with page := reading.page.typeText script chars, state }

/-- Characters that are added in two runs are added in one. -/
theorem typeText_typeText (reading : Reading) (script : NodeId) (front back : List Char)
    (state state' : TextState) :
    (reading.typeText script front state).typeText script back state' =
      reading.typeText script (front ++ back) state' := by
  unfold typeText Construction.typeText
  rw [Document.typeText_append]

theorem InScript.typeText (h : reading.InScript script) (chars : List Char) (state : TextState) :
    (reading.typeText script chars state).InScript script :=
  ⟨h.page.typeText chars, h.opened, h.runs⟩

/-- Tokens that are characters are added to the script in their order. -/
theorem InScript.takeAll_characters (h : reading.InScript script) (chars : List Char) :
    reading.takeAll (chars.map Token.character) = reading.typeText script chars reading.state := by
  induction chars generalizing reading with
  | nil => rfl
  | cons c chars ih =>
    have htake : reading.take (.character c) = reading.typeText script [c] reading.state := by
      unfold take
      rw [h.page.take_character c]
      show { reading with page := reading.page.typeText script [c], pausing := false } = _
      rw [← h.runs]
      rfl
    show (reading.take (.character c)).takeAll (chars.map Token.character) = _
    rw [htake, ih (h.typeText [c] reading.state)]
    exact reading.typeText_typeText script [c] chars _ _

/-- A character whose step only gives out characters. -/
theorem InScript.readText_cons (h : reading.InScript script) {c : Char} {rest chars : List Char}
    {state : TextState}
    (hstep : reading.state.step (some "script") reading.isForeign c rest =
      { state, tokens := chars.map Token.character }) :
    reading.readText 0 (c :: rest) = (reading.typeText script chars state).readText 0 rest := by
  have hsame : { reading with state, pausing := false } = reading.typeText script [] state := by
    rw [← h.runs]
    rfl
  have hread : reading.readCharacter c rest = (0, reading.typeText script chars state) := by
    rw [← h.opened] at hstep
    unfold readCharacter
    rw [hstep]
    dsimp only
    rw [hsame, (h.typeText [] state).takeAll_characters, typeText_typeText, List.nil_append]
    have hunmarked : (reading.typeText script chars state).isMarked rest = false := by
      show (reading.pausing && _ && _) = false
      rw [h.runs]
      rfl
    show ((if (reading.typeText script chars state).isMarked rest then 1 else 0), _) = _
    rw [hunmarked]
    rfl
  rw [readText, hread]

/-- The text of a script, up to where it ends or may end. -/
theorem InScript.readText_append (h : reading.InScript script)
    (hstate : ScriptState given pending reading.state) {text : List Char}
    (htext : IsScriptText (given ++ pending ++ text)) (rest : List Char) :
    ∃ chars pending' state, pending ++ text = chars ++ pending' ∧
      ScriptState (given ++ chars) pending' state ∧
      reading.readText 0 (text ++ rest) =
        (reading.typeText script chars state).readText 0 rest := by
  induction text generalizing reading given pending with
  | nil =>
    exact ⟨[], pending, reading.state, List.append_nil _, by rwa [List.append_nil], rfl⟩
  | cons c text ih =>
    have hone : IsScriptText (given ++ pending ++ [c]) := by
      rw [List.append_cons] at htext
      exact htext.of_append
    obtain ⟨first, kept, state, hstep, hfirst, hnext⟩ :=
      hstate.step hone reading.isForeign (text ++ rest)
    have hsplit : given ++ pending ++ c :: text = given ++ first ++ kept ++ text := by
      rw [List.append_cons, List.append_assoc given pending, hfirst]
      simp only [List.append_assoc]
    obtain ⟨chars, pending', state', hchars, hlast, hrest⟩ :=
      ih (h.typeText first state) hnext (hsplit ▸ htext)
    refine ⟨first ++ chars, pending', state', ?_, ?_, ?_⟩
    · rw [List.append_cons, hfirst, List.append_assoc, hchars, List.append_assoc]
    · rwa [← List.append_assoc]
    · rw [List.cons_append, h.readText_cons hstep, hrest, typeText_typeText]

/-! ## The end of a script -/

/-- The reading after the end tag of the newest open element, a script. -/
def closeScript (reading : Reading) : Reading :=
  { reading with
    page := { reading.page.pop with mode := reading.page.nextMode }
    state := .data
    pausing := true }

/-- How many characters are dropped behind a script, where a mark of the order of bytes
begins a new piece. -/
def skipped (reading : Reading) (rest : List Char) : Nat :=
  if reading.isMarked rest then 1 else 0

/-- The last character of the end tag closes the script. -/
theorem InScript.readText_last (h : reading.InScript script)
    (hstate : reading.state = .rawEndTagName .script "script") (rest : List Char) :
    reading.readText 0 ('>' :: rest) =
      reading.closeScript.readText (reading.closeScript.skipped rest) rest := by
  have hstep : reading.state.step reading.opened reading.isForeign '>' rest =
      { state := .data, tokens := [.endTag { name := "script" }] } := by
    rw [hstate, h.opened]
    rfl
  have htake : ({ reading with state := .data, pausing := false } : Reading).take
      (.endTag { name := "script" }) = reading.closeScript := by
    unfold take
    rw [h.page.take_endTag]
    rfl
  have hread : reading.readCharacter '>' rest =
      (reading.closeScript.skipped rest, reading.closeScript) := by
    unfold readCharacter
    rw [hstep]
    show ((if (({ reading with state := .data, pausing := false } : Reading).take
        (.endTag { name := "script" })).isMarked rest then 1 else 0), _) = _
    rw [htake]
    exact congrArg (Prod.mk _) htake
  rw [readText, hread]

/-- The bracket that ends a script has the slash, the name and the other bracket after it. -/
theorem InScript.readText_slash (h : reading.InScript script)
    (hstate : reading.state = .rawTagOpen .script) (rest : List Char) :
    reading.readText 0 ("/script>".toList ++ rest) =
      reading.closeScript.readText (reading.closeScript.skipped rest) rest := by
  have hquiet : ∀ {reading : Reading} {c : Char} {rest : List Char} (state : TextState),
      reading.InScript script →
      reading.state.step (some "script") reading.isForeign c rest = { state } →
      reading.readText 0 (c :: rest) = (reading.typeText script [] state).readText 0 rest :=
    fun state h hstep => h.readText_cons hstep
  show reading.readText 0 ('/' :: 's' :: 'c' :: 'r' :: 'i' :: 'p' :: 't' :: '>' :: rest) = _
  rw [hquiet (.rawEndTagOpen .script) h (by rw [hstate]; rfl),
    hquiet (.rawEndTagName .script "s") (h.typeText _ _) rfl, typeText_typeText,
    hquiet (.rawEndTagName .script "sc") (h.typeText _ _) rfl, typeText_typeText,
    hquiet (.rawEndTagName .script "scr") (h.typeText _ _) rfl, typeText_typeText,
    hquiet (.rawEndTagName .script "scri") (h.typeText _ _) rfl, typeText_typeText,
    hquiet (.rawEndTagName .script "scrip") (h.typeText _ _) rfl, typeText_typeText,
    hquiet (.rawEndTagName .script "script") (h.typeText _ _) rfl, typeText_typeText]
  exact (h.typeText [] _).readText_last rfl rest

/-- What a script holds up to its end tag, and the reading behind it. -/
theorem InScript.readText_endTag (h : reading.InScript script)
    (hstate : ScriptState given pending reading.state) (htext : IsScriptText (given ++ pending))
    (rest : List Char) :
    reading.readText 0 ("</script>".toList ++ rest) =
      (reading.typeText script pending .data).closeScript.readText
        ((reading.typeText script pending .data).closeScript.skipped rest) rest := by
  have hstep := hstate.step_bracket htext reading.isForeign ("/script>".toList ++ rest)
  show reading.readText 0 ('<' :: ("/script>".toList ++ rest)) = _
  rw [h.readText_cons hstep]
  exact (h.typeText pending _).readText_slash rfl rest

/-- The reading behind a script with a text. -/
def afterScript (reading : Reading) (script : NodeId) (text : List Char) : Reading :=
  (reading.typeText script text .data).closeScript

/-- The reading stands at the beginning of an HTML script, which is empty so far. -/
structure AtScript (reading : Reading) (script : NodeId) : Prop where
  inScript : reading.InScript script
  state : reading.state = .raw .script
  empty : reading.page.doc.children script = []

/-- Reading the input puts the text into the script, and goes on with `rest` behind it. -/
structure EndsScript (reading : Reading) (script : NodeId) (input text rest : List Char) :
    Prop where
  readText : reading.readText 0 input = (reading.afterScript script text).readText
    ((reading.afterScript script text).skipped rest) rest
  collectText : (reading.afterScript script text).page.doc.collectText script = String.ofList text

/-- A text that a script can have in it is read as it is written, up to the end tag. -/
theorem AtScript.readText (h : reading.AtScript script) {text : List Char}
    (htext : IsScriptText text) (rest : List Char) :
    reading.readText 0 (text ++ "</script>".toList ++ rest) =
      (reading.afterScript script text).readText
        ((reading.afterScript script text).skipped rest) rest := by
  have hstart : ScriptState [] [] reading.state := h.state ▸ .text []
  obtain ⟨chars, pending, state, hchars, hlast, hread⟩ :=
    h.inScript.readText_append hstart htext ("</script>".toList ++ rest)
  have hend := (h.inScript.typeText chars state).readText_endTag hlast (hchars ▸ htext) rest
  rw [List.nil_append] at hchars
  rw [List.append_assoc, hread, hend, typeText_typeText, ← hchars, afterScript]

/-- The text that was read is all that the script holds. -/
theorem AtScript.collectText_afterScript (h : reading.AtScript script) {text : List Char}
    (htext : text ≠ []) :
    (reading.afterScript script text).page.doc.collectText script = String.ofList text := by
  have hpage := h.inScript.page
  obtain ⟨hwell, -, hsame⟩ := hpage.wellFormed.typeText hpage.has text
  obtain ⟨child, hholds⟩ :=
    hpage.wellFormed.exists_holdsText_typeText hpage.has h.empty htext
  obtain ⟨element, helement, -⟩ := hpage.element
  exact hholds.collectText hwell (Document.ownText_of_element? (hsame.trans helement))

theorem AtScript.endsScript (h : reading.AtScript script) {text : List Char}
    (htext : IsScriptText text) (hne : text ≠ []) (rest : List Char) :
    reading.EndsScript script (text ++ "</script>".toList ++ rest) text rest :=
  ⟨h.readText htext rest, h.collectText_afterScript hne⟩

end Reading

/-! ## The beginning of a script -/

namespace Construction

variable {page : Construction} {top : NodeId} {tag : Tag}

/-- The element of the start tag of a script. -/
def scriptOf (page : Construction) (tag : Tag) : NodeId :=
  (page.doc.create (.element { name := .html "script", attrs := tag.attrs })).1

/-- The document with the element of the start tag of a script in another element. -/
def openedIn (page : Construction) (top : NodeId) (tag : Tag) : Document :=
  (page.doc.create (.element { name := .html "script", attrs := tag.attrs })).2.appendChild top
    (page.scriptOf tag)

/-- Where new elements go into the newest open one, a script does too, and reads its text. -/
theorem openRaw_script (hcurrent : page.current? = some top) (hhas : page.doc.Has top)
    (hinside : page.inside top = top) (hfoster : page.fostering = false)
    (htag : tag.name = "script") :
    page.openRaw tag .script =
      { page := { page with
          doc := page.openedIn top tag
          openElements := page.scriptOf tag :: page.openElements
          nextMode := page.mode
          mode := .text }
        next := .raw .script } := by
  have hcreate : page.createElement (.html "script") tag.attrs = (page.scriptOf tag, { page with
      doc := (page.doc.create (.element { name := .html "script", attrs := tag.attrs })).2 }) := by
    rw [createElement, if_neg (by decide)]
    rfl
  have hplace : ({ page with doc := (page.doc.create
      (.element { name := .html "script", attrs := tag.attrs })).2 } : Construction).place =
        .lastOf top := by
    -- nothing is moved in front of a table
    show placeIn _ (page.current?.getD Document.root) = _
    rw [hcurrent, Option.getD_some, placeIn, hfoster, Bool.false_and, if_neg Bool.false_ne_true,
      inside, Document.element?, Document.data_create_of_has _ hhas]
    exact congrArg Place.lastOf hinside
  unfold openRaw openTag openElement addElement
  rw [htag, hcreate]
  dsimp only
  rw [hplace]
  rfl

/-- Opening a script in a node leads into the script. -/
theorem inScript_openRaw (hwell : page.doc.WellFormed) (hcurrent : page.current? = some top)
    (hhas : page.doc.Has top) (hinside : page.inside top = top) (hfoster : page.fostering = false)
    (hline : page.dropsLineEnd = false) (htag : tag.name = "script") :
    (page.openRaw tag .script).page.InScript (page.scriptOf tag) := by
  rw [openRaw_script hcurrent hhas hinside hfoster htag]
  exact {
    wellFormed := hwell.appendCreated hhas _
    has := Document.has_appendCreated hwell hhas _ (Document.has_created _ _)
    element := by
      refine ⟨{ name := .html "script", attrs := tag.attrs }, ?_, rfl, rfl⟩
      show (page.openedIn top tag).element? (page.scriptOf tag) = _
      rw [openedIn, Document.element?, Document.data_appendChild, scriptOf, Document.data_created]
    current := rfl
    adjusted := by
      obtain ⟨older, holder⟩ : ∃ older, page.openElements = top :: older :=
        List.head?_eq_some_iff.mp hcurrent
      unfold adjustedCurrent?
      rw [holder]
      rfl
    mode := rfl
    keepsLineEnd := hline }

/-- In the head the start tag of a script opens it as raw text. -/
theorem inHead_script (page : Construction) (htag : tag.name = "script") :
    page.inHead (.startTag tag) = page.openRaw tag .script := by
  unfold inHead
  dsimp only
  rw [htag]
  rfl

/-- The newest open element is the head of the page. -/
structure InHead (page : Construction) (head : NodeId) : Prop where
  wellFormed : page.doc.WellFormed
  has : page.doc.Has head
  element : ∃ element, page.doc.element? head = some element ∧
    element.name = .html "head" ∧ element.contents = none
  current : page.current? = some head
  adjusted : page.adjustedCurrent? = some head
  mode : page.mode = .inHead
  settled : page.fostering = false

theorem InHead.inside {head : NodeId} (h : page.InHead head) : page.inside head = head := by
  obtain ⟨element, helement, -, hcontents⟩ := h.element
  rw [Construction.inside, helement, Option.bind_some, hcontents]
  rfl

theorem InHead.keepLineEnd {head : NodeId} (h : page.InHead head) :
    ({ page with dropsLineEnd := false } : Construction).InHead head :=
  ⟨h.wellFormed, h.has, h.element, h.current, h.adjusted, h.mode, h.settled⟩

/-- In the head a script is opened whatever happened to line ends before. -/
theorem InHead.take_script {head : NodeId} (h : page.InHead head) (htag : tag.name = "script") :
    page.take (.startTag tag) = { page with dropsLineEnd := false }.openRaw tag .script := by
  obtain ⟨element, helement, hname, -⟩ := h.element
  have hhtml : page.nameOf head = .html "head" := by
    rw [nameOf, helement]
    exact hname
  have hforeign : ({ page with dropsLineEnd := false } : Construction).isForeign
      (.startTag tag) = false := by
    have hname : ({ page with dropsLineEnd := false } : Construction).adjustedCurrent?.map
        ({ page with dropsLineEnd := false } : Construction).nameOf = some (.html "head") :=
      (congrArg (Option.map page.nameOf) h.adjusted).trans (congrArg some hhtml)
    rw [isForeign, hname]
    rfl
  have hmode : ({ page with dropsLineEnd := false } : Construction).inMode (.startTag tag) =
      { page with dropsLineEnd := false }.openRaw tag .script := by
    unfold inMode
    rw [show ({ page with dropsLineEnd := false } : Construction).mode = .inHead from h.mode]
    exact inHead_script _ htag
  unfold take
  rw [show (page.dropsLineEnd && Token.startTag tag == .character '\n') = false from
    Bool.and_false _]
  show takeAgain (.startTag tag) (4 * page.openElements.length + 19 + 1)
    { page with dropsLineEnd := false } = _
  rw [takeAgain, hforeign, if_neg Bool.false_ne_true, hmode]
  rfl

end Construction

/-- In the head of a page the start tag of a script begins one without text. -/
theorem Reading.atScript_startTag {reading : Reading} {head : NodeId}
    (h : reading.page.InHead head) {tag : Tag} (htag : tag.name = "script") :
    (reading.take (.startTag tag)).AtScript (reading.page.scriptOf tag) := by
  have hbase := h.keepLineEnd
  have hopen := Construction.openRaw_script hbase.current hbase.has hbase.inside hbase.settled htag
  have hscript := Construction.inScript_openRaw hbase.wellFormed hbase.current hbase.has
    hbase.inside hbase.settled rfl htag
  unfold take
  rw [h.take_script htag]
  refine ⟨⟨hscript, congrArg some htag, ?_⟩, ?_, ?_⟩
  · rw [hopen]
    rfl
  · rw [hopen]
  · have hnew : ¬reading.page.doc.Has (reading.page.scriptOf tag) := Document.not_has_created _ _
    have hne : reading.page.scriptOf tag ≠ head := by
      intro heq
      exact hnew (heq ▸ h.has)
    rw [hopen]
    show (reading.page.openedIn head tag).children _ = []
    exact (h.wellFormed.children_appendCreated h.has _ _).trans
      ((if_neg hne).trans (Document.IsForest.kids_eq_nil h.wellFormed hnew))

/-- A page that begins with the start tag of its head is in its head then. -/
theorem inHead_headTag :
    (({} : Reading).take (.startTag { name := "head" })).page.InHead ⟨2⟩ where
  wellFormed := by
    let edits : List Document.Edit := [.createElement "html" [], .appendChild Document.root ⟨1⟩,
      .createElement "head" [], .appendChild ⟨1⟩ ⟨2⟩]
    have hpage : (({} : Reading).take (.startTag { name := "head" })).page.doc =
        Document.applyAll {} (edits.take 4) := by decide +kernel
    rw [hpage]
    exact Document.WellFormed.empty.applyAll edits (by decide +kernel) 4
  has := by decide +kernel
  element := ⟨{ name := .html "head" }, by decide +kernel, rfl, rfl⟩
  current := by decide +kernel
  adjusted := by decide +kernel
  mode := by decide +kernel
  settled := by decide +kernel

/-- So a page can come to where a script begins. -/
theorem atScript_headTag :
    let reading := ({} : Reading).take (.startTag { name := "head" })
    (reading.take (.startTag { name := "script" })).AtScript
      (reading.page.scriptOf { name := "script" }) :=
  Reading.atScript_startTag inHead_headTag rfl

end ComposingProxy.Markup
