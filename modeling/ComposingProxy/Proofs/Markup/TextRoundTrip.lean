import ComposingProxy.Proofs.Markup.Mending
import ComposingProxy.Proofs.Markup.OneElement
import ComposingProxy.Proofs.Text.Pieces

/-!
# Texts that are written and read again

A text in an element is escaped as it is written, and a line end is written in front of it where a
reader drops one. Reading the bytes of the page gives the text back, but for the marks of the order
of bytes: one that comes to stand at the beginning of a piece is dropped as if the page began
there.

> `Document.reads_back_iff`: the element is there once, and has its text, and the page is the page
> that was written, exactly if no piece begins with such a mark.

Where the pieces begin depends on the length of all that is in front, so a text with a mark in it
survives in one page and not in another (`Document.not_all_read_back`).
-/

namespace ComposingProxy.Markup

open Text (Utf8.encode Utf8.pieces)

namespace Document

variable {tag text : String}

/-! ## The page that is written -/

/-- The page of an empty text, with an element in its body that holds a text. -/
def holding (tag text : String) : Document :=
  let page := ofText ""
  match page.body? with
  | none => page
  | some body =>
    let (id, page) := page.createElement tag []
    let (child, page) := page.createText text
    (page.appendChild id child).appendChild body id

/-- The bytes of that page. -/
def heldBytes (tag text : String) : List UInt8 := Utf8.encode (holding tag text).render.toList

/-- The page that is read of these bytes. -/
def reread (tag text : String) : Document := ofBytes (heldBytes tag text)

/-- The page is made of the empty one by adding an element with a text to its body. -/
theorem holding_eq_withText (tag text : String) : holding tag text = withText tag text := by
  have hbody : blank.body? = some ⟨3⟩ := by decide +kernel
  unfold holding
  rw [ofText_empty]
  dsimp only
  rw [hbody]
  simp [createElement, createText, create, blank, withText, appendChild, detach, setFirst,
    setLast, modify, parent?, last?, next?, previous?, node, around, single, Element.ofTag]

theorem holdingChars_toList (hne : text ≠ "") :
    holdingChars tag text.toList = withText tag text := by
  rw [holdingChars, if_neg fun hnil => hne (String.toList_eq_nil_iff.mp hnil), String.ofList_toList]

/-- The tags in front of the text. -/
def front (tag : String) : List Char :=
  withStartTag "html" (withStartTag "head" (withEndTag "head" (withStartTag "body"
    (withStartTag tag []))))

/-- The tags behind the text. -/
def back (tag : String) : List Char :=
  withEndTag tag (withEndTag "body" (withEndTag "html" []))

/-- The page is written as the tags in front, the escaped characters, and the tags behind. -/
theorem markup_eq (tag : String) (chars : List Char) :
    markup tag chars = front tag ++ chars.flatMap Writer.escapeText ++ back tag := by
  simp only [markup, front, back, withStartTag_append, withEndTag_append, List.nil_append]

/-- What is written for a character is itself or one of the letters and marks of the references. -/
theorem mem_escapeText {c d : Char} (h : d ∈ Writer.escapeText c) :
    d = c ∨ d ∈ "&ampnbslgt;".toList := by
  by_cases hspecial : c = '&' ∨ c = '\xA0' ∨ c = '<' ∨ c = '>'
  · right
    have hnames : (Writer.escapeText c).all ("&ampnbslgt;".toList.elem ·) = true := by
      rcases hspecial with rfl | rfl | rfl | rfl <;> decide
    exact List.elem_iff.mp (List.all_eq_true.mp hnames d h)
  · exact .inl (List.mem_singleton.mp (escapeText_eq_self hspecial ▸ h))

/-- Neither marks nor returns are written but for those of the text. -/
theorem not_mem_front_back : ∀ tag ∈ textTags,
    (byteOrderMark ∉ front tag ∧ byteOrderMark ∉ back tag) ∧
      '\r' ∉ front tag ∧ '\r' ∉ back tag := by
  decide +kernel

/-- The characters that are written are those of the text, and maybe a line end. -/
theorem mem_writtenChars {tag : String} {text : List Char} {c : Char}
    (h : c ∈ writtenChars tag text) : c = '\n' ∨ c ∈ text := by
  unfold writtenChars at h
  split at h
  · exact List.mem_cons.mp h
  · exact .inr h

/-- The page has no carriage return if the text has none. -/
theorem not_mem_markup (htag : tag ∈ textTags) {chars : List Char} (h : '\r' ∉ chars) :
    '\r' ∉ markup tag chars := by
  obtain ⟨hfront, hback⟩ := (not_mem_front_back tag htag).2
  have hchars : '\r' ∉ chars.flatMap Writer.escapeText := by
    intro hmem
    obtain ⟨c, hc, hwritten⟩ := List.mem_flatMap.mp hmem
    rcases mem_escapeText hwritten with rfl | hname
    · exact h hc
    · exact absurd hname (by decide)
  simp [markup_eq, hfront, hback, hchars]

/-! ## What is kept of it -/

/-- The element keeps the text that was written: the line end that is dropped is the one that was
added. -/
theorem keptText_writtenChars (tag : String) (text : List Char) :
    keptText (Writer.lineEndTags.elem tag) (writtenChars tag text) = text := by
  unfold writtenChars
  by_cases hline : Writer.lineEndTags.elem tag = true ∧ text.head? = some '\n'
  · rw [if_pos hline, keptText, if_pos ⟨hline.1, rfl⟩]
    rfl
  · rw [if_neg hline, keptText, if_neg hline]

/-- An element keeps no more than was written for it. -/
theorem length_keptText_le (drops : Bool) (chars : List Char) :
    (keptText drops chars).length ≤ chars.length := by
  unfold keptText
  split
  · exact List.length_tail ▸ Nat.sub_le _ _
  · exact Nat.le_refl _

/-- With a mark that is lost, the text is not what is kept. -/
theorem length_keptText_lt {tag : String} {text chars : List Char}
    (h : LosesMarks (writtenChars tag text) chars) (hne : chars ≠ writtenChars tag text) :
    (keptText (Writer.lineEndTags.elem tag) chars).length < text.length := by
  unfold writtenChars at h hne
  by_cases hline : Writer.lineEndTags.elem tag = true ∧ text.head? = some '\n'
  · rw [if_pos hline] at h hne
    cases h with
    | keep _ h =>
      rw [keptText, if_pos ⟨hline.1, rfl⟩]
      exact h.length_lt fun heq => hne (congrArg _ heq)
  · rw [if_neg hline] at h hne
    exact Nat.lt_of_le_of_lt (length_keptText_le _ _) (h.length_lt hne)

/-! ## The page that is read -/

/-- The marks that a page loses are all in the text: its tags have none. -/
theorem losesMarks_markup (htag : tag ∈ textTags) {chars read : List Char}
    (h : LosesMarks (markup tag chars) read) :
    ∃ chars', read = markup tag chars' ∧ LosesMarks chars chars' := by
  obtain ⟨hfront, hback⟩ := (not_mem_front_back tag htag).1
  have hescape : ∀ c, c ≠ byteOrderMark → byteOrderMark ∉ Writer.escapeText c := by
    intro c hc hmem
    rcases mem_escapeText hmem with heq | hname
    · exact hc heq.symm
    · exact absurd hname (by decide)
  rw [markup_eq] at h
  obtain ⟨_, rfl, hmiddle⟩ := h.exists_middle hfront hback
  obtain ⟨chars', rfl, hloses⟩ := hmiddle.exists_flatMap rfl hescape
  exact ⟨chars', (markup_eq tag chars').symm, hloses⟩

/-- Whatever the pieces are, if they are the page without some marks, the element is read with what
is left of its text. -/
theorem finish_of_withoutMarks (htag : tag ∈ textTags) {pieces : List (List Char)}
    {chars : List Char} (hreturn : '\r' ∉ pieces.flatten) (hzero : '\x00' ∉ chars)
    (hread : withoutMarks pieces = markup tag chars) :
    ({} : Reading).finish pieces =
      holdingChars tag (keptText (Writer.lineEndTags.elem tag) chars) := by
  show ((Reading.cutAt {} (seams (mendPieces false pieces))).readText 0
    (mendPieces false pieces).flatten).page.doc = _
  rw [flatten_mendPieces hreturn, hread]
  exact Reading.readText_markup htag hzero _

/-- Bytes whose reading drops no mark. -/
def IsUnmarked (bytes : List UInt8) : Prop :=
  ∀ piece ∈ Utf8.pieces bytes, piece.head? ≠ some byteOrderMark

/-- What is read is what was written, without the marks at the beginnings of pieces. -/
theorem exists_reread (htag : tag ∈ textTags) (hzero : '\x00' ∉ text.toList)
    (hreturn : '\r' ∉ text.toList) :
    ∃ chars, LosesMarks (writtenChars tag text.toList) chars ∧
      reread tag text = holdingChars tag (keptText (Writer.lineEndTags.elem tag) chars) ∧
      (chars = writtenChars tag text.toList ↔ IsUnmarked (heldBytes tag text)) := by
  have hwritten : ∀ c, c ≠ '\n' → c ∉ text.toList → c ∉ writtenChars tag text.toList :=
    fun c hline htext hmem => (mem_writtenChars hmem).elim hline htext
  obtain ⟨pieces, hpieces⟩ : ∃ pieces, pieces = Utf8.pieces (heldBytes tag text) := ⟨_, rfl⟩
  have hall : pieces.flatten = markup tag (writtenChars tag text.toList) := by
    rw [hpieces, heldBytes, Text.Utf8.flatten_pieces_encode, holding_eq_withText,
      render_withText htag]
  have hreturn' : '\r' ∉ pieces.flatten :=
    hall ▸ not_mem_markup htag (hwritten _ (by decide) hreturn)
  rw [reread, ofBytes, IsUnmarked, ← hpieces]
  by_cases hmarks : ∀ piece ∈ pieces, piece.head? ≠ some byteOrderMark
  · have hread := ((withoutMarks_eq_iff pieces).mpr hmarks).trans hall
    exact ⟨_, .refl _, finish_of_withoutMarks htag hreturn' (hwritten _ (by decide) hzero) hread,
      fun _ => hmarks, fun _ => rfl⟩
  · -- with a mark less, what is read cannot be what was written
    obtain ⟨chars, hread, hchars⟩ :=
      losesMarks_markup htag (hall ▸ losesMarks_withoutMarks pieces)
    have hzero' : '\x00' ∉ chars := fun hmem =>
      hwritten _ (by decide) hzero (hchars.sublist.mem hmem)
    refine ⟨chars, hchars, finish_of_withoutMarks htag hreturn' hzero' hread, fun heq => ?_,
      fun hnone => absurd hnone hmarks⟩
    exact absurd ((withoutMarks_eq_iff pieces).mp (by rw [hread, hall, heq])) hmarks

/-- The page that is read again has one element of the name, whatever its text has become. -/
theorem filter_isElement_reread (htag : tag ∈ textTags) (hzero : '\x00' ∉ text.toList)
    (hreturn : '\r' ∉ text.toList) :
    ((reread tag text).subtree root).filter ((reread tag text).isElement · tag) = [single] := by
  obtain ⟨chars, -, hread, -⟩ := exists_reread htag hzero hreturn
  rw [hread, filter_isElement_holdingChars htag]

/-- The element has its text again just if no piece of the bytes begins with a mark. -/
theorem collectText_reread_iff (htag : tag ∈ textTags) (hzero : '\x00' ∉ text.toList)
    (hreturn : '\r' ∉ text.toList) :
    (reread tag text).collectText single = text ↔ IsUnmarked (heldBytes tag text) := by
  obtain ⟨chars, hloses, hread, hmarks⟩ := exists_reread htag hzero hreturn
  rw [hread, collectText_holdingChars, ← hmarks]
  refine ⟨fun h => ?_, fun h => ?_⟩
  · by_contra hlost
    have hshort := length_keptText_lt hloses hlost
    rw [← h, String.toList_ofList] at hshort
    exact absurd hshort (Nat.lt_irrefl _)
  · rw [h, keptText_writtenChars, String.ofList_toList]

/-- With its text in its place, the page is as it was. -/
theorem reread_eq_iff (htag : tag ∈ textTags) (hne : text ≠ "") (hzero : '\x00' ∉ text.toList)
    (hreturn : '\r' ∉ text.toList) :
    reread tag text = holding tag text ↔ (reread tag text).collectText single = text := by
  obtain ⟨chars, -, hread, hmarks⟩ := exists_reread htag hzero hreturn
  rw [holding_eq_withText, ← holdingChars_toList hne]
  refine ⟨fun h => ?_, fun h => ?_⟩
  · rw [h, collectText_holdingChars, String.ofList_toList]
  · rw [hread, hmarks.mpr ((collectText_reread_iff htag hzero hreturn).mp h),
      keptText_writtenChars]

/-- A text without marks is cut into pieces that begin with none. -/
theorem isUnmarked_of_not_mem (htag : tag ∈ textTags) (hzero : '\x00' ∉ text.toList)
    (hreturn : '\r' ∉ text.toList) (hnone : byteOrderMark ∉ text.toList) :
    IsUnmarked (heldBytes tag text) := by
  obtain ⟨chars, hloses, -, hmarks⟩ := exists_reread htag hzero hreturn
  refine hmarks.mp (hloses.eq_of_not_mem fun hmem => ?_)
  exact (mem_writtenChars hmem).elim (by decide) hnone

/-- For a text that is not empty, without zeros and returns, in one of the elements whose text is
read with its references: when the page is written and its bytes are read, the element is there
once. It has its text exactly if no piece of the bytes begins with a mark of their order, and then
the page is the page that was written; without such marks in the text it always is. -/
theorem reads_back_iff (htag : tag ∈ textTags) (hne : text ≠ "") (hzero : '\x00' ∉ text.toList)
    (hreturn : '\r' ∉ text.toList) :
    ∃ id, ((reread tag text).subtree root).filter ((reread tag text).isElement · tag) = [id] ∧
      ((reread tag text).collectText id = text ↔ IsUnmarked (heldBytes tag text)) ∧
      (reread tag text = holding tag text ↔ IsUnmarked (heldBytes tag text)) ∧
      (byteOrderMark ∉ text.toList → (reread tag text).collectText id = text) := by
  have htext := collectText_reread_iff htag hzero hreturn
  refine ⟨single, filter_isElement_reread htag hzero hreturn, htext,
    (reread_eq_iff htag hne hzero hreturn).trans htext, fun hnone => ?_⟩
  exact htext.mpr (isUnmarked_of_not_mem htag hzero hreturn hnone)

/-- Line ends in front, references and what is written as one. -/
theorem reads_back_iff_lineEnds :
    (holding "pre" "\n\n<&amp;\u00a0>").render =
        "<html><head></head><body><pre>\n\n\n&lt;&amp;amp;&nbsp;&gt;</pre></body></html>" ∧
      ∃ id, (reread "pre" "\n\n<&amp;\u00a0>").collectText id = "\n\n<&amp;\u00a0>" := by
  obtain ⟨id, -, -, -, htext⟩ := reads_back_iff (show "pre" ∈ textTags by decide)
    (show "\n\n<&amp;\u00a0>" ≠ "" by decide) (by decide) (by decide)
  exact ⟨by decide +kernel, id, htext (by decide)⟩

/-! ## A mark in the text -/

/-- A text whose last character begins a piece of the page of a paragraph, which is a mark. -/
def markedText : String := String.ofList (List.replicate 4068 'a' ++ [byteOrderMark])

/-- The characters of the text, which is too long to be worked out step by step. -/
theorem toList_markedText : markedText.toList = List.replicate 4068 'a' ++ [byteOrderMark] :=
  String.toList_ofList

theorem eq_of_mem_markedText {c : Char} (h : c ∈ markedText.toList) :
    c = 'a' ∨ c = byteOrderMark := by
  rw [toList_markedText] at h
  exact (List.mem_append.mp h).imp List.eq_of_mem_replicate List.mem_singleton.mp

theorem length_encode_replicate (n : Nat) :
    (Utf8.encode (List.replicate n 'a')).length = n := by
  induction n with
  | zero => rfl
  | succ n ih =>
    rw [List.replicate_succ, Text.Utf8.encode_cons, List.length_append, ih]
    exact Nat.add_comm 1 n

/-- The tags and letters in front of the mark fill a block. -/
theorem pieces_markedText : Utf8.pieces (heldBytes "p" markedText) =
    [front "p" ++ List.replicate 4068 'a', byteOrderMark :: back "p"] := by
  have hletters : (List.replicate 4068 'a').flatMap Writer.escapeText =
      List.replicate 4068 'a' := by
    rw [List.flatMap_replicate]
    exact List.flatten_replicate_singleton
  have hmarkup : (holding "p" markedText).render.toList =
      (front "p" ++ List.replicate 4068 'a') ++ (byteOrderMark :: back "p") := by
    have hwritten : writtenChars "p" markedText.toList = markedText.toList :=
      if_neg fun h => absurd h.1 (by decide)
    rw [holding_eq_withText, render_withText (by decide), hwritten, toList_markedText, markup_eq,
      List.flatMap_append, hletters]
    simp only [List.append_assoc]
    rfl
  have hfront : (Utf8.encode (front "p")).length = 28 := by decide +kernel
  have hfull : (Utf8.encode (front "p" ++ List.replicate 4068 'a')).length =
      Text.Utf8.blockSize := by
    rw [Text.Utf8.encode_append, List.length_append, hfront, length_encode_replicate]
    rfl
  have hback : (Utf8.encode (byteOrderMark :: back "p")).length ≤ Text.Utf8.blockSize := by
    decide +kernel
  rw [heldBytes, hmarkup, Text.Utf8.pieces_append hfull,
    Text.Utf8.pieces_eq_singleton (List.cons_ne_nil _ _) hback]

/-- A mark at the beginning of a piece is lost, so not every text is read back. -/
theorem not_all_read_back : ¬∀ tag text, tag ∈ textTags → text ≠ "" → '\x00' ∉ text.toList →
    '\r' ∉ text.toList →
    ∃ id, ((reread tag text).subtree root).filter ((reread tag text).isElement · tag) = [id] ∧
      (reread tag text).collectText id = text := by
  intro hall
  have hzero : '\x00' ∉ markedText.toList := fun hmem =>
    (eq_of_mem_markedText hmem).elim (by decide) (by decide)
  have hreturn : '\r' ∉ markedText.toList := fun hmem =>
    (eq_of_mem_markedText hmem).elim (by decide) (by decide)
  have hne : markedText ≠ "" := by
    intro hempty
    have hlist := toList_markedText.symm.trans (congrArg String.toList hempty)
    exact List.append_ne_nil_of_right_ne_nil _ (List.cons_ne_nil _ _) hlist
  obtain ⟨id, hid, htext⟩ := hall "p" markedText (by decide) hne hzero hreturn
  rw [filter_isElement_reread (by decide) hzero hreturn] at hid
  obtain rfl := List.singleton_inj.mp hid
  have hunmarked := (collectText_reread_iff (by decide) hzero hreturn).mp htext
  rw [IsUnmarked, pieces_markedText] at hunmarked
  exact hunmarked (byteOrderMark :: back "p") (List.mem_cons_of_mem _ List.mem_cons_self) rfl

end Document

end ComposingProxy.Markup
