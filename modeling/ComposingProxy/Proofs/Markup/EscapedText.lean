import ComposingProxy.Markup.Writer
import ComposingProxy.Proofs.Markup.PlainTags
import ComposingProxy.Proofs.Markup.ScriptReading

/-!
# Escaped text

What is written for a character of a text is read as that character, in an element whose text has
tags around it and in one whose text is raw but for references:

> `escapeText_cases`: a character is written as itself or as a reference. The reference is closed,
> and no name of the table goes on behind it, so what follows plays no part.
> `Reading.InText.readText`: an escaped text is added to the element in which reading stands.

Elements of the second kind, and some of the first, lose a line end after their start tag
(`keptText`).
-/

namespace ComposingProxy.Markup

/-! ## References -/

namespace CharacterReference

/-- Where no name goes on, what follows does not decide which name is read. -/
theorem longestName?_append {first : Char} {tail : List Char}
    (hnames : ∀ entry ∈ namesOf first, first :: tail <+: entry.1.toList →
      entry.1.toList = first :: tail) (rest : List Char) :
    longestName? first (tail ++ rest) = longestName? first tail := by
  unfold longestName?
  refine congrArg List.getLast? (List.filter_congr fun entry hentry => ?_)
  rw [Bool.eq_iff_iff]
  simp only [Option.isSome_iff_exists, Text.dropPrefix?_eq_some_iff]
  constructor
  · rintro ⟨more, hmore⟩
    have hname : entry.1.toList <+: first :: tail ++ rest := ⟨more, hmore.symm⟩
    rcases List.prefix_or_prefix_of_prefix hname (List.prefix_append _ _) with hfits | hgoes
    · exact hfits.imp fun _ => Eq.symm
    · exact ⟨[], by rw [hnames entry hentry hgoes, List.append_nil]⟩
  · rintro ⟨more, hmore⟩
    exact ⟨more ++ rest, by rw [← List.cons_append, hmore, List.append_assoc]⟩

/-- The characters behind an ampersand stand for a character, whatever follows them. -/
def IsReference (tail : List Char) (c : Char) : Prop :=
  ∀ rest, read? false (tail ++ rest) = some { text := [c], length := tail.length }

/-- A closed name of the table on which no other name goes on is a reference. -/
theorem isReference_of_name {first : Char} {tail : List Char} {name text : String} {c : Char}
    (hfirst : Text.isAsciiAlphanumeric first = true)
    (hnames : ∀ entry ∈ namesOf first, first :: tail <+: entry.1.toList →
      entry.1.toList = first :: tail)
    (hlongest : longestName? first tail = some (name, text)) (hname : name.toList = first :: tail)
    (htext : text.toList = [c]) : IsReference (first :: tail) c := by
  intro rest
  have hmark : first ≠ '#' := by
    rintro rfl
    exact absurd hfirst (by decide)
  have hread : read? false (first :: (tail ++ rest)) = ofName? false first (tail ++ rest) := by
    rw [read?, if_pos hfirst] <;> simp [hmark]
  rw [List.cons_append, hread, ofName?, longestName?_append hnames, hlongest]
  dsimp only
  rw [Bool.false_and, Bool.false_and, if_neg Bool.false_ne_true, htext, hname]

end CharacterReference

/-- A character that needs no reference is written as itself. -/
theorem escapeText_eq_self {c : Char} (h : ¬(c = '&' ∨ c = '\xA0' ∨ c = '<' ∨ c = '>')) :
    Writer.escapeText c = [c] := by
  simp only [not_or] at h
  obtain ⟨hamp, hspace, hless, hgreater⟩ := h
  unfold Writer.escapeText
  split
  case h_5 => rfl
  all_goals contradiction

open CharacterReference in
/-- What a character is written as: itself, unless it is one of four. -/
theorem escapeText_cases (c : Char) :
    (c ≠ '&' ∧ c ≠ '<' ∧ Writer.escapeText c = [c]) ∨
      ∃ tail, Writer.escapeText c = '&' :: tail ∧ IsReference tail c := by
  by_cases hspecial : c = '&' ∨ c = '\xA0' ∨ c = '<' ∨ c = '>'
  · right
    rcases hspecial with rfl | rfl | rfl | rfl
    · exact ⟨"amp;".toList, rfl, isReference_of_name (by decide) (by decide +kernel)
        (show longestName? 'a' "mp;".toList = some ("amp;", "&") by decide +kernel) rfl rfl⟩
    · exact ⟨"nbsp;".toList, rfl, isReference_of_name (by decide) (by decide +kernel)
        (show longestName? 'n' "bsp;".toList = some ("nbsp;", "\u00a0") by decide +kernel) rfl rfl⟩
    · exact ⟨"lt;".toList, rfl, isReference_of_name (by decide) (by decide +kernel)
        (show longestName? 'l' "t;".toList = some ("lt;", "<") by decide +kernel) rfl rfl⟩
    · exact ⟨"gt;".toList, rfl, isReference_of_name (by decide) (by decide +kernel)
        (show longestName? 'g' "t;".toList = some ("gt;", ">") by decide +kernel) rfl rfl⟩
  · exact .inl ⟨fun hamp => hspecial (.inl hamp),
      fun hless => hspecial (.inr (.inr (.inl hless))), escapeText_eq_self hspecial⟩

/-! ## Steps -/

namespace TextState

/-- In this state text is read with its references. -/
def ReadsReferences (state : TextState) : Prop := state = .data ∨ state = .raw .escapable

variable {state : TextState} {c : Char} {rest : List Char}

/-- A character that begins nothing is given out as it is. -/
theorem ReadsReferences.step_plain (h : state.ReadsReferences) (hamp : c ≠ '&') (hless : c ≠ '<')
    (hzero : c ≠ '\x00') (opened : Option String) (foreign : Bool) :
    state.step opened foreign c rest = { state, tokens := [.character c] } := by
  rcases h with rfl | rfl
  · show dataStep c rest = _
    rw [dataStep, if_neg hamp, if_neg hless, if_neg hzero]
  · show rawStep .escapable c rest = _
    have hmend : mendZero c = c := if_neg (by simpa using hzero)
    rw [rawStep, if_neg hamp, if_neg hless, hmend]

/-- A reference is given out as the character that it stands for, and its length is skipped. -/
theorem ReadsReferences.step_reference (h : state.ReadsReferences) {tail : List Char}
    (htail : CharacterReference.IsReference tail c) (opened : Option String) (foreign : Bool) :
    state.step opened foreign '&' (tail ++ rest) =
      { state, tokens := [.character c], taken := tail.length } := by
  have hread : reference state (tail ++ rest) =
      { state, tokens := [.character c], taken := tail.length } := by
    rw [reference, htail rest]
    rfl
  rcases h with rfl | rfl
  · exact hread
  · exact hread

end TextState

namespace Reading

variable {reading : Reading} {c : Char}

/-- A character that is written as text is taken as itself. -/
theorem readText_escapeText (hstate : reading.state.ReadsReferences)
    (hruns : reading.pausing = false) (hzero : c ≠ '\x00')
    (hgoes : (reading.take (.character c)).pausing = false) (rest : List Char) :
    reading.readText 0 (Writer.escapeText c ++ rest) =
      (reading.take (.character c)).readText 0 rest := by
  rw [← reading.inState_self rfl] at hgoes ⊢
  rcases escapeText_cases c with ⟨hamp, hless, hself⟩ | ⟨tail, hwritten, htail⟩
  · rw [hself]
    exact readText_step hruns (hstate.step_plain hamp hless hzero _ _) hgoes
  · rw [hwritten, List.cons_append]
    refine (readText_step hruns (hstate.step_reference htail _ _) hgoes).trans ?_
    exact readText_skip _ tail rest

end Reading

/-! ## Text in an element -/

namespace Construction

variable {page : Construction} {id : NodeId}

/-- Among HTML elements, a page that keeps line ends reads by the rules of its mode what is no
document type. -/
theorem take_of_inMode {token : Token} {next : Construction}
    (hcurrent : page.adjustedCurrent? = some id) (hspace : (page.nameOf id).space = .html)
    (hkeeps : page.dropsLineEnd = false)
    (htoken : token ≠ .fault ∧ ∀ doctype, token ≠ .doctype doctype)
    (hread : page.inMode token = next.done) : page.take token = next.done := by
  have hsame : { page with dropsLineEnd := false } = page :=
    congrArg (fun drops => ({ page with dropsLineEnd := drops } : Construction)) hkeeps.symm
  have hforeign : page.isForeign token = false := by
    rw [isForeign, hcurrent, Option.map_some]
    dsimp only
    rw [hspace]
    rfl
  have hagain : takeAgain token (4 * page.openElements.length + 20) page = next.done := by
    rw [takeAgain, hforeign, if_neg Bool.false_ne_true, hread]
    rfl
  unfold take
  rw [hkeeps, hsame, Bool.false_and, if_neg Bool.false_ne_true]
  cases token with
  | fault => exact absurd rfl htoken.1
  | doctype doctype => exact absurd rfl (htoken.2 doctype)
  | _ => exact hagain

/-- The newest open element is an HTML element outside tables, and what comes is text in it. -/
structure InText (page : Construction) (id : NodeId) : Prop where
  wellFormed : page.doc.WellFormed
  has : page.doc.Has id
  element : ∃ element, page.doc.element? id = some element ∧ element.name.space = .html ∧
    element.name.isOneOf tableTags = false ∧ element.contents = none
  current : page.current? = some id
  adjusted : page.adjustedCurrent? = some id
  mode : page.mode = .inBody ∨ page.mode = .text
  unformatted : page.formatting = []
  hasContent : page.framesetAllowed = false
  keepsLineEnd : page.dropsLineEnd = false

namespace InText

theorem nameOf_space (h : page.InText id) : (page.nameOf id).space = .html := by
  obtain ⟨element, helement, hspace, -⟩ := h.element
  rw [Construction.nameOf, helement]
  exact hspace

/-- Text goes into the element. -/
theorem addCharacter (h : page.InText id) (c : Char) :
    page.addCharacter c = page.typeText id [c] := by
  obtain ⟨element, helement, -, htable, hcontents⟩ := h.element
  have hname : page.nameOf id = element.name := by rw [Construction.nameOf, helement]; rfl
  have hinside : page.inside id = id := by
    rw [Construction.inside, helement, Option.bind_some, hcontents]
    rfl
  have hplace : page.place = .lastOf id := by
    rw [place, h.current, Option.getD_some, placeIn, hname, htable, Bool.and_false,
      if_neg Bool.false_ne_true, hinside]
  rw [Construction.addCharacter, hplace]
  rfl

theorem inMode_character (h : page.InText id) (c : Char) :
    page.inMode (.character c) = (page.typeText id [c]).done := by
  rcases h.mode with hmode | hmode
  · have hopened : page.reopenFormatting = page := by
      rw [reopenFormatting, h.unformatted]
      rfl
    have hforbidden : page.forbidFrameset = page :=
      congrArg (fun allowed => ({ page with framesetAllowed := allowed } : Construction))
        h.hasContent.symm
    rw [inMode, hmode]
    show ((if isSeparator c then page.reopenFormatting
      else page.reopenFormatting.forbidFrameset).addCharacter c).done = _
    rw [hopened, hforbidden, ite_self, h.addCharacter]
  · rw [inMode, hmode]
    show (page.addCharacter c).done = _
    rw [h.addCharacter]

/-- A character is added to the text of the element. -/
theorem take_character (h : page.InText id) (c : Char) :
    page.take (.character c) = (page.typeText id [c]).done :=
  take_of_inMode h.adjusted h.nameOf_space h.keepsLineEnd ⟨by rintro ⟨⟩, by rintro _ ⟨⟩⟩
    (h.inMode_character c)

/-- The page still stands in the text when characters were added to it. -/
theorem typeText (h : page.InText id) (chars : List Char) :
    (page.typeText id chars).InText id := by
  obtain ⟨hwell, hhas, hsame⟩ := h.wellFormed.typeText h.has chars
  exact { h with
    wellFormed := hwell
    has := hhas
    element := by
      obtain ⟨element, helement, hrest⟩ := h.element
      exact ⟨element, hsame.trans helement, hrest⟩ }

end InText

end Construction

namespace Reading

variable {reading : Reading} {id : NodeId}

/-- The reading stands in the text of an element that is read with its references. -/
structure InText (reading : Reading) (id : NodeId) : Prop where
  page : reading.page.InText id
  state : reading.state.ReadsReferences
  runs : reading.pausing = false

theorem InText.typeText (h : reading.InText id) (chars : List Char) :
    (reading.typeText id chars reading.state).InText id :=
  ⟨h.page.typeText chars, h.state, h.runs⟩

/-- A character is added to the text of the element where the reading stands. -/
theorem InText.take_character (h : reading.InText id) (c : Char) :
    reading.take (.character c) = reading.typeText id [c] reading.state := by
  unfold take
  rw [h.page.take_character c]
  show { reading with page := reading.page.typeText id [c], pausing := false } = _
  rw [← h.runs]
  rfl

/-- An escaped text is added to the element as it was before it was escaped. -/
theorem InText.readText (h : reading.InText id) {text : List Char} (hzero : '\x00' ∉ text)
    (rest : List Char) :
    reading.readText 0 (text.flatMap Writer.escapeText ++ rest) =
      (reading.typeText id text reading.state).readText 0 rest := by
  induction text generalizing reading with
  | nil => rfl
  | cons c text ih =>
    have htake := h.take_character c
    have hc : c ≠ '\x00' := fun heq => hzero (heq ▸ List.mem_cons_self)
    have hfirst := readText_escapeText h.state h.runs hc (htake ▸ h.runs)
      (text.flatMap Writer.escapeText ++ rest)
    rw [List.flatMap_cons, List.append_assoc, hfirst, htake,
      ih (h.typeText [c]) fun hmem => hzero (List.mem_cons_of_mem c hmem)]
    exact congrArg (Reading.readText · 0 rest) (reading.typeText_typeText id [c] text _ _)

end Reading

/-! ## Line ends after start tags -/

/-- The same page, which keeps a line end that comes next. -/
def Construction.keepingLineEnd (page : Construction) : Construction :=
  { page with dropsLineEnd := false }

/-- The text that an element gets: without the line end that it begins with, if that is dropped. -/
def keptText (drops : Bool) (text : List Char) : List Char :=
  if drops = true ∧ text.head? = some '\n' then text.tail else text

/-- Whether a line end is dropped plays no part for any other token. -/
theorem Construction.take_keepingLineEnd {page : Construction} {token : Token}
    (h : (page.dropsLineEnd && token == .character '\n') = false) :
    page.keepingLineEnd.take token = page.take token := by
  unfold take
  rw [h]
  rfl

namespace Reading

variable {reading : Reading} {id : NodeId} {token : Token} {text : List Char} {name : String}

/-- The same reading, whose page keeps a line end that comes next. -/
def keepingLineEnd (reading : Reading) : Reading :=
  { reading with page := reading.page.keepingLineEnd }

theorem take_keepingLineEnd (h : (reading.page.dropsLineEnd && token == .character '\n') = false) :
    reading.keepingLineEnd.take token = reading.take token := by
  unfold take
  rw [show reading.keepingLineEnd.page.take token = reading.page.take token from
    Construction.take_keepingLineEnd h]
  rfl

/-- A line end at the beginning of such an element is dropped. -/
theorem take_lineEnd (hdrops : reading.page.dropsLineEnd = true) (hruns : reading.pausing = false) :
    reading.take (.character '\n') = reading.keepingLineEnd := by
  have htake : reading.page.take (.character '\n') = reading.page.keepingLineEnd.done := by
    unfold Construction.take
    rw [hdrops]
    rfl
  unfold take
  rw [htake]
  show ({ reading with page := reading.page.keepingLineEnd, pausing := false } : Reading) = _
  rw [← hruns]
  rfl

/-- The reading after a text was added to an element at whose beginning it stood. -/
def fill (reading : Reading) (id : NodeId) (text : List Char) : Reading :=
  reading.keepingLineEnd.typeText id (keptText reading.page.dropsLineEnd text) reading.state

/-- A text that begins an element is added to it without the line end that is dropped. -/
theorem InText.readText_first (h : reading.keepingLineEnd.InText id) (hzero : '\x00' ∉ text)
    (hne : text ≠ []) (rest : List Char) :
    reading.readText 0 (text.flatMap Writer.escapeText ++ rest) =
      (reading.fill id text).readText 0 rest := by
  obtain ⟨c, text, rfl⟩ := List.exists_cons_of_ne_nil hne
  have hc : c ≠ '\x00' := fun heq => hzero (heq ▸ List.mem_cons_self)
  have hrest : '\x00' ∉ text := fun hmem => hzero (List.mem_cons_of_mem c hmem)
  have hstate : reading.state.ReadsReferences := h.state
  have hruns : reading.pausing = false := h.runs
  unfold fill keptText
  by_cases hdrops : reading.page.dropsLineEnd = true ∧ c = '\n'
  · obtain ⟨hdrops, rfl⟩ := hdrops
    have htake : reading.take (.character '\n') = reading.keepingLineEnd :=
      take_lineEnd hdrops hruns
    have hgoes : (reading.take (.character '\n')).pausing = false := htake ▸ h.runs
    rw [if_pos ⟨hdrops, rfl⟩, List.flatMap_cons, List.append_assoc,
      readText_escapeText hstate hruns hc hgoes, htake]
    exact h.readText hrest rest
  · -- the first character is taken as if the line end was kept
    have htake : reading.keepingLineEnd.take (.character c) = reading.take (.character c) := by
      refine take_keepingLineEnd ?_
      simpa using hdrops
    have hgoes : (reading.take (.character c)).pausing = false := by
      rw [← htake, h.take_character]
      exact h.runs
    rw [if_neg (by simpa using hdrops)]
    refine Eq.trans ?_ (h.readText hzero rest)
    rw [List.flatMap_cons, List.append_assoc, readText_escapeText hstate hruns hc hgoes,
      readText_escapeText h.state h.runs hc (htake ▸ hgoes), htake]

/-- An end tag closes an element in whose text reading stands. -/
theorem readText_close (hstate : reading.state.ReadsReferences) (hname : IsPlainName name)
    (hopened : reading.opened = some name) (hruns : reading.pausing = false)
    (hgoes : (reading.takeTag (.endTag { name })).pausing = false) (rest : List Char) :
    reading.readText 0 (withEndTag name rest) =
      (reading.takeTag (.endTag { name })).readText 0 rest := by
  rcases hstate with hstate | hstate
  · exact reading.readText_endTag hstate hruns hname hgoes rest
  · exact readText_rawEndTag hstate hopened hruns hname hgoes rest

/-- At the beginning of an element, an escaped text and the end tag fill and close it. -/
theorem InText.readText_element (h : reading.keepingLineEnd.InText id) (hzero : '\x00' ∉ text)
    (hname : IsPlainName name) (hopened : reading.opened = some name)
    (hgoes : ((reading.fill id text).takeTag (.endTag { name })).pausing = false)
    (rest : List Char) :
    reading.readText 0 (text.flatMap Writer.escapeText ++ withEndTag name rest) =
      ((reading.fill id text).takeTag (.endTag { name })).readText 0 rest := by
  by_cases hne : text = []
  · subst hne
    have hstate : reading.state.ReadsReferences := h.state
    have hkept : keptText reading.page.dropsLineEnd [] = [] := by simp [keptText]
    have htake : (reading.fill id []).takeTag (.endTag { name }) =
        reading.takeTag (.endTag { name }) := by
      rw [fill, hkept]
      show (reading.inState .data).keepingLineEnd.take _ = (reading.inState .data).take _
      exact take_keepingLineEnd (Bool.and_false _)
    rw [htake] at hgoes ⊢
    exact readText_close hstate hname hopened h.runs hgoes rest
  · have hstate : (reading.fill id text).state.ReadsReferences := h.state
    rw [h.readText_first hzero hne]
    exact readText_close hstate hname hopened h.runs hgoes rest

end Reading

end ComposingProxy.Markup
