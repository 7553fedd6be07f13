import ComposingProxy.Page.Navigation
import Mathlib.Data.List.Basic

/-!
# Values add text to a template and nothing else

A template is markup with gaps, and values come from pages and settings, so a value must not be
read as markup. It is escaped as it is put in: the characters that tags and attribute values
begin and end with are written as references, and so is the ampersand, which keeps a value that
looks like a reference from being read as one (`unescape_escape`).

> `ItemTemplate.render_inert`: all delimiters of what is rendered are those of the literals; a
> field contributes one text in its place, which reads as its value, whatever the other values
> are; and values that the template does not name play no part.
-/

namespace ComposingProxy

namespace ItemTemplate

/-! ## Delimiters -/

/-- A character that a tag or the value of an attribute begins or ends with. -/
def isDelimiter (c : Char) : Bool := c == '<' || c == '>' || c == '"' || c == '\''

/-- The delimiters of a text in order. -/
def delimiters (text : String) : List Char := text.toList.filter isDelimiter

/-- The delimiters of two texts stand in the order of the texts. -/
theorem delimiters_append (first second : String) :
    delimiters (first ++ second) = delimiters first ++ delimiters second := by
  rw [delimiters, String.toList_append, List.filter_append]
  rfl

theorem delimiters_join (texts : List String) :
    delimiters (String.join texts) = texts.flatMap delimiters := by
  induction texts with
  | nil => rfl
  | cons text rest ih => rw [String.join_cons, delimiters_append, ih, List.flatMap_cons]

/-- What a character is written as: itself, unless it is one of five. -/
theorem escapeChar_cases (c : Char) :
    (c = '&' ∨ c = '<' ∨ c = '>' ∨ c = '"' ∨ c = '\'') ∨
      (c ≠ '&' ∧ isDelimiter c = false ∧ escapeChar c = [c]) := by
  by_cases hspecial : c = '&' ∨ c = '<' ∨ c = '>' ∨ c = '"' ∨ c = '\''
  · exact Or.inl hspecial
  · simp only [not_or] at hspecial
    obtain ⟨hamp, hless, hgreater, hquote, hmark⟩ := hspecial
    refine Or.inr ⟨hamp, ?_, ?_⟩
    · simp [isDelimiter, hless, hgreater, hquote, hmark]
    · unfold escapeChar
      split
      case h_6 => rfl
      all_goals contradiction

/-- No character is written with a delimiter. -/
theorem filter_escapeChar (c : Char) : (escapeChar c).filter isDelimiter = [] := by
  rcases escapeChar_cases c with (rfl | rfl | rfl | rfl | rfl) | ⟨-, hplain, hself⟩
  case inr => rw [hself, List.filter_cons, hplain]; rfl
  all_goals decide

/-- An escaped text has no delimiters. -/
theorem delimiters_escape (value : String) : delimiters (escape value) = [] := by
  rw [delimiters, escape, String.toList_ofList, List.filter_flatMap]
  refine List.flatMap_eq_nil_iff.2 fun c _ => filter_escapeChar c

/-! ## References -/

/-- A text with the characters that its references stand for in their places. Only the five
references that escaping writes are known. -/
def unescape : List Char → List Char
  | '&' :: 'a' :: 'm' :: 'p' :: ';' :: rest => '&' :: unescape rest
  | '&' :: 'l' :: 't' :: ';' :: rest => '<' :: unescape rest
  | '&' :: 'g' :: 't' :: ';' :: rest => '>' :: unescape rest
  | '&' :: 'q' :: 'u' :: 'o' :: 't' :: ';' :: rest => '"' :: unescape rest
  | '&' :: '#' :: '3' :: '9' :: ';' :: rest => '\'' :: unescape rest
  | c :: rest => c :: unescape rest
  | [] => []

/-- The text that a markup without tags is read as. -/
def readText (markup : String) : String := String.ofList (unescape markup.toList)

theorem unescape_cons {c : Char} (hc : c ≠ '&') (rest : List Char) :
    unescape (c :: rest) = c :: unescape rest := by
  rw [unescape] <;> simp [hc]

/-- A character is read back from what is written for it. -/
theorem unescape_escapeChar (c : Char) (rest : List Char) :
    unescape (escapeChar c ++ rest) = c :: unescape rest := by
  rcases escapeChar_cases c with (rfl | rfl | rfl | rfl | rfl) | ⟨hamp, -, hself⟩
  case inr => rw [hself, List.singleton_append, unescape_cons hamp]
  all_goals rfl

/-- An escaped value reads as the value, also if it has references or ampersands in it. -/
theorem readText_escape (value : String) : readText (escape value) = value := by
  have hlist : ∀ s : List Char, unescape (s.flatMap escapeChar) = s := by
    intro s
    induction s with
    | nil => rfl
    | cons c rest ih => rw [List.flatMap_cons, unescape_escapeChar, ih]
  rw [readText, escape, String.toList_ofList, hlist, String.ofList_toList]

/-! ## Rendering -/

/-- The text of a literal; a field has none of its own. -/
def literalText : Segment → String
  | .literal text => text
  | .field _ => ""

/-- The text that a field contributes. -/
def contribution (values : Table String) (name : String) : String :=
  Segment.render values (.field name)

/-- The value of a field, empty for one that is not there. -/
def valueOf (values : Table String) (name : String) : String := (values.get? name).getD ""

/-- A field contributes its escaped value. -/
theorem contribution_eq (values : Table String) (name : String) :
    contribution values name = escape (valueOf values name) := by
  show ((values.get? name).map escape).getD "" = escape ((values.get? name).getD "")
  cases values.get? name with
  | none => decide
  | some value => rfl

/-- The delimiters of a segment are those of its literal. -/
theorem delimiters_segment (values : Table String) (segment : Segment) :
    delimiters (Segment.render values segment) = delimiters (literalText segment) := by
  cases segment with
  | literal text => rfl
  | field name =>
    show delimiters (contribution values name) = []
    rw [contribution_eq, delimiters_escape]

/-- The delimiters of the markup are those of the literals, whatever the values are. -/
theorem delimiters_render (template : ItemTemplate) (values : Table String) :
    delimiters (template.render values) =
      template.segments.flatMap fun segment => delimiters (literalText segment) := by
  rw [render, delimiters_join, List.flatMap_map]
  exact List.flatMap_congr fun segment _ => delimiters_segment values segment

/-- Segments are rendered one after the other. -/
theorem render_append (first second : List Segment) (values : Table String) :
    render ⟨first ++ second⟩ values = render ⟨first⟩ values ++ render ⟨second⟩ values := by
  rw [render, List.map_append, String.join_append]
  rfl

/-- What is rendered is told by the values that the template names. -/
theorem render_congr {template : ItemTemplate} {values other : Table String}
    (h : ∀ name ∈ template.fields, values.get? name = other.get? name) :
    template.render values = template.render other := by
  refine congrArg String.join (List.map_congr_left fun segment hsegment => ?_)
  cases segment with
  | literal text => rfl
  | field name =>
    have hname : name ∈ template.fields :=
      List.mem_filterMap.2 ⟨.field name, hsegment, rfl⟩
    rw [Segment.render, Segment.render, h name hname]

/-- For every template: what is rendered of two tables of values has the same delimiters, which
are those of the literals. Values that the template does not name play no part, so nothing in a
value that looks like a placeholder is filled in. Each field contributes one text in its place,
which reads as the value of the field, so two values of a field never contribute the same text. -/
theorem render_inert (template : ItemTemplate) :
    (∀ values other : Table String,
      delimiters (template.render values) = delimiters (template.render other)) ∧
    (∀ values, delimiters (template.render values) =
      template.segments.flatMap fun segment => delimiters (literalText segment)) ∧
    (∀ values other : Table String,
      (∀ name ∈ template.fields, values.get? name = other.get? name) →
        template.render values = template.render other) ∧
    (∀ before name after, template.segments = before ++ .field name :: after → ∀ values,
      template.render values =
        render ⟨before⟩ values ++ contribution values name ++ render ⟨after⟩ values) ∧
    (∀ values name, readText (contribution values name) = valueOf values name) ∧
    ∀ values other name, contribution values name = contribution other name →
      valueOf values name = valueOf other name := by
  have hread : ∀ values name, readText (contribution values name) = valueOf values name := by
    intro values name
    rw [contribution_eq, readText_escape]
  refine ⟨fun values other => ?_, delimiters_render template, fun _ _ => render_congr,
    fun before name after hsplit values => ?_, hread, fun values other name hsame => ?_⟩
  · rw [delimiters_render, delimiters_render]
  · have htemplate : template = ⟨before ++ .field name :: after⟩ := by
      cases template
      exact congrArg ItemTemplate.mk hsplit
    rw [htemplate, render_append, String.append_assoc]
    refine congrArg (render ⟨before⟩ values ++ ·) ?_
    rw [render, List.map_cons, String.join_cons]
    rfl
  · rw [← hread values name, hsame, hread]

/-- A label that looks like a tag, a placeholder and a reference, of two items with different
addresses. -/
def hostileValues (href : String) : Table String :=
  .ofList [("label", "\"><i>\x7b\x7bhref\x7d\x7d&lt;"), ("href", href)]

def titled : ItemTemplate := ⟨[.literal "<b title=\"", .field "label", .literal "\">"]⟩

theorem render_inert_hostile :
    ItemTemplate.parse "<b title=\"\x7b\x7b label \x7d\x7d\">" = .ok titled ∧
      delimiters (titled.render (hostileValues "/a")) = ['<', '"', '"', '>'] ∧
      titled.render (hostileValues "/a") = titled.render (hostileValues "/b") ∧
      titled.render (hostileValues "/a") =
        "<b title=\"&quot;&gt;&lt;i&gt;\x7b\x7bhref\x7d\x7d&amp;lt;\">" ∧
      readText (contribution (hostileValues "/a") "label") = "\"><i>\x7b\x7bhref\x7d\x7d&lt;" := by
  obtain ⟨-, hdelimiters, hsame, hplace, hread, -⟩ := render_inert titled
  refine ⟨by decide +kernel, hdelimiters _, hsame _ _ (by decide), ?_, hread _ _⟩
  rw [hplace [.literal "<b title=\""] "label" [.literal "\">"] rfl]
  decide +kernel

end ItemTemplate

/-- The delimiters of the markup of a navigation are those of its template, once for every item,
whatever the items are. -/
theorem Navigation.delimiters_markup (navigation : Navigation) (items : List NavItem) :
    ItemTemplate.delimiters (navigation.markup items) =
      items.flatMap fun _ => navigation.template.segments.flatMap fun segment =>
        ItemTemplate.delimiters (ItemTemplate.literalText segment) := by
  rw [markup, ItemTemplate.delimiters_join, List.flatMap_map]
  exact List.flatMap_congr fun item _ => navigation.template.delimiters_render item.fields

end ComposingProxy
