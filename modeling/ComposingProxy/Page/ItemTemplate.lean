import ComposingProxy.Table
import ComposingProxy.Text.Ascii
import ComposingProxy.Text.Blank
import ComposingProxy.Text.Search
import ComposingProxy.Text.Utf8

/-!
# Item templates

The markup of a navigation item: literal text with placeholders between double braces,
each of which names a field. Rendering puts the escaped value of the field in the place
of its placeholder, so a value adds text to the markup and never a tag or attribute.
-/

namespace ComposingProxy

/-- A part of a template. -/
inductive Segment where
  | literal (text : String)
  | field (name : String)
  deriving DecidableEq, Repr

/-- A template as its parts in order. -/
structure ItemTemplate where
  segments : List Segment
  deriving DecidableEq, Repr

/-- Why a text is not a template. Places are counted in bytes. -/
inductive TemplateError where
  | empty
  /-- The placeholder that begins there is not closed. -/
  | unclosed (offset : Nat)
  /-- The placeholder that begins there names no field. -/
  | emptyField (offset : Nat)
  deriving DecidableEq, Repr

/-- The wording of an error. -/
def TemplateError.message : TemplateError → String
  | .empty => "template is empty"
  | .unclosed offset => "unclosed placeholder starting at offset " ++ Text.decimal offset
  | .emptyField offset => "empty placeholder at offset " ++ Text.decimal offset

namespace ItemTemplate

/-- What opens a placeholder. -/
def opening : List Char := ['\x7b', '\x7b']

/-- What closes a placeholder. -/
def closing : List Char := ['\x7d', '\x7d']

/-- A literal, unless there is nothing in it. -/
def literal (s : List Char) : List Segment :=
  if s.isEmpty then [] else [.literal (String.ofList s)]

theorem length_cut_lt {marker s before after : List Char} (hm : marker ≠ [])
    (h : Text.splitFirst? marker s = some (before, after)) : after.length < s.length := by
  have := Text.append_of_splitFirst? h
  have hpos : 0 < marker.length := List.length_pos_iff.2 hm
  rw [this]
  simp only [List.length_append]
  omega

/-- The parts of a text that begins `offset` bytes into the whole. -/
def scan (offset : Nat) (s : List Char) : Except TemplateError (List Segment) :=
  match _h : Text.splitFirst? opening s with
  | none => .ok (literal s)
  | some (before, after) =>
    let start := offset + (Text.Utf8.encode before).length
    match _hc : Text.splitFirst? closing after with
    | none => .error (.unclosed start)
    | some (inner, rest) =>
      let name := Text.trim inner
      if name.isEmpty then .error (.emptyField start)
      else
        match scan (start + (Text.Utf8.encode inner).length + 4) rest with
        | .error e => .error e
        | .ok more => .ok (literal before ++ .field (String.ofList name) :: more)
termination_by s.length
decreasing_by
  have := length_cut_lt (by decide) _h
  have := length_cut_lt (by decide) _hc
  omega

/-- Reads a template. -/
def parse (source : String) : Except TemplateError ItemTemplate :=
  if (Text.trim source.toList).isEmpty then .error .empty
  else (scan 0 source.toList).map ItemTemplate.mk

/-- The fields that a template names, in order. -/
def fields (template : ItemTemplate) : List String :=
  template.segments.filterMap fun segment =>
    match segment with
    | .field name => some name
    | .literal _ => none

/-- A character of a value as it stands in markup. -/
def escapeChar (c : Char) : List Char :=
  match c with
  | '&' => "&amp;".toList
  | '<' => "&lt;".toList
  | '>' => "&gt;".toList
  | '"' => "&quot;".toList
  | '\'' => "&#39;".toList
  | c => [c]

/-- A value as it stands in markup. -/
def escape (value : String) : String := String.ofList (value.toList.flatMap escapeChar)

/-- What a part contributes; a field without value contributes nothing. -/
def Segment.render (values : Table String) : Segment → String
  | .literal text => text
  | .field name => ((values.get? name).map escape).getD ""

/-- The markup of an item. -/
def render (template : ItemTemplate) (values : Table String) : String :=
  String.join (template.segments.map (Segment.render values))

end ItemTemplate

end ComposingProxy
