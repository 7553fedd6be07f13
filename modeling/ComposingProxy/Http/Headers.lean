import ComposingProxy.Text.Ascii
import ComposingProxy.Text.Blank
import ComposingProxy.Text.Search

/-!
# Header fields

The fields of a request or response: names in small letters, each with any number of
values. Order counts among the values of one name only. A value is any text without
control characters; only visible ASCII can be read as text again, so most rules look
at `visible` values and pass over the others.

The laws say what each operation does to the values of every name
(`values_set`, `values_remove`, `values_append`).
-/

namespace ComposingProxy

/-! ## Names and values -/

namespace HeaderName

/-- A character of a field name. -/
def isNameChar (c : Char) : Bool :=
  c.isAlphanum ||
    ['!', '#', '$', '%', '&', '\'', '*', '+', '-', '.', '^', '_', '\x60', '|', '~'].elem c

/-- The name in small letters, if the text is a field name. -/
def parse? (text : String) : Option String :=
  let s := text.toList
  if s.isEmpty || s.length ≥ 65536 || !s.all isNameChar then none
  else some (Text.toLowerAscii text)

end HeaderName

namespace HeaderValue

/-- Whether a text may be sent as a value. -/
def isValid (value : String) : Bool :=
  value.toList.all fun c => (c.toNat ≥ 0x20 && c.toNat != 0x7F) || c == '\t'

/-- Whether a value is visible ASCII, so that it can be read as text. -/
def isVisible (value : String) : Bool :=
  value.toList.all fun c => (0x20 ≤ c.toNat && c.toNat < 0x7F) || c == '\t'

end HeaderValue

/-! ## Fields -/

/-- The fields of a message, in the order they came. -/
structure Headers where
  entries : List (String × String) := []
  deriving DecidableEq, Repr, Inhabited

namespace Headers

/-- The values of one name, in order. -/
def values (headers : Headers) (name : String) : List String :=
  (headers.entries.filter (·.1 == name)).map (·.2)

/-- The first value of a name. -/
def first? (headers : Headers) (name : String) : Option String :=
  (headers.values name).head?

/-- The values of one name that can be read. -/
def visible (headers : Headers) (name : String) : List String :=
  (headers.values name).filter HeaderValue.isVisible

/-- The first value of a name, if it can be read. -/
def readable? (headers : Headers) (name : String) : Option String :=
  (headers.first? name).filter HeaderValue.isVisible

/-- Adds a value after the ones there are. -/
def append (headers : Headers) (name value : String) : Headers :=
  ⟨headers.entries ++ [(name, value)]⟩

/-- Takes all values of a name away. -/
def remove (headers : Headers) (name : String) : Headers :=
  ⟨headers.entries.filter (·.1 != name)⟩

/-- Makes a value the only one of its name. -/
def set (headers : Headers) (name value : String) : Headers :=
  (headers.remove name).append name value

/-- Makes a value the only one of its name, unless it cannot be sent. -/
def setValid (headers : Headers) (name value : String) : Headers :=
  if HeaderValue.isValid value then headers.set name value else headers

/-- All fields ordered by name; values of one name keep their order. -/
def sorted (headers : Headers) : List (String × String) :=
  headers.entries.mergeSort fun a b => a.1 ≤ b.1

/-! ## Laws -/

@[simp] theorem values_append (headers : Headers) (name value other : String) :
    (headers.append name value).values other =
      headers.values other ++ (if name = other then [value] else []) := by
  by_cases h : name = other <;> simp [values, append, h]

@[simp] theorem values_remove (headers : Headers) (name other : String) :
    (headers.remove name).values other = if name = other then [] else headers.values other := by
  unfold values remove
  by_cases h : name = other
  · subst h
    simp [List.filter_filter]
  · rw [if_neg h, List.filter_filter]
    congr 1
    apply List.filter_congr
    intro entry _
    by_cases he : entry.1 = other
    · simp [he, Ne.symm h]
    · simp [he]

@[simp] theorem values_set (headers : Headers) (name value other : String) :
    (headers.set name value).values other =
      if name = other then [value] else headers.values other := by
  by_cases h : name = other <;> simp [set, h]

end Headers

end ComposingProxy
