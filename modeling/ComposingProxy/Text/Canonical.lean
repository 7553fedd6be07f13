import ComposingProxy.Text.Canonical.Composite

/-!
# One form for every text

A letter with marks can be written as one character or as several, and marks that do not
touch one another in any order. `normalize` brings a text to the one form that is called
NFC: everything is taken apart, marks are put in the order of their classes, and letters are
joined with the marks after them as far as they go together.
-/

namespace ComposingProxy.Text.Canonical

/-- How often a character can be taken apart. -/
def maxDepth : Nat := 3

/-- A character taken apart so often. -/
def decomposeIn : Nat → Char → List Char
  | 0, c => [c]
  | depth + 1, c =>
    match parts? c with
    | none => [c]
    | some parts => parts.flatMap (decomposeIn depth)

/-! ## The order of marks -/

/-- Puts a character in front of a text, or, if it is a mark, after the marks of lower
classes at the front. -/
def insertMark (c : Char) : List Char → List Char
  | [] => [c]
  | d :: s =>
    if 0 < combiningClass d ∧ combiningClass d < combiningClass c then d :: insertMark c s
    else c :: d :: s

/-- A text with its marks in order. Marks of one class stay as they are. -/
def arrange (s : List Char) : List Char := s.foldr insertMark []

/-! ## Taking apart and joining -/

/-- A text with everything taken apart. -/
def takeApart (s : List Char) : List Char := s.flatMap (decomposeIn maxDepth)

/-- Joins a letter with what comes after it. `kept` holds the marks in between that do not go
with it, the latest first. A mark goes with the letter unless one of its class, or another
letter, is in between. -/
def joinFrom (letter : Char) (kept : List Char) : List Char → List Char
  | [] => letter :: kept.reverse
  | c :: s =>
    let isFree := kept.head?.all fun d => combiningClass d < combiningClass c
    match if isFree then join? letter c else none with
    | some composite => joinFrom composite kept s
    | none =>
      if combiningClass c = 0 then letter :: (kept.reverse ++ joinFrom c [] s)
      else joinFrom letter (c :: kept) s

/-- Joins every letter with the marks that go with it. -/
def join : List Char → List Char
  | [] => []
  | c :: s => if combiningClass c = 0 then joinFrom c [] s else c :: join s

/-- The one form of a text. -/
def normalize (s : List Char) : List Char := join (arrange (takeApart s))

end ComposingProxy.Text.Canonical
