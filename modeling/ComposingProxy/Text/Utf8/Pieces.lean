import ComposingProxy.Text.Utf8

/-!
# Text that arrives in pieces

Bytes are read in blocks, so a character may begin in one block and end in the next. A
sequence that a block leaves unfinished is completed from the front of the next one,
in a room of four bytes. Reading pauses at the end of a block, after such a room, and around
every replacement character; `pieces` is the text cut at these pauses.
-/

namespace ComposingProxy.Text.Utf8

/-- The text at the front of the bytes that is well formed, and the bytes from the first
malformed piece on. -/
def wellFormed : List UInt8 → List Char × List UInt8
  | [] => ([], [])
  | lead :: rest =>
    match (scan lead rest).1 with
    | none => ([], lead :: rest)
    | some c =>
      let (text, left) := wellFormed (rest.drop (scan lead rest).2)
      (c :: text, left)
termination_by bytes => bytes.length

/-- Whether all bytes together are the beginning of one sequence that needs more of them. -/
def isUnfinished : List UInt8 → Bool
  | [] => false
  | lead :: rest => 0xC2 ≤ lead && lead < 0xF5 && scan lead rest == (none, rest.length)

theorem length_wellFormed_le (bytes : List UInt8) :
    (wellFormed bytes).2.length ≤ bytes.length := by
  fun_induction wellFormed bytes with
  | case1 => simp
  | case2 => simp
  | case3 lead rest c hc text left hleft ih =>
    rw [hleft] at ih
    simp only [List.length_drop, List.length_cons] at ih ⊢
    omega

/-- The pieces of the text of a block, and the bytes of a sequence that it leaves
unfinished. -/
def cutBlock (bytes : List UInt8) : List (List Char) × List UInt8 :=
  let text := (wellFormed bytes).1
  let front := if text.isEmpty then [] else [text]
  match _h : (wellFormed bytes).2 with
  | [] => (front, [])
  | lead :: rest =>
    if isUnfinished (lead :: rest) then (front, lead :: rest)
    else
      let (pieces, unfinished) := cutBlock (rest.drop (scan lead rest).2)
      (front ++ [replacement] :: pieces, unfinished)
termination_by bytes.length
decreasing_by
  have := length_wellFormed_le bytes
  rw [_h] at this
  simp only [List.length_drop, List.length_cons] at this ⊢
  omega

/-- The most bytes of a sequence. -/
def sequenceSize : Nat := 4

/-- The pieces of the text of a block after the bytes that the block before left unfinished. -/
def cutNextBlock (unfinished block : List UInt8) : List (List Char) × List UInt8 :=
  let bytes := unfinished ++ block
  match unfinished, wellFormed (bytes.take sequenceSize) with
  | _ :: _, (c :: text, left) =>
    let (pieces, last) := cutBlock (left ++ bytes.drop sequenceSize)
    ((c :: text) :: pieces, last)
  | _, _ => cutBlock bytes

/-- The pieces of the text of several blocks. A sequence that is never finished is malformed. -/
def cutBlocks : List UInt8 → List (List UInt8) → List (List Char)
  | [], [] => []
  | _ :: _, [] => [[replacement]]
  | unfinished, block :: blocks =>
    let (pieces, last) := cutNextBlock unfinished block
    pieces ++ cutBlocks last blocks

/-- The bytes in blocks of a size above zero. -/
def blocks (size : Nat) (bytes : List UInt8) : List (List UInt8) :=
  if _h : size = 0 ∨ bytes = [] then []
  else bytes.take size :: blocks size (bytes.drop size)
termination_by bytes.length
decreasing_by
  have : bytes.length ≠ 0 := fun h => _h (.inr (List.length_eq_zero_iff.1 h))
  simp only [List.length_drop]
  omega

/-- How many bytes are read at once. -/
def blockSize : Nat := 4096

/-- The text of the bytes, cut where reading pauses. -/
def pieces (bytes : List UInt8) : List (List Char) := cutBlocks [] (blocks blockSize bytes)

end ComposingProxy.Text.Utf8
