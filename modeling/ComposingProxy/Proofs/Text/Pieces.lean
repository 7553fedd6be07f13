import ComposingProxy.Proofs.Text.Utf8
import ComposingProxy.Text.Utf8.Pieces

/-!
# Text that arrives in blocks

A block may end inside a character. Its bytes are then a text and the beginning of the first
character of what is left (`exists_cut`); no byte is lost at such a place, and none is taken for
malformed:

> `flatten_pieces_encode`: the pieces of the bytes of a text, one after the other, are the text.
> `pieces_append`: a text that fills a block is a piece of its own.

From block to block, what was left unfinished begins the text that is still to come (`Begins`).
-/

namespace ComposingProxy.Text.Utf8

variable {bytes more left unfinished block : List UInt8} {s t u : List Char}

/-! ## Beginnings of characters -/

/-- The bytes are fewer than those of the first character of a text, and begin it. Of a text
without characters only no bytes do. -/
def Begins (left : List UInt8) (s : List Char) : Prop :=
  s = [] ∧ left = [] ∨
    ∃ c rest more, s = c :: rest ∧ more ≠ [] ∧ String.utf8EncodeChar c = left ++ more

theorem begins_nil (s : List Char) : Begins [] s := by
  cases s with
  | nil => exact .inl ⟨rfl, rfl⟩
  | cons c rest =>
    obtain ⟨lead, tail, henc, -⟩ := scan_utf8EncodeChar c
    exact .inr ⟨c, rest, lead :: tail, rfl, List.cons_ne_nil _ _, henc⟩

/-- What only begins a text is not all of it. -/
theorem Begins.eq_nil_of_encode (h : Begins left s) (hall : left = encode s) : s = [] := by
  rcases h with ⟨hs, -⟩ | ⟨c, rest, more, rfl, hmore, henc⟩
  · exact hs
  · rw [encode_cons, henc, List.append_assoc] at hall
    exact absurd (List.append_eq_nil_iff.mp (List.self_eq_append_right.mp hall)).1 hmore

/-- Where the bytes of a text are cut, a text and the beginning of a character stand in front. -/
theorem exists_cut (h : bytes ++ more = encode s) :
    ∃ t u left, s = t ++ u ∧ bytes = encode t ++ left ∧ Begins left u ∧
      left ++ more = encode u := by
  induction s generalizing bytes with
  | nil =>
    obtain ⟨rfl, rfl⟩ := List.append_eq_nil_iff.mp h
    exact ⟨[], [], [], rfl, rfl, begins_nil [], rfl⟩
  | cons c s ih =>
    rw [encode_cons] at h
    obtain ⟨rest, hbytes, hrest⟩ | ⟨rest, henc, hmore⟩ := List.append_eq_append_iff.mp h.symm
    · -- the cut is behind the first character
      obtain ⟨t, u, left, rfl, rfl, hbegins, hleft⟩ := ih hrest.symm
      refine ⟨c :: t, u, left, rfl, ?_, hbegins, hleft⟩
      rw [hbytes, encode_cons, List.append_assoc]
    · -- or at the end of that character, or inside it
      by_cases hnil : rest = []
      · subst hnil
        rw [List.append_nil] at henc
        refine ⟨[c], s, [], rfl, ?_, begins_nil s, hmore⟩
        rw [← henc]
        simp [encode]
      · refine ⟨[], c :: s, bytes, rfl, rfl, .inr ⟨c, s, rest, rfl, hnil, henc⟩, ?_⟩
        rw [encode_cons, henc, hmore, List.append_assoc]

/-! ## Unfinished sequences -/

/-- A sequence is unfinished if the scan comes to its end without an answer. -/
theorem isUnfinished_iff {lead : UInt8} {rest : List UInt8} :
    isUnfinished (lead :: rest) = true ↔
      (0xC2 ≤ lead.toNat ∧ lead.toNat < 0xF5) ∧ scan lead rest = (none, rest.length) := by
  rw [isUnfinished, Bool.and_eq_true, Bool.and_eq_true, decide_eq_true_eq, decide_eq_true_eq,
    beq_iff_eq, UInt8.le_iff_toNat_le, UInt8.lt_iff_toNat_lt]
  rfl

/-- A sequence that takes all bytes is unfinished before the last of them. -/
theorem scan_of_cut {lead : UInt8} {part more : List UInt8} {c : Char}
    (h : scan lead (part ++ more) = (some c, (part ++ more).length)) (hmore : more ≠ []) :
    (0xC2 ≤ lead.toNat ∧ lead.toNat < 0xF5) ∧ scan lead part = (none, part.length) := by
  obtain ⟨next, more, rfl⟩ := List.exists_cons_of_ne_nil hmore
  unfold scan at h ⊢
  simp only [UInt8.lt_iff_toNat_lt, UInt8.reduceToNat] at h ⊢
  -- a sequence has three more bytes at most, so the part is of two at most
  rcases part with _ | ⟨b, _ | ⟨d, part⟩⟩
  · grind
  · grind
  · grind

/-- The scan of the beginning of a character comes to its end without an answer. -/
theorem scan_of_begins {lead : UInt8} {rest : List UInt8} (h : Begins (lead :: rest) s) :
    (0xC2 ≤ lead.toNat ∧ lead.toNat < 0xF5) ∧ scan lead rest = (none, rest.length) := by
  rcases h with ⟨-, hnil⟩ | ⟨c, _, more, -, hmore, henc⟩
  · exact absurd hnil (List.cons_ne_nil _ _)
  · obtain ⟨first, tail, hchar, hscan⟩ := scan_utf8EncodeChar c
    obtain ⟨rfl, rfl⟩ := List.cons_eq_cons.mp (hchar.symm.trans henc)
    have hall := hscan []
    rw [List.append_nil] at hall
    exact scan_of_cut hall hmore

/-! ## One block -/

/-- The text in front of an unfinished character is read, and its bytes are kept. -/
theorem wellFormed_encode_append (h : Begins left u) (t : List Char) :
    wellFormed (encode t ++ left) = (t, left) := by
  induction t with
  | nil =>
    show wellFormed left = ([], left)
    cases left with
    | nil => rw [wellFormed]
    | cons lead rest => rw [wellFormed, (scan_of_begins h).2]
  | cons c t ih =>
    obtain ⟨lead, tail, henc, hscan⟩ := scan_utf8EncodeChar c
    rw [encode_cons, henc, List.append_assoc, List.cons_append, wellFormed, hscan]
    dsimp only
    rw [List.drop_left, ih]

/-- Of a block that ends in the beginning of a character, all before that is a piece. -/
theorem cutBlock_encode_append (h : Begins left u) (t : List Char) :
    cutBlock (encode t ++ left) = (if t.isEmpty then [] else [t], left) := by
  rw [cutBlock, wellFormed_encode_append h]
  cases left with
  | nil => rfl
  | cons lead rest =>
    dsimp only
    rw [if_pos (isUnfinished_iff.mpr (scan_of_begins h))]

/-- The pieces of a block and the bytes that it leaves unfinished are all that came. -/
theorem exists_cutBlock (h : bytes ++ more = encode s) :
    ∃ t u, s = t ++ u ∧ (cutBlock bytes).1.flatten = t ∧ Begins (cutBlock bytes).2 u ∧
      (cutBlock bytes).2 ++ more = encode u := by
  obtain ⟨t, u, left, rfl, rfl, hbegins, hleft⟩ := exists_cut h
  rw [cutBlock_encode_append hbegins]
  refine ⟨t, u, rfl, ?_, hbegins, hleft⟩
  cases t <;> simp

/-- So are they where the block completes a character that the one before left unfinished. -/
theorem exists_cutNextBlock (h : unfinished ++ block ++ more = encode s) :
    ∃ t u, s = t ++ u ∧ (cutNextBlock unfinished block).1.flatten = t ∧
      Begins (cutNextBlock unfinished block).2 u ∧
      (cutNextBlock unfinished block).2 ++ more = encode u := by
  have hroom : (unfinished ++ block).take sequenceSize ++
      ((unfinished ++ block).drop sequenceSize ++ more) = encode s := by
    rw [← List.append_assoc, List.take_append_drop, h]
  obtain ⟨t, u, left, rfl, htake, hbegins, hleft⟩ := exists_cut hroom
  have hwell := htake ▸ wellFormed_encode_append hbegins t
  unfold cutNextBlock
  dsimp only
  split
  · -- the first bytes complete what was left, and give a piece of their own
    next c text left' hfound =>
    obtain ⟨rfl, rfl⟩ := Prod.mk.inj (hwell.symm.trans hfound)
    rw [← List.append_assoc] at hleft
    obtain ⟨t', u', rfl, hpieces, hbegins', hleft'⟩ := exists_cutBlock hleft
    refine ⟨c :: text ++ t', u', (List.append_assoc _ _ _).symm, ?_, hbegins', hleft'⟩
    rw [List.flatten_cons, hpieces]
  · exact exists_cutBlock h

/-! ## All blocks -/

/-- The pieces of all blocks make the text. -/
theorem flatten_cutBlocks (hbegins : Begins unfinished s) {blocks : List (List UInt8)}
    (h : unfinished ++ blocks.flatten = encode s) :
    (cutBlocks unfinished blocks).flatten = s := by
  induction blocks generalizing unfinished s with
  | nil =>
    rw [List.flatten_nil, List.append_nil] at h
    obtain rfl := hbegins.eq_nil_of_encode h
    obtain rfl : unfinished = [] := h
    rfl
  | cons block blocks ih =>
    rw [List.flatten_cons, ← List.append_assoc] at h
    obtain ⟨t, u, rfl, hpieces, hnext, hrest⟩ := exists_cutNextBlock h
    have hcut : cutBlocks unfinished (block :: blocks) = (cutNextBlock unfinished block).1 ++
        cutBlocks (cutNextBlock unfinished block).2 blocks := by
      cases unfinished <;> rw [cutBlocks]
    rw [hcut, List.flatten_append, hpieces, ih hnext hrest]

/-- The blocks of some bytes are the bytes. -/
theorem flatten_blocks {size : Nat} (hsize : size ≠ 0) (bytes : List UInt8) :
    (blocks size bytes).flatten = bytes := by
  fun_induction blocks size bytes with
  | case1 bytes h => exact (h.resolve_left hsize).symm
  | case2 bytes h ih => rw [List.flatten_cons, ih, List.take_append_drop]

/-- However the blocks cut the characters of a text, its pieces are the text. -/
theorem flatten_pieces_encode (s : List Char) : (pieces (encode s)).flatten = s := by
  refine flatten_cutBlocks (begins_nil s) ?_
  rw [List.nil_append, flatten_blocks (by decide)]

/-! ## Blocks that end with a character -/

theorem encode_ne_nil (hs : s ≠ []) : encode s ≠ [] := by
  obtain ⟨c, rest, rfl⟩ := List.exists_cons_of_ne_nil hs
  obtain ⟨lead, tail, henc, -⟩ := scan_utf8EncodeChar c
  rw [encode_cons, henc]
  exact List.cons_ne_nil _ _

/-- A block that ends with a character is one piece, and nothing is left over. -/
theorem cutNextBlock_encode (hs : s ≠ []) : cutNextBlock [] (encode s) = ([s], []) := by
  have hcut := cutBlock_encode_append (begins_nil []) s
  rw [List.append_nil] at hcut
  show cutBlock (encode s) = ([s], [])
  rw [hcut, if_neg (by simpa using hs)]

/-- A text that fills a block is a piece of its own. -/
theorem pieces_append (h : (encode s).length = blockSize) (t : List Char) :
    pieces (encode (s ++ t)) = s :: pieces (encode t) := by
  have hs : s ≠ [] := by
    rintro rfl
    exact absurd h (by decide)
  have hbytes : ¬(blockSize = 0 ∨ encode s ++ encode t = []) := by
    simp [blockSize, encode_ne_nil hs]
  rw [pieces, encode_append, blocks, dif_neg hbytes, ← h, List.take_left, List.drop_left,
    cutBlocks, cutNextBlock_encode hs, h]
  rfl

/-- A text that fits into a block is one piece. -/
theorem pieces_eq_singleton (hs : s ≠ []) (h : (encode s).length ≤ blockSize) :
    pieces (encode s) = [s] := by
  have hbytes : ¬(blockSize = 0 ∨ encode s = []) := by
    simp [blockSize, encode_ne_nil hs]
  have hnone : blocks blockSize [] = [] := by rw [blocks, dif_pos (Or.inr rfl)]
  rw [pieces, blocks, dif_neg hbytes, List.take_of_length_le h, List.drop_eq_nil_of_le h, hnone,
    cutBlocks, cutNextBlock_encode hs]
  rfl

end ComposingProxy.Text.Utf8
