/-!
# UTF-8

Texts as bytes and bytes as texts. Reading is per sequence: `scan` takes one
scalar value or one malformed piece from the front, so that strict reading
(`decode?`, which refuses malformed bytes) and lossy reading (`decodeLossy`,
which puts one replacement character for each malformed piece) are the same walk.
A malformed piece is the longest beginning of a well-formed sequence that is there,
and at least one byte.
-/

namespace ComposingProxy.Text.Utf8

/-- The character that stands for malformed bytes. -/
def replacement : Char := '\uFFFD'

/-- The bytes of a text. -/
def encode (s : List Char) : List UInt8 := s.flatMap String.utf8EncodeChar

/-- Whether a byte continues a sequence. -/
def isContinuation (b : UInt8) : Bool := 0x80 ≤ b && b ≤ 0xBF

/-- The six low bits of a continuation byte. -/
def payload (b : UInt8) : Nat := b.toNat % 64

/-- The range of the second byte after a lead byte of three or four bytes: overlong
forms, surrogates and values past the last plane are cut off. -/
def secondInRange (lead second : UInt8) : Bool :=
  if lead == 0xE0 then 0xA0 ≤ second && second ≤ 0xBF
  else if lead == 0xED then 0x80 ≤ second && second ≤ 0x9F
  else if lead == 0xF0 then 0x90 ≤ second && second ≤ 0xBF
  else if lead == 0xF4 then 0x80 ≤ second && second ≤ 0x8F
  else isContinuation second

/-- One scalar value, or `none` for a malformed piece, that begins with the byte `lead`,
and the number of bytes after `lead` that belong to it. -/
def scan (lead : UInt8) (rest : List UInt8) : Option Char × Nat :=
  if lead < 0x80 then (some (Char.ofNat lead.toNat), 0)
  else if lead < 0xC2 then (none, 0)
  else if lead < 0xE0 then
    match rest with
    | b :: _ =>
      if isContinuation b then (some (Char.ofNat (lead.toNat % 32 * 64 + payload b)), 1)
      else (none, 0)
    | [] => (none, 0)
  else if lead < 0xF0 then
    match rest with
    | b :: more =>
      if secondInRange lead b then
        match more with
        | c :: _ =>
          if isContinuation c then
            (some (Char.ofNat ((lead.toNat % 16 * 64 + payload b) * 64 + payload c)), 2)
          else (none, 1)
        | [] => (none, 1)
      else (none, 0)
    | [] => (none, 0)
  else if lead < 0xF5 then
    match rest with
    | b :: more =>
      if secondInRange lead b then
        match more with
        | c :: more =>
          if isContinuation c then
            match more with
            | d :: _ =>
              if isContinuation d then
                (some (Char.ofNat
                  (((lead.toNat % 8 * 64 + payload b) * 64 + payload c) * 64 + payload d)), 3)
              else (none, 2)
            | [] => (none, 2)
          else (none, 1)
        | [] => (none, 1)
      else (none, 0)
    | [] => (none, 0)
  else (none, 0)

/-- The text of the bytes, with a replacement character for each malformed piece. -/
def decodeLossy : List UInt8 → List Char
  | [] => []
  | lead :: rest =>
    (scan lead rest).1.getD replacement :: decodeLossy (rest.drop (scan lead rest).2)
termination_by bytes => bytes.length

/-- The text of well-formed bytes. -/
def decode? : List UInt8 → Option (List Char)
  | [] => some []
  | lead :: rest =>
    match (scan lead rest).1 with
    | none => none
    | some c => (decode? (rest.drop (scan lead rest).2)).map (c :: ·)
termination_by bytes => bytes.length

/-- Where the bytes are well formed, lossy reading reads the same text. -/
theorem decodeLossy_of_decode? {bytes : List UInt8} {s : List Char}
    (h : decode? bytes = some s) : decodeLossy bytes = s := by
  fun_induction decode? bytes generalizing s with
  | case1 => simp at h; simp [decodeLossy, h]
  | case2 => simp at h
  | case3 lead rest c hc ih =>
    obtain ⟨t, ht, rfl⟩ := Option.map_eq_some_iff.1 h
    rw [decodeLossy, ih ht, hc]
    rfl

end ComposingProxy.Text.Utf8
