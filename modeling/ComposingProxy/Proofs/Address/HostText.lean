import ComposingProxy.Address.HostName
import ComposingProxy.Proofs.Address.UriText

/-!
# Hosts as authorities

The host of a web address becomes the authority of every URI on the site. The two are read by
different rules, and those for domain names let more characters pass:

> `HostName.isHostText_of_parse`: a host is a name of ASCII characters that no rule forbids, or
> an address of version 6 in brackets.
> `Authority.isWhole_iff`: with or without a port number, such a host is a whole authority exactly
> if it holds no quote, backtick or brace.

The numbers are bounded where they have to be: brackets hold eight groups, and so no more colons
than an authority may have (`IpAddress.count_renderGroups`).
-/

namespace ComposingProxy

/-! ## Characters of parts -/

namespace Text

/-- What holds of the separator and of all parts holds of the parts joined. -/
theorem forall_mem_intercalate {P : Char → Prop} {between : List Char} {parts : List (List Char)}
    (hbetween : ∀ c ∈ between, P c) (hparts : ∀ part ∈ parts, ∀ c ∈ part, P c) :
    ∀ c ∈ between.intercalate parts, P c := by
  induction parts with
  | nil => exact fun c hc => absurd hc List.not_mem_nil
  | cons part rest ih =>
    obtain ⟨hpart, hrest⟩ := List.forall_mem_cons.mp hparts
    cases rest with
    | nil => rwa [List.intercalate_singleton]
    | cons next rest =>
      rw [List.intercalate_cons_cons]
      exact List.forall_mem_append.mpr
        ⟨List.forall_mem_append.mpr ⟨hpart, hbetween⟩, ih hrest⟩

/-- What holds of a text holds of its parts. -/
theorem forall_mem_splitAt {P : Char → Prop} {mark : Char} {s : List Char}
    (hs : ∀ c ∈ s, P c) : ∀ part ∈ splitAt mark s, ∀ c ∈ part, P c := by
  induction s with
  | nil =>
    intro part hpart c hc
    rw [splitAt, List.mem_singleton] at hpart
    exact absurd (hpart ▸ hc) List.not_mem_nil
  | cons d s ih =>
    obtain ⟨hd, hs⟩ := List.forall_mem_cons.mp hs
    rw [splitAt]
    split
    · exact List.forall_mem_cons.mpr ⟨fun c hc => absurd hc List.not_mem_nil, ih hs⟩
    · split
      · exact fun part hpart c hc => by
          rw [List.mem_singleton.mp hpart, List.mem_singleton] at hc
          exact hc ▸ hd
      · next first parts hparts =>
        have hall := ih hs
        rw [hparts] at hall
        obtain ⟨hfirst, hrest⟩ := List.forall_mem_cons.mp hall
        exact List.forall_mem_cons.mpr ⟨List.forall_mem_cons.mpr ⟨hd, hfirst⟩, hrest⟩

/-- One part more has one separator more. -/
theorem count_intercalate {mark : Char} {parts : List (List Char)}
    (hparts : ∀ part ∈ parts, mark ∉ part) :
    ([mark].intercalate parts).count mark = parts.length - 1 := by
  induction parts with
  | nil => rfl
  | cons part rest ih =>
    obtain ⟨hpart, hrest⟩ := List.forall_mem_cons.mp hparts
    cases rest with
    | nil => rw [List.intercalate_singleton, List.count_eq_zero_of_not_mem hpart]; rfl
    | cons next rest =>
      rw [List.intercalate_cons_cons, List.count_append, List.count_append,
        List.count_eq_zero_of_not_mem hpart, ih hrest]
      simp only [List.count_singleton_self, List.length_cons]
      omega

/-- Digits up to base sixteen are letters or numerals. -/
theorem isAlphanum_of_mem_toDigits {base n : Nat} (hbase : 1 < base) (hsixteen : base ≤ 16)
    {c : Char} (hc : c ∈ Nat.toDigits base n) : c.isAlphanum = true := by
  obtain ⟨d, hd, rfl⟩ := HeaderValue.exists_digit_of_mem_toDigits hbase hc
  have hall : ∀ d < 16, d.digitChar.isAlphanum = true := by decide
  exact hall d (by omega)

theorem isAlphanum_of_mem_decimal {n : Nat} {c : Char} (hc : c ∈ (decimal n).toList) :
    c.isAlphanum = true := by
  rw [decimal, String.toList_ofList] at hc
  exact isAlphanum_of_mem_toDigits (by omega) (by omega) hc

end Text

/-- Every part of a result comes of some part. -/
theorem exists_of_mem_mapM {α β : Type} {f : α → Option β} {parts : List α} {results : List β}
    (h : parts.mapM f = some results) : ∀ b ∈ results, ∃ a ∈ parts, f a = some b := by
  induction parts generalizing results with
  | nil =>
    rw [List.mapM_nil] at h
    cases h
    exact fun b hb => absurd hb List.not_mem_nil
  | cons a parts ih =>
    rw [List.mapM_cons] at h
    obtain ⟨first, hfirst, h⟩ := Option.bind_eq_some_iff.mp h
    obtain ⟨rest, hrest, h⟩ := Option.bind_eq_some_iff.mp h
    cases h
    refine List.forall_mem_cons.mpr ⟨⟨a, List.mem_cons_self, hfirst⟩, fun b hb => ?_⟩
    obtain ⟨found, hfound, hb⟩ := ih hrest b hb
    exact ⟨found, List.mem_cons_of_mem a hfound, hb⟩

/-! ## Punycode -/

namespace Punycode

/-- A threshold leaves room for a digit on both sides. -/
theorem threshold_bounds (k bias : Nat) : 1 ≤ threshold k bias ∧ threshold k bias ≤ 26 := by
  unfold threshold
  split
  · omega
  · split <;> omega

/-- A character that writing may add to those of the text. -/
def IsWritten (c : Char) : Prop := c = '-' ∨ ∃ d < 36, c = digitChar d

/-- A distance is written in the digits of base thirty-six. -/
theorem isWritten_of_mem_distanceDigits {bias : Nat} (delta : Nat) :
    ∀ k, ∀ c ∈ distanceDigits bias k delta, IsWritten c := by
  -- the digits are those of the distance and of a quotient of it, at a later place
  induction delta using Nat.strongRecOn with
  | ind delta ih =>
    intro k c hc
    obtain ⟨hlow, hhigh⟩ := threshold_bounds k bias
    rw [distanceDigits] at hc
    split at hc
    · next hlast =>
      rw [List.mem_singleton] at hc
      exact Or.inr ⟨delta, by omega, hc⟩
    · next hmore =>
      have hdigit : (delta - threshold k bias) % (36 - threshold k bias) <
          36 - threshold k bias := Nat.mod_lt _ (by omega)
      have hsmaller : (delta - threshold k bias) / (36 - threshold k bias) < delta :=
        calc (delta - threshold k bias) / (36 - threshold k bias)
            ≤ delta - threshold k bias := Nat.div_le_self _ _
          _ < delta := by omega
      rcases List.mem_cons.mp hc with hfirst | hrest
      · exact Or.inr ⟨_, by omega, hfirst⟩
      · exact ih _ hsmaller _ c hrest

namespace Writer

variable {P : Char → Prop}

/-- What holds of the characters that writing adds is kept by one character of the input. -/
theorem forall_mem_pass (hadded : ∀ c, IsWritten c → P c) {w : Writer}
    (hw : ∀ c ∈ w.written, P c) (basic value : Nat) (c : Char) :
    ∀ d ∈ (w.pass basic value c).written, P d := by
  unfold Writer.pass
  split
  · exact hw
  · split
    · exact List.forall_mem_append.mpr
        ⟨hw, fun d hd => hadded d (isWritten_of_mem_distanceDigits _ _ d hd)⟩
    · exact hw

/-- What holds of the characters that writing adds is kept by a pass through the input. -/
theorem forall_mem_foldl_pass (hadded : ∀ c, IsWritten c → P c) (basic value : Nat)
    (input : List Char) : ∀ {w : Writer}, (∀ c ∈ w.written, P c) →
      ∀ c ∈ (input.foldl (Writer.pass basic value) w).written, P c := by
  induction input with
  | nil => exact fun hw => hw
  | cons c input ih => exact fun hw => ih (forall_mem_pass hadded hw basic value c)

/-- What holds of the characters that writing adds is kept by all passes, one for each value. -/
theorem forall_mem_run (hadded : ∀ c, IsWritten c → P c) (input : List Char) (basic : Nat)
    (values : List Nat) : ∀ {next : Nat} {w : Writer}, (∀ c ∈ w.written, P c) →
      ∀ c ∈ (Writer.run input basic values next w).written, P c := by
  induction values with
  | nil => exact fun hw => hw
  | cons value values ih =>
    intro next w hw
    rw [Writer.run]
    exact ih (forall_mem_foldl_pass hadded basic value input hw)

end Writer

/-- The ASCII form of a text has its ASCII characters, hyphens and digits. -/
theorem forall_mem_encode {P : Char → Prop} {input : List Char}
    (hadded : ∀ c, IsWritten c → P c) (hinput : ∀ c ∈ input, c.toNat < 128 → P c) :
    ∀ c ∈ encode input, P c := by
  have hbasic : ∀ c ∈ input.filter (·.toNat < 128), P c := fun c hc => by
    obtain ⟨hmem, hascii⟩ := List.mem_filter.mp hc
    exact hinput c hmem (of_decide_eq_true hascii)
  refine Writer.forall_mem_run hadded input _ _ ?_
  dsimp only
  split
  · exact fun c hc => absurd hc List.not_mem_nil
  · exact List.forall_mem_append.mpr
      ⟨hbasic, fun c hc => hadded c (Or.inl (List.mem_singleton.mp hc))⟩

end Punycode

/-! ## Domain names -/

namespace DomainName

/-- A character of a domain name in its ASCII form. -/
def IsNameChar (c : Char) : Prop := c.toNat < 0x80 ∧ isForbidden c = false

theorem isNameChar_dot : IsNameChar '.' := ⟨by decide, by decide⟩

/-- Letters and numerals may stand in domain names. -/
theorem isNameChar_of_isAlphanum {c : Char} (h : c.isAlphanum = true) : IsNameChar c := by
  have hplain : Authority.isPlain c = true := by
    rw [Authority.isPlain, h]
    rfl
  have hascii : c.toNat < 0x80 := by
    rcases Authority.isVisibleChar_of_isPlain hplain with ⟨-, hhigh⟩ | rfl
    · omega
    · decide
  have hall : ∀ c : Char, c.toNat < 0x80 → c.isAlphanum = true → isForbidden c = false :=
    forall_ascii (by decide)
  exact ⟨hascii, hall c hascii h⟩

/-- What Punycode adds may stand in domain names. -/
theorem isNameChar_of_isWritten {c : Char} (h : Punycode.IsWritten c) : IsNameChar c := by
  rcases h with rfl | ⟨d, hd, rfl⟩
  · exact ⟨by decide, by decide⟩
  · have hall : ∀ d < 36, (Punycode.digitChar d).isAlphanum = true := by decide
    exact isNameChar_of_isAlphanum (hall d hd)

/-- A label that was read has no forbidden character, as the text that it was read from. -/
theorem isForbidden_of_readLabel? {text label : List Char}
    (htext : ∀ c ∈ text, isForbidden c = false) (h : readLabel? text = some label) :
    ∀ c ∈ label, isForbidden c = false := by
  unfold readLabel? at h
  dsimp only at h
  obtain ⟨hlabel, -⟩ := Option.filter_eq_some_iff.mp h
  -- a label in its ASCII form may stand for any text, so reading checks it again
  split at hlabel
  · rw [← Option.some.inj hlabel]
    exact htext
  · unfold decodeLabel? at hlabel
    split at hlabel
    · exact absurd hlabel (by simp)
    obtain ⟨-, hchecked⟩ := Option.filter_eq_some_iff.mp hlabel
    rw [Bool.and_eq_true, List.all_eq_true] at hchecked
    intro c hc
    have hchar := hchecked.2 c hc
    rw [Bool.and_eq_true, Bool.not_eq_true'] at hchar
    exact hchar.1

/-- A label of permitted characters is written in characters of domain names. -/
theorem isNameChar_of_mem_writeLabel {label : List Char}
    (h : ∀ c ∈ label, isForbidden c = false) : ∀ c ∈ writeLabel label, IsNameChar c := by
  unfold writeLabel
  split
  · next hascii =>
    rw [isAscii, List.all_eq_true] at hascii
    exact fun c hc => ⟨of_decide_eq_true (hascii c hc), h c hc⟩
  · refine List.forall_mem_append.mpr ⟨?_, ?_⟩
    · have hprefix : acePrefix.all (fun c => c.isAlphanum || c == '-') = true := by decide
      intro c hc
      rcases Bool.or_eq_true_iff.mp (List.all_eq_true.mp hprefix c hc) with halnum | hhyphen
      · exact isNameChar_of_isAlphanum halnum
      · exact isNameChar_of_isWritten (Or.inl (beq_iff_eq.mp hhyphen))
    · exact Punycode.forall_mem_encode (fun c => isNameChar_of_isWritten)
        fun c hc hascii => ⟨hascii, h c hc⟩

/-- A domain name in its ASCII form is ASCII and has no forbidden character. -/
theorem isNameChar_of_toAscii? {bytes : List UInt8} {domain : List Char}
    (h : toAscii? bytes = some domain) : ∀ c ∈ domain, IsNameChar c := by
  unfold toAscii? at h
  obtain ⟨text, -, h⟩ := Option.bind_eq_some_iff.mp h
  obtain ⟨s, -, h⟩ := Option.bind_eq_some_iff.mp h
  split at h
  · exact absurd h (by simp)
  next hforbidden =>
  have hs : ∀ c ∈ s, isForbidden c = false := by
    simpa only [List.any_eq_true, not_exists, not_and, Bool.not_eq_true] using hforbidden
  obtain ⟨labels, hlabels, h⟩ := Option.bind_eq_some_iff.mp h
  split at h
  · rw [← Option.some.inj h]
    refine Text.forall_mem_intercalate (List.forall_mem_singleton.mpr isNameChar_dot) ?_
    intro part hpart
    obtain ⟨label, hlabel, rfl⟩ := List.mem_map.mp hpart
    obtain ⟨written, hwritten, hread⟩ := exists_of_mem_mapM hlabels label hlabel
    exact isNameChar_of_mem_writeLabel
      (isForbidden_of_readLabel? (Text.forall_mem_splitAt hs written hwritten) hread)
  · exact absurd h (by simp)

end DomainName

/-! ## IP addresses -/

namespace IpAddress

/-- An address of version 4 is written in numerals and dots. -/
theorem isDotted_of_mem_renderV4 (value : Nat) :
    ∀ c ∈ (renderV4 value).toList, c = '.' ∨ c.isAlphanum = true := by
  rw [renderV4, String.toList_intercalate]
  refine Text.forall_mem_intercalate (fun c hc => .inl (List.mem_singleton.mp hc)) ?_
  intro part hpart c hc
  obtain ⟨_, htext, rfl⟩ := List.mem_map.mp hpart
  obtain ⟨n, -, rfl⟩ := List.mem_map.mp htext
  exact .inr (Text.isAlphanum_of_mem_decimal hc)

/-- The longest run of zeros lies within the groups. -/
theorem longestZeroRun_le (groups : List Nat) : ∀ start,
    (longestZeroRun start groups).1 + (longestZeroRun start groups).2 ≤
      start + groups.length := by
  induction groups with
  | nil => intro start; exact Nat.zero_le _
  | cons group groups ih =>
    intro start
    have hlater := ih (start + 1)
    have hrun : zeroRun (group :: groups) ≤ (group :: groups).length :=
      (List.takeWhile_prefix _).length_le
    rw [longestZeroRun]
    rw [List.length_cons] at hrun ⊢
    split
    · omega
    · omega

/-- A colon or a hexadecimal digit. -/
def IsGroupChar (c : Char) : Prop := c = ':' ∨ c.isAlphanum = true

/-- Groups are written in colons and hexadecimal digits. -/
theorem isGroupChar_of_mem_join (groups : List Nat) :
    ∀ c ∈ (String.intercalate ":" (groups.map renderGroup)).toList, IsGroupChar c := by
  rw [String.toList_intercalate]
  refine Text.forall_mem_intercalate (fun c hc => Or.inl (List.mem_singleton.mp hc)) ?_
  intro part hpart c hc
  obtain ⟨_, htext, rfl⟩ := List.mem_map.mp hpart
  obtain ⟨group, -, rfl⟩ := List.mem_map.mp htext
  rw [renderGroup, String.toList_ofList] at hc
  exact Or.inr (Text.isAlphanum_of_mem_toDigits (by omega) (by omega) hc)

/-- An address of version 6 is written in these characters, also where zeros are left out. -/
theorem isGroupChar_of_mem_renderGroups (groups : List Nat) :
    ∀ c ∈ (renderGroups groups).toList, IsGroupChar c := by
  rw [renderGroups]
  dsimp only
  split
  · exact isGroupChar_of_mem_join groups
  · rw [String.toList_append, String.toList_append]
    have hcolons : ∀ c ∈ "::".toList, IsGroupChar c := fun c hc => by
      simp only [String.reduceToList, List.mem_cons, List.not_mem_nil, or_false, or_self] at hc
      exact Or.inl hc
    exact List.forall_mem_append.mpr
      ⟨List.forall_mem_append.mpr ⟨isGroupChar_of_mem_join _, hcolons⟩, isGroupChar_of_mem_join _⟩

/-- There is one colon less than there are groups. -/
theorem count_join (groups : List Nat) :
    (String.intercalate ":" (groups.map renderGroup)).toList.count ':' = groups.length - 1 := by
  rw [String.toList_intercalate]
  have hparts : ∀ part ∈ (groups.map renderGroup).map String.toList, ':' ∉ part := by
    intro part hpart hcolon
    obtain ⟨_, htext, rfl⟩ := List.mem_map.mp hpart
    obtain ⟨group, -, rfl⟩ := List.mem_map.mp htext
    rw [renderGroup, String.toList_ofList] at hcolon
    exact absurd (Text.isAlphanum_of_mem_toDigits (by omega) (by omega) hcolon) (by decide)
  have hcount := Text.count_intercalate hparts
  rwa [List.length_map, List.length_map] at hcount

/-- Eight groups are written with no more colons than stand between them. -/
theorem count_renderGroups {groups : List Nat} (h : groups.length = 8) :
    (renderGroups groups).toList.count ':' ≤ 7 := by
  have hbound := longestZeroRun_le groups 0
  rw [renderGroups]
  dsimp only
  split
  · rw [count_join, h]
  · next hlong =>
    -- the two colons stand for two groups or more, each of which had a colon beside it
    rw [String.toList_append, String.toList_append, List.count_append, List.count_append,
      count_join, count_join, List.length_take, List.length_drop, h]
    have hcolons : "::".toList.count ':' = 2 := by decide
    omega

/-- An address of version 6 has eight groups. -/
theorem length_of_parseV6? {s : List Char} {groups : List Nat} (h : parseV6? s = some groups) :
    groups.length = 8 := by
  unfold parseV6? at h
  split at h
  · obtain ⟨-, hlength⟩ := Option.filter_eq_some_iff.mp h
    exact beq_iff_eq.mp hlength
  · obtain ⟨front, -, h⟩ := Option.bind_eq_some_iff.mp h
    obtain ⟨back, -, h⟩ := Option.bind_eq_some_iff.mp h
    split at h
    · exact absurd h (by simp)
    · next hshort =>
      rw [← Option.some.inj h]
      simp only [Bool.or_eq_true, decide_eq_true_eq, not_or] at hshort
      simp only [List.length_append, List.length_replicate]
      omega

end IpAddress

/-! ## Hosts -/

namespace HostName

open DomainName IpAddress

/-- The texts of hosts: names, and groups in brackets. -/
inductive IsHostText : List Char → Prop
  | name {s : List Char} (hne : s ≠ []) (hs : ∀ c ∈ s, IsNameChar c) : IsHostText s
  | groups {s : List Char} (hs : ∀ c ∈ s, IsGroupChar c) (hcolons : s.count ':' ≤ 7) :
      IsHostText ('[' :: (s ++ [']']))

theorem isHostText_renderV4 (value : Nat) : IsHostText (renderV4 value).toList := by
  refine .name ?_ ?_
  · have hcomplete : (IpAddress.v4 value).IsComplete := trivial
    rw [ne_eq, String.toList_eq_nil_iff]
    exact render_ne_empty hcomplete
  · intro c hc
    rcases isDotted_of_mem_renderV4 value c hc with rfl | halnum
    · exact isNameChar_dot
    · exact isNameChar_of_isAlphanum halnum

/-- What was read as a host is the text of one. -/
theorem isHostText_of_parse {s : List Char} {host : String} (h : parse s = .ok host) :
    IsHostText host.toList := by
  unfold parse at h
  split at h
  · unfold parseBracketed at h
    split at h
    · split at h
      · next groups hgroups =>
        rw [← Except.ok.inj h, String.toList_append, String.toList_append]
        exact .groups (isGroupChar_of_mem_renderGroups groups)
          (count_renderGroups (length_of_parseV6? hgroups))
      · exact absurd h (by simp)
    · exact absurd h (by simp)
  · split at h
    · exact absurd h (by simp)
    · exact absurd h (by simp)
    · next domain hne hdomain =>
      split at h
      · split at h
        · rw [← Except.ok.inj h]
          exact isHostText_renderV4 _
        · exact absurd h (by simp)
      · rw [← Except.ok.inj h, String.toList_ofList]
        exact .name hne (isNameChar_of_toAscii? hdomain)

end HostName

/-! ## Authorities -/

namespace Authority

open DomainName IpAddress HostName

/-- The characters that a host may have and an authority may not. -/
def refusedChars : List Char := ['"', '\x60', '\x7b', '\x7d']

/-- No character is one that a host may have and an authority may not. -/
def Accepts (s : List Char) : Prop := ∀ c ∈ s, c ∉ refusedChars

instance (s : List Char) : Decidable (Accepts s) :=
  decidable_of_iff (s.all (fun c => decide (c ∉ refusedChars)) = true)
    (by simp only [List.all_eq_true, decide_eq_true_eq, Accepts])

/-- The end of an authority that names a port number. -/
def portPart : Option Nat → String
  | some number => ":" ++ Text.decimal number
  | none => ""

/-- A character that is counted or has no rule of its own. -/
def IsCounted (c : Char) : Prop := c = ':' ∨ isPlain c = true

theorem isPlain_of_isAlphanum {c : Char} (h : c.isAlphanum = true) : isPlain c = true := by
  rw [isPlain, h]
  rfl

/-- The characters of names have no rule of their own in an authority, unless it refuses them. -/
theorem isPlain_of_isNameChar {c : Char} (h : IsNameChar c) (hrefused : c ∉ refusedChars) :
    isPlain c = true := by
  have hall : ∀ c : Char, c.toNat < 0x80 → isForbidden c = false → c ∉ refusedChars →
      isPlain c = true := forall_ascii (by decide)
  exact hall c h.1 h.2 hrefused

/-- A port is a colon and numerals. -/
theorem isCounted_of_mem_portPart (number : Option Nat) :
    ∀ c ∈ (portPart number).toList, IsCounted c := by
  cases number with
  | none => exact fun c hc => absurd hc List.not_mem_nil
  | some number =>
    rw [portPart, String.toList_append]
    exact List.forall_mem_append.mpr ⟨fun c hc => Or.inl (List.mem_singleton.mp hc),
      fun c hc => Or.inr (isPlain_of_isAlphanum (Text.isAlphanum_of_mem_decimal hc))⟩

/-- A port brings one colon at most. -/
theorem count_portPart_le (number : Option Nat) : (portPart number).toList.count ':' ≤ 1 := by
  cases number with
  | none => exact Nat.zero_le 1
  | some number =>
    have hdigits : ':' ∉ (Text.decimal number).toList := fun hcolon =>
      absurd (Text.isAlphanum_of_mem_decimal hcolon) (by decide)
    rw [portPart, String.toList_append, List.count_append, List.count_eq_zero_of_not_mem hdigits]
    decide

namespace Scan

/-- Counted characters change the number of colons and nothing else. -/
theorem push_of_isCounted {seen : Scan} {c : Char} (hc : IsCounted c)
    (hat : seen.atSign = false) (hroom : seen.colons + [c].count ':' ≤ maxColons) :
    seen.push c = .ok { seen with colons := seen.colons + [c].count ':' } := by
  unfold push
  rw [← hat]
  rcases hc with rfl | hplain
  · rw [List.count_singleton_self] at hroom ⊢
    have hfew : ¬ seen.colons ≥ maxColons := by omega
    exact if_neg hfew
  · dsimp only
    split
    -- no character with a rule of its own is plain
    all_goals first
      | exact absurd hplain (by decide)
      | skip
    next hcolon _ _ _ _ =>
    rw [if_pos hplain, List.count_eq_zero_of_not_mem fun hmem =>
      hcolon (List.mem_singleton.mp hmem).symm]
    rfl

/-- Where no character has a rule of its own, only the colons are counted, of which there may be
eight. -/
theorem foldlM_push_of_isCounted {s : List Char} (hs : ∀ c ∈ s, IsCounted c) :
    ∀ {seen : Scan}, seen.atSign = false → seen.colons + s.count ':' ≤ maxColons →
      s.foldlM push seen = .ok { seen with colons := seen.colons + s.count ':' } := by
  induction s with
  | nil => exact fun _ _ => rfl
  | cons c s ih =>
    intro seen hat hroom
    obtain ⟨hc, hs⟩ := List.forall_mem_cons.mp hs
    have hcount : (c :: s).count ':' = [c].count ':' + s.count ':' := by
      rw [← List.count_append]
      rfl
    rw [hcount, ← Nat.add_assoc] at hroom ⊢
    rw [List.foldlM_cons, push_of_isCounted hc hat (by omega)]
    have hafter : ({ seen with colons := seen.colons + [c].count ':' } : Scan).atSign = false :=
      hat
    exact ih hs hafter hroom

/-- No character that an authority refuses is taken into account. -/
theorem not_mem_refusedChars_of_push {seen after : Scan} {c : Char}
    (h : seen.push c = .ok after) : c ∉ refusedChars := by
  unfold push at h
  split at h
  all_goals first
    | decide
    | skip
  split at h
  · next hplain =>
    have hall : refusedChars.all (!isPlain ·) = true := by decide
    intro hrefused
    have hrule := List.all_eq_true.mp hall c hrefused
    rw [hplain] at hrule
    exact absurd hrule (by decide)
  · exact absurd h (by simp)

/-- A scan that comes to its end has met no refused character. -/
theorem accepts_of_foldlM {s : List Char} : ∀ {seen after : Scan},
    s.foldlM push seen = .ok after → Accepts s := by
  induction s with
  | nil => exact fun _ c hc => absurd hc List.not_mem_nil
  | cons d s ih =>
    intro seen after h
    rw [List.foldlM_cons] at h
    obtain ⟨next, hpush, hrest⟩ := exists_ok_of_bind h
    exact List.forall_mem_cons.mpr ⟨not_mem_refusedChars_of_push hpush, ih hrest⟩

end Scan

/-- Without brackets there is room for one colon. -/
theorem isWhole_of_isCounted {s : List Char} (hne : s ≠ []) (hs : ∀ c ∈ s, IsCounted c)
    (hcolon : s.count ':' ≤ 1) : IsWhole s := by
  have hstart : ({} : Scan).atSign = false := rfl
  have hroom : ({} : Scan).colons + s.count ':' ≤ maxColons :=
    calc 0 + s.count ':'
        ≤ 0 + 1 := Nat.add_le_add_left hcolon 0
      _ ≤ maxColons := by decide
  refine ⟨hne, _, Scan.foldlM_push_of_isCounted hs hstart hroom, ?_⟩
  simpa [Scan.complete] using hcolon

/-- The closing bracket starts the count of colons anew. -/
theorem isWhole_of_bracketed {inner port : List Char} (hinner : ∀ c ∈ inner, IsCounted c)
    (hcolons : inner.count ':' ≤ 7) (hport : ∀ c ∈ port, IsCounted c)
    (hcolon : port.count ':' ≤ 1) : IsWhole ('[' :: (inner ++ [']']) ++ port) := by
  have hopened : ({ opened := true } : Scan).atSign = false := rfl
  have hroom : ({ opened := true } : Scan).colons + inner.count ':' ≤ maxColons :=
    calc 0 + inner.count ':'
        ≤ 0 + 7 := Nat.add_le_add_left hcolons 0
      _ ≤ maxColons := by decide
  have hclosed : ({ opened := true, closed := true } : Scan).atSign = false := rfl
  have hafter : ({ opened := true, closed := true } : Scan).colons + port.count ':' ≤ maxColons :=
    calc 0 + port.count ':'
        ≤ 0 + 1 := Nat.add_le_add_left hcolon 0
      _ ≤ maxColons := by decide
  have hrun : ('[' :: (inner ++ [']']) ++ port).foldlM Scan.push {} =
      .ok { opened := true, closed := true, colons := 0 + port.count ':' } := by
    rw [List.cons_append, List.append_assoc, List.foldlM_cons]
    show (inner ++ ([']'] ++ port)).foldlM Scan.push { opened := true } = _
    rw [List.foldlM_append, Scan.foldlM_push_of_isCounted hinner hopened hroom]
    exact Scan.foldlM_push_of_isCounted hport hclosed hafter
  refine ⟨List.cons_ne_nil _ _, _, hrun, ?_⟩
  simpa [Scan.complete] using hcolon

/-- A host with or without a port number is a whole authority, unless it holds a character that
an authority refuses. -/
theorem isWhole_of_isHostText {host : List Char} {number : Option Nat} (h : IsHostText host)
    (haccepts : Accepts host) : IsWhole (host ++ (portPart number).toList) := by
  have hport := isCounted_of_mem_portPart number
  have hcolon := count_portPart_le number
  cases h with
  | name hne hs =>
    -- a name has no colon, so the only one is that of the port number
    have hplain : ∀ c ∈ host, isPlain c = true := fun c hc =>
      isPlain_of_isNameChar (hs c hc) (haccepts c hc)
    have hnone : host.count ':' = 0 := List.count_eq_zero_of_not_mem fun hmem =>
      absurd (hplain _ hmem) (by decide)
    refine isWhole_of_isCounted (fun hempty => hne (List.append_eq_nil_iff.mp hempty).1)
      (List.forall_mem_append.mpr ⟨fun c hc => Or.inr (hplain c hc), hport⟩) ?_
    rw [List.count_append]
    omega
  | groups hs hcolons =>
    exact isWhole_of_bracketed (fun c hc => (hs c hc).imp_right isPlain_of_isAlphanum) hcolons
      hport hcolon

/-- The characters that an authority refuses are the only ones that keep a host from being one. -/
theorem isWhole_iff {host : List Char} {number : Option Nat} (h : IsHostText host) :
    IsWhole (host ++ (portPart number).toList) ↔ Accepts (host ++ (portPart number).toList) := by
  constructor
  · rintro ⟨-, seen, hseen, -⟩
    exact Scan.accepts_of_foldlM hseen
  · exact fun haccepts => isWhole_of_isHostText h (List.forall_mem_append.mp haccepts).1

end Authority

end ComposingProxy
