import ComposingProxy.Address.Ip
import ComposingProxy.Http.Headers
import ComposingProxy.Proofs.Address.UriForms

/-!
# Visible texts

The values that the proxy makes up are put together from addresses, numbers and parts of
the request, and a value that cannot be sent is left out without a word. So that none of
them is lost, each part has to be visible ASCII:

> `IpAddress.isVisible_render`, `isVisible_decimal`: addresses and numbers are.
> `Uri.isVisible_authority`, `Uri.isVisible_scheme`: so are the parts of a URI that was read.

Visible texts can be sent (`isValid_of_isVisible`), and joining keeps them visible.
-/

namespace ComposingProxy

/-- A character of the visible range: a space, a tab, or printed ASCII. -/
def IsVisibleChar (c : Char) : Prop := (0x20 ≤ c.toNat ∧ c.toNat < 0x7F) ∨ c = '\t'

namespace HeaderValue

/-! ## Joining -/

/-- A value is visible if all its characters are. -/
theorem isVisible_iff {value : String} :
    isVisible value = true ↔ ∀ c ∈ value.toList, IsVisibleChar c := by
  simp only [isVisible, List.all_eq_true, Bool.or_eq_true, Bool.and_eq_true, decide_eq_true_eq,
    beq_iff_eq, IsVisibleChar]

theorem isVisible_ofList {s : List Char} :
    isVisible (String.ofList s) = true ↔ ∀ c ∈ s, IsVisibleChar c := by
  rw [isVisible_iff, String.toList_ofList]

/-- What is visible may be sent. -/
theorem isValid_of_isVisible {value : String} (h : isVisible value = true) :
    isValid value = true := by
  rw [isVisible_iff] at h
  simp only [isValid, List.all_eq_true, Bool.or_eq_true, Bool.and_eq_true, decide_eq_true_eq,
    bne_iff_ne, beq_iff_eq]
  intro c hc
  rcases h c hc with ⟨hlow, hhigh⟩ | htab
  · exact Or.inl ⟨hlow, by omega⟩
  · exact Or.inr htab

/-- Two visible values make one. -/
theorem isVisible_append {a b : String} (ha : isVisible a = true) (hb : isVisible b = true) :
    isVisible (a ++ b) = true := by
  rw [isVisible_iff] at ha hb ⊢
  intro c hc
  rw [String.toList_append, List.mem_append] at hc
  exact hc.elim (ha c) (hb c)

/-- Visible parts with a visible text between them make a visible value. -/
theorem isVisible_intercalate {between : String} {parts : List String}
    (hbetween : isVisible between = true) (hparts : ∀ part ∈ parts, isVisible part = true) :
    isVisible (String.intercalate between parts) = true := by
  induction parts with
  | nil => rfl
  | cons part rest ih =>
    have hpart := hparts part List.mem_cons_self
    have hrest := ih fun p hp => hparts p (List.mem_cons_of_mem part hp)
    cases rest with
    | nil => rwa [String.intercalate_singleton]
    | cons next rest =>
      rw [String.intercalate_cons_cons]
      exact isVisible_append (isVisible_append hpart hbetween) hrest

/-! ## Numbers -/

theorem exists_digit_of_mem_toDigits {base : Nat} (hbase : 1 < base) {n : Nat} {c : Char}
    (hc : c ∈ Nat.toDigits base n) : ∃ d < base, c = d.digitChar := by
  induction n using Nat.strongRecOn with
  | ind n ih =>
    rw [Nat.toDigits_eq_if hbase] at hc
    split at hc
    · next hlt => exact ⟨n, hlt, List.mem_singleton.mp hc⟩
    · next hge =>
      rcases List.mem_append.mp hc with hfront | hlast
      · exact ih (n / base) (Nat.div_lt_self (by omega) hbase) hfront
      · exact ⟨n % base, Nat.mod_lt n (by omega), List.mem_singleton.mp hlast⟩

/-- Digits are visible. -/
theorem isVisibleChar_of_mem_toDigits {base n : Nat} (hbase : 1 < base) (hsixteen : base ≤ 16)
    {c : Char} (hc : c ∈ Nat.toDigits base n) : IsVisibleChar c := by
  obtain ⟨d, hd, rfl⟩ := exists_digit_of_mem_toDigits hbase hc
  have hall : ∀ d < 16, 0x20 ≤ d.digitChar.toNat ∧ d.digitChar.toNat < 0x7F := by decide
  exact Or.inl (hall d (by omega))

theorem isVisible_decimal (n : Nat) : isVisible (Text.decimal n) = true :=
  isVisible_ofList.mpr fun _ hc => isVisibleChar_of_mem_toDigits (by omega) (by omega) hc

end HeaderValue

/-! ## Addresses -/

namespace IpAddress

open HeaderValue

/-- An address of version 6 has eight groups. -/
def IsComplete : IpAddress → Prop
  | v4 _ => True
  | v6 groups => groups.length = 8

theorem isVisible_renderV4 (value : Nat) : isVisible (renderV4 value) = true := by
  refine isVisible_intercalate rfl fun part hpart => ?_
  obtain ⟨n, -, rfl⟩ := List.mem_map.mp hpart
  exact isVisible_decimal n

theorem isVisible_join (groups : List Nat) :
    isVisible (String.intercalate ":" (groups.map renderGroup)) = true := by
  refine isVisible_intercalate rfl fun part hpart => ?_
  obtain ⟨group, -, rfl⟩ := List.mem_map.mp hpart
  exact isVisible_ofList.mpr fun _ hc => isVisibleChar_of_mem_toDigits (by omega) (by omega) hc

theorem isVisible_renderGroups (groups : List Nat) : isVisible (renderGroups groups) = true := by
  rw [renderGroups]
  dsimp only
  split
  · exact isVisible_join groups
  · exact isVisible_append (isVisible_append (isVisible_join _) rfl) (isVisible_join _)

/-- Every address is visible as it is written. -/
theorem isVisible_render (address : IpAddress) : isVisible address.render = true := by
  cases address with
  | v4 value => exact isVisible_renderV4 value
  | v6 groups =>
    unfold render
    dsimp only
    split
    · exact isVisible_append rfl (isVisible_renderV4 _)
    · exact isVisible_renderGroups groups

/-- Eight groups are written as something, however many of them are left out. -/
theorem renderGroups_ne_empty {groups : List Nat} (h : groups.length = 8) :
    renderGroups groups ≠ "" := by
  obtain ⟨a, b, rest, rfl⟩ : ∃ a b rest, groups = a :: b :: rest := by
    match groups, h with
    | a :: b :: rest, _ => exact ⟨a, b, rest, rfl⟩
  rw [renderGroups]
  dsimp only
  split
  · rw [List.map_cons, List.map_cons, String.intercalate_cons_cons]
    simp
  · simp

/-- A whole address has a text. -/
theorem render_ne_empty {address : IpAddress} (h : address.IsComplete) :
    address.render ≠ "" := by
  cases address with
  | v4 value =>
    rw [render, renderV4, List.map_cons, List.map_cons, String.intercalate_cons_cons]
    simp
  | v6 groups =>
    unfold render
    dsimp only
    split
    · simp
    · exact renderGroups_ne_empty h

end IpAddress

/-! ## Parts of a URI -/

/-- Letters and digits are in three ranges. -/
theorem toNat_of_isAlphanum {c : Char} (h : c.isAlphanum = true) :
    (65 ≤ c.toNat ∧ c.toNat ≤ 90 ∨ 97 ≤ c.toNat ∧ c.toNat ≤ 122) ∨
      48 ≤ c.toNat ∧ c.toNat ≤ 57 := by
  have hranges : ((decide (65 ≤ c.val ∧ c.val ≤ 90) || (decide (97 ≤ c.val) &&
      decide (c.val ≤ 122))) || (decide (48 ≤ c.val) && decide (c.val ≤ 57))) = true := h
  simp only [Bool.or_eq_true, Bool.and_eq_true, decide_eq_true_eq, UInt32.le_iff_toNat_le,
    UInt32.reduceToNat] at hranges
  exact hranges

namespace Authority

/-- The characters of an authority without a rule of their own are visible. -/
theorem isVisibleChar_of_isPlain {c : Char} (h : isPlain c = true) : IsVisibleChar c := by
  rw [isPlain, Bool.or_eq_true] at h
  rcases h with halnum | hmark
  · have hranges := toNat_of_isAlphanum halnum
    exact Or.inl (by omega)
  · refine Or.inl ?_
    have hall : ['!', '$', '&', '\'', '(', ')', '*', '+', ',', '-', '.', ';', '=', '_', '~'].all
        (fun m => decide (0x20 ≤ m.toNat ∧ m.toNat < 0x7F)) = true := by decide
    exact of_decide_eq_true (List.all_eq_true.mp hall c (List.elem_iff.mp hmark))

/-- Only visible characters stand in an authority. -/
theorem Scan.isVisibleChar_of_push {seen after : Scan} {c : Char}
    (h : seen.push c = .ok after) : IsVisibleChar c := by
  unfold Scan.push at h
  split at h
  all_goals first
    | exact Or.inl (by decide)
    | skip
  split at h
  · next hplain => exact isVisibleChar_of_isPlain hplain
  · exact absurd h (by simp)

/-- What was scanned as an authority is visible. -/
theorem Scan.isVisibleChar_of_foldlM {s : List Char} :
    ∀ {seen after : Scan}, s.foldlM Scan.push seen = .ok after → ∀ c ∈ s, IsVisibleChar c := by
  induction s with
  | nil => intro seen after _ c hc; exact absurd hc List.not_mem_nil
  | cons d s ih =>
    intro seen after h c hc
    rw [List.foldlM_cons] at h
    obtain ⟨next, hpush, hrest⟩ := exists_ok_of_bind h
    rcases List.mem_cons.mp hc with rfl | hmem
    · exact Scan.isVisibleChar_of_push hpush
    · exact ih hrest c hmem

theorem isVisibleChar_of_cut {s authority rest : List Char}
    (h : cut s = .ok (authority, rest)) : ∀ c ∈ authority, IsVisibleChar c := by
  unfold cut at h
  dsimp only at h
  split at h
  · exact absurd h (by simp [bind, Except.bind])
  obtain ⟨seen, hseen, h⟩ := exists_ok_of_bind h
  split at h
  · obtain ⟨rfl, -⟩ := Prod.mk.inj (Except.ok.inj h)
    exact Scan.isVisibleChar_of_foldlM hseen
  · exact absurd h (by simp)

end Authority

namespace Uri

open HeaderValue

/-- The parts of a URI that the proxy passes on in fields are visible. -/
def HasVisibleParts (uri : Uri) : Prop :=
  (∀ scheme, uri.scheme = some scheme → isVisible scheme = true) ∧
    ∀ authority, uri.authority = some authority → isVisible authority = true

theorem isVisibleChar_of_isSchemeChar {c : Char} (h : isSchemeChar c = true) :
    IsVisibleChar c := by
  refine Authority.isVisibleChar_of_isPlain ?_
  simp only [isSchemeChar, Bool.or_eq_true, beq_iff_eq] at h
  rw [Authority.isPlain, Bool.or_eq_true]
  rcases h with (((halnum | rfl) | rfl) | rfl) | rfl
  · exact Or.inl halnum
  all_goals exact Or.inr (by decide)

/-- What was read as a URI has visible parts. -/
theorem hasVisibleParts_of_parse {text : String} {uri : Uri} (h : parse text = .ok uri) :
    uri.HasVisibleParts := by
  have hnone : ∀ part : String, none = some part → isVisible part = true := by simp
  cases form_of_parse h with
  | asterisk | path => exact ⟨hnone, hnone⟩
  | authority hcut =>
    have hauthority := isVisible_ofList.mpr (Authority.isVisibleChar_of_cut hcut)
    exact ⟨hnone, fun _ hsome => Option.some.inj hsome ▸ hauthority⟩
  | whole hscheme hcut =>
    have hvisible := isVisible_ofList.mpr fun c hc =>
      isVisibleChar_of_isSchemeChar (isSchemeChar_of_cutScheme hscheme c hc)
    have hauthority := isVisible_ofList.mpr (Authority.isVisibleChar_of_cut hcut)
    exact ⟨fun _ hsome => Option.some.inj hsome ▸ hvisible,
      fun _ hsome => Option.some.inj hsome ▸ hauthority⟩

end Uri

end ComposingProxy
