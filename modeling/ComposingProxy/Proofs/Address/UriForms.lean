import ComposingProxy.Address.Uri
import Mathlib.Data.List.TakeWhile

/-!
# The forms of a URI

A request names where it goes in one of four forms: the asterisk, a path, an authority, or a
whole address. What is known of the parts of a URI comes from how each was cut out of the
text, so the ways in which a text is read are told once:

> `Uri.form_of_parse`: a text that is read has one of the forms, and its parts are the cuts that
> the form names.
-/

namespace ComposingProxy

/-- Where a sequence of two steps succeeds, both do. -/
theorem exists_ok_of_bind {ε α β : Type} {first : Except ε α} {second : α → Except ε β} {b : β}
    (h : (first >>= second) = .ok b) : ∃ a, first = .ok a ∧ second a = .ok b := by
  cases first with
  | error cause => exact absurd h (by simp [bind, Except.bind])
  | ok a => exact ⟨a, rfl, h⟩

/-- The text `s` is read as the URI. -/
inductive Uri.Form (s : List Char) : Uri → Prop
  | asterisk : Form s { path := "*" }
  | path {path : String} {query : Option String} (hslash : s.head? = some '/')
      (hparts : pathAndQuery s = .ok (path, query)) : Form s { path, query }
  | authority {authority : List Char} (hcut : Authority.cut s = .ok (authority, [])) :
      Form s { authority := some (String.ofList authority) }
  | whole {scheme afterScheme authority afterAuthority : List Char} {path : String}
      {query : Option String} (hscheme : cutScheme s = .ok (some scheme, afterScheme))
      (hcut : Authority.cut afterScheme = .ok (authority, afterAuthority))
      (hparts : pathAndQuery afterAuthority = .ok (path, query)) :
      Form s
        { scheme := some (String.ofList scheme)
          authority := some (String.ofList authority)
          path := if path = "" then "/" else path
          query }

/-- A scheme is made of scheme characters. -/
theorem isSchemeChar_of_cutScheme {s scheme rest : List Char}
    (h : cutScheme s = .ok (some scheme, rest)) : ∀ c ∈ scheme, isSchemeChar c = true := by
  unfold cutScheme at h
  dsimp only at h
  split at h
  · split at h
    · exact absurd h (by simp)
    split at h
    · rw [← Option.some.inj (Prod.mk.inj (Except.ok.inj h)).1]
      exact List.all_eq_true.mp rfl
    split at h
    · rw [← Option.some.inj (Prod.mk.inj (Except.ok.inj h)).1]
      exact List.all_eq_true.mp rfl
    split at h
    · exact absurd h (by simp)
    rw [← Option.some.inj (Prod.mk.inj (Except.ok.inj h)).1]
    exact fun c hc => List.mem_takeWhile_imp hc
  · exact absurd h (by simp)

/-- Where there is no scheme, nothing is cut off. -/
theorem eq_of_cutScheme_none {s rest : List Char} (h : cutScheme s = .ok (none, rest)) :
    rest = s := by
  unfold cutScheme at h
  grind

namespace Uri

/-- A text that is read as a URI has one of the forms. -/
theorem form_of_parseFull {s : List Char} {uri : Uri} (h : parseFull s = .ok uri) :
    Form s uri := by
  unfold parseFull at h
  obtain ⟨⟨scheme?, afterScheme⟩, hscheme, h⟩ := exists_ok_of_bind h
  obtain ⟨⟨authority, afterAuthority⟩, hcut, h⟩ := exists_ok_of_bind h
  cases scheme? with
  | none =>
    dsimp only at h
    split at h
    · next hempty =>
      rw [eq_of_cutScheme_none hscheme, List.isEmpty_iff.mp hempty] at hcut
      rw [← Except.ok.inj h]
      exact .authority hcut
    · exact absurd h (by simp)
  | some scheme =>
    dsimp only at h
    split at h
    · exact absurd h (by simp)
    obtain ⟨⟨path, query⟩, hparts, h⟩ := exists_ok_of_bind h
    rw [← Except.ok.inj h]
    exact .whole hscheme hcut hparts

/-- A text that was read has one of the forms. -/
theorem form_of_parse {text : String} {uri : Uri} (h : parse text = .ok uri) :
    Form text.toList uri := by
  unfold parse at h
  dsimp only at h
  split at h
  · exact absurd h (by simp)
  split at h
  · exact absurd h (by simp)
  · rw [← Except.ok.inj h]
    exact .asterisk
  · next rest htext =>
    obtain ⟨⟨path, query⟩, hparts, h⟩ := exists_ok_of_bind h
    rw [← Except.ok.inj h]
    exact .path (by rw [htext]; rfl) hparts
  · split at h
    · obtain ⟨authority, hauthority, h⟩ := exists_ok_of_bind h
      unfold Authority.parse at hauthority
      obtain ⟨⟨front, rest⟩, hcut, hauthority⟩ := exists_ok_of_bind hauthority
      dsimp only at hauthority
      split at hauthority
      · next hempty =>
        rw [List.isEmpty_iff.mp hempty] at hcut
        rw [← Except.ok.inj h, ← Except.ok.inj hauthority]
        exact .authority hcut
      · exact absurd hauthority (by simp)
    · exact form_of_parseFull h
  · exact form_of_parseFull h

/-- The scheme of a URI that was read has only characters of schemes. -/
theorem isSchemeChar_of_parse {text : String} {uri : Uri} (h : parse text = .ok uri) :
    ∀ scheme ∈ uri.scheme, ∀ c ∈ scheme.toList, isSchemeChar c = true := by
  intro scheme hscheme
  cases form_of_parse h with
  | asterisk | path | authority => exact absurd hscheme (by simp)
  | whole hcutScheme =>
    rw [← Option.some.inj hscheme, String.toList_ofList]
    exact isSchemeChar_of_cutScheme hcutScheme

end Uri

end ComposingProxy
