import ComposingProxy.Address.WebAddress
import ComposingProxy.Proofs.Address.HostText
import ComposingProxy.Proofs.Text.Percent

/-!
# Visible hosts

The host of an address is sent on in header fields, and a field with a value that may not be sent is
left as it was. A host of any scheme can be sent:

> `WebAddress.isVisible_host`: the host of every address that is read is visible ASCII.

In the schemes of the web and of files a host is a name or an address in brackets; in
all others it may be any text, but what is not visible in it is written as escapes.
-/

namespace ComposingProxy

namespace HostName

open HeaderValue DomainName IpAddress Text.Percent

/-- The characters of domain names are printed ASCII. -/
theorem isVisibleChar_of_isNameChar {c : Char} (h : IsNameChar c) : IsVisibleChar c := by
  have hall : ∀ c : Char, c.toNat < 0x80 → isForbidden c = false → 0x20 ≤ c.toNat ∧ c.toNat < 0x7F :=
    forall_ascii (by decide)
  exact .inl (hall c h.1 h.2)

theorem isVisibleChar_of_isGroupChar {c : Char} (h : IsGroupChar c) : IsVisibleChar c := by
  rcases h with rfl | halnum
  · exact .inl (by decide)
  · exact isVisibleChar_of_isNameChar (isNameChar_of_isAlphanum halnum)

/-- The hosts of the web are visible: their names are printed ASCII, and so are groups in brackets.
-/
theorem IsHostText.isVisibleChar {s : List Char} (h : IsHostText s) : ∀ c ∈ s, IsVisibleChar c := by
  cases h with
  | name hne hs => exact fun c hc => isVisibleChar_of_isNameChar (hs c hc)
  | groups hs hcolons =>
    refine List.forall_mem_cons.mpr ⟨.inl (by decide), List.forall_mem_append.mpr ⟨?_, ?_⟩⟩
    · exact fun c hc => isVisibleChar_of_isGroupChar (hs c hc)
    · exact List.forall_mem_singleton.mpr (.inl (by decide))

/-- A host that was read for a scheme of the web is visible. -/
theorem isVisible_of_parse {s : List Char} {host : String} (h : parse s = .ok host) :
    isVisible host = true :=
  isVisible_iff.mpr (isHostText_of_parse h).isVisibleChar

/-- A host that was read for another scheme is escaped outside ASCII. -/
theorem isVisible_of_parseOpaque {s : List Char} {host : String} (h : parseOpaque s = .ok host) :
    isVisible host = true := by
  unfold parseOpaque at h
  split at h
  · next rest =>
    -- in brackets both kinds of hosts are read alike
    exact isVisible_of_parse (s := '[' :: rest) h
  · split at h
    · exact absurd h (by simp)
    · rw [← Except.ok.inj h, isVisible_ofList]
      have hkept : ∀ c : Char, c.toNat < 0x80 → isControl c = false → IsVisibleChar c := by
        intro c hascii hprinted
        have hall : ∀ c : Char, c.toNat < 0x80 → isControl c = false →
            0x20 ≤ c.toNat ∧ c.toNat < 0x7F := forall_ascii (by decide)
        exact .inl (hall c hascii hprinted)
      have hdigit : ∀ n < 16, 0x20 ≤ (Text.upperHexChar n).toNat ∧
          (Text.upperHexChar n).toNat < 0x7F := by decide
      exact forall_mem_encode hkept (.inl (by decide)) (fun n hn => .inl (hdigit n hn)) s

end HostName

namespace WebAddress

open HeaderValue

/-- Whatever the kind of the scheme, a host that was cut off is visible. -/
theorem isVisible_of_cutHostAndPort {kind : SchemeKind} {scheme s rest : List Char}
    {host : Option String} {number : Option Nat}
    (h : cutHostAndPort kind scheme s = .ok (host, number, rest)) :
    ∀ text ∈ host, isVisible text = true := by
  unfold cutHostAndPort at h
  dsimp only at h
  split at h
  · exact absurd h (by simp [bind, Except.bind])
  -- the rest of the authority is read alike after a host of either kind
  split at h
  all_goals
    obtain ⟨written, hwritten, h⟩ := exists_ok_of_bind h
    have hvisible : isVisible written = true := by
      first
        | exact HostName.isVisible_of_parse hwritten
        | exact HostName.isVisible_of_parseOpaque hwritten
    split at h
    · split at h
      · exact absurd h (by simp)
      · obtain ⟨_, -, h⟩ := exists_ok_of_bind h
        rw [← (Prod.mk.inj (Except.ok.inj h)).1]
        exact fun text htext => Option.some.inj htext ▸ hvisible
    · rw [← (Prod.mk.inj (Except.ok.inj h)).1]
      split
      · exact fun text hnone => absurd hnone (by simp)
      · exact fun text htext => Option.some.inj htext ▸ hvisible

/-- The host of a file address is visible, too. -/
theorem isVisible_of_readFile {s rest : List Char} {host : Option String}
    (h : readFile s = .ok (host, rest)) : ∀ text ∈ host, isVisible text = true := by
  unfold readFile at h
  dsimp only at h
  split at h
  · rw [← (Prod.mk.inj (Except.ok.inj h)).1]
    exact fun text hnone => absurd hnone (by simp)
  split at h
  · rw [← (Prod.mk.inj (Except.ok.inj h)).1]
    exact fun text hnone => absurd hnone (by simp)
  · obtain ⟨written, hwritten, h⟩ := exists_ok_of_bind h
    rw [← (Prod.mk.inj (Except.ok.inj h)).1]
    split
    · exact fun text hnone => absurd hnone (by simp)
    · exact fun text htext => Option.some.inj htext ▸ HostName.isVisible_of_parse hwritten

/-- A host that an address names is visible. -/
theorem isVisible_host {text : String} {address : WebAddress} (h : parse text = .ok address) :
    ∀ host ∈ address.host, isVisible host = true := by
  unfold parse at h
  split at h
  · exact absurd h (by simp)
  dsimp only at h
  split at h
  · obtain ⟨_, -, h⟩ := exists_ok_of_bind h
    obtain ⟨⟨host, number, rest⟩, hhost, h⟩ := exists_ok_of_bind h
    split at h
    · exact absurd h (by simp [bind, Except.bind])
    · rw [← Except.ok.inj h]
      exact isVisible_of_cutHostAndPort hhost
  · split at h
    · split at h
      · obtain ⟨⟨host, rest⟩, hhost, h⟩ := exists_ok_of_bind h
        rw [← Except.ok.inj h]
        exact isVisible_of_readFile hhost
      · rw [← Except.ok.inj h]
        exact fun host hnone => absurd hnone (by simp)
    · rw [← Except.ok.inj h]
      exact fun host hnone => absurd hnone (by simp)
  · split at h
    · obtain ⟨_, -, h⟩ := exists_ok_of_bind h
      obtain ⟨⟨host, number, rest⟩, hhost, h⟩ := exists_ok_of_bind h
      split at h
      · exact absurd h (by simp [bind, Except.bind])
      · rw [← Except.ok.inj h]
        exact isVisible_of_cutHostAndPort hhost
    · rw [← Except.ok.inj h]
      exact fun host hnone => absurd hnone (by simp)

end WebAddress

end ComposingProxy
