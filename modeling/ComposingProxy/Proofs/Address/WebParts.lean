import ComposingProxy.Address.WebAddress
import ComposingProxy.Proofs.Address.HostText
import ComposingProxy.Proofs.Text.Percent

/-!
# Parts of web addresses

An address of the web is read so that its parts may stand in a URI as they are:

> `WebAddress.hasUriParts_of_parse`: the path begins with a slash, path and query have only
> characters of their own, and the host is a name or an address in brackets.

Whatever may not stand in a path or a query is written as an escape when it is read, and taking
the dots out of a path only leaves segments away.
-/

namespace ComposingProxy.WebAddress

open HostName Text.Percent

/-! ## Paths -/

/-- What is escaped in a path may stand in it as it is. -/
theorem isPathText_encode (s : List Char) : IsPathText (encode escapedInPath s) :=
  forall_mem_encode (forall_ascii (by decide)) (by decide) (by decide) s

/-- Entering a segment adds no other one. -/
theorem forall_mem_enter {P : List Char → Prop} {directory : List (List Char)}
    {segment : List Char} (hdirectory : ∀ s ∈ directory, P s) (hsegment : P segment) :
    ∀ s ∈ enter directory segment, P s := by
  unfold enter
  split
  · split
    · exact hdirectory
    · exact fun s hs => hdirectory s (List.mem_of_mem_tail hs)
  · split
    · exact hdirectory
    · exact List.forall_mem_cons.mpr ⟨hsegment, hdirectory⟩

/-- Taking the dots out adds no segment but an empty one. -/
theorem forall_mem_resolveDots {P : List Char → Prop} (hempty : P [])
    {segments : List (List Char)} : ∀ {directory : List (List Char)}, (∀ s ∈ directory, P s) →
      (∀ s ∈ segments, P s) → ∀ s ∈ resolveDots directory segments, P s := by
  induction segments with
  | nil =>
    intro directory hdirectory _ s hs
    exact hdirectory s (List.mem_reverse.mp hs)
  | cons segment segments ih =>
    intro directory hdirectory hsegments
    obtain ⟨hsegment, hrest⟩ := List.forall_mem_cons.mp hsegments
    have hreached := forall_mem_enter hdirectory hsegment
    rw [resolveDots]
    split
    · intro s hs
      exact List.forall_mem_cons.mpr ⟨hempty, hreached⟩ s (List.mem_reverse.mp hs)
    · exact ih hreached hrest

/-- A path of the web begins with a slash and has only characters of its own. -/
theorem isPathText_readPath (s : List Char) :
    (readPath .web s).head? = some '/' ∧ IsPathText (readPath .web s) := by
  have hslash : IsPathText ['/'] := by decide
  unfold readPath
  split
  · exact ⟨rfl, hslash⟩
  · refine ⟨rfl, List.forall_mem_cons.mpr ⟨rfl, ?_⟩⟩
    refine Text.forall_mem_intercalate hslash ?_
    refine forall_mem_resolveDots (fun c hc => absurd hc List.not_mem_nil)
      (fun segment hsegment => absurd hsegment List.not_mem_nil) fun segment hsegment => ?_
    obtain ⟨written, -, rfl⟩ := List.mem_map.mp hsegment
    exact isPathText_encode written

/-! ## Queries -/

/-- What is escaped in a query may stand in it as it is. -/
theorem isQueryText_encode (s : List Char) : IsQueryText (encode (escapedInQuery .web) s) :=
  forall_mem_encode (forall_ascii (by decide)) (by decide) (by decide) s

/-- A path that is read begins with a slash, and path and query may stand in a URI as they are. -/
theorem isPathText_readPathAndQuery (s : List Char) :
    (readPathAndQuery .web s).1.toList.head? = some '/' ∧
      IsPathText (readPathAndQuery .web s).1.toList ∧
      IsQueryText ((readPathAndQuery .web s).2.getD "").toList := by
  unfold readPathAndQuery
  dsimp only
  split
  · rw [String.toList_ofList]
    obtain ⟨hslash, hpath⟩ := isPathText_readPath ((s.takeWhile (· != '#')).takeWhile (· != '?'))
    refine ⟨hslash, hpath, ?_⟩
    rw [Option.getD_some, String.toList_ofList]
    exact isQueryText_encode _
  · rw [String.toList_ofList]
    obtain ⟨hslash, hpath⟩ := isPathText_readPath ((s.takeWhile (· != '#')).takeWhile (· != '?'))
    exact ⟨hslash, hpath, fun c hc => absurd hc List.not_mem_nil⟩

/-! ## Whole addresses -/

/-- The parts of an address may stand in a URI as they are. -/
structure HasUriParts (address : WebAddress) : Prop where
  host : ∀ host, address.host = some host → IsHostText host.toList
  slash : address.path.toList.head? = some '/'
  path : IsPathText address.path.toList
  query : IsQueryText (address.query.getD "").toList

/-- A host that is cut off an address of the web is the text of one. -/
theorem isHostText_of_cutHostAndPort {scheme s rest : List Char} {host : Option String}
    {number : Option Nat} (h : cutHostAndPort .web scheme s = .ok (host, number, rest)) :
    ∀ text, host = some text → IsHostText text.toList := by
  unfold cutHostAndPort at h
  dsimp only at h
  split at h
  · exact absurd h (by simp [bind, Except.bind])
  have hweb : (SchemeKind.web == SchemeKind.web) = true := by decide
  rw [if_pos hweb] at h
  obtain ⟨written, hwritten, h⟩ := exists_ok_of_bind h
  have hhost := isHostText_of_parse hwritten
  split at h
  · split at h
    · exact absurd h (by simp)
    · obtain ⟨_, -, h⟩ := exists_ok_of_bind h
      rw [← (Prod.mk.inj (Except.ok.inj h)).1]
      exact fun text htext => Option.some.inj htext ▸ hhost
  · rw [← (Prod.mk.inj (Except.ok.inj h)).1]
    split
    · exact fun text hnone => absurd hnone (by simp)
    · exact fun text htext => Option.some.inj htext ▸ hhost

/-- The scheme is that in front of the address, whatever its kind. -/
theorem scheme_of_parse {text : String} {address : WebAddress} (h : parse text = .ok address) :
    ∃ rest, cutScheme? (significant text.toList) = some (address.scheme.toList, rest) := by
  unfold parse at h
  split at h
  · exact absurd h (by simp)
  next scheme rest hcut =>
  suffices hscheme : address.scheme = String.ofList scheme by
    rw [hscheme, String.toList_ofList]
    exact ⟨rest, hcut⟩
  dsimp only at h
  split at h
  · obtain ⟨_, -, h⟩ := exists_ok_of_bind h
    obtain ⟨_, -, h⟩ := exists_ok_of_bind h
    split at h
    · exact absurd h (by simp [bind, Except.bind])
    · rw [← Except.ok.inj h]
  · split at h
    · split at h
      · obtain ⟨_, -, h⟩ := exists_ok_of_bind h
        rw [← Except.ok.inj h]
      · rw [← Except.ok.inj h]
    · rw [← Except.ok.inj h]
  · split at h
    · obtain ⟨_, -, h⟩ := exists_ok_of_bind h
      obtain ⟨_, -, h⟩ := exists_ok_of_bind h
      split at h
      · exact absurd h (by simp [bind, Except.bind])
      · rw [← Except.ok.inj h]
    · rw [← Except.ok.inj h]

/-- An address of the web has parts of a URI. -/
theorem hasUriParts_of_parse {text : String} {address : WebAddress} (h : parse text = .ok address)
    (hscheme : Uri.IsWebScheme address.scheme) : address.HasUriParts := by
  obtain ⟨rest, hcut⟩ := scheme_of_parse h
  have hkind : SchemeKind.ofScheme address.scheme.toList = .web := by
    rcases hscheme with hhttp | hhttps
    · rw [hhttp]
      decide
    · rw [hhttps]
      decide
  unfold parse at h
  rw [hcut] at h
  dsimp only at h
  rw [hkind] at h
  dsimp only at h
  obtain ⟨_, -, h⟩ := exists_ok_of_bind h
  obtain ⟨⟨host, number, afterHost⟩, hhost, h⟩ := exists_ok_of_bind h
  split at h
  · exact absurd h (by simp [bind, Except.bind])
  · obtain ⟨hslash, hpath, hquery⟩ := isPathText_readPathAndQuery afterHost
    rw [← Except.ok.inj h]
    exact ⟨isHostText_of_cutHostAndPort hhost, hslash, hpath, hquery⟩

end ComposingProxy.WebAddress
