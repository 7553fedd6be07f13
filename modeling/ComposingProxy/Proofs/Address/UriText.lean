import ComposingProxy.Proofs.Http.Visible

/-!
# Putting a URI together

A URI that is put together as a text is cut again when it is read, and the cuts fall where the
text was joined only if no part holds a character that ends it.

> `Uri.parse_join`: a text of a scheme, an authority, a path and a query that each hold only
> characters of their own reads as these parts.
> `Uri.hasOwnCharacters_of_parse`: and whatever is read has only such characters.

So a path is read back as it was written exactly if all its characters are path characters.
-/

namespace ComposingProxy

/-! ## Paths and queries -/

/-- All characters may stand unescaped in a path. -/
def IsPathText (s : List Char) : Prop := ∀ c ∈ s, isPathChar c = true

/-- All characters may stand unescaped in a query. -/
def IsQueryText (s : List Char) : Prop := ∀ c ∈ s, isQueryChar c = true

instance (s : List Char) : Decidable (IsPathText s) :=
  decidable_of_iff (s.all isPathChar = true) List.all_eq_true

/-- Two texts may stand in a path just if both together may. -/
theorem isPathText_append {a b : List Char} : IsPathText (a ++ b) ↔ IsPathText a ∧ IsPathText b :=
  List.forall_mem_append

theorem isQueryText_append {a b : List Char} :
    IsQueryText (a ++ b) ↔ IsQueryText a ∧ IsQueryText b :=
  List.forall_mem_append

/-- What is checked for the numbers of ASCII holds of its characters. -/
theorem forall_ascii {P : Char → Prop} (h : ∀ n < 0x80, P (Char.ofNat n)) (c : Char)
    (hascii : c.toNat < 0x80) : P c :=
  Char.ofNat_toNat c ▸ h c.toNat hascii

/-- The end of a text that is a query: empty, or a question mark with the query after it. -/
def queryPart (query : String) : String := if query = "" then "" else "?" ++ query

/-- A path and a query are read as they were joined. -/
theorem pathAndQuery_append {path query : String} (hpath : IsPathText path.toList)
    (hquery : IsQueryText query.toList) :
    pathAndQuery (path.toList ++ (queryPart query).toList) =
      .ok (path, if query = "" then none else some query) := by
  unfold pathAndQuery queryPart
  split
  · obtain ⟨htake, hdrop⟩ := Text.takeWhile_append_of_all [] hpath fun c hc => absurd hc (by simp)
    simp only [String.toList_empty, htake, hdrop, String.ofList_toList]
  · obtain ⟨htake, hdrop⟩ := Text.takeWhile_append_of_all ('?' :: query.toList) hpath
      fun c hc => by rw [← Option.some.inj hc]; decide
    obtain ⟨htakeQuery, hdropQuery⟩ :=
      Text.takeWhile_append_of_all [] hquery fun c hc => absurd hc (by simp)
    rw [List.append_nil] at htakeQuery hdropQuery
    have htext : ("?" ++ query).toList = '?' :: query.toList := by
      rw [String.toList_append]
      rfl
    rw [htext]
    simp only [htake, hdrop, htakeQuery, hdropQuery, String.ofList_toList]

/-- A path and a query that were read have only characters of their own. -/
theorem isPathText_of_pathAndQuery {s : List Char} {path : String} {query : Option String}
    (h : pathAndQuery s = .ok (path, query)) :
    IsPathText path.toList ∧ ∀ text, query = some text → IsQueryText text.toList := by
  have htaken : IsPathText (String.ofList (s.takeWhile isPathChar)).toList := by
    rw [String.toList_ofList]
    exact fun c hc => List.mem_takeWhile_imp hc
  have hquery : ∀ rest : List Char,
      IsQueryText (String.ofList (rest.takeWhile isQueryChar)).toList := by
    intro rest
    rw [String.toList_ofList]
    exact fun c hc => List.mem_takeWhile_imp hc
  unfold pathAndQuery at h
  dsimp only at h
  split at h
  · obtain ⟨rfl, rfl⟩ := Prod.mk.inj (Except.ok.inj h)
    exact ⟨htaken, fun _ hnone => absurd hnone (by simp)⟩
  · obtain ⟨rfl, rfl⟩ := Prod.mk.inj (Except.ok.inj h)
    exact ⟨htaken, fun _ hnone => absurd hnone (by simp)⟩
  · next rest _ =>
    split at h
    · obtain ⟨rfl, rfl⟩ := Prod.mk.inj (Except.ok.inj h)
      exact ⟨htaken, fun _ hsome => Option.some.inj hsome ▸ hquery rest⟩
    · obtain ⟨rfl, rfl⟩ := Prod.mk.inj (Except.ok.inj h)
      exact ⟨htaken, fun _ hsome => Option.some.inj hsome ▸ hquery rest⟩
    · exact absurd h (by simp)
  · exact absurd h (by simp)

/-! ## Authorities -/

namespace Authority

/-- Whether a text is a whole authority. -/
def IsWhole (s : List Char) : Prop :=
  s ≠ [] ∧ ∃ seen, s.foldlM Scan.push {} = .ok seen ∧ seen.complete = true

/-- What ends an authority is not taken into account as a part of it. -/
theorem Scan.endsAuthority_of_push {seen after : Scan} {c : Char} (h : seen.push c = .ok after) :
    endsAuthority c = false := by
  unfold Scan.push at h
  split at h
  all_goals first
    | rfl
    | skip
  split at h
  · next hplain =>
    by_contra hends
    rw [Bool.not_eq_false] at hends
    simp only [endsAuthority, Bool.or_eq_true, beq_iff_eq] at hends
    rcases hends with (rfl | rfl) | rfl <;> exact absurd hplain (by decide)
  · exact absurd h (by simp)

/-- What was scanned as an authority has no character that ends one. -/
theorem endsAuthority_of_foldlM {s : List Char} : ∀ {seen after : Scan},
    s.foldlM Scan.push seen = .ok after → ∀ c ∈ s, endsAuthority c = false := by
  induction s with
  | nil => intro seen after _ c hc; exact absurd hc List.not_mem_nil
  | cons d s ih =>
    intro seen after h c hc
    rw [List.foldlM_cons] at h
    obtain ⟨next, hpush, hrest⟩ := exists_ok_of_bind h
    rcases List.mem_cons.mp hc with rfl | hmem
    · exact Scan.endsAuthority_of_push hpush
    · exact ih hrest c hmem

/-- An authority is cut off where a path or query goes on. -/
theorem IsWhole.cut_append {s rest : List Char} (h : IsWhole s)
    (hrest : ∀ c ∈ rest.head?, endsAuthority c = true) : cut (s ++ rest) = .ok (s, rest) := by
  obtain ⟨hne, seen, hseen, hcomplete⟩ := h
  have hinside : ∀ c ∈ s, (!endsAuthority c) = true := fun c hc => by
    rw [endsAuthority_of_foldlM hseen c hc]
    rfl
  have hafter : ∀ c ∈ rest.head?, (!endsAuthority c) = false := fun c hc => by
    rw [hrest c hc]
    rfl
  obtain ⟨htake, hdrop⟩ := Text.takeWhile_append_of_all rest hinside hafter
  have hfull : (s ++ rest).isEmpty = false := by
    cases s with
    | nil => exact absurd rfl hne
    | cons c s => rfl
  unfold cut
  dsimp only
  rw [hfull, htake, hdrop, if_neg Bool.false_ne_true, hseen]
  dsimp only [bind, Except.bind, pure, Except.pure]
  rw [if_pos hcomplete]

/-- An authority that was cut off was scanned as a whole. -/
theorem isWhole_of_cut {s authority rest : List Char} (hne : authority ≠ [])
    (h : cut s = .ok (authority, rest)) : IsWhole authority := by
  unfold cut at h
  dsimp only at h
  split at h
  · exact absurd h (by simp [bind, Except.bind])
  obtain ⟨seen, hseen, h⟩ := exists_ok_of_bind h
  split at h
  · next hcomplete =>
    obtain ⟨rfl, -⟩ := Prod.mk.inj (Except.ok.inj h)
    exact ⟨hne, seen, hseen, hcomplete⟩
  · exact absurd h (by simp)

end Authority

/-! ## Whole URIs -/

namespace Uri

/-- The schemes of the web. -/
def IsWebScheme (scheme : String) : Prop := scheme = "http" ∨ scheme = "https"

/-- A path and a query that have only characters of their own. -/
def HasOwnCharacters (uri : Uri) : Prop :=
  IsPathText uri.path.toList ∧ ∀ text, uri.query = some text → IsQueryText text.toList

/-- A scheme of the web is cut off in front of the two slashes. -/
theorem cutScheme_append {scheme : String} (h : IsWebScheme scheme) (rest : List Char) :
    cutScheme (scheme.toList ++ "://".toList ++ rest) = .ok (some scheme.toList, rest) := by
  rcases h with rfl | rfl <;> rfl

/-- A text that begins with a scheme of the web is read as a whole address. -/
theorem parse_eq_parseFull {text scheme : String} {rest : List Char} (hscheme : IsWebScheme scheme)
    (htext : text.toList = scheme.toList ++ "://".toList ++ rest)
    (hlength : (Text.Utf8.encode text.toList).length ≤ maxUriLength) :
    parse text = parseFull text.toList := by
  unfold parse
  dsimp only
  rw [if_neg (Nat.not_lt.mpr hlength), htext]
  rcases hscheme with rfl | rfl <;> rfl

/-- The text of a URI reads as the parts that it was joined of. -/
theorem parse_join {scheme authority path query : String} (hscheme : IsWebScheme scheme)
    (hauthority : Authority.IsWhole authority.toList) (hslash : path.toList.head? = some '/')
    (hpath : IsPathText path.toList) (hquery : IsQueryText query.toList)
    (hlength : (Text.Utf8.encode
      (scheme ++ "://" ++ authority ++ path ++ queryPart query).toList).length ≤ maxUriLength) :
    parse (scheme ++ "://" ++ authority ++ path ++ queryPart query) =
      .ok
        { scheme := some scheme, authority := some authority, path
          query := if query = "" then none else some query } := by
  have htext : (scheme ++ "://" ++ authority ++ path ++ queryPart query).toList =
      scheme.toList ++ "://".toList ++
        (authority.toList ++ (path.toList ++ (queryPart query).toList)) := by
    simp only [String.toList_append, List.append_assoc]
  -- the slash at the front of the path ends the authority
  have hcut : Authority.cut (authority.toList ++ (path.toList ++ (queryPart query).toList)) =
      .ok (authority.toList, path.toList ++ (queryPart query).toList) := by
    refine hauthority.cut_append fun c hc => ?_
    rw [List.head?_append, hslash] at hc
    rw [← Option.some.inj hc]
    rfl
  have hnamed : authority.toList.isEmpty = false :=
    Bool.eq_false_iff.mpr fun hempty => hauthority.1 (List.isEmpty_iff.mp hempty)
  have hpresent : path ≠ "" := by
    rintro rfl
    exact absurd hslash (by decide)
  rw [parse_eq_parseFull hscheme htext hlength, htext, parseFull, cutScheme_append hscheme]
  dsimp only [bind, Except.bind]
  rw [hcut]
  dsimp only
  rw [hnamed, if_neg Bool.false_ne_true, pathAndQuery_append hpath hquery]
  dsimp only
  rw [if_neg hpresent, String.ofList_toList, String.ofList_toList]

/-- What was read as a URI has only characters of its own. -/
theorem hasOwnCharacters_of_parse {text : String} {uri : Uri} (h : parse text = .ok uri) :
    uri.HasOwnCharacters := by
  have hnone : ∀ part : String, none = some part → IsQueryText part.toList := by simp
  cases form_of_parse h with
  | asterisk => exact ⟨by decide, hnone⟩
  | path _ hparts => exact isPathText_of_pathAndQuery hparts
  | authority => exact ⟨fun c hc => absurd hc List.not_mem_nil, hnone⟩
  | whole _ _ hparts =>
    obtain ⟨hpath, hquery⟩ := isPathText_of_pathAndQuery hparts
    refine ⟨?_, hquery⟩
    dsimp only
    split
    · decide
    · exact hpath

/-- The authority of a whole address that was read is whole. -/
theorem isWhole_of_parse {text scheme authority : String} {rest : List Char} {uri : Uri}
    (hscheme : IsWebScheme scheme) (htext : text.toList = scheme.toList ++ "://".toList ++ rest)
    (h : parse text = .ok uri) (hauthority : uri.authority = some authority) :
    Authority.IsWhole authority.toList := by
  have hlength : (Text.Utf8.encode text.toList).length ≤ maxUriLength := by
    by_contra hlong
    unfold parse at h
    dsimp only at h
    rw [if_pos (Nat.not_le.mp hlong)] at h
    exact absurd h (by simp)
  rw [parse_eq_parseFull hscheme htext hlength, htext, parseFull] at h
  obtain ⟨⟨scheme?, afterScheme⟩, hcutScheme, h⟩ := exists_ok_of_bind h
  rw [cutScheme_append hscheme] at hcutScheme
  obtain ⟨rfl, rfl⟩ := Prod.mk.inj (Except.ok.inj hcutScheme)
  obtain ⟨⟨found, afterAuthority⟩, hcut, h⟩ := exists_ok_of_bind h
  dsimp only at h
  split at h
  · exact absurd h (by simp)
  next hnamed =>
  obtain ⟨_, -, h⟩ := exists_ok_of_bind h
  rw [← Except.ok.inj h] at hauthority
  rw [← Option.some.inj hauthority, String.toList_ofList]
  exact Authority.isWhole_of_cut (fun hempty => hnamed (by rw [hempty]; rfl)) hcut

end Uri

end ComposingProxy
