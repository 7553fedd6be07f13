import ComposingProxy.Proofs.Routing.Outbound
import ComposingProxy.Proofs.Text.Seams

/-!
# Paths that are sent as they came

A request may spell its path in many ways, and the site may tell them apart. Its escapes are kept as
the client wrote them wherever the path with escapes and the path as it reads name the same page:

> `Site.keeps_client_escapes`: if the page of the path with escapes reads as the page of the path
> that reads, and no alias and no index file has a part in it, then the page is sent byte for byte,
> and where no separator can be read in the path, the whole path is.

Whether the path is kept is decided by reading the joined path and comparing, so what has to be
seen is that reading and joining can be exchanged (`decodeText_joinPaths`). A path is joined with one
slash at the seam (`Routing.joinPaths_eq`), and at a slash the sides are read apart. The one thing to
watch is that no slash comes up at the seam by reading; a page begins as the path does, and that
with a slash or an asterisk (`Uri.head?_path_of_parse`).
-/

namespace ComposingProxy

namespace Text

/-- A string without its first character, if that is `c`. -/
def dropFirstOf (c : Char) (s : String) : String :=
  if beginsWith c s then String.ofList s.toList.tail else s

/-! ## Slashes at the ends -/

theorem beginsWith_slash_append (s : String) : beginsWith '/' ("/" ++ s) = true := by
  simp [beginsWith, String.toList_append]

theorem endsIn_append_slash (s : String) : endsIn '/' (s ++ "/") = true := by
  simp [endsIn, String.toList_append]

theorem dropFirstOf_slash_append (s : String) : dropFirstOf '/' ("/" ++ s) = s := by
  rw [dropFirstOf, if_pos (beginsWith_slash_append s)]
  apply String.toList_inj.mp
  simp [String.toList_append]

theorem dropLastOf_append_slash (s : String) : dropLastOf '/' (s ++ "/") = s := by
  rw [dropLastOf, if_pos (endsIn_append_slash s)]
  apply String.toList_inj.mp
  simp [String.toList_append]

theorem dropFirstOf_of_not {s : String} (h : beginsWith '/' s = false) :
    dropFirstOf '/' s = s := by
  rw [dropFirstOf, h, if_neg Bool.false_ne_true]

theorem dropLastOf_of_not {s : String} (h : endsIn '/' s = false) : dropLastOf '/' s = s := by
  rw [dropLastOf, h, if_neg Bool.false_ne_true]

theorem exists_slash_append {s : String} (h : beginsWith '/' s = true) :
    ∃ rest, s = "/" ++ rest := by
  obtain ⟨rest, hrest⟩ := List.head?_eq_some_iff.mp (beq_iff_eq.mp h)
  refine ⟨String.ofList rest, String.toList_inj.mp ?_⟩
  simp [String.toList_append, hrest]

theorem exists_append_slash {s : String} (h : endsIn '/' s = true) :
    ∃ front, s = front ++ "/" := by
  obtain ⟨front, hfront⟩ := List.getLast?_eq_some_iff.mp (beq_iff_eq.mp h)
  refine ⟨String.ofList front, String.toList_inj.mp ?_⟩
  simp [String.toList_append, hfront]

namespace Percent

theorem decodeText_empty : decodeText "" = "" :=
  decodeText_of_hasNoEscape (hasNoEscape_of_not_mem List.not_mem_nil)

/-- Reading brings up no slash in front of a text that begins with no escape. -/
theorem beginsWith_decodeText {s : String}
    (h : ∀ c ∈ s.toList.head?, c.toNat < 0x80 ∧ c ≠ '%') :
    beginsWith '/' (decodeText s) = beginsWith '/' s := by
  cases hhead : s.toList.head? with
  | none =>
    rw [List.head?_eq_none_iff, String.toList_eq_nil_iff] at hhead
    rw [hhead, decodeText_empty]
  | some c =>
    obtain ⟨hascii, hne⟩ := h c hhead
    rw [beginsWith, beginsWith, head?_decodeText hascii hne hhead, hhead]

/-- A slash at the end is no part of an escape. -/
theorem decodeText_append_slash (s : String) : decodeText (s ++ "/") = decodeText s ++ "/" := by
  have h := decodeText_slash s ""
  rwa [decodeText_empty, String.append_empty, String.append_empty] at h

theorem decodeText_slash_append (s : String) : decodeText ("/" ++ s) = "/" ++ decodeText s := by
  have h := decodeText_slash "" s
  rwa [decodeText_empty, String.empty_append] at h

/-- A slash at the end may be dropped before or after decoding, if it is there before and after. -/
theorem decodeText_dropLastOf {s : String} (h : endsIn '/' (decodeText s) = endsIn '/' s) :
    decodeText (dropLastOf '/' s) = dropLastOf '/' (decodeText s) := by
  cases hend : endsIn '/' s with
  | true =>
    obtain ⟨front, rfl⟩ := exists_append_slash hend
    rw [decodeText_append_slash, dropLastOf_append_slash, dropLastOf_append_slash]
  | false => rw [dropLastOf_of_not hend, dropLastOf_of_not (h.trans hend)]

theorem decodeText_dropFirstOf {s : String}
    (h : beginsWith '/' (decodeText s) = beginsWith '/' s) :
    decodeText (dropFirstOf '/' s) = dropFirstOf '/' (decodeText s) := by
  cases hbegin : beginsWith '/' s with
  | true =>
    obtain ⟨rest, rfl⟩ := exists_slash_append hbegin
    rw [decodeText_slash_append, dropFirstOf_slash_append, dropFirstOf_slash_append]
  | false => rw [dropFirstOf_of_not hbegin, dropFirstOf_of_not (h.trans hbegin)]

end Percent

end Text

/-! ## Joined paths -/

namespace Routing

open Text Text.Percent

/-- Of the slashes at the seam one is left, and one is put in if there is none. -/
theorem joinPaths_eq (base path : String) :
    joinPaths base path = dropLastOf '/' base ++ "/" ++ dropFirstOf '/' path := by
  unfold joinPaths
  cases hend : endsIn '/' base with
  | true =>
    obtain ⟨front, rfl⟩ := exists_append_slash hend
    rw [dropLastOf_append_slash]
    cases hbegin : beginsWith '/' path with
    | true => rw [dropFirstOf, if_pos hbegin]
    | false => rw [dropFirstOf_of_not hbegin]
  | false =>
    rw [dropLastOf_of_not hend]
    cases hbegin : beginsWith '/' path with
    | true =>
      obtain ⟨rest, rfl⟩ := exists_slash_append hbegin
      rw [dropFirstOf_slash_append]
      exact String.append_assoc.symm
    | false => rw [dropFirstOf_of_not hbegin]

/-- Paths may be read before or after they are joined, as long as reading brings up no slash at
the seam. -/
theorem decodeText_joinPaths {base path : String}
    (hbase : endsIn '/' (decodeText base) = endsIn '/' base)
    (hpath : beginsWith '/' (decodeText path) = beginsWith '/' path) :
    decodeText (joinPaths base path) = joinPaths (decodeText base) (decodeText path) := by
  rw [joinPaths_eq, joinPaths_eq, decodeText_slash, decodeText_dropLastOf hbase,
    decodeText_dropFirstOf hpath]

end Routing

/-! ## Pages -/

/-- A path that was read begins as its text does. -/
theorem head?_of_pathAndQuery {s : List Char} {path : String} {query : Option String}
    (h : pathAndQuery s = .ok (path, query)) :
    ∀ c ∈ path.toList.head?, s.head? = some c ∧ isPathChar c = true := by
  have htaken : path = String.ofList (s.takeWhile isPathChar) := by
    unfold pathAndQuery at h
    dsimp only at h
    split at h
    · exact (Prod.mk.inj (Except.ok.inj h)).1.symm
    · exact (Prod.mk.inj (Except.ok.inj h)).1.symm
    · split at h
      · exact (Prod.mk.inj (Except.ok.inj h)).1.symm
      · exact (Prod.mk.inj (Except.ok.inj h)).1.symm
      · exact absurd h (by simp)
    · exact absurd h (by simp)
  intro c hc
  rw [htaken, String.toList_ofList] at hc
  cases s with
  | nil => exact absurd hc (by simp)
  | cons d s =>
    by_cases hd : isPathChar d = true
    · rw [List.takeWhile_cons_of_pos hd] at hc
      obtain rfl := Option.some.inj hc
      exact ⟨rfl, hd⟩
    · rw [List.takeWhile_cons_of_neg hd] at hc
      exact absurd hc (by simp)

/-- What follows an authority begins with the character that ended it. -/
theorem Authority.endsAuthority_of_cut {s authority rest : List Char}
    (h : cut s = .ok (authority, rest)) : ∀ c ∈ rest.head?, endsAuthority c = true := by
  unfold cut at h
  dsimp only at h
  split at h
  · exact absurd h (by simp [bind, Except.bind])
  obtain ⟨seen, -, h⟩ := exists_ok_of_bind h
  split at h
  · obtain ⟨-, rfl⟩ := Prod.mk.inj (Except.ok.inj h)
    intro c hc
    have hnot := List.head?_dropWhile_not (fun c => !endsAuthority c) s
    rw [hc] at hnot
    simpa using hnot
  · exact absurd h (by simp)

namespace Uri

/-- A request names a path that begins with a slash, the asterisk, or no path at all. -/
theorem head?_path_of_parse {text : String} {uri : Uri} (h : parse text = .ok uri) :
    ∀ c ∈ uri.path.toList.head?, c = '/' ∨ c = '*' := by
  intro c hc
  cases form_of_parse h with
  | asterisk => exact .inr (Option.some.inj hc).symm
  | path hslash hparts =>
    rw [(head?_of_pathAndQuery hparts c hc).1] at hslash
    exact .inl (Option.some.inj hslash)
  | authority => exact absurd hc (by simp)
  | whole _ hcut hparts =>
    dsimp only at hc
    split at hc
    · exact .inl (Option.some.inj hc).symm
    · -- the path begins with what ended the authority
      obtain ⟨hhead, hchar⟩ := head?_of_pathAndQuery hparts c hc
      have hends := Authority.endsAuthority_of_cut hcut c hhead
      simp only [Authority.endsAuthority, Bool.or_eq_true, beq_iff_eq] at hends
      rcases hends with (rfl | rfl) | rfl
      · exact .inl rfl
      all_goals exact absurd hchar (by decide)

end Uri

/-- A page begins as its path does, or with a slash. -/
theorem RoutingToken.head?_page {P : Char → Prop} (hslash : P '/') {separator path : String}
    {appendSlash : Bool} (hpath : ∀ c ∈ path.toList.head?, P c) :
    ∀ c ∈ (RoutingToken.cut separator appendSlash path).page.toList.head?, P c := by
  unfold RoutingToken.cut
  split
  · exact hpath
  · split
    · exact hpath
    · next page token hcut =>
      have hpage : ∀ c ∈ page.toList.head?, P c := by
        intro c hc
        refine hpath c ?_
        rw [Text.append_of_cut? hcut, String.toList_append, String.toList_append, List.head?_append,
          List.head?_append, Option.mem_def.mp hc]
        rfl
      dsimp only
      split
      · unfold withFinalSlash
        split
        · exact hpage
        · intro c hc
          rw [String.toList_append, List.head?_append] at hc
          cases hhead : page.toList.head? with
          | none =>
            rw [hhead] at hc
            exact Option.some.inj hc ▸ hslash
          | some first =>
            rw [hhead] at hc
            exact hpage c (hhead.trans hc)
      · exact hpage

/-- The page of a path without a separator is the path. -/
theorem RoutingToken.page_of_not_contains {separator path : String} (appendSlash : Bool)
    (h : ∀ before after, path ≠ before ++ separator ++ after) :
    (RoutingToken.cut separator appendSlash path).page = path := by
  unfold RoutingToken.cut
  split
  · rfl
  · rw [Text.cut?_eq_none_iff.mpr h]

namespace Text.Percent

/-- A separator between slashes, without escapes, is still there when the text around it is read. -/
theorem decodeText_append_separator {separator : String}
    (hbegin : beginsWith '/' separator = true) (hend : endsIn '/' separator = true)
    (hpercent : '%' ∉ separator.toList) (before after : String) :
    decodeText (before ++ separator ++ after) =
      decodeText before ++ separator ++ decodeText after := by
  obtain ⟨rest, rfl⟩ := exists_slash_append hbegin
  by_cases hempty : rest = ""
  · rw [hempty, String.append_empty]
    exact decodeText_slash before after
  · have hlast : endsIn '/' rest = true := by
      have hsome : rest.toList.getLast?.isSome = true := by
        rw [List.getLast?_isSome]
        exact fun hnil => hempty (String.toList_eq_nil_iff.mp hnil)
      rw [endsIn, String.toList_append, List.getLast?_append] at hend
      rwa [Option.or_of_isSome hsome] at hend
    obtain ⟨name, rfl⟩ := exists_append_slash hlast
    have hname : decodeText name = name := by
      refine decodeText_of_hasNoEscape (hasNoEscape_of_not_mem fun hmem => hpercent ?_)
      simp [String.toList_append, hmem]
    calc decodeText (before ++ ("/" ++ (name ++ "/")) ++ after)
        = decodeText (before ++ "/" ++ (name ++ "/" ++ after)) := by
          simp only [String.append_assoc]
      _ = decodeText before ++ "/" ++ (decodeText name ++ "/" ++ decodeText after) := by
          rw [decodeText_slash, decodeText_slash]
      _ = decodeText before ++ ("/" ++ (name ++ "/")) ++ decodeText after := by
          simp only [hname, String.append_assoc]

end Text.Percent

namespace Site

open Text.Percent (decodeText)

/-! ## Pages that need no settings -/

/-- Both spellings of the path name one page, and no alias is for it in either of them. -/
structure NamesOnePage (site : Site) (inbound : Uri) : Prop where
  reads : decodeText (site.pageOf inbound.path) = site.pageOf (decodeText inbound.path)
  spelled : Routing.resolveFirst? site.aliases (site.pageOf inbound.path) = none
  read : Routing.resolveFirst? site.aliases (site.pageOf (decodeText inbound.path)) = none

/-- The path `path` is what is sent: it is that of the target, or of the text that is no URI. -/
def SendsPath (site : Site) (inbound : Uri) (path : String) : Prop :=
  (∀ target, site.target inbound = .ok target → target.rawPath = path) ∧
    ∀ error, site.target inbound = .error error →
      error.uri = site.uriText path (Routing.mergeQuery site.query (inbound.query.getD ""))

variable {site : Site} {inbound : Uri}

/-- Whether there is a target or not, the path that is sent is that of the site. -/
theorem sendsPath_sentPath (site : Site) (inbound : Uri) :
    site.SendsPath inbound (site.sentPath inbound) := by
  constructor
  · intro target htarget
    obtain ⟨uri, -, rfl⟩ := target_eq_ok_iff.mp htarget
    rfl
  · intro error herror
    unfold target at herror
    dsimp only at herror
    split at herror
    · rw [← Except.error.inj herror]
      rfl
    · exact absurd herror (by simp)

/-- Without an alias for it and without an index file, a page is joined as it is. -/
theorem locate_of_unresolved (hindex : site.index = none) (base : String) {path : String}
    (halias : Routing.resolveFirst? site.aliases (site.pageOf path) = none) :
    site.locate base path = Routing.joinPaths base (site.pageOf path) := by
  unfold locate
  rw [pageOf] at halias ⊢
  simp only [halias, hindex, Option.getD_none]

/-- The page of a request does not begin with an escape. -/
theorem head?_pageOf (site : Site) {text : String} (hinbound : Uri.parse text = .ok inbound) :
    ∀ c ∈ (site.pageOf inbound.path).toList.head?, c.toNat < 0x80 ∧ c ≠ '%' := by
  refine RoutingToken.head?_page (by decide) fun c hc => ?_
  rcases Uri.head?_path_of_parse hinbound c hc with rfl | rfl <;> decide

namespace NamesOnePage

/-- Where both spellings name one page, the kept path is the page after the path of the site. -/
theorem keptPath_eq (hone : site.NamesOnePage inbound) (hindex : site.index = none) :
    site.keptPath inbound = Routing.joinPaths site.rawPath (site.pageOf inbound.path) :=
  locate_of_unresolved hindex site.rawPath hone.spelled

/-- Joined with a path of the site that has no escaped slash at its end, the page reads right. -/
theorem keeps (hone : site.NamesOnePage inbound) (hindex : site.index = none)
    (hbase : site.path = decodeText site.rawPath)
    (hend : Text.endsIn '/' (decodeText site.rawPath) = Text.endsIn '/' site.rawPath)
    {text : String} (hinbound : Uri.parse text = .ok inbound) : site.Keeps inbound := by
  have hbegin := Text.Percent.beginsWith_decodeText (head?_pageOf site hinbound)
  calc decodeText (site.keptPath inbound)
      = Routing.joinPaths (decodeText site.rawPath) (decodeText (site.pageOf inbound.path)) := by
        rw [hone.keptPath_eq hindex, Routing.decodeText_joinPaths hend hbegin]
    _ = site.readablePath inbound := by
        rw [readablePath, locate_of_unresolved hindex site.path hone.read, hbase, hone.reads]

/-- Nothing is put into the path. -/
theorem insertions_eq_nil (hone : site.NamesOnePage inbound) (hindex : site.index = none) :
    site.insertions inbound = [] := by
  have hused : Routing.usedAlias? site.aliases (site.pageOf inbound.path) = none := by
    rw [Routing.usedAlias?, List.find?_eq_none]
    have hnone := hone.spelled
    rw [Routing.resolveFirst?, List.findSome?_eq_none_iff] at hnone
    intro entry hentry
    rw [hnone entry hentry]
    exact Bool.false_ne_true
  rw [insertions, hused, hindex]
  split <;> rfl

end NamesOnePage

/-- A path in which no separator can be read is its own page, in both spellings. -/
theorem pageOf_of_not_contains (hbegin : Text.beginsWith '/' site.separator = true)
    (hend : Text.endsIn '/' site.separator = true) (hpercent : '%' ∉ site.separator.toList)
    {path : String}
    (hnone : ∀ before after, decodeText path ≠ before ++ site.separator ++ after) :
    site.pageOf path = path ∧ site.pageOf (decodeText path) = decodeText path := by
  refine ⟨RoutingToken.page_of_not_contains _ ?_, RoutingToken.page_of_not_contains _ hnone⟩
  -- a separator in the path with its escapes would be read as one
  rintro before after rfl
  exact hnone _ _ (Text.Percent.decodeText_append_separator hbegin hend hpercent before after)

/-- On a site whose path has no escapes and that has no index file, a page that both spellings of
the path agree on is sent with the escapes of the client, byte for byte, and it is
not for this page that a request has no target. Where the separator stands between slashes and
cannot be read in the path, that page is the whole path. -/
theorem keeps_client_escapes {settings : SiteSettings} (hsite : ofSettings settings = .ok site)
    (hbase : Text.Percent.HasNoEscape site.rawPath.toList) (hindex : site.index = none)
    {text : String} (hinbound : Uri.parse text = .ok inbound) :
    (site.NamesOnePage inbound →
      site.SendsPath inbound (Routing.joinPaths site.rawPath (site.pageOf inbound.path)) ∧
        (settings.faults = [] → Authority.Accepts site.authority.toList →
          (Text.Utf8.encode (site.uriText (site.sentPath inbound)
            (site.sentQuery inbound)).toList).length ≤ maxUriLength → site.Reaches inbound)) ∧
    (Text.beginsWith '/' site.separator = true → Text.endsIn '/' site.separator = true →
      '%' ∉ site.separator.toList →
      (∀ before after, decodeText inbound.path ≠ before ++ site.separator ++ after) →
      Routing.resolveFirst? site.aliases inbound.path = none →
      Routing.resolveFirst? site.aliases (decodeText inbound.path) = none →
      site.SendsPath inbound (Routing.joinPaths site.rawPath inbound.path)) := by
  obtain ⟨address, -, hraw, hreadable, -⟩ := ofSettings_eq_ok hsite
  have hsends (hone : site.NamesOnePage inbound) :
      site.SendsPath inbound (Routing.joinPaths site.rawPath (site.pageOf inbound.path)) := by
    have hkeeps : site.Keeps inbound := by
      refine hone.keeps hindex (hraw ▸ hreadable) ?_ hinbound
      rw [Text.Percent.decodeText_of_hasNoEscape hbase]
    have hsent : site.sentPath inbound = site.keptPath inbound := if_pos hkeeps
    rw [← hone.keptPath_eq hindex, ← hsent]
    exact sendsPath_sentPath site inbound
  refine ⟨fun hone => ⟨hsends hone, fun hfaults hhost hlength => ?_⟩,
    fun hbegin hend hpercent hnone hspelled hread => ?_⟩
  · obtain ⟨other, hother, hparts⟩ := exists_of_faults_eq_nil hfaults
    obtain rfl : other = site := Except.ok.inj (hother.symm.trans hsite)
    refine (reaches_iff hparts (Uri.hasOwnCharacters_of_parse hinbound) hlength).mpr
      ⟨hhost, fun _ inserted hinserted => ?_⟩
    -- nothing is put into the path, so nothing in it can be refused
    rw [hone.insertions_eq_nil hindex] at hinserted
    exact absurd hinserted List.not_mem_nil
  · obtain ⟨hpage, hreadPage⟩ := pageOf_of_not_contains hbegin hend hpercent hnone
    have hone : site.NamesOnePage inbound :=
      ⟨by rw [hpage, hreadPage], by rwa [hpage], by rwa [hreadPage]⟩
    have h := hsends hone
    rwa [hpage] at h

/-! ### A path of broken escapes -/

/-- A site below a path, with an alias and with pages that end in a slash. -/
def shopSettings : SiteSettings :=
  { address := "http://site.test/shop/", alwaysAppendSlash := true
    templatePaths := [{ href := "/blog", label := "Blog", template := "/pages/50%/" }] }

/-- The site of the settings above. -/
def shopSite : Site :=
  { scheme := "http", authority := "site.test", path := "/shop/", rawPath := "/shop/", query := ""
    separator := "/_/", appendSlash := true, index := none, aliases := [⟨"/blog", "/pages/50%/"⟩] }

/-- Escaped slashes, a double escape, escapes that are none, and bytes that are no text, also
right before the separator. -/
theorem keeps_client_escapes_broken :
    ofSettings shopSettings = .ok shopSite ∧
      Uri.parse "/a%2Fb%252f/%zz%/%C3%28%f0%9f/_/app/x" =
        .ok { path := "/a%2Fb%252f/%zz%/%C3%28%f0%9f/_/app/x" } ∧
      shopSite.SendsPath { path := "/a%2Fb%252f/%zz%/%C3%28%f0%9f/_/app/x" }
        "/shop/a%2Fb%252f/%zz%/%C3%28%f0%9f/" ∧
      shopSite.SendsPath { path := "/a%2Fb%252f/%zz%/%C3%28%f0%9f" }
        "/shop/a%2Fb%252f/%zz%/%C3%28%f0%9f" := by
  have hsite : ofSettings shopSettings = .ok shopSite := by decide +kernel
  have hbase : Text.Percent.HasNoEscape shopSite.rawPath.toList :=
    Text.Percent.hasNoEscape_of_not_mem (by decide)
  have hrouted : Uri.parse "/a%2Fb%252f/%zz%/%C3%28%f0%9f/_/app/x" =
      .ok { path := "/a%2Fb%252f/%zz%/%C3%28%f0%9f/_/app/x" } := by decide +kernel
  have hplain : Uri.parse "/a%2Fb%252f/%zz%/%C3%28%f0%9f" =
      .ok { path := "/a%2Fb%252f/%zz%/%C3%28%f0%9f" } := by decide +kernel
  obtain ⟨hpage, -⟩ := keeps_client_escapes hsite hbase rfl hrouted
  obtain ⟨-, hpath⟩ := keeps_client_escapes hsite hbase rfl hplain
  have hnone : Text.cut? shopSite.separator
      (decodeText "/a%2Fb%252f/%zz%/%C3%28%f0%9f") = none := by decide +kernel
  refine ⟨hsite, hrouted,
    (hpage ⟨by decide +kernel, by decide +kernel, by decide +kernel⟩).1,
    hpath (by decide) (by decide) (by decide) (Text.cut?_eq_none_iff.mp hnone)
      (by decide +kernel) (by decide +kernel)⟩

end Site

end ComposingProxy
