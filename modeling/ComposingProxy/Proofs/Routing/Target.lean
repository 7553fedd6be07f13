import ComposingProxy.Proofs.Text.Percent
import ComposingProxy.Routing.Site
import Mathlib.Control.Monad.Basic

/-!
# Where a request goes

A target holds its path twice, as it reads and with its escapes, and the two are worked
out side by side from two spellings of the request. What keeps them together:

> `Site.target_paths`: the path as it reads is made from the page of the request and the
> settings alone, and the path with escapes reads as it, whichever way it came about.

The page is what routing makes of the path as it reads (`locate_eq`), so the separator, the
alias and the path inside the app stay behind. A path with escapes is kept when it reads
right, and is else written anew, which reads right because `%` is one of the escaped characters.
-/

namespace ComposingProxy

namespace Routing

/-! ## Template aliases -/

/-- What a page becomes: the first alias whose beginning it has, its final slash apart, replaces
that beginning, and a page that no alias fits stays. -/
inductive Resolves (aliases : List TemplateAlias) (page : String) : String → Prop
  | first {before after : List TemplateAlias} {entry : TemplateAlias} {rest : String}
      (hsplit : aliases = before ++ entry :: after)
      (hbefore : ∀ other ∈ before, ∀ rest, Text.dropLastOf '/' page ≠ other.href ++ rest)
      (hentry : Text.dropLastOf '/' page = entry.href ++ rest) :
      Resolves aliases page (entry.template ++ rest)
  | none (hall : ∀ other ∈ aliases, ∀ rest, Text.dropLastOf '/' page ≠ other.href ++ rest) :
      Resolves aliases page page

/-- An alias fits a path that begins with its address, and puts the template in its place. -/
theorem TemplateAlias.resolve?_eq_some_iff {entry : TemplateAlias} {path result : String} :
    entry.resolve? path = some result ↔
      ∃ rest, path = entry.href ++ rest ∧ result = entry.template ++ rest := by
  rw [resolve?, Option.map_eq_some_iff]
  constructor
  · rintro ⟨rest, hstrip, rfl⟩
    exact ⟨rest, Text.stripPrefix?_eq_some_iff.mp hstrip, rfl⟩
  · rintro ⟨rest, hpath, rfl⟩
    exact ⟨rest, Text.stripPrefix?_eq_some_iff.mpr hpath, rfl⟩

theorem TemplateAlias.resolve?_eq_none_iff {entry : TemplateAlias} {path : String} :
    entry.resolve? path = none ↔ ∀ rest, path ≠ entry.href ++ rest := by
  rw [Option.eq_none_iff_forall_ne_some]
  constructor
  · intro h rest hpath
    exact h _ (resolve?_eq_some_iff.mpr ⟨rest, hpath, rfl⟩)
  · intro h result hresult
    obtain ⟨rest, hpath, -⟩ := resolve?_eq_some_iff.mp hresult
    exact h rest hpath

/-- A page is resolved by the first alias that fits, or stays as it is. -/
theorem resolves_resolveFirst? (aliases : List TemplateAlias) (page : String) :
    Resolves aliases page ((resolveFirst? aliases page).getD page) := by
  cases hfirst : resolveFirst? aliases page with
  | none =>
    rw [resolveFirst?, List.findSome?_eq_none_iff] at hfirst
    exact .none fun other hother =>
      TemplateAlias.resolve?_eq_none_iff.mp (hfirst other hother)
  | some result =>
    rw [resolveFirst?, List.findSome?_eq_some_iff] at hfirst
    obtain ⟨before, entry, after, hsplit, hentry, hbefore⟩ := hfirst
    obtain ⟨rest, hpath, rfl⟩ := TemplateAlias.resolve?_eq_some_iff.mp hentry
    exact .first hsplit (fun other hother =>
      TemplateAlias.resolve?_eq_none_iff.mp (hbefore other hother)) hpath

end Routing

/-! ## The page of a request -/

/-- The page that routing takes from a path is the one that its context names. -/
theorem RoutingContext.proxiedPath_decode (separator : String) (appendSlash : Bool)
    (path : String) :
    (RoutingContext.decode separator appendSlash path).proxiedPath =
      (RoutingToken.cut separator appendSlash path).page := by
  unfold RoutingContext.decode RoutingToken.cut
  split
  · rfl
  · split <;> rfl

namespace SiteSettings

/-- The aliases of the settings. -/
def aliases (settings : SiteSettings) : List Routing.TemplateAlias :=
  Site.aliasesOf settings.templatePaths

/-- What the settings make of a page: an alias of it, or the page itself. -/
def resolve (settings : SiteSettings) (page : String) : String :=
  (Routing.resolveFirst? settings.aliases page).getD page

/-- A path after the path `base` of the site. A directory is completed with the name of the
index file, if there is one to append. -/
def place (settings : SiteSettings) (base path : String) : String :=
  let joined := Routing.joinPaths base path
  if settings.appendIndex = true ∧ settings.index ≠ "" ∧ Text.endsIn '/' joined = true then
    joined ++ settings.index
  else joined

end SiteSettings

namespace Site

variable {settings : SiteSettings} {site : Site}

/-- What the settings say of their site. -/
theorem ofSettings_eq_ok (h : Site.ofSettings settings = .ok site) :
    ∃ address, WebAddress.parse settings.address = .ok address ∧ site.rawPath = address.path ∧
      site.path = Text.Percent.decodeText address.path ∧
      site.separator = settings.pathSeparator ∧ site.appendSlash = settings.alwaysAppendSlash ∧
      site.aliases = settings.aliases ∧
      site.index =
        if settings.appendIndex && settings.index != "" then some settings.index else none := by
  unfold ofSettings at h
  split at h
  · exact absurd h (by simp)
  next address haddress =>
  split at h
  · exact absurd h (by simp)
  rw [← Except.ok.inj h]
  exact ⟨address, haddress, rfl, rfl, rfl, rfl, rfl, rfl⟩

/-- Where a path goes is decided by its page. -/
theorem locate_eq (h : Site.ofSettings settings = .ok site) (base path : String) :
    site.locate base path =
      settings.place base (settings.resolve
        (RoutingContext.decode settings.pathSeparator settings.alwaysAppendSlash
          path).proxiedPath) := by
  obtain ⟨-, -, -, -, hseparator, hslash, haliases, hindex⟩ := ofSettings_eq_ok h
  rw [RoutingContext.proxiedPath_decode, SiteSettings.resolve, SiteSettings.place, locate,
    hseparator, hslash, haliases, hindex]
  by_cases hset : settings.appendIndex = true ∧ settings.index ≠ ""
  · obtain ⟨happend, hname⟩ := hset
    have htest : (settings.appendIndex && settings.index != "") = true := by
      rw [Bool.and_eq_true, bne_iff_ne]
      exact ⟨happend, hname⟩
    rw [if_pos htest]
    simp only [Routing.appendIndex, happend, hname, ne_eq, not_false_eq_true, true_and]
  · have htest : (settings.appendIndex && settings.index != "") ≠ true := by
      rw [ne_eq, Bool.and_eq_true, bne_iff_ne]
      exact hset
    rw [if_neg htest, if_neg fun h => hset ⟨h.1, h.2.1⟩]

/-! ## Both spellings of the path -/

/-- What a target says is the token of the path as it reads, and both spellings of the path on the
site. -/
theorem target_eq_ok {inbound : Uri} {target : Target}
    (h : site.target inbound = .ok target) :
    target.routing = .decode site.separator site.appendSlash
        (Text.Percent.decodeText inbound.path) ∧
      target.path = site.locate site.path (Text.Percent.decodeText inbound.path) ∧
      target.rawPath =
        if Text.Percent.decodeText (site.locate site.rawPath inbound.path) = target.path then
          site.locate site.rawPath inbound.path
        else Text.Percent.encodeText isEscaped target.path := by
  unfold Site.target at h
  dsimp only at h
  split at h
  · exact absurd h (by simp)
  · rw [← Except.ok.inj h]
    exact ⟨rfl, rfl, rfl⟩

/-- The path as it reads is the page of the request, resolved and placed after the path of the
site as that reads; no other part of the request plays a role in it. The path with escapes
reads as the same path. -/
theorem target_paths {inbound : Uri} {target : Target}
    (hsite : Site.ofSettings settings = .ok site) (htarget : site.target inbound = .ok target) :
    target.routing = .decode settings.pathSeparator settings.alwaysAppendSlash
        (Text.Percent.decodeText inbound.path) ∧
      (∃ address, WebAddress.parse settings.address = .ok address ∧
        target.path = settings.place (Text.Percent.decodeText address.path)
          (settings.resolve target.routing.proxiedPath)) ∧
      Routing.Resolves settings.aliases target.routing.proxiedPath
        (settings.resolve target.routing.proxiedPath) ∧
      Text.Percent.decodeText target.rawPath = target.path := by
  obtain ⟨hrouting, hpath, hraw⟩ := target_eq_ok htarget
  obtain ⟨address, haddress, -, hlead, hseparator, hslash, -⟩ := ofSettings_eq_ok hsite
  rw [hseparator, hslash] at hrouting
  refine ⟨hrouting, ⟨address, haddress, ?_⟩, Routing.resolves_resolveFirst? _ _, ?_⟩
  · rw [hpath, hrouting, locate_eq hsite, hlead]
  · rw [hraw]
    split
    · -- the path as it was received is kept only where it was seen to read as the other
      next hreads => exact hreads
    · exact Text.Percent.decodeText_encodeText (by decide) target.path

/-- A site with a space in its path, an index file and an alias with a percent sign. -/
def sampleSettings : SiteSettings :=
  { address := "http://site.test/shop%20one", appendIndex := true
    templatePaths := [{ href := "/blog", label := "Blog", template := "/pages/50%/" }] }

/-- The site of the settings above. -/
def sampleSite : Site :=
  { scheme := "http", authority := "site.test", path := "/shop one", rawPath := "/shop%20one"
    query := "", separator := "/_/", appendSlash := false, index := some "index.html"
    aliases := [⟨"/blog", "/pages/50%/"⟩] }

/-- Where a request goes whose separator is escaped: only the path as it reads is cut. -/
def sampleTarget : Target :=
  { uri :=
      { scheme := some "http", authority := some "site.test"
        path := "/shop%20one/pages/50%25/index.html" }
    path := "/shop one/pages/50%/index.html"
    rawPath := "/shop%20one/pages/50%25/index.html"
    query := ""
    routing := { proxiedPath := "/blog", appAlias := "comments", subpath := "/42" } }

theorem target_paths_sample :
    Site.ofSettings sampleSettings = .ok sampleSite ∧
      sampleSite.target { path := "/blog%2F_%2Fcomments/42" } = .ok sampleTarget ∧
      Routing.Resolves sampleSettings.aliases "/blog" (sampleSettings.resolve "/blog") ∧
      Text.Percent.decodeText "/shop%20one/pages/50%25/index.html" =
        "/shop one/pages/50%/index.html" := by
  have hsite : Site.ofSettings sampleSettings = .ok sampleSite := by decide +kernel
  have htarget : sampleSite.target { path := "/blog%2F_%2Fcomments/42" } = .ok sampleTarget := by
    decide +kernel
  obtain ⟨-, -, hresolves, hreads⟩ := target_paths hsite htarget
  exact ⟨hsite, htarget, hresolves, hreads⟩

end Site

end ComposingProxy
