import ComposingProxy.Proofs.Routing.KeptEscapes
import Mathlib.Data.List.Chain

/-!
# Single slashes

A path on the site is put together of the path of the site, a template or the page, and the name of
an index file. Each seam is a place where two slashes could meet. Of the steps

- the page of a path with single slashes has single slashes, also where a slash is put at its end,
- joining leaves one slash at the seam (`Routing.hasSingleSlashes_joinPaths`),
- the name of an index file is only put behind a slash (`Routing.hasSingleSlashes_appendIndex`),

all keep slashes single but one: a template takes the place of a beginning as it stands, so its
slash at the end meets the one with which the page goes on (`TemplateAlias.DoublesSlash`).

> `Config.hasSingleSlashes_iff`: where the texts of the settings have single slashes, the path on
> the site has them for every request that has them, unless the alias in use doubles one.
-/

namespace ComposingProxy

namespace Text

/-- No two slashes follow one another. -/
def HasSingleSlashes (s : String) : Prop := ∀ front back, s ≠ front ++ "//" ++ back

/-- Of two characters one is no slash. -/
abbrev NotBothSlash (a b : Char) : Prop := ¬(a = '/' ∧ b = '/')

/-- A text has single slashes if none is right behind another. -/
theorem hasSingleSlashes_iff_isChain {s : String} :
    HasSingleSlashes s ↔ s.toList.IsChain NotBothSlash := by
  rw [List.isChain_iff_forall_rel_of_append_cons_cons]
  constructor
  · rintro h a b front back hs ⟨rfl, rfl⟩
    refine h (String.ofList front) (String.ofList back) (String.toList_inj.mp ?_)
    simp [hs]
  · rintro h front back rfl
    have hs : (front ++ "//" ++ back).toList = front.toList ++ '/' :: '/' :: back.toList := by simp
    exact h hs ⟨rfl, rfl⟩

instance (s : String) : Decidable (HasSingleSlashes s) :=
  decidable_of_iff _ hasSingleSlashes_iff_isChain.symm

/-! ## Seams -/

variable {s t : String}

/-- Two texts have single slashes together if both have and no two meet. -/
theorem hasSingleSlashes_append :
    HasSingleSlashes (s ++ t) ↔ HasSingleSlashes s ∧ HasSingleSlashes t ∧
      ¬(endsIn '/' s = true ∧ beginsWith '/' t = true) := by
  rw [hasSingleSlashes_iff_isChain, hasSingleSlashes_iff_isChain, hasSingleSlashes_iff_isChain,
    String.toList_append, List.isChain_append]
  refine and_congr_right fun _ => and_congr_right fun _ => ?_
  rw [endsIn, beginsWith, beq_iff_eq, beq_iff_eq]
  constructor
  · rintro h ⟨hlast, hfirst⟩
    exact h _ hlast _ hfirst ⟨rfl, rfl⟩
  · rintro h _ hlast _ hfirst ⟨rfl, rfl⟩
    exact h ⟨hlast, hfirst⟩

/-- A slash may be shared by its two sides. -/
theorem hasSingleSlashes_slash :
    HasSingleSlashes (s ++ "/" ++ t) ↔
      HasSingleSlashes (s ++ "/") ∧ HasSingleSlashes ("/" ++ t) := by
  simp only [hasSingleSlashes_iff_isChain, String.toList_append, List.append_assoc]
  exact List.isChain_split

/-- A text without slashes has single slashes. -/
theorem hasSingleSlashes_of_not_mem (h : '/' ∉ s.toList) : HasSingleSlashes s := by
  rintro front back rfl
  exact h (by simp)

theorem beginsWith_of_not_mem (h : '/' ∉ s.toList) : beginsWith '/' s = false := by
  rw [beginsWith, beq_eq_false_iff_ne]
  exact fun hfirst => h (List.mem_of_mem_head? hfirst)

/-- Dropping a slash makes no two meet. -/
theorem HasSingleSlashes.dropLastOf (h : HasSingleSlashes s) :
    HasSingleSlashes (dropLastOf '/' s) := by
  cases hend : endsIn '/' s with
  | true =>
    obtain ⟨front, rfl⟩ := exists_append_slash hend
    rw [dropLastOf_append_slash]
    exact (hasSingleSlashes_append.mp h).1
  | false => rwa [dropLastOf_of_not hend]

/-- One slash at the end, put there if it is missing. -/
theorem hasSingleSlashes_dropLastOf_slash :
    HasSingleSlashes (Text.dropLastOf '/' s ++ "/") ↔ HasSingleSlashes s := by
  cases hend : endsIn '/' s with
  | true =>
    obtain ⟨front, rfl⟩ := exists_append_slash hend
    rw [dropLastOf_append_slash]
  | false =>
    rw [dropLastOf_of_not hend, hasSingleSlashes_append, hend]
    exact ⟨fun h => h.1, fun h => ⟨h, by decide, fun hboth => absurd hboth.1 (by decide)⟩⟩

/-- One slash at the front, put there if it is missing. -/
theorem hasSingleSlashes_slash_dropFirstOf :
    HasSingleSlashes ("/" ++ dropFirstOf '/' s) ↔ HasSingleSlashes s := by
  cases hbegin : beginsWith '/' s with
  | true =>
    obtain ⟨rest, rfl⟩ := exists_slash_append hbegin
    rw [dropFirstOf_slash_append]
  | false =>
    rw [dropFirstOf_of_not hbegin, hasSingleSlashes_append, hbegin]
    exact ⟨fun h => h.2.1, fun h => ⟨by decide, h, fun hboth => absurd hboth.2 (by decide)⟩⟩

/-- Slashes that follow one another do so, too, in what is read. -/
theorem HasSingleSlashes.of_decodeText (h : HasSingleSlashes (Percent.decodeText s)) :
    HasSingleSlashes s := by
  rintro front back rfl
  refine h (Percent.decodeText front) (Percent.decodeText back) ?_
  have hslashes : front ++ "//" ++ back = front ++ "/" ++ ("/" ++ back) := by
    apply String.toList_inj.mp
    simp
  rw [hslashes, Percent.decodeText_slash, Percent.decodeText_slash_append]
  apply String.toList_inj.mp
  simp

end Text

open Text (HasSingleSlashes)

/-! ## The steps -/

/-- The page of a path with single slashes has single slashes. -/
theorem RoutingToken.hasSingleSlashes_page {separator path : String} {appendSlash : Bool}
    (h : HasSingleSlashes path) :
    HasSingleSlashes (RoutingToken.cut separator appendSlash path).page := by
  unfold RoutingToken.cut
  split
  · exact h
  split
  · exact h
  next page token hcut =>
  have hpage : HasSingleSlashes page := by
    rw [Text.append_of_cut? hcut, Text.hasSingleSlashes_append, Text.hasSingleSlashes_append] at h
    exact h.1.1
  dsimp only
  split
  · unfold withFinalSlash
    split
    · exact hpage
    · next hend =>
      exact Text.hasSingleSlashes_append.mpr ⟨hpage, by decide, fun hboth => hend hboth.1⟩
  · exact hpage

namespace Routing

/-- Joining leaves one slash at the seam, whether the sides have one there or not. -/
theorem hasSingleSlashes_joinPaths {base path : String} :
    HasSingleSlashes (joinPaths base path) ↔ HasSingleSlashes base ∧ HasSingleSlashes path := by
  rw [joinPaths_eq, Text.hasSingleSlashes_slash, Text.hasSingleSlashes_dropLastOf_slash,
    Text.hasSingleSlashes_slash_dropFirstOf]

/-- The name of an index file has no slash that could meet one. -/
theorem hasSingleSlashes_appendIndex {path index : String} (hindex : '/' ∉ index.toList) :
    HasSingleSlashes (appendIndex path index) ↔ HasSingleSlashes path := by
  unfold appendIndex
  split
  · rw [Text.hasSingleSlashes_append, Text.beginsWith_of_not_mem hindex]
    exact ⟨fun h => h.1, fun h =>
      ⟨h, Text.hasSingleSlashes_of_not_mem hindex, fun hboth => absurd hboth.2 (by decide)⟩⟩
  · rfl

/-- The template of an alias ends in a slash, and the page goes on with one behind the beginning
that is replaced. -/
def TemplateAlias.DoublesSlash (entry : TemplateAlias) (page : String) : Prop :=
  Text.endsIn '/' entry.template = true ∧
    ∃ rest, page = entry.href ++ rest ∧ Text.beginsWith '/' rest = true

/-- An alias whose beginning ends in a slash, too, leaves none for the rest. -/
theorem TemplateAlias.not_doublesSlash {entry : TemplateAlias} {page : String}
    (hpage : HasSingleSlashes page)
    (hends : Text.endsIn '/' entry.template = true → Text.endsIn '/' entry.href = true) :
    ¬entry.DoublesSlash page := by
  rintro ⟨hend, rest, rfl, hbegin⟩
  exact (Text.hasSingleSlashes_append.mp hpage).2.2 ⟨hends hend, hbegin⟩

/-- A page is resolved to one with single slashes unless the alias that it is resolved by doubles
one. -/
theorem hasSingleSlashes_resolveFirst? {aliases : List TemplateAlias} {page : String}
    (htemplates : ∀ entry ∈ aliases, HasSingleSlashes entry.template)
    (hpage : HasSingleSlashes page) :
    HasSingleSlashes ((resolveFirst? aliases page).getD page) ↔
      ∀ entry ∈ usedAlias? aliases page, ¬entry.DoublesSlash (Text.dropLastOf '/' page) := by
  rw [resolveFirst?_eq_bind]
  cases hused : usedAlias? aliases page with
  | none => exact iff_of_true hpage fun entry hnone => absurd hnone (by simp)
  | some entry =>
    obtain ⟨rest, hrest, hresult⟩ := exists_of_usedAlias? hused
    have htemplate := htemplates entry (List.mem_of_find?_eq_some hused)
    have hparts := hpage.dropLastOf
    rw [hrest, Text.hasSingleSlashes_append] at hparts
    rw [Option.bind_some, hresult, Option.getD_some, Text.hasSingleSlashes_append]
    constructor
    · rintro ⟨-, -, hseam⟩ other hother ⟨hend, rest', hrest', hbegin⟩
      obtain rfl : entry = other := Option.some.inj hother
      obtain rfl := (String.append_right_inj entry.href).mp (hrest.symm.trans hrest')
      exact hseam ⟨hend, hbegin⟩
    · intro hnot
      exact ⟨htemplate, hparts.2.1, fun hboth => hnot entry rfl ⟨hboth.1, rest, hrest, hboth.2⟩⟩

end Routing

/-! ## The path on the site -/

/-- The texts that are put into a path have single slashes, and the name of the index file none. -/
structure SiteSettings.HasSingleSlashes (settings : SiteSettings) : Prop where
  address : ∀ address, WebAddress.parse settings.address = .ok address →
    Text.HasSingleSlashes (Text.Percent.decodeText address.path)
  href : ∀ path ∈ settings.templatePaths, Text.HasSingleSlashes path.href
  template : ∀ path ∈ settings.templatePaths, Text.HasSingleSlashes path.template
  index : '/' ∉ settings.index.toList

namespace Site

variable {settings : SiteSettings} {site : Site}

/-- A path on the site has single slashes unless its alias doubles one. -/
theorem hasSingleSlashes_locate (hsite : ofSettings settings = .ok site)
    (hsettings : settings.HasSingleSlashes) {base path : String} (hbase : HasSingleSlashes base)
    (hpath : HasSingleSlashes path) :
    HasSingleSlashes (site.locate base path) ↔
      ∀ entry ∈ Routing.usedAlias? site.aliases (site.pageOf path),
        ¬entry.DoublesSlash (Text.dropLastOf '/' (site.pageOf path)) := by
  obtain ⟨-, -, -, -, -, -, haliases, hindex⟩ := ofSettings_eq_ok hsite
  have htemplates : ∀ entry ∈ site.aliases, HasSingleSlashes entry.template := by
    rw [haliases, SiteSettings.aliases, aliasesOf, List.forall_mem_map]
    exact hsettings.template
  have hpage : HasSingleSlashes (site.pageOf path) := RoutingToken.hasSingleSlashes_page hpath
  have hjoined : HasSingleSlashes (site.joinedPath base path) ↔
      ∀ entry ∈ Routing.usedAlias? site.aliases (site.pageOf path),
        ¬entry.DoublesSlash (Text.dropLastOf '/' (site.pageOf path)) := by
    rw [joinedPath, Routing.hasSingleSlashes_joinPaths, and_iff_right hbase]
    exact Routing.hasSingleSlashes_resolveFirst? htemplates hpage
  rw [← hjoined]
  unfold locate
  dsimp only
  split
  · next index hset =>
    have hname : '/' ∉ index.toList := by
      rw [hindex, Option.ite_none_right_eq_some] at hset
      exact Option.some.inj hset.2 ▸ hsettings.index
    exact Routing.hasSingleSlashes_appendIndex hname
  · exact Iff.rfl

/-- The path that is sent reads as the path on the site. -/
theorem decodeText_sentPath (site : Site) (inbound : Uri) :
    Text.Percent.decodeText (site.sentPath inbound) = site.readablePath inbound := by
  unfold sentPath
  split
  · next hkeeps => exact hkeeps
  · exact Text.Percent.decodeText_encodeText (by decide) _

end Site

/-- With settings that were accepted and have single slashes, and for a request that has them, the
path of the target has them exactly if the alias that its page is resolved by does not double one,
and then the path with escapes has them, too. No alias does whose template ends in a slash only if
its beginning does. -/
theorem Config.hasSingleSlashes_iff {config : Config} (hvalid : config.faults = [])
    (hsettings : config.site.HasSingleSlashes) :
    ∃ site, Site.ofSettings config.site = .ok site ∧
      ∀ inbound target, HasSingleSlashes (Text.Percent.decodeText inbound.path) →
        site.target inbound = .ok target →
        (HasSingleSlashes target.path ↔
          ∀ entry ∈ Routing.usedAlias? config.site.aliases target.routing.proxiedPath,
            ¬entry.DoublesSlash (Text.dropLastOf '/' target.routing.proxiedPath)) ∧
        (HasSingleSlashes target.path → HasSingleSlashes target.rawPath) ∧
        ((∀ path ∈ config.site.templatePaths,
            Text.endsIn '/' path.template = true → Text.endsIn '/' path.href = true) →
          HasSingleSlashes target.path) := by
  have hfaults : config.site.faults = [] := by
    rw [Config.faults, List.append_eq_nil_iff, List.append_eq_nil_iff,
      List.append_eq_nil_iff] at hvalid
    exact hvalid.1.1.1
  obtain ⟨site, hsite, hparts⟩ := Site.exists_of_faults_eq_nil hfaults
  obtain ⟨address, haddress, hraw, -, -, -, haliases, -⟩ := Site.ofSettings_eq_ok hsite
  refine ⟨site, hsite, fun inbound target hinbound htarget => ?_⟩
  obtain ⟨uri, -, rfl⟩ := Site.target_eq_ok_iff.mp htarget
  have hbase : HasSingleSlashes site.path := by
    rw [hparts.readable, hraw]
    exact hsettings.address address haddress
  have hpath := Site.hasSingleSlashes_locate hsite hsettings hbase hinbound
  have hpage : (site.targetAt inbound uri).routing.proxiedPath =
      site.pageOf (Text.Percent.decodeText inbound.path) :=
    RoutingContext.proxiedPath_decode _ _ _
  have hreads : Text.Percent.decodeText (site.targetAt inbound uri).rawPath =
      (site.targetAt inbound uri).path :=
    site.decodeText_sentPath inbound
  rw [haliases] at hpath
  rw [hpage]
  refine ⟨hpath, fun h => .of_decodeText ?_, fun hends => hpath.mpr fun entry hused => ?_⟩
  · rwa [hreads]
  · obtain ⟨path, hmem, rfl⟩ := List.mem_map.mp (List.mem_of_find?_eq_some hused)
    refine Routing.TemplateAlias.not_doublesSlash ?_ (hends path hmem)
    exact (RoutingToken.hasSingleSlashes_page hinbound).dropLastOf

namespace Site

/-! ## A template that ends in a slash -/

/-- A site with a template that ends in a slash for a beginning that does not. -/
def docsConfig : Config :=
  { site :=
      { address := "http://site.test"
        templatePaths := [{ href := "/docs", label := "Docs", template := "/pages/" }] } }

/-- The site of the settings above. -/
def docsSite : Site :=
  { scheme := "http", authority := "site.test", path := "/", rawPath := "/", query := ""
    separator := "/_/", appendSlash := false, index := none, aliases := [⟨"/docs", "/pages/"⟩] }

/-- None of the texts of the configuration has two slashes in a row. -/
theorem docsConfig_hasSingleSlashes : docsConfig.site.HasSingleSlashes := by
  refine ⟨fun address haddress => ?_, by decide, by decide, by decide⟩
  have hparse : WebAddress.parse docsConfig.site.address =
      .ok ⟨"http", some "site.test", none, "/", none⟩ := by
    decide +kernel
  obtain rfl := Except.ok.inj (hparse.symm.trans haddress)
  decide +kernel

/-- Where a page of the site above goes. -/
def docsTarget (path page : String) : Target :=
  { uri := { scheme := some "http", authority := some "site.test", path }
    path, rawPath := path, query := "", routing := { proxiedPath := page } }

/-- The page of the alias has single slashes, and a page below it has not. -/
theorem hasSingleSlashes_docs :
    docsConfig.faults = [] ∧ docsConfig.site.HasSingleSlashes ∧
      Site.ofSettings docsConfig.site = .ok docsSite ∧
      docsSite.target { path := "/docs" } = .ok (docsTarget "/pages/" "/docs") ∧
      HasSingleSlashes (docsTarget "/pages/" "/docs").path ∧
      docsSite.target { path := "/docs/intro" } =
        .ok (docsTarget "/pages//intro" "/docs/intro") ∧
      ¬HasSingleSlashes (docsTarget "/pages//intro" "/docs/intro").path := by
  have hvalid : docsConfig.faults = [] := by decide +kernel
  have hsample : Site.ofSettings docsConfig.site = .ok docsSite := by decide +kernel
  have hdocs : docsSite.target { path := "/docs" } = .ok (docsTarget "/pages/" "/docs") := by
    decide +kernel
  have hintro : docsSite.target { path := "/docs/intro" } =
      .ok (docsTarget "/pages//intro" "/docs/intro") := by
    decide +kernel
  have hsettings := docsConfig_hasSingleSlashes
  obtain ⟨site, hsite, hpaths⟩ := Config.hasSingleSlashes_iff hvalid hsettings
  obtain rfl : docsSite = site := Except.ok.inj (hsample.symm.trans hsite)
  have hused : ∀ page ∈ ["/docs", "/docs/intro"],
      Routing.usedAlias? docsConfig.site.aliases page = some ⟨"/docs", "/pages/"⟩ := by
    decide +kernel
  refine ⟨hvalid, hsettings, hsample, hdocs, ?_, hintro, fun hsingle => ?_⟩
  · refine ((hpaths _ _ (by decide +kernel) hdocs).1).mpr ?_
    rintro entry hentry ⟨-, rest, hrest, hbegin⟩
    rw [docsTarget, hused "/docs" (by decide), Option.mem_some_iff] at hentry
    obtain rfl := hentry
    obtain rfl : "" = rest := (String.append_right_inj "/docs").mp hrest
    exact absurd hbegin (by decide)
  · refine ((hpaths _ _ (by decide +kernel) hintro).1).mp hsingle ⟨"/docs", "/pages/"⟩ ?_
      ⟨by decide, "/intro", by decide, by decide⟩
    exact hused "/docs/intro" (by decide)

/-- Single slashes in the settings and in the request do not give single slashes on the site. -/
theorem not_always_single_slashes :
    ¬∀ config : Config, config.faults = [] → config.site.HasSingleSlashes →
      ∀ site, Site.ofSettings config.site = .ok site →
        ∀ inbound target, HasSingleSlashes (Text.Percent.decodeText inbound.path) →
          site.target inbound = .ok target → HasSingleSlashes target.path := by
  intro h
  refine absurd (h docsConfig (by decide +kernel) docsConfig_hasSingleSlashes docsSite
    (by decide +kernel) { path := "/docs/intro" } (docsTarget "/pages//intro" "/docs/intro")
    (by decide +kernel) (by decide +kernel)) ?_
  decide +kernel

end Site

end ComposingProxy
