import ComposingProxy.Config.Validation
import ComposingProxy.Proofs.Address.WebParts
import ComposingProxy.Proofs.Routing.Target

/-!
# The URI that is sent

The URI of a target is joined as a text and read again. Of the parts that it is joined of, the
address of the site and the request bring their own escapes; the templates of aliases and the name
of the index file are taken as they were configured.

> `Site.reaches_iff`: the URI names the site and has the path and the query of the target, unless
> the host holds a character that an authority refuses or the path is kept and one of the texts
> put into it holds one that ends a path.
> `Config.reaches_of_faults_eq_nil`: so it is for every configuration without faults.

A path that is written anew is right in any case: `Site.isEscaped` names every character that may
not stand in a path (`Site.isPathText_encodeText`). Only a path that is kept with the escapes it
came with can be cut at another place, or be refused.
-/

namespace ComposingProxy

namespace Text

theorem forall_mem_dropLastOf {P : Char → Prop} (mark : Char) {s : String}
    (hs : ∀ c ∈ s.toList, P c) : ∀ c ∈ (dropLastOf mark s).toList, P c := by
  unfold dropLastOf
  split
  · rw [String.toList_ofList]
    exact fun c hc => hs c ((List.dropLast_sublist _).subset hc)
  · exact hs

end Text

/-! ## Joining paths -/

namespace Routing

/-- Joining adds a slash at most, which may stand in a path. -/
theorem isPathText_joinPaths {base path : String} :
    IsPathText (joinPaths base path).toList ↔
      IsPathText base.toList ∧ IsPathText path.toList := by
  have hslash : IsPathText ['/'] := by decide
  unfold joinPaths
  split
  · next _ hbegin =>
    obtain ⟨rest, hrest⟩ := List.head?_eq_some_iff.mp (beq_iff_eq.mp hbegin)
    have hpath : IsPathText path.toList ↔ IsPathText rest := by
      rw [hrest]
      exact ⟨fun h => (List.forall_mem_cons.mp h).2,
        fun h => List.forall_mem_cons.mpr ⟨by decide, h⟩⟩
    rw [String.toList_append, String.toList_ofList, isPathText_append, hpath, hrest,
      List.tail_cons]
  · rw [String.toList_append, String.toList_append, isPathText_append, isPathText_append]
    exact ⟨fun h => ⟨h.1.1, h.2⟩, fun h => ⟨⟨h.1, hslash⟩, h.2⟩⟩
  · rw [String.toList_append, isPathText_append]

/-- The name of the index file counts only where it is appended. -/
theorem isPathText_appendIndex {path index : String} :
    IsPathText (appendIndex path index).toList ↔
      IsPathText path.toList ∧ (Text.endsIn '/' path = true → IsPathText index.toList) := by
  unfold appendIndex
  split
  · next happend =>
    rw [String.toList_append, isPathText_append]
    exact and_congr_right fun _ => ⟨fun h _ => h, fun h => h happend.2⟩
  · next hkeep =>
    refine ⟨fun h => ⟨h, fun hend => ?_⟩, fun h => h.1⟩
    have hempty : index = "" := by
      by_contra hne
      exact hkeep ⟨hne, hend⟩
    rw [hempty]
    decide

/-- A path begins as it did when the index file is appended. -/
theorem head?_appendIndex {c : Char} {path index : String} (h : path.toList.head? = some c) :
    (appendIndex path index).toList.head? = some c := by
  unfold appendIndex
  split <;> simp only [String.toList_append, List.head?_append, h, Option.some_or]

/-- Joined paths begin like the first one. -/
theorem head?_joinPaths {c : Char} {base path : String} (h : base.toList.head? = some c) :
    (joinPaths base path).toList.head? = some c := by
  unfold joinPaths
  split <;> simp only [String.toList_append, List.head?_append, h, Option.some_or]

/-- Two queries are joined by a character that may stand in one. -/
theorem isQueryText_mergeQuery {own inbound : String} (hown : IsQueryText own.toList)
    (hinbound : IsQueryText inbound.toList) : IsQueryText (mergeQuery own inbound).toList := by
  have hmark : IsQueryText ['&'] := by
    intro c hc
    rw [List.mem_singleton.mp hc]
    decide
  unfold mergeQuery
  split
  · exact hinbound
  · split
    · exact hown
    · rw [String.toList_append, String.toList_append]
      exact isQueryText_append.mpr ⟨isQueryText_append.mpr ⟨hown, hmark⟩, hinbound⟩

/-! ## Aliases -/

/-- The alias that a page is resolved by: the first one that fits. -/
def usedAlias? (aliases : List TemplateAlias) (page : String) : Option TemplateAlias :=
  aliases.find? fun entry => (entry.resolve? (Text.dropLastOf '/' page)).isSome

/-- A page is resolved by the alias that is used for it. -/
theorem resolveFirst?_eq_bind (aliases : List TemplateAlias) (page : String) :
    resolveFirst? aliases page =
      (usedAlias? aliases page).bind (·.resolve? (Text.dropLastOf '/' page)) := by
  unfold resolveFirst? usedAlias?
  induction aliases with
  | nil => rfl
  | cons entry aliases ih =>
    rw [List.findSome?_cons, List.find?_cons]
    cases hentry : entry.resolve? (Text.dropLastOf '/' page) with
    | none => exact ih
    | some result =>
      dsimp only [Option.isSome]
      rw [Option.bind_some, hentry]

/-- The alias in use fits, and its template takes the place of its beginning. -/
theorem exists_of_usedAlias? {aliases : List TemplateAlias} {page : String} {entry : TemplateAlias}
    (h : usedAlias? aliases page = some entry) :
    ∃ rest, Text.dropLastOf '/' page = entry.href ++ rest ∧
      entry.resolve? (Text.dropLastOf '/' page) = some (entry.template ++ rest) := by
  have hfits : (entry.resolve? (Text.dropLastOf '/' page)).isSome = true :=
    List.find?_some (p := fun entry => (TemplateAlias.resolve? entry _).isSome) h
  obtain ⟨result, hresult⟩ := Option.isSome_iff_exists.mp hfits
  obtain ⟨rest, hpath, rfl⟩ := TemplateAlias.resolve?_eq_some_iff.mp hresult
  exact ⟨rest, hpath, hresult⟩

/-- A page is resolved to a path text exactly if the template that it gets is one. -/
theorem isPathText_resolveFirst? {aliases : List TemplateAlias} {page : String}
    (hpage : IsPathText page.toList) :
    IsPathText ((resolveFirst? aliases page).getD page).toList ↔
      ∀ entry ∈ usedAlias? aliases page, IsPathText entry.template.toList := by
  rw [resolveFirst?_eq_bind]
  cases hused : usedAlias? aliases page with
  | none => exact ⟨fun _ entry hnone => absurd hnone (by simp), fun _ => hpage⟩
  | some entry =>
    obtain ⟨rest, hpath, hresult⟩ := exists_of_usedAlias? hused
    -- what follows the beginning is a part of the page
    have hrest : IsPathText rest.toList := by
      have hshort := Text.forall_mem_dropLastOf '/' hpage
      rw [hpath, String.toList_append] at hshort
      exact (isPathText_append.mp hshort).2
    rw [Option.bind_some, hresult, Option.getD_some, String.toList_append, isPathText_append]
    constructor
    · rintro ⟨htemplate, -⟩ other hother
      rwa [← Option.some.inj hother]
    · exact fun htemplate => ⟨htemplate entry rfl, hrest⟩

end Routing

/-- The page of a path that is a path text is one. -/
theorem RoutingToken.isPathText_page {separator path : String} {appendSlash : Bool}
    (h : IsPathText path.toList) :
    IsPathText (RoutingToken.cut separator appendSlash path).page.toList := by
  unfold RoutingToken.cut
  split
  · exact h
  · split
    · exact h
    · next page token hcut =>
      rw [Text.append_of_cut? hcut, String.toList_append, String.toList_append, isPathText_append,
        isPathText_append] at h
      obtain ⟨⟨hpage, -⟩, -⟩ := h
      dsimp only
      split
      · unfold withFinalSlash
        split
        · exact hpage
        · rw [String.toList_append]
          exact isPathText_append.mpr ⟨hpage, by decide⟩
      · exact hpage

namespace Site

/-! ## The path that is sent -/

/-- The page that a path names. -/
def pageOf (site : Site) (path : String) : String :=
  (RoutingToken.cut site.separator site.appendSlash path).page

/-- A path after the path `base` of the site, before a directory is completed. -/
def joinedPath (site : Site) (base path : String) : String :=
  Routing.joinPaths base
    ((Routing.resolveFirst? site.aliases (site.pageOf path)).getD (site.pageOf path))

/-- The path of a request as it reads, on the site. -/
def readablePath (site : Site) (inbound : Uri) : String :=
  site.locate site.path (Text.Percent.decodeText inbound.path)

/-- The path of a request with the escapes it came with, on the site. -/
def keptPath (site : Site) (inbound : Uri) : String := site.locate site.rawPath inbound.path

/-- Whether the path with the escapes it came with reads right, so that it is sent. -/
def Keeps (site : Site) (inbound : Uri) : Prop :=
  Text.Percent.decodeText (site.keptPath inbound) = site.readablePath inbound

instance (site : Site) (inbound : Uri) : Decidable (site.Keeps inbound) := by
  unfold Keeps
  infer_instance

/-- The path of the URI that is sent. -/
def sentPath (site : Site) (inbound : Uri) : String :=
  if Text.Percent.decodeText (site.keptPath inbound) = site.readablePath inbound then
    site.keptPath inbound
  else Text.Percent.encodeText isEscaped (site.readablePath inbound)

/-- The query of the URI that is sent. -/
def sentQuery (site : Site) (inbound : Uri) : String :=
  Routing.mergeQuery site.query (inbound.query.getD "")

/-- What the settings put into a path that is kept: the template that its page gets, and the name
of the index file where that is appended. -/
def insertions (site : Site) (inbound : Uri) : List String :=
  (Routing.usedAlias? site.aliases (site.pageOf inbound.path)).toList.map (·.template) ++
    if Text.endsIn '/' (site.joinedPath site.rawPath inbound.path) then site.index.toList else []

/-- What is put into a path is a template and the name of the index file. -/
theorem forall_mem_insertions {P : String → Prop} {site : Site} {inbound : Uri} :
    (∀ text ∈ site.insertions inbound, P text) ↔
      (∀ entry ∈ Routing.usedAlias? site.aliases (site.pageOf inbound.path), P entry.template) ∧
        ∀ index ∈ site.index,
          Text.endsIn '/' (site.joinedPath site.rawPath inbound.path) = true → P index := by
  rw [insertions, List.forall_mem_append, List.forall_mem_map]
  refine and_congr (by simp only [Option.mem_toList, Option.mem_def]) ?_
  split
  · next hend => simp only [Option.mem_toList, Option.mem_def, hend, true_imp_iff]
  · next hend => simp [hend]

variable {site : Site} {inbound : Uri}

/-- A path on the site may be sent as it is if the template for its page may. -/
theorem isPathText_joinedPath {base path : String} (hbase : IsPathText base.toList)
    (hpath : IsPathText path.toList) :
    IsPathText (site.joinedPath base path).toList ↔
      ∀ entry ∈ Routing.usedAlias? site.aliases (site.pageOf path),
        IsPathText entry.template.toList := by
  rw [joinedPath, Routing.isPathText_joinPaths, and_iff_right hbase]
  exact Routing.isPathText_resolveFirst? (RoutingToken.isPathText_page hpath)

/-- A path that is kept is a path text exactly if what was put into it is. -/
theorem isPathText_keptPath (hbase : IsPathText site.rawPath.toList)
    (hinbound : IsPathText inbound.path.toList) :
    IsPathText (site.keptPath inbound).toList ↔
      ∀ text ∈ site.insertions inbound, IsPathText text.toList := by
  rw [forall_mem_insertions, ← isPathText_joinedPath hbase hinbound]
  unfold keptPath locate
  dsimp only
  cases site.index with
  | none => exact ⟨fun h => ⟨h, fun index hnone => absurd hnone (by simp)⟩, fun h => h.1⟩
  | some index =>
    refine Routing.isPathText_appendIndex.trans ?_
    refine and_congr_right fun _ => ⟨?_, fun h => h index rfl⟩
    rintro h other hother
    rwa [← Option.some.inj hother]

/-- A path that is written anew is a path text. -/
theorem isPathText_encodeText (path : String) :
    IsPathText (Text.Percent.encodeText isEscaped path).toList := by
  rw [Text.Percent.encodeText, String.toList_ofList]
  exact Text.Percent.forall_mem_encode (forall_ascii (by decide)) (by decide) (by decide) _

/-- The path that is sent may stand in a URI, unless it is kept and something is put into it that
may not. -/
theorem isPathText_sentPath (hbase : IsPathText site.rawPath.toList)
    (hinbound : IsPathText inbound.path.toList) :
    IsPathText (site.sentPath inbound).toList ↔
      (site.Keeps inbound → ∀ text ∈ site.insertions inbound, IsPathText text.toList) := by
  unfold sentPath
  split
  · next hkeeps =>
    rw [isPathText_keptPath hbase hinbound]
    exact ⟨fun h _ => h, fun h => h hkeeps⟩
  · next hkeeps =>
    exact iff_of_true (isPathText_encodeText _) fun hkept => absurd hkept hkeeps

/-- A path on the site begins as the path of the site does. -/
theorem head?_locate {base path : String} {c : Char} (h : base.toList.head? = some c) :
    (site.locate base path).toList.head? = some c := by
  unfold locate
  dsimp only
  split
  · exact Routing.head?_appendIndex (Routing.head?_joinPaths h)
  · exact Routing.head?_joinPaths h

/-! ## Sites of accepted settings -/

/-- The parts of a site may stand in a URI as they are, up to the characters of its host. -/
structure HasUriParts (site : Site) : Prop where
  scheme : Uri.IsWebScheme site.scheme
  authority : Authority.IsWhole site.authority.toList ↔ Authority.Accepts site.authority.toList
  slash : site.rawPath.toList.head? = some '/'
  path : IsPathText site.rawPath.toList
  query : IsQueryText site.query.toList
  readable : site.path = Text.Percent.decodeText site.rawPath

/-- An address that no fault was found in is one of the web and names a host. -/
theorem exists_of_addressFault?_eq_none {settings : SiteSettings}
    (h : settings.addressFault? = none) :
    ∃ address host, WebAddress.parse settings.address = .ok address ∧
      address.host = some host ∧ Uri.IsWebScheme address.scheme := by
  unfold SiteSettings.addressFault? at h
  split at h
  · exact absurd h (by simp)
  next address haddress =>
  split at h
  · exact absurd h (by simp)
  next hscheme =>
  split at h
  · exact absurd h (by simp)
  next hhost =>
  rw [Option.isNone_iff_eq_none] at hhost
  obtain ⟨host, hhost⟩ := Option.ne_none_iff_exists'.mp hhost
  refine ⟨address, host, haddress, hhost, ?_⟩
  by_contra hother
  exact hscheme (not_or.mp hother)

/-- Settings without a fault describe a site whose parts may stand in a URI. -/
theorem exists_of_faults_eq_nil {settings : SiteSettings} (h : settings.faults = []) :
    ∃ site, Site.ofSettings settings = .ok site ∧ site.HasUriParts := by
  have hfault : settings.addressFault? = none := by
    rw [SiteSettings.faults, List.append_eq_nil_iff, List.append_eq_nil_iff,
      List.map_eq_nil_iff, Option.toList_eq_nil_iff] at h
    exact h.1.1
  obtain ⟨address, host, haddress, hhost, hscheme⟩ := exists_of_addressFault?_eq_none hfault
  have hparts := WebAddress.hasUriParts_of_parse haddress hscheme
  refine ⟨_, by rw [ofSettings, haddress]; dsimp only; rw [hhost], ?_⟩
  refine ⟨hscheme, ?_, hparts.slash, hparts.path, hparts.query, rfl⟩
  have hwhole : Authority.IsWhole (host.toList ++ (Authority.portPart address.portNumber).toList) ↔
      Authority.Accepts (host.toList ++ (Authority.portPart address.portNumber).toList) :=
    Authority.isWhole_iff (hparts.host host hhost)
  dsimp only
  cases hnumber : address.portNumber with
  | none =>
    rw [hnumber, Authority.portPart, String.toList_empty, List.append_nil] at hwhole
    exact hwhole
  | some number =>
    dsimp only
    rw [hnumber, Authority.portPart, ← String.toList_append, ← String.append_assoc] at hwhole
    exact hwhole

/-! ## What is sent -/

/-- The URI of the target names the site and has the path and the query of the target, where the
query is that of the site with that of the request after it. -/
def Reaches (site : Site) (inbound : Uri) : Prop :=
  ∃ target, site.target inbound = .ok target ∧
    target.query = Routing.mergeQuery site.query (inbound.query.getD "") ∧
    target.uri =
      { scheme := some site.scheme, authority := some site.authority, path := target.rawPath
        query := if target.query = "" then none else some target.query }

/-- The URI that is meant by the path and the query that are sent. -/
def sentUri (site : Site) (inbound : Uri) : Uri :=
  { scheme := some site.scheme, authority := some site.authority, path := site.sentPath inbound
    query := if site.sentQuery inbound = "" then none else some (site.sentQuery inbound) }

/-- The target of a request whose text reads as `uri`. -/
def targetAt (site : Site) (inbound uri : Uri) : Target :=
  { uri, path := site.readablePath inbound, rawPath := site.sentPath inbound
    query := site.sentQuery inbound
    routing := .decode site.separator site.appendSlash (Text.Percent.decodeText inbound.path) }

/-- There is a target exactly if its text reads as a URI. -/
theorem target_eq_ok_iff {target : Target} :
    site.target inbound = .ok target ↔
      ∃ uri, Uri.parse (site.uriText (site.sentPath inbound) (site.sentQuery inbound)) = .ok uri ∧
        target = site.targetAt inbound uri := by
  unfold Site.target targetAt sentPath sentQuery keptPath readablePath
  dsimp only
  split
  · next cause hparse =>
    rw [hparse]
    exact ⟨fun h => absurd h (by simp), fun ⟨uri, hok, _⟩ => absurd hok (by simp)⟩
  · next uri hparse =>
    rw [hparse]
    constructor
    · intro h
      exact ⟨uri, rfl, (Except.ok.inj h).symm⟩
    · rintro ⟨other, hok, rfl⟩
      rw [Except.ok.inj hok]

/-- A target reaches the site exactly if its text reads as what is meant. -/
theorem reaches_iff_parse :
    site.Reaches inbound ↔
      Uri.parse (site.uriText (site.sentPath inbound) (site.sentQuery inbound)) =
        .ok (site.sentUri inbound) := by
  constructor
  · rintro ⟨target, htarget, -, huri⟩
    obtain ⟨uri, hparse, rfl⟩ := target_eq_ok_iff.mp htarget
    exact hparse.trans (congrArg Except.ok huri)
  · intro hparse
    have htarget : site.target inbound = .ok (site.targetAt inbound (site.sentUri inbound)) :=
      target_eq_ok_iff.mpr ⟨_, hparse, rfl⟩
    exact ⟨_, htarget, rfl, rfl⟩

/-- The path that is sent begins with a slash. -/
theorem head?_sentPath (hsite : site.HasUriParts) :
    (site.sentPath inbound).toList.head? = some '/' := by
  unfold sentPath
  split
  · exact head?_locate hsite.slash
  · have hreadable : (site.readablePath inbound).toList.head? = some '/' := by
      refine head?_locate ?_
      rw [hsite.readable]
      exact Text.Percent.head?_decodeText (by decide) (by decide) hsite.slash
    obtain ⟨rest, hrest⟩ := List.head?_eq_some_iff.mp hreadable
    rw [Text.Percent.encodeText, String.toList_ofList, hrest]
    rfl

/-- Which requests reach the site: where the path is written anew, all of them do, unless it is the
host that an authority refuses. -/
theorem reaches_iff (hsite : site.HasUriParts) (hinbound : inbound.HasOwnCharacters)
    (hlength : (Text.Utf8.encode
      (site.uriText (site.sentPath inbound) (site.sentQuery inbound)).toList).length ≤
        maxUriLength) :
    site.Reaches inbound ↔
      Authority.Accepts site.authority.toList ∧
        (site.Keeps inbound → ∀ text ∈ site.insertions inbound, IsPathText text.toList) := by
  obtain ⟨hpath, hinboundQuery⟩ := hinbound
  have hquery : IsQueryText (site.sentQuery inbound).toList := by
    refine Routing.isQueryText_mergeQuery hsite.query ?_
    cases hgiven : inbound.query with
    | none => exact fun c hc => absurd hc List.not_mem_nil
    | some text => exact hinboundQuery text hgiven
  rw [reaches_iff_parse, ← hsite.authority, ← isPathText_sentPath hsite.path hpath]
  constructor
  · -- whatever is read has only characters of its own, and the path was read as it was sent
    intro hparse
    have htext : (site.uriText (site.sentPath inbound) (site.sentQuery inbound)).toList =
        site.scheme.toList ++ "://".toList ++ (site.authority.toList ++
          ((site.sentPath inbound).toList ++ (queryPart (site.sentQuery inbound)).toList)) := by
      unfold uriText queryPart
      simp only [String.toList_append, List.append_assoc]
    exact ⟨Uri.isWhole_of_parse hsite.scheme htext hparse rfl,
      (Uri.hasOwnCharacters_of_parse hparse).1⟩
  · rintro ⟨hwhole, hsent⟩
    exact Uri.parse_join hsite.scheme hwhole (head?_sentPath hsite) hsent hquery hlength

/-- What would have to be checked of the settings: with templates and an index file that have only
characters of a path, no request is lost. -/
theorem reaches_of_isPathText (hsite : site.HasUriParts) (hinbound : inbound.HasOwnCharacters)
    (hlength : (Text.Utf8.encode
      (site.uriText (site.sentPath inbound) (site.sentQuery inbound)).toList).length ≤
        maxUriLength)
    (hhost : Authority.Accepts site.authority.toList)
    (htemplates : ∀ entry ∈ site.aliases, IsPathText entry.template.toList)
    (hindex : ∀ index ∈ site.index, IsPathText index.toList) : site.Reaches inbound := by
  have hinsertions : ∀ text ∈ site.insertions inbound, IsPathText text.toList :=
    forall_mem_insertions.mpr
      ⟨fun entry hused => htemplates entry (List.mem_of_find?_eq_some hused),
        fun index hset _ => hindex index hset⟩
  exact (reaches_iff hsite hinbound hlength).mpr ⟨hhost, fun _ => hinsertions⟩

end Site

/-- Every configuration without faults describes a site, and which requests reach it is known: with
a host that an authority does not refuse, those whose path is written anew, and those where the
template and the index file that are put into the path have only characters of a path. -/
theorem Config.reaches_of_faults_eq_nil {config : Config} (h : config.faults = []) :
    ∃ site, Site.ofSettings config.site = .ok site ∧
      ∀ text inbound, Uri.parse text = .ok inbound →
        (Text.Utf8.encode (site.uriText (site.sentPath inbound)
          (site.sentQuery inbound)).toList).length ≤ maxUriLength →
        (site.Reaches inbound ↔
          Authority.Accepts site.authority.toList ∧
            (site.Keeps inbound → ∀ text ∈ site.insertions inbound, IsPathText text.toList)) := by
  have hfaults : config.site.faults = [] := by
    rw [Config.faults, List.append_eq_nil_iff, List.append_eq_nil_iff, List.append_eq_nil_iff] at h
    exact h.1.1.1
  obtain ⟨site, hsite, hparts⟩ := Site.exists_of_faults_eq_nil hfaults
  exact ⟨site, hsite, fun text inbound hinbound hlength =>
    Site.reaches_iff hparts (Uri.hasOwnCharacters_of_parse hinbound) hlength⟩

namespace Site

/-- The configuration of the site with a percent sign in a template. -/
def sampleConfig : Config := { site := sampleSettings }

/-- The template and the index file of the sample are put into a path that is kept. -/
theorem reaches_sample :
    sampleConfig.faults = [] ∧ Site.ofSettings sampleSettings = .ok sampleSite ∧
      Uri.parse "/blog/" = .ok { path := "/blog/" } ∧
      sampleSite.Keeps { path := "/blog/" } ∧
      sampleSite.Reaches { path := "/blog/" } := by
  have hvalid : sampleConfig.faults = [] := by decide +kernel
  have hsample : Site.ofSettings sampleSettings = .ok sampleSite := by decide +kernel
  have hparse : Uri.parse "/blog/" = .ok { path := "/blog/" } := by
    decide +kernel
  obtain ⟨site, hsite, hreaches⟩ := Config.reaches_of_faults_eq_nil hvalid
  obtain rfl : sampleSite = site := Except.ok.inj (hsample.symm.trans hsite)
  refine ⟨hvalid, hsample, hparse, by decide +kernel, ?_⟩
  exact (hreaches _ _ hparse (by decide +kernel)).mpr
    ⟨by decide +kernel, fun _ => by decide +kernel⟩

/-- The settings of a site with an alias whose template has a space. -/
def spacedSettings : SiteSettings :=
  { address := "http://site.test"
    templatePaths := [{ href := "/docs", label := "Docs", template := "/my docs" }] }

/-- The site of the settings above. -/
def spacedSite : Site :=
  { scheme := "http", authority := "site.test", path := "/", rawPath := "/", query := ""
    separator := "/_/", appendSlash := false, index := none, aliases := [⟨"/docs", "/my docs"⟩] }

/-- The settings are accepted and the text is short enough; yet it is no URI, and the request has
no target. -/
theorem not_every_request_reaches :
    Config.faults { site := spacedSettings } = [] ∧
      Site.ofSettings spacedSettings = .ok spacedSite ∧
      Uri.parse "/docs" = .ok { path := "/docs" } ∧
      (Text.Utf8.encode (spacedSite.uriText (spacedSite.sentPath { path := "/docs" })
        (spacedSite.sentQuery { path := "/docs" })).toList).length ≤ maxUriLength ∧
      spacedSite.target { path := "/docs" } =
        .error { uri := "http://site.test/my docs", cause := .invalidCharacter } := by
  decide +kernel

end Site

end ComposingProxy
