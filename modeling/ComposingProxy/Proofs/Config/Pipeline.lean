import ComposingProxy.Config.Loader
import ComposingProxy.Page.Chain
import ComposingProxy.Proofs.Routing.Outbound
import Mathlib.Data.List.Forall2

/-!
# What an accepted configuration can do

Checking a configuration and building from it are two passes over the same texts, and each asks
in its own way whether there is a text at all. The check passes over what is empty. Building
passes over what is blank, so a text of white space alone is one to the check and none to the
builder. Nothing is lost by it: what the check looks at it must also be able to read, and there
is nothing to read in white space (`Selector.ne_blank_of_parse`). So whatever the builder looks
at has been read before:

> `Navigation.compile_of_faults_eq_nil`: navigation settings without a fault can be built from,
> and what comes of them is what the check has read.
> `Config.exists_yields_of_parse`: an accepted configuration gives a site and a chain of
> transformers, and its apps have aliases by which they can be told apart.

The aliases are given out before the check, so the check sees a whole list without gaps
(`App.nodup_of_faultsFrom_eq_nil`).
-/

namespace ComposingProxy

open Markup

/-! ## Aliases -/

/-- As many words are picked as are asked for. -/
theorem RandomWords.length_pickMany (count amount : Nat) (source : RandomWords) :
    (source.pickMany count amount).1.length = amount := by
  induction amount generalizing source with
  | zero => rfl
  | succ amount ih =>
    show (_ :: _).length = _
    rw [List.length_cons, ih]

namespace App

/-- An alias that is drawn has its length. -/
theorem length_randomAlias (source : RandomWords) :
    (randomAlias source).1.toList.length = aliasLength := by
  unfold randomAlias
  rw [String.toList_ofList, List.length_map, RandomWords.length_pickMany]

theorem randomAlias_ne_empty (source : RandomWords) : (randomAlias source).1 ≠ "" := by
  intro hempty
  have hlength := length_randomAlias source
  rw [hempty] at hlength
  exact absurd hlength (by decide)

/-- Nobody is left without an alias. -/
theorem appAlias_ne_empty_of_mem_assignAliases {source : RandomWords} {apps : List App} {app : App}
    (h : app ∈ assignAliases source apps) : app.appAlias ≠ "" := by
  induction apps generalizing source with
  | nil => exact absurd h List.not_mem_nil
  | cons first rest ih =>
    rw [assignAliases] at h
    by_cases hfirst : first.appAlias = ""
    · rw [if_pos hfirst] at h
      rcases List.mem_cons.mp h with rfl | hrest
      · exact randomAlias_ne_empty source
      · exact ih hrest
    · rw [if_neg hfirst] at h
      rcases List.mem_cons.mp h with rfl | hrest
      · exact hfirst
      · exact ih hrest

/-- Where every app has an alias and none is at fault, no alias is there twice. -/
theorem nodup_of_faultsFrom_eq_nil {earlier : List String} {index : Nat} {apps : List App}
    (hnamed : ∀ app ∈ apps, app.appAlias ≠ "") (h : faultsFrom earlier index apps = []) :
    (apps.map (·.appAlias)).Nodup ∧ ∀ app ∈ apps, app.appAlias ∉ earlier := by
  induction apps generalizing earlier index with
  | nil => exact ⟨List.nodup_nil, fun _ hmem => absurd hmem List.not_mem_nil⟩
  | cons first rest ih =>
    rw [faultsFrom, List.append_eq_nil_iff, List.append_eq_nil_iff] at h
    obtain ⟨⟨-, hrepeated⟩, hrest⟩ := h
    obtain ⟨hnodup, hnew⟩ := ih (fun app hmem => hnamed app (List.mem_cons_of_mem _ hmem)) hrest
    have hfirst : first.appAlias ∉ earlier := by
      intro hmem
      have hname := hnamed first List.mem_cons_self
      simp [faultIf, hname, hmem] at hrepeated
    refine ⟨List.nodup_cons.mpr ⟨?_, hnodup⟩, ?_⟩
    · rintro hmem
      obtain ⟨app, happ, heq⟩ := List.mem_map.mp hmem
      exact hnew app happ (heq ▸ List.mem_cons_self)
    · intro app hmem
      rcases List.mem_cons.mp hmem with rfl | hlater
      · exact hfirst
      · exact fun hmem => hnew app hlater (List.mem_cons_of_mem _ hmem)

end App

/-! ## Navigation -/

/-- There is nothing to read in white space. -/
theorem Markup.Selector.ne_blank_of_parse {text : String} {selector : Selector}
    (h : Selector.parse text = .ok selector) : Text.trimText text ≠ "" := by
  intro hblank
  have hall := Text.trimOf_eq_nil_iff.mp (String.ofList_eq_empty_iff.mp hblank)
  have hskip : Selector.Parser.skip text.toList = [] := Text.dropWhile_eq_nil_iff.mpr hall
  rw [Selector.parse, Selector.Parser.selector, hskip] at h
  exact absurd h (by simp)

/-- A text has no fault if it can be read. -/
theorem NavigationSettings.faultOf_eq_nil_iff {ε α β : Type} {fault : ε → β}
    {outcome : Except ε α} : faultOf fault outcome = [] ↔ ∃ value, outcome = .ok value := by
  cases outcome with
  | error cause => simp [faultOf]
  | ok value => simp [faultOf]

/-- Where each of a row of things can be made, all of them can. -/
theorem exists_mapM_eq_ok {ε α β : Type} {f : α → Except ε β} {R : α → β → Prop}
    {row : List α} (h : ∀ a ∈ row, ∃ b, f a = .ok b ∧ R a b) :
    ∃ made, row.mapM f = .ok made ∧ List.Forall₂ R row made := by
  induction row with
  | nil => exact ⟨[], rfl, .nil⟩
  | cons a rest ih =>
    obtain ⟨b, hb, hab⟩ := h a List.mem_cons_self
    obtain ⟨made, hmade, hrest⟩ := ih fun a ha => h a (List.mem_cons_of_mem _ ha)
    refine ⟨b :: made, ?_, .cons hab hrest⟩
    rw [List.mapM_cons, hb, hmade]
    rfl

/-- The field reads what its setting says: the node of the query, or the item itself where no
query is given. -/
structure NavField.IsOf (field : NavField) (entry : String × FieldQuery) : Prop where
  name : field.name = entry.1
  attrName : field.attrName = entry.2.attrName
  item : entry.2.query = "" → field.query = none
  query : entry.2.query ≠ "" →
    ∃ selector, Selector.parse entry.2.query = .ok selector ∧ field.query = some selector

/-- A field without a fault can be read. -/
theorem NavField.exists_isOf_of_fieldFaults_eq_nil {entry : String × FieldQuery}
    (h : NavigationSettings.fieldFaults entry = []) :
    ∃ field, compile entry = .ok field ∧ field.IsOf entry := by
  obtain ⟨name, setting⟩ := entry
  unfold compile
  dsimp only
  by_cases hempty : setting.query = ""
  · have hblank : Text.trimText setting.query = "" := by
      rw [hempty]
      rfl
    rw [if_pos hblank]
    exact ⟨_, rfl, rfl, rfl, fun _ => rfl, fun hne => absurd hempty hne⟩
  · rw [NavigationSettings.fieldFaults, if_neg hempty] at h
    obtain ⟨selector, hselector⟩ := NavigationSettings.faultOf_eq_nil_iff.mp h
    -- the check has read the query, so it is not blank either
    rw [if_neg (Selector.ne_blank_of_parse hselector), hselector]
    exact ⟨_, rfl, rfl, rfl, fun heq => absurd heq hempty, fun _ => ⟨selector, hselector, rfl⟩⟩

/-- The navigation is made of what is read in the texts of its settings. -/
structure Navigation.IsOf (items : Navigation) (settings : NavigationSettings)
    (templatePaths : List TemplatePath) : Prop where
  query : Selector.parse settings.query = .ok items.query
  fields : List.Forall₂ (fun entry field => NavField.IsOf field entry) settings.fields.entries
    items.fields
  template : ItemTemplate.parse settings.template = .ok items.template
  templatePaths : items.templatePaths = templatePaths
  protectedPaths : items.protectedPaths = settings.protectedPaths

/-- Settings without a fault can be built from: there is no navigation where there is no query,
and else one that is made of what the check has read. -/
theorem Navigation.compile_of_faults_eq_nil {settings : NavigationSettings}
    (h : settings.faults = []) (templatePaths : List TemplatePath) :
    (settings.query = "" ∧ compile settings templatePaths = .ok none) ∨
      ∃ items, compile settings templatePaths = .ok (some items) ∧
        items.IsOf settings templatePaths := by
  by_cases hempty : settings.query = ""
  · refine Or.inl ⟨hempty, ?_⟩
    rw [compile, hempty]
    rfl
  · rw [NavigationSettings.faults, if_neg hempty, List.append_eq_nil_iff,
      List.append_eq_nil_iff] at h
    obtain ⟨⟨hquery, hfields⟩, htemplate⟩ := h
    obtain ⟨query, hquery⟩ := NavigationSettings.faultOf_eq_nil_iff.mp hquery
    obtain ⟨template, htemplate⟩ := NavigationSettings.faultOf_eq_nil_iff.mp htemplate
    obtain ⟨fields, hmade, hfields⟩ := exists_mapM_eq_ok fun entry hentry =>
      NavField.exists_isOf_of_fieldFaults_eq_nil (List.flatMap_eq_nil_iff.mp hfields entry hentry)
    refine Or.inr
      ⟨{ query, fields, template, templatePaths, protectedPaths := settings.protectedPaths }, ?_,
        ⟨hquery, hfields, htemplate, rfl, rfl⟩⟩
    rw [compile, if_neg (Selector.ne_blank_of_parse hquery), hquery, hmade, htemplate]
    rfl

/-! ## The whole -/

/-- There is no site without a host. -/
theorem Site.exists_host_of_ofSettings {settings : SiteSettings} {site : Site}
    (h : ofSettings settings = .ok site) :
    ∃ address host, WebAddress.parse settings.address = .ok address ∧
      address.host = some host := by
  unfold ofSettings at h
  split at h
  · exact absurd h (by simp)
  · next address haddress =>
    split at h
    · exact absurd h (by simp)
    · next host hhost => exact ⟨address, host, haddress, hhost⟩

/-- The transformer is that of the kind, with the settings it is configured with. -/
def Transformer.IsOf (config : Config) (kind : TransformerKind) : Transformer → Prop
  | .modules settings => kind = .importmap ∧ settings = config.importMap
  | .mounting apps => kind = .apps ∧ apps = config.apps
  | .metadata separator settings =>
    kind = .metadata ∧ separator = config.site.pathSeparator ∧ settings = config.metadata
  | .navigation none => kind = .navigation ∧ config.navigation.query = ""
  | .navigation (some items) =>
    kind = .navigation ∧ items.IsOf config.navigation config.site.templatePaths

/-- Where the navigation has no faults, every kind of transformer can be made. -/
theorem Transformer.exists_isOf {config : Config} (h : config.navigation.faults = [])
    (kind : TransformerKind) :
    ∃ transformer, ofConfig config kind = .ok transformer ∧ transformer.IsOf config kind := by
  cases kind with
  | importmap => exact ⟨.modules config.importMap, rfl, rfl, rfl⟩
  | apps => exact ⟨.mounting config.apps, rfl, rfl, rfl⟩
  | metadata => exact ⟨.metadata config.site.pathSeparator config.metadata, rfl, rfl, rfl, rfl⟩
  | navigation =>
    rw [ofConfig]
    rcases Navigation.compile_of_faults_eq_nil h config.site.templatePaths with
      ⟨hempty, hnone⟩ | ⟨items, hsome, hitems⟩
    · rw [hnone]
      exact ⟨.navigation none, rfl, rfl, hempty⟩
    · rw [hsome]
      exact ⟨.navigation (some items), rfl, rfl, hitems⟩

/-- What requests are served by is there, and apps can be told apart by their aliases. -/
structure Config.Yields (config : Config) (site : Site) (chain : TransformerChain) : Prop where
  aliased : ∀ app ∈ config.apps, app.appAlias ≠ ""
  distinct : (config.apps.map (·.appAlias)).Nodup
  host : ∃ address host, WebAddress.parse config.site.address = .ok address ∧
    address.host = some host
  ofSettings : Site.ofSettings config.site = .ok site
  ofConfig : TransformerChain.ofConfig config = .ok chain
  transformers : List.Forall₂ (Transformer.IsOf config) config.transform.chain chain.transformers

/-- A configuration that is accepted has no fault, and its apps have the aliases that were given
out. -/
theorem Config.of_parse {text : String} {source : RandomWords} {config : Config}
    (h : parse text source = .ok config) :
    config.faults = [] ∧ ∃ apps, config.apps = App.assignAliases source apps := by
  unfold parse at h
  split at h
  · exact absurd h (by simp)
  · next read _ =>
    dsimp only at h
    split at h
    · next hfaults =>
      obtain rfl := Except.ok.inj h
      exact ⟨hfaults, read.apps, rfl⟩
    · exact absurd h (by simp)

/-- From every configuration that is accepted, a site and a chain of transformers can be built,
and all its apps have aliases, no two of them the same. -/
theorem Config.exists_yields_of_parse {text : String} {source : RandomWords} {config : Config}
    (h : parse text source = .ok config) : ∃ site chain, config.Yields site chain := by
  obtain ⟨hfaults, apps, happs⟩ := of_parse h
  rw [faults, List.append_eq_nil_iff, List.append_eq_nil_iff, List.append_eq_nil_iff,
    List.map_eq_nil_iff] at hfaults
  obtain ⟨⟨⟨hsite, hrepeated⟩, hnavigation⟩, -⟩ := hfaults
  obtain ⟨site, hofSettings, -⟩ := Site.exists_of_faults_eq_nil hsite
  have haliased : ∀ app ∈ config.apps, app.appAlias ≠ "" := by
    intro app hmem
    rw [happs] at hmem
    exact App.appAlias_ne_empty_of_mem_assignAliases hmem
  obtain ⟨transformers, hmade, htransformers⟩ :=
    exists_mapM_eq_ok fun kind (_ : kind ∈ config.transform.chain) =>
      Transformer.exists_isOf hnavigation kind
  refine ⟨site, ⟨transformers⟩, haliased, (App.nodup_of_faultsFrom_eq_nil haliased hrepeated).1,
    ?_, hofSettings, ?_, htransformers⟩
  · exact Site.exists_host_of_ofSettings hofSettings
  · rw [TransformerChain.ofConfig, hmade]
    rfl

/-- A configuration with an app that has no alias, and a navigation. -/
def Config.namelessText : String :=
  "[[apps]]\naddress = \"localhost:61345\"\nelement = \"app-one\"\npath = \"/one.js\"\n" ++
    "targets = [\x7b path = \"/one\" \x7d]\n[navigation]\nquery = \"nav > a\"\n" ++
    "template = \"<a>\x7b\x7blabel\x7d\x7d</a>\"\n" ++
    "[navigation.fields]\nlabel = \x7b query = \"\" \x7d\n"

/-- The same where nothing is random. -/
def Config.nameless : Config :=
  { apps :=
      [{ appAlias := "aaaa", address := "localhost:61345", element := "app-one",
         path := "/one.js", targets := [{ path := "/one" }] }]
    navigation :=
      { query := "nav > a", fields := .ofList [("label", {})],
        template := "<a>\x7b\x7blabel\x7d\x7d</a>" } }

/-- The configuration is read, its app gets an alias, and requests can be served. -/
theorem Config.exists_yields_nameless :
    Config.parse Config.namelessText {} = .ok Config.nameless ∧
      ∃ site chain, Config.nameless.Yields site chain := by
  have hparse : Config.parse Config.namelessText {} = .ok Config.nameless := by decide +kernel
  exact ⟨hparse, Config.exists_yields_of_parse hparse⟩

end ComposingProxy
