import ComposingProxy.Config.Validation
import Mathlib.Data.List.Forall2

/-!
# What is found wrong

The check of a configuration is a row of independent rules. `Config.Breaks` says for each of them,
without the check, when it is broken and what fault that is; a rule that holds for every row of a
list is one rule per row.

> `Config.faults_correspond`: the check finds a fault for every broken rule and nothing else, each
> once; so an accepted configuration is a valid one (`Config.IsValid`), and the faults of one
> section depend on that section alone.

The list of faults is taken apart as it is put together: a section at a time, and within a
section either one rule (`Reports.single`) or a scan of rows. What a scan remembers are the rows in
front, so that each row is judged by what precedes it (`Reports.scan`).
-/

namespace ComposingProxy

open Markup (Selector)

/-! ## Rows and their indices -/

section Rows

variable {α : Type} {rows : List α}

/-- What stands in front of a row are the rows of smaller indices. -/
theorem mem_front_iff {before rest : List α} (hrows : rows = before ++ rest) {row : α} :
    row ∈ before ↔ ∃ first < before.length, rows[first]? = some row := by
  rw [hrows, List.mem_iff_getElem?]
  constructor
  · rintro ⟨first, hfirst⟩
    have hlt := (List.getElem?_eq_some_iff.mp hfirst).1
    exact ⟨first, hlt, by rw [List.getElem?_append_left hlt, hfirst]⟩
  · rintro ⟨first, hlt, hfirst⟩
    rw [List.getElem?_append_left hlt] at hfirst
    exact ⟨first, hfirst⟩

/-- A relation of all rows to later ones is one between indices. -/
theorem pairwise_iff_getElem? {R : α → α → Prop} :
    rows.Pairwise R ↔ ∀ (first later : Nat) (a b : α), first < later → rows[first]? = some a →
      rows[later]? = some b → R a b := by
  rw [List.pairwise_iff_getElem]
  constructor
  · intro h first later a b hlt hfirst hlater
    obtain ⟨hbound, rfl⟩ := List.getElem?_eq_some_iff.mp hfirst
    obtain ⟨hbound', rfl⟩ := List.getElem?_eq_some_iff.mp hlater
    exact h first later hbound hbound' hlt
  · intro h first later hfirst hlater hlt
    exact h first later _ _ hlt (List.getElem?_eq_getElem hfirst) (List.getElem?_eq_getElem hlater)

end Rows

/-! ## Rules -/

/-- The places where a configuration may be wrong. -/
inductive Rule where
  | siteAddress
  | pathSeparator
  | templatePath (index : Nat)
  | app (index : Nat) (fault : AppFault)
  /-- The alias of an app is none of an app in front of it. -/
  | newAlias (index : Nat)
  | navigationQuery
  | navigationField (index : Nat)
  | navigationTemplate
  /-- A kind of transformer is none in front of it. -/
  | newTransformer (index : Nat)
  deriving DecidableEq, Repr

/-- What an app lacks that has a fault. -/
def App.Lacks (app : App) : AppFault → Prop
  | .noAddress => app.address = ""
  | .noElement => app.element = ""
  | .noPath => app.path = ""
  | .noTarget => app.targets = []
  | .targetWithoutPath => ∃ target ∈ app.targets, target.path = ""

/-- No two apps share an alias, unless it is empty. -/
def App.DistinctAliases (apps : List App) : Prop :=
  apps.Pairwise fun other app => app.appAlias ≠ "" → other.appAlias ≠ app.appAlias

namespace SiteSettings

/-- A separator is more than one character, from a slash to a slash. -/
def HasSeparator (settings : SiteSettings) : Prop :=
  1 < settings.pathSeparator.length ∧ Text.beginsWith '/' settings.pathSeparator = true ∧
    Text.endsIn '/' settings.pathSeparator = true

/-- The address has a fault. -/
inductive AddressBreaks (settings : SiteSettings) : AddressFault → Prop
  | malformed {cause : AddressError} (h : WebAddress.parse settings.address = .error cause) :
      AddressBreaks settings (.malformed cause)
  | scheme {address : WebAddress} (h : WebAddress.parse settings.address = .ok address)
      (hhttp : address.scheme ≠ "http") (hhttps : address.scheme ≠ "https") :
      AddressBreaks settings (.unsupportedScheme address.scheme)
  | host {address : WebAddress} (h : WebAddress.parse settings.address = .ok address)
      (hscheme : address.scheme = "http" ∨ address.scheme = "https")
      (hhost : address.host = none) : AddressBreaks settings .missingHost

end SiteSettings

/-- A rule is broken, with the fault that it is. -/
inductive Config.Breaks (config : Config) : Rule → ConfigFault → Prop
  | siteAddress {fault : AddressFault} (h : config.site.AddressBreaks fault) :
      Breaks config .siteAddress (.siteAddress config.site.address fault)
  | pathSeparator (h : ¬config.site.HasSeparator) :
      Breaks config .pathSeparator (.pathSeparator config.site.pathSeparator)
  | templatePath {index : Nat} {path : TemplatePath}
      (hpath : config.site.templatePaths[index]? = some path)
      (h : ¬(Text.beginsWith '/' path.href = true ∧ Text.beginsWith '/' path.template = true)) :
      Breaks config (.templatePath index) (.templatePath path.href)
  | app {index : Nat} {app : App} {fault : AppFault} (happ : config.apps[index]? = some app)
      (h : app.Lacks fault) : Breaks config (.app index fault) (.app index fault)
  | newAlias {index first : Nat} {app other : App} (happ : config.apps[index]? = some app)
      (hname : app.appAlias ≠ "") (hfirst : first < index)
      (hother : config.apps[first]? = some other) (h : other.appAlias = app.appAlias) :
      Breaks config (.newAlias index) (.repeatedAlias app.appAlias)
  | navigationQuery {cause : Markup.SelectorError} (hquery : config.navigation.query ≠ "")
      (h : Selector.parse config.navigation.query = .error cause) :
      Breaks config .navigationQuery (.navigation (.query cause))
  | navigationField {index : Nat} {name : String} {field : FieldQuery}
      {cause : Markup.SelectorError} (hquery : config.navigation.query ≠ "")
      (hfield : config.navigation.fields.entries[index]? = some (name, field))
      (hpath : field.query ≠ "") (h : Selector.parse field.query = .error cause) :
      Breaks config (.navigationField index) (.navigation (.field name cause))
  | navigationTemplate {cause : TemplateError} (hquery : config.navigation.query ≠ "")
      (h : ItemTemplate.parse config.navigation.template = .error cause) :
      Breaks config .navigationTemplate (.navigation (.template cause))
  | newTransformer {index first : Nat} {kind : TransformerKind}
      (hkind : config.transform.chain[index]? = some kind) (hfirst : first < index)
      (h : config.transform.chain[first]? = some kind) :
      Breaks config (.newTransformer index) (.repeatedTransformer kind)

/-- What a configuration has to be. -/
structure Config.IsValid (config : Config) : Prop where
  siteAddress : ∃ address host, WebAddress.parse config.site.address = .ok address ∧
    (address.scheme = "http" ∨ address.scheme = "https") ∧ address.host = some host
  pathSeparator : config.site.HasSeparator
  templatePaths : ∀ path ∈ config.site.templatePaths,
    Text.beginsWith '/' path.href = true ∧ Text.beginsWith '/' path.template = true
  apps : ∀ app ∈ config.apps, app.address ≠ "" ∧ app.element ≠ "" ∧ app.path ≠ "" ∧
    app.targets ≠ [] ∧ ∀ target ∈ app.targets, target.path ≠ ""
  aliases : App.DistinctAliases config.apps
  navigation : config.navigation.query ≠ "" →
    (∃ selector, Selector.parse config.navigation.query = .ok selector) ∧
      (∀ entry ∈ config.navigation.fields.entries, entry.2.query ≠ "" →
        ∃ selector, Selector.parse entry.2.query = .ok selector) ∧
      ∃ template, ItemTemplate.parse config.navigation.template = .ok template
  chain : config.transform.chain.Nodup

/-! ## Faults side by side with rules -/

/-- The faults are those of the broken rules among some, one for each. -/
def Reports (breaks : Rule → ConfigFault → Prop) (among : Rule → Prop)
    (faults : List ConfigFault) : Prop :=
  ∃ rules : List Rule, rules.Nodup ∧
    (∀ rule, rule ∈ rules ↔ among rule ∧ ∃ fault, breaks rule fault) ∧
    List.Forall₂ breaks rules faults

namespace Reports

variable {breaks : Rule → ConfigFault → Prop} {among other : Rule → Prop}
  {faults more : List ConfigFault}

/-- There is nothing to report where no rule is broken. -/
theorem nil (h : ∀ rule, among rule → ∀ fault, ¬breaks rule fault) :
    Reports breaks among [] := by
  refine ⟨[], List.nodup_nil, fun rule => ?_, .nil⟩
  refine ⟨fun hmem => absurd hmem List.not_mem_nil, ?_⟩
  rintro ⟨hamong, fault, hfault⟩
  exact absurd hfault (h rule hamong fault)

/-- One rule with at most one fault. -/
theorem single {rule : Rule} (hlength : faults.length ≤ 1)
    (h : ∀ fault, breaks rule fault ↔ fault ∈ faults) : Reports breaks (· = rule) faults := by
  match faults, hlength with
  | [], _ =>
    refine nil fun other hother fault hfault => ?_
    rw [hother, h] at hfault
    exact absurd hfault List.not_mem_nil
  | [fault], _ =>
    have hfault : breaks rule fault := (h fault).mpr List.mem_cons_self
    refine ⟨[rule], List.nodup_cons.mpr ⟨List.not_mem_nil, List.nodup_nil⟩, fun other => ?_,
      .cons hfault .nil⟩
    rw [List.mem_singleton]
    exact ⟨fun heq => ⟨heq, fault, heq ▸ hfault⟩, fun hother => hother.1⟩

/-- Faults of different rules are reported one after the other. -/
theorem append (h : Reports breaks among faults) (hmore : Reports breaks other more)
    (hdisjoint : ∀ rule, among rule → ¬other rule) :
    Reports breaks (fun rule => among rule ∨ other rule) (faults ++ more) := by
  obtain ⟨rules, hnodup, hrules, hfaults⟩ := h
  obtain ⟨rules', hnodup', hrules', hfaults'⟩ := hmore
  refine ⟨rules ++ rules', List.nodup_append.mpr ⟨hnodup, hnodup', ?_⟩, fun rule => ?_,
    List.rel_append hfaults hfaults'⟩
  · rintro rule hrule _ hrule' rfl
    exact hdisjoint rule ((hrules rule).mp hrule).1 ((hrules' rule).mp hrule').1
  · rw [List.mem_append, hrules, hrules', or_and_right]

/-- Rules that are not broken do not count. -/
theorem congr (h : Reports breaks among faults)
    (hrules : ∀ rule fault, breaks rule fault → (among rule ↔ other rule)) :
    Reports breaks other faults := by
  obtain ⟨rules, hnodup, hmem, hfaults⟩ := h
  refine ⟨rules, hnodup, fun rule => (hmem rule).trans (and_congr_left ?_), hfaults⟩
  rintro ⟨fault, hfault⟩
  exact hrules rule fault hfault

/-- A scan of rows reports the rules of all rows if each step reports those of its row, where
the rows in front are known to it. -/
theorem scan {α : Type} {rows : List α} (report : List α → List α → List ConfigFault)
    (ofRow : Nat → Rule → Prop) (hend : report rows [] = [])
    (hstep : ∀ before row rest, rows = before ++ row :: rest →
      ∃ piece, report before (row :: rest) = piece ++ report (before ++ [row]) rest ∧
        Reports breaks (ofRow before.length) piece)
    (hbeyond : ∀ index rule, rows.length ≤ index → ofRow index rule →
      ∀ fault, ¬breaks rule fault)
    (hdisjoint : ∀ index later rule, index < later → ofRow index rule → ¬ofRow later rule) :
    Reports breaks (fun rule => ∃ index, ofRow index rule) (report [] rows) := by
  -- the rows from any place on report the rules from that place on
  have hfrom : ∀ rest before, rows = before ++ rest →
      Reports breaks (fun rule => ∃ index, before.length ≤ index ∧ ofRow index rule)
        (report before rest) := by
    intro rest
    induction rest with
    | nil =>
      intro before hrows
      rw [List.append_nil] at hrows
      subst hrows
      rw [hend]
      refine nil fun rule hrule => ?_
      obtain ⟨index, hindex, hrule⟩ := hrule
      exact hbeyond index rule hindex hrule
    | cons row rest ih =>
      intro before hrows
      obtain ⟨piece, hreport, hpiece⟩ := hstep before row rest hrows
      have hrest := ih (before ++ [row]) (by rw [hrows, List.append_assoc, List.singleton_append])
      rw [List.length_append, List.length_singleton] at hrest
      rw [hreport]
      refine (hpiece.append hrest ?_).congr fun rule _ _ => ?_
      · rintro rule hrule ⟨later, hlater, hother⟩
        exact hdisjoint _ later rule (by omega) hrule hother
      · constructor
        · rintro (hrule | ⟨index, hindex, hrule⟩)
          · exact ⟨_, Nat.le_refl _, hrule⟩
          · exact ⟨index, by omega, hrule⟩
        · rintro ⟨index, hindex, hrule⟩
          rcases Nat.eq_or_lt_of_le hindex with rfl | hlt
          · exact .inl hrule
          · exact .inr ⟨index, hlt, hrule⟩
  refine (hfrom rows [] rfl).congr fun rule _ _ => ?_
  simp only [List.length_nil, Nat.zero_le, true_and]

/-- No faults are found exactly where no rule is broken. -/
theorem eq_nil_iff (h : Reports breaks among faults) :
    faults = [] ↔ ∀ rule, among rule → ∀ fault, ¬breaks rule fault := by
  obtain ⟨rules, -, hrules, hfaults⟩ := h
  constructor
  · rintro rfl rule hamong fault hfault
    rw [List.forall₂_nil_right_iff] at hfaults
    exact absurd ((hrules rule).mpr ⟨hamong, fault, hfault⟩) (hfaults ▸ List.not_mem_nil)
  · intro hnone
    cases hfaults with
    | nil => rfl
    | cons hfault _ =>
      exact absurd hfault (hnone _ ((hrules _).mp List.mem_cons_self).1 _)

/-- Every fault is that of a broken rule. -/
theorem exists_of_mem (h : Reports breaks among faults) {fault : ConfigFault}
    (hfault : fault ∈ faults) : ∃ rule, among rule ∧ breaks rule fault := by
  obtain ⟨rules, -, hrules, hfaults⟩ := h
  obtain ⟨index, hindex, rfl⟩ := List.mem_iff_getElem.mp hfault
  have hlength := hfaults.length_eq
  have hbreaks := hfaults.get (by omega) hindex
  exact ⟨_, ((hrules _).mp (List.get_mem rules _)).1, hbreaks⟩

end Reports

/-! ## The site -/

theorem length_faultIf_le {α : Type} (condition : Bool) (fault : α) :
    (faultIf condition fault).length ≤ 1 := by
  cases condition <;> simp [faultIf]

/-- A fault is listed just where its condition holds. -/
theorem mem_faultIf {α : Type} {condition : Bool} {fault other : α} :
    other ∈ faultIf condition fault ↔ condition = true ∧ other = fault := by
  cases condition <;> simp [faultIf]

namespace SiteSettings

variable {settings : SiteSettings}

/-- The fault that is found in an address is the one that it has. -/
theorem addressFault?_eq_some_iff {fault : AddressFault} :
    settings.addressFault? = some fault ↔ settings.AddressBreaks fault := by
  constructor
  · intro h
    unfold addressFault? at h
    split at h
    · next cause hparse => exact Option.some.inj h ▸ .malformed hparse
    next address hparse =>
    split at h
    · next hscheme => exact Option.some.inj h ▸ .scheme hparse hscheme.1 hscheme.2
    next hscheme =>
    split at h
    · next hhost =>
      refine Option.some.inj h ▸ .host hparse ?_ (Option.isNone_iff_eq_none.mp hhost)
      by_contra hother
      exact hscheme (not_or.mp hother)
    · exact absurd h (by simp)
  · rintro (hparse | ⟨hparse, hhttp, hhttps⟩ | ⟨hparse, hscheme, hhost⟩)
    · rw [addressFault?, hparse]
    · rw [addressFault?, hparse]
      exact if_pos ⟨hhttp, hhttps⟩
    · rw [addressFault?, hparse]
      dsimp only
      rw [if_neg fun hother => hscheme.elim hother.1 hother.2, hhost]
      rfl

/-- The test for a separator. -/
theorem isSeparator_iff : isSeparator settings.pathSeparator = true ↔ settings.HasSeparator := by
  unfold isSeparator HasSeparator
  rw [Bool.and_eq_true, Bool.and_eq_true, bne_iff_ne]
  constructor
  · rintro ⟨⟨hbegin, hend⟩, hne⟩
    refine ⟨?_, hbegin, hend⟩
    obtain ⟨rest, hrest⟩ := List.head?_eq_some_iff.mp (beq_iff_eq.mp hbegin)
    rw [← String.length_toList, hrest, List.length_cons]
    have hnil : rest ≠ [] := by
      rintro rfl
      exact hne (String.toList_inj.mp hrest)
    have hpos := List.length_pos_iff.mpr hnil
    omega
  · rintro ⟨hlength, hbegin, hend⟩
    refine ⟨⟨hbegin, hend⟩, ?_⟩
    intro heq
    rw [heq] at hlength
    exact absurd hlength (by decide)

end SiteSettings

namespace Config

variable (config : Config)

/-- The template paths that are not absolute are reported, each at its index. -/
theorem reports_templatePaths :
    Reports config.Breaks (fun rule => ∃ index, rule = .templatePath index)
      ((config.site.templatePaths.filter (!SiteSettings.isAbsolute ·)).map fun path =>
        .templatePath path.href) := by
  refine Reports.scan
    (fun _ rest => (rest.filter (!SiteSettings.isAbsolute ·)).map fun path =>
      .templatePath path.href)
    (fun index rule => rule = .templatePath index) rfl ?_ ?_ ?_
  · intro before path rest hrows
    have hpath : config.site.templatePaths[before.length]? = some path := by simp [hrows]
    refine ⟨faultIf (!SiteSettings.isAbsolute path) (.templatePath path.href), ?_,
      .single (length_faultIf_le _ _) fun fault => ?_⟩
    · cases habsolute : SiteSettings.isAbsolute path <;> simp [habsolute, faultIf]
    · rw [mem_faultIf, Bool.not_eq_true', SiteSettings.isAbsolute, ← Bool.not_eq_true,
        Bool.and_eq_true]
      constructor
      · intro hbreaks
        cases hbreaks with
        | templatePath hother h =>
          obtain rfl := Option.some.inj (hother.symm.trans hpath)
          exact ⟨h, rfl⟩
      · rintro ⟨h, rfl⟩
        exact .templatePath hpath h
  · rintro index rule hindex rfl fault hbreaks
    cases hbreaks with
    | templatePath hpath =>
      rw [List.getElem?_eq_none hindex] at hpath
      exact absurd hpath (by simp)
  · rintro index later rule hlater rfl heq
    exact absurd (Rule.templatePath.inj heq) (by omega)

/-- The section of the site reports its broken rules. -/
theorem reports_site :
    Reports config.Breaks
      (fun rule => (rule = .siteAddress ∨ rule = .pathSeparator) ∨
        ∃ index, rule = .templatePath index) config.site.faults := by
  have haddress : Reports config.Breaks (· = .siteAddress)
      (config.site.addressFault?.toList.map (.siteAddress config.site.address ·)) := by
    refine .single ?_ fun fault => ?_
    · rw [List.length_map]
      cases config.site.addressFault? <;> simp
    · rw [List.mem_map]
      simp only [Option.mem_toList, SiteSettings.addressFault?_eq_some_iff]
      constructor
      · intro hbreaks
        cases hbreaks with
        | siteAddress h => exact ⟨_, h, rfl⟩
      · rintro ⟨fault, h, rfl⟩
        exact .siteAddress h
  have hseparator : Reports config.Breaks (· = .pathSeparator)
      (faultIf (!SiteSettings.isSeparator config.site.pathSeparator)
        (.pathSeparator config.site.pathSeparator)) := by
    refine .single (length_faultIf_le _ _) fun fault => ?_
    rw [mem_faultIf, Bool.not_eq_true', ← Bool.not_eq_true, SiteSettings.isSeparator_iff]
    constructor
    · intro hbreaks
      cases hbreaks with
      | pathSeparator h => exact ⟨h, rfl⟩
    · rintro ⟨h, rfl⟩
      exact .pathSeparator h
  refine (haddress.append hseparator ?_).append config.reports_templatePaths ?_
  · rintro rule rfl
    simp
  · rintro rule (rfl | rfl) <;> simp

end Config

/-! ## Apps -/

/-- The faults of an app are what it lacks. -/
theorem App.mem_faults {app : App} {fault : AppFault} : fault ∈ app.faults ↔ app.Lacks fault := by
  cases fault <;> simp [App.faults, App.Lacks, mem_faultIf]

/-- Whatever an app lacks, it lacks once. -/
theorem App.nodup_faults (app : App) : app.faults.Nodup := by
  have hsublist (condition : Bool) (fault : AppFault) :
      (faultIf condition fault).Sublist [fault] := by
    cases condition with
    | true => exact .refl _
    | false => exact List.nil_sublist _
  have hall : app.faults.Sublist
      [.noAddress, .noElement, .noPath, .noTarget, .targetWithoutPath] :=
    ((((hsublist _ _).append (hsublist _ _)).append (hsublist _ _)).append (hsublist _ _)).append
      (hsublist _ _)
  exact hall.nodup (by decide)

namespace Config

variable (config : Config)

/-- The rules for an app: what it may lack, and that its alias is new. -/
def IsAppRule (index : Nat) (rule : Rule) : Prop :=
  (∃ fault, rule = .app index fault) ∨ rule = .newAlias index

/-- What an app lacks is reported at its index. -/
theorem reports_app {index : Nat} {app : App} (happ : config.apps[index]? = some app) :
    Reports config.Breaks (fun rule => ∃ fault, rule = .app index fault)
      (app.faults.map (.app index ·)) := by
  refine ⟨app.faults.map (.app index ·), ?_, fun rule => ?_, ?_⟩
  · exact List.Pairwise.map _ (fun _ _ hne heq => hne (Rule.app.inj heq).2) (App.nodup_faults app)
  · rw [List.mem_map]
    constructor
    · rintro ⟨fault, hfault, rfl⟩
      exact ⟨⟨fault, rfl⟩, _, .app happ (App.mem_faults.mp hfault)⟩
    · rintro ⟨⟨fault, rfl⟩, _, hbreaks⟩
      cases hbreaks with
      | app hother h =>
        obtain rfl := Option.some.inj (hother.symm.trans happ)
        exact ⟨fault, App.mem_faults.mpr h, rfl⟩
  · rw [List.forall₂_map_left_iff, List.forall₂_map_right_iff, List.forall₂_same]
    exact fun fault hfault => .app happ (App.mem_faults.mp hfault)

/-- The section of the apps reports its broken rules, aliases that are not new among them. -/
theorem reports_apps :
    Reports config.Breaks (fun rule => ∃ index, IsAppRule index rule)
      (App.faultsFrom [] 0 config.apps) := by
  refine Reports.scan
    (fun before rest => App.faultsFrom (before.map (·.appAlias)).reverse before.length rest)
    IsAppRule rfl ?_ ?_ ?_
  · intro before app rest hrows
    have happ : config.apps[before.length]? = some app := by simp [hrows]
    -- the aliases in front are remembered in a list, newest first
    have halias : Reports config.Breaks (· = .newAlias before.length)
        (faultIf (app.appAlias != "" && (before.map (·.appAlias)).reverse.elem app.appAlias)
          (.repeatedAlias app.appAlias)) := by
      refine .single (length_faultIf_le _ _) fun fault => ?_
      rw [mem_faultIf, Bool.and_eq_true, bne_iff_ne, List.elem_iff, List.mem_reverse, List.mem_map]
      constructor
      · intro hbreaks
        cases hbreaks with
        | newAlias hsame hname hfirst hother h =>
          obtain rfl := Option.some.inj (hsame.symm.trans happ)
          exact ⟨⟨hname, _, (mem_front_iff hrows).mpr ⟨_, hfirst, hother⟩, h⟩, rfl⟩
      · rintro ⟨⟨hname, other, hmem, h⟩, rfl⟩
        obtain ⟨first, hfirst, hother⟩ := (mem_front_iff hrows).mp hmem
        exact .newAlias happ hname hfirst hother h
    refine ⟨_, ?_, (config.reports_app happ).append halias ?_⟩
    · simp [App.faultsFrom]
    · rintro rule ⟨fault, rfl⟩
      simp
  · rintro index rule hindex hrule fault hbreaks
    -- behind the last app there is nothing to break a rule
    have hnone := List.getElem?_eq_none hindex
    rcases hrule with ⟨fault, rfl⟩ | rfl
    · cases hbreaks with
      | app happ => exact absurd (hnone.symm.trans happ) (by simp)
    · cases hbreaks with
      | newAlias happ => exact absurd (hnone.symm.trans happ) (by simp)
  · rintro index later rule hlater hrule hother
    rcases hrule with ⟨fault, rfl⟩ | rfl <;> rcases hother with ⟨fault', heq⟩ | heq
    · exact absurd (Rule.app.inj heq).1 (by omega)
    · exact absurd heq (by simp)
    · exact absurd heq (by simp)
    · exact absurd (Rule.newAlias.inj heq) (by omega)

/-! ## Navigation -/

/-- A text that cannot be read is a fault, and its cause is reported. -/
theorem mem_faultOf {ε α β : Type} {fault : ε → β} {outcome : Except ε α} {other : β} :
    other ∈ NavigationSettings.faultOf fault outcome ↔
      ∃ cause, outcome = .error cause ∧ other = fault cause := by
  cases outcome <;> simp [NavigationSettings.faultOf]

theorem length_faultOf_le {ε α β : Type} (fault : ε → β) (outcome : Except ε α) :
    (NavigationSettings.faultOf fault outcome).length ≤ 1 := by
  cases outcome <;> simp [NavigationSettings.faultOf]

/-- A text that has to be readable is one rule. -/
theorem reports_faultOf {ε α : Type} {rule : Rule} {fault : ε → NavigationFault}
    {outcome : Except ε α}
    (h : ∀ other, config.Breaks rule other ↔
      ∃ cause, outcome = .error cause ∧ other = .navigation (fault cause)) :
    Reports config.Breaks (· = rule)
      ((NavigationSettings.faultOf fault outcome).map .navigation) := by
  refine .single ?_ fun other => (h other).trans ?_
  · rw [List.length_map]
    exact length_faultOf_le fault outcome
  · rw [List.mem_map]
    constructor
    · rintro ⟨cause, hcause, rfl⟩
      exact ⟨_, mem_faultOf.mpr ⟨cause, hcause, rfl⟩, rfl⟩
    · rintro ⟨other, hother, rfl⟩
      obtain ⟨cause, hcause, rfl⟩ := mem_faultOf.mp hother
      exact ⟨cause, hcause, rfl⟩

/-- Queries of fields that cannot be read are reported, each at its index. -/
theorem reports_fields (hquery : config.navigation.query ≠ "") :
    Reports config.Breaks (fun rule => ∃ index, rule = .navigationField index)
      ((config.navigation.fields.entries.flatMap NavigationSettings.fieldFaults).map
        .navigation) := by
  refine Reports.scan
    (fun _ rest => (rest.flatMap NavigationSettings.fieldFaults).map .navigation)
    (fun index rule => rule = .navigationField index) rfl ?_ ?_ ?_
  · rintro before ⟨name, field⟩ rest hrows
    have hentry : config.navigation.fields.entries[before.length]? = some (name, field) := by
      simp [hrows]
    refine ⟨_, by rw [List.flatMap_cons, List.map_append], ?_⟩
    rw [NavigationSettings.fieldFaults]
    split
    · -- an empty query is the item itself
      next hempty =>
      refine .nil ?_
      rintro rule rfl fault hbreaks
      cases hbreaks with
      | navigationField _ hother hpath =>
        obtain ⟨rfl, rfl⟩ := Prod.mk.inj (Option.some.inj (hother.symm.trans hentry))
        exact hpath hempty
    · next hpath =>
      refine config.reports_faultOf fun fault => ⟨fun hbreaks => ?_, ?_⟩
      · cases hbreaks with
        | navigationField _ hother _ h =>
          obtain ⟨rfl, rfl⟩ := Prod.mk.inj (Option.some.inj (hother.symm.trans hentry))
          exact ⟨_, h, rfl⟩
      · rintro ⟨cause, h, rfl⟩
        exact .navigationField hquery hentry hpath h
  · rintro index rule hindex rfl fault hbreaks
    cases hbreaks with
    | navigationField _ hentry =>
      rw [List.getElem?_eq_none hindex] at hentry
      exact absurd hentry (by simp)
  · rintro index later rule hlater rfl heq
    exact absurd (Rule.navigationField.inj heq) (by omega)

theorem reports_navigation :
    Reports config.Breaks
      (fun rule => (rule = .navigationQuery ∨ ∃ index, rule = .navigationField index) ∨
        rule = .navigationTemplate) (config.navigation.faults.map .navigation) := by
  rw [NavigationSettings.faults]
  split
  · -- without query, nothing about the navigation is a rule
    next hquery =>
    refine .nil fun rule hrule fault hbreaks => ?_
    rcases hrule with (rfl | ⟨index, rfl⟩) | rfl <;> cases hbreaks <;> contradiction
  next hquery =>
  have hselector : Reports config.Breaks (· = .navigationQuery)
      ((NavigationSettings.faultOf .query (Selector.parse config.navigation.query)).map
        .navigation) := by
    refine config.reports_faultOf fun fault => ⟨fun hbreaks => ?_, ?_⟩
    · cases hbreaks with
      | navigationQuery _ h => exact ⟨_, h, rfl⟩
    · rintro ⟨cause, h, rfl⟩
      exact .navigationQuery hquery h
  have htemplate : Reports config.Breaks (· = .navigationTemplate)
      ((NavigationSettings.faultOf .template
        (ItemTemplate.parse config.navigation.template)).map .navigation) := by
    refine config.reports_faultOf fun fault => ⟨fun hbreaks => ?_, ?_⟩
    · cases hbreaks with
      | navigationTemplate _ h => exact ⟨_, h, rfl⟩
    · rintro ⟨cause, h, rfl⟩
      exact .navigationTemplate hquery h
  rw [List.map_append, List.map_append]
  refine (hselector.append (config.reports_fields hquery) ?_).append htemplate ?_
  · rintro rule rfl
    simp
  · rintro rule (rfl | ⟨index, rfl⟩) <;> simp

/-! ## Transformers -/

/-- A transformer that is named again is reported. -/
theorem reports_chain :
    Reports config.Breaks (fun rule => ∃ index, rule = .newTransformer index)
      ((TransformerKind.repeated [] config.transform.chain).map .repeatedTransformer) := by
  refine Reports.scan
    (fun before rest => (TransformerKind.repeated before.reverse rest).map .repeatedTransformer)
    (fun index rule => rule = .newTransformer index) rfl ?_ ?_ ?_
  · intro before kind rest hrows
    have hkind : config.transform.chain[before.length]? = some kind := by simp [hrows]
    refine ⟨faultIf (before.reverse.elem kind) (.repeatedTransformer kind), ?_,
      .single (length_faultIf_le _ _) fun fault => ?_⟩
    · simp only [TransformerKind.repeated, faultIf, List.map_append, List.reverse_append,
        List.reverse_singleton, List.singleton_append, apply_ite (List.map _), List.map_singleton,
        List.map_nil]
    · rw [mem_faultIf, List.elem_iff, List.mem_reverse, mem_front_iff hrows]
      constructor
      · intro hbreaks
        cases hbreaks with
        | newTransformer hsame hfirst h =>
          obtain rfl := Option.some.inj (hsame.symm.trans hkind)
          exact ⟨⟨_, hfirst, h⟩, rfl⟩
      · rintro ⟨⟨first, hfirst, h⟩, rfl⟩
        exact .newTransformer hkind hfirst h
  · rintro index rule hindex rfl fault hbreaks
    cases hbreaks with
    | newTransformer hkind =>
      rw [List.getElem?_eq_none hindex] at hkind
      exact absurd hkind (by simp)
  · rintro index later rule hlater rfl heq
    exact absurd (Rule.newTransformer.inj heq) (by omega)

/-! ## The whole -/

/-- The check finds a fault for every broken rule. -/
theorem reports_faults : Reports config.Breaks (fun _ => True) config.faults := by
  refine (((config.reports_site.append config.reports_apps ?_).append
    config.reports_navigation ?_).append config.reports_chain ?_).congr ?_
  all_goals
    intro rule
    cases rule <;> simp [IsAppRule]

/-- There are no faults just if no rule is broken. -/
theorem faults_eq_nil_iff_not_breaks :
    config.faults = [] ↔ ∀ rule fault, ¬config.Breaks rule fault := by
  rw [config.reports_faults.eq_nil_iff]
  simp only [true_imp_iff]

variable {config}

/-- A valid configuration breaks no rule. -/
theorem IsValid.not_breaks (hvalid : config.IsValid) (rule : Rule) (fault : ConfigFault) :
    ¬config.Breaks rule fault := by
  intro hbreaks
  cases hbreaks with
  | siteAddress h =>
    obtain ⟨address, host, hparse, hscheme, hhost⟩ := hvalid.siteAddress
    cases h with
    | malformed h => exact absurd (h.symm.trans hparse) (by simp)
    | scheme h hhttp hhttps =>
      obtain rfl := Except.ok.inj (h.symm.trans hparse)
      exact hscheme.elim hhttp hhttps
    | host h _ hnone =>
      obtain rfl := Except.ok.inj (h.symm.trans hparse)
      exact absurd (hnone.symm.trans hhost) (by simp)
  | pathSeparator h => exact h hvalid.pathSeparator
  | templatePath hpath h => exact h (hvalid.templatePaths _ (List.mem_of_getElem? hpath))
  | @app index app fault happ h =>
    obtain ⟨haddress, helement, hpath, htargets, htarget⟩ :=
      hvalid.apps app (List.mem_of_getElem? happ)
    cases fault with
    | noAddress => exact haddress h
    | noElement => exact helement h
    | noPath => exact hpath h
    | noTarget => exact htargets h
    | targetWithoutPath =>
      obtain ⟨target, hmem, hempty⟩ := h
      exact htarget target hmem hempty
  | newAlias happ hname hfirst hother h =>
    exact pairwise_iff_getElem?.mp hvalid.aliases _ _ _ _ hfirst hother happ hname h
  | navigationQuery hquery h =>
    obtain ⟨⟨selector, hparse⟩, -⟩ := hvalid.navigation hquery
    exact absurd (h.symm.trans hparse) (by simp)
  | navigationField hquery hfield hpath h =>
    obtain ⟨-, hfields, -⟩ := hvalid.navigation hquery
    obtain ⟨selector, hparse⟩ := hfields _ (List.mem_of_getElem? hfield) hpath
    exact absurd (h.symm.trans hparse) (by simp)
  | navigationTemplate hquery h =>
    obtain ⟨-, -, template, hparse⟩ := hvalid.navigation hquery
    exact absurd (h.symm.trans hparse) (by simp)
  | newTransformer hkind hfirst h =>
    exact pairwise_iff_getElem?.mp hvalid.chain _ _ _ _ hfirst h hkind rfl

/-- A configuration that breaks no rule is valid. -/
theorem isValid_of_not_breaks (h : ∀ rule fault, ¬config.Breaks rule fault) : config.IsValid where
  siteAddress := by
    cases hparse : WebAddress.parse config.site.address with
    | error cause => exact absurd (.siteAddress (.malformed hparse)) (h _ _)
    | ok address =>
      -- the faults of an address exclude each other, so they are gone through in turn
      have hscheme : address.scheme = "http" ∨ address.scheme = "https" := by
        by_contra hother
        rw [not_or] at hother
        exact h _ _ (.siteAddress (.scheme hparse hother.1 hother.2))
      have hhost : address.host ≠ none := fun hnone =>
        h _ _ (.siteAddress (.host hparse hscheme hnone))
      obtain ⟨host, hhost⟩ := Option.ne_none_iff_exists'.mp hhost
      exact ⟨address, host, rfl, hscheme, hhost⟩
  pathSeparator := by
    by_contra hseparator
    exact h _ _ (.pathSeparator hseparator)
  templatePaths := by
    intro path hmem
    by_contra hbad
    obtain ⟨index, hpath⟩ := List.mem_iff_getElem?.mp hmem
    exact h _ _ (.templatePath hpath hbad)
  apps := by
    intro app hmem
    obtain ⟨index, happ⟩ := List.mem_iff_getElem?.mp hmem
    have hlacks (fault : AppFault) : ¬app.Lacks fault := fun hfault => h _ _ (.app happ hfault)
    exact ⟨hlacks .noAddress, hlacks .noElement, hlacks .noPath, hlacks .noTarget,
      fun target htarget hempty => hlacks .targetWithoutPath ⟨target, htarget, hempty⟩⟩
  aliases := pairwise_iff_getElem?.mpr fun _ _ _ _ hfirst hother happ hname heq =>
    h _ _ (.newAlias happ hname hfirst hother heq)
  navigation := by
    intro hquery
    refine ⟨?_, fun entry hmem hpath => ?_, ?_⟩
    · cases hparse : Selector.parse config.navigation.query with
      | ok selector => exact ⟨selector, rfl⟩
      | error cause => exact absurd (.navigationQuery hquery hparse) (h _ _)
    · obtain ⟨index, hfield⟩ := List.mem_iff_getElem?.mp hmem
      cases hparse : Selector.parse entry.2.query with
      | ok selector => exact ⟨selector, rfl⟩
      | error cause => exact absurd (.navigationField hquery hfield hpath hparse) (h _ _)
    · cases hparse : ItemTemplate.parse config.navigation.template with
      | ok template => exact ⟨template, rfl⟩
      | error cause => exact absurd (.navigationTemplate hquery hparse) (h _ _)
  chain := pairwise_iff_getElem?.mpr fun _ _ _ _ hfirst hother hkind heq =>
    h _ _ (.newTransformer hkind hfirst (heq ▸ hother))

/-- A configuration without faults is a valid one. -/
theorem faults_eq_nil_iff : config.faults = [] ↔ config.IsValid := by
  rw [faults_eq_nil_iff_not_breaks]
  exact ⟨isValid_of_not_breaks, fun hvalid => hvalid.not_breaks⟩

end Config

/-! ## Sections -/

/-- The sections of a configuration that are checked. -/
inductive Section where
  | site
  | apps
  | navigation
  | transform
  deriving DecidableEq, Repr

/-- The section that a fault is in. -/
def ConfigFault.inSection : ConfigFault → Section
  | .siteAddress .. | .pathSeparator _ | .templatePath _ => .site
  | .app .. | .repeatedAlias _ => .apps
  | .navigation _ => .navigation
  | .repeatedTransformer _ => .transform

namespace Config

/-- Two configurations say the same in a section. -/
def Agrees (config other : Config) : Section → Prop
  | .site => config.site = other.site
  | .apps => config.apps = other.apps
  | .navigation => config.navigation = other.navigation
  | .transform => config.transform = other.transform

/-- The faults that are in a section. -/
def faultsIn (config : Config) (part : Section) : List ConfigFault :=
  config.faults.filter (·.inSection = part)

/-- The faults of a section are the ones that are in it, and those of another are not. -/
theorem filter_inSection {faults : List ConfigFault} {own : Section} (part : Section)
    (h : ∀ fault ∈ faults, fault.inSection = own) :
    faults.filter (·.inSection = part) = if own = part then faults else [] := by
  split
  · next heq =>
    exact List.filter_eq_self.mpr fun fault hmem => decide_eq_true ((h fault hmem).trans heq)
  · next hne =>
    refine List.filter_eq_nil_iff.mpr fun fault hmem => ?_
    rw [h fault hmem, decide_eq_true_eq]
    exact hne

/-- The faults of a section are found in that section. -/
theorem faultsIn_eq (config : Config) (part : Section) :
    config.faultsIn part =
      match part with
      | .site => config.site.faults
      | .apps => App.faultsFrom [] 0 config.apps
      | .navigation => config.navigation.faults.map .navigation
      | .transform => (TransformerKind.repeated [] config.transform.chain).map
          .repeatedTransformer := by
  have hsite : ∀ fault ∈ config.site.faults, fault.inSection = .site := by
    intro fault hmem
    obtain ⟨rule, (rfl | rfl) | ⟨index, rfl⟩, hbreaks⟩ := config.reports_site.exists_of_mem hmem <;>
      cases hbreaks <;> rfl
  have happs : ∀ fault ∈ App.faultsFrom [] 0 config.apps, fault.inSection = .apps := by
    intro fault hmem
    obtain ⟨rule, ⟨index, ⟨lack, rfl⟩ | rfl⟩, hbreaks⟩ := config.reports_apps.exists_of_mem hmem <;>
      cases hbreaks <;> rfl
  have hnavigation : ∀ fault ∈ config.navigation.faults.map ConfigFault.navigation,
      fault.inSection = .navigation :=
    List.forall_mem_map.mpr fun _ _ => rfl
  have hchain : ∀ fault ∈ (TransformerKind.repeated [] config.transform.chain).map
      ConfigFault.repeatedTransformer, fault.inSection = .transform :=
    List.forall_mem_map.mpr fun _ _ => rfl
  rw [faultsIn, faults, List.filter_append, List.filter_append, List.filter_append,
    filter_inSection part hsite, filter_inSection part happs, filter_inSection part hnavigation,
    filter_inSection part hchain]
  cases part <;> simp

/-- A section has the same faults wherever it stands. -/
theorem faultsIn_congr {config other : Config} {part : Section} (h : config.Agrees other part) :
    config.faultsIn part = other.faultsIn part := by
  rw [faultsIn_eq, faultsIn_eq]
  cases part with
  | site => exact congrArg SiteSettings.faults h
  | apps => exact congrArg (App.faultsFrom [] 0) h
  | navigation =>
    exact congrArg (fun (settings : NavigationSettings) =>
      settings.faults.map ConfigFault.navigation) h
  | transform =>
    exact congrArg (fun (settings : TransformSettings) =>
      (TransformerKind.repeated [] settings.chain).map ConfigFault.repeatedTransformer) h

/-- A configuration is accepted exactly if it is valid. What is found wrong are the broken rules,
one fault for each of them, and what is found in a section is the same whatever stands in the
others. -/
theorem faults_correspond (config : Config) :
    (config.faults = [] ↔ config.IsValid) ∧
      (∃ rules : List Rule, rules.Nodup ∧
        (∀ rule, rule ∈ rules ↔ ∃ fault, config.Breaks rule fault) ∧
        List.Forall₂ config.Breaks rules config.faults) ∧
      ∀ (part : Section) (other : Config), config.Agrees other part →
        config.faultsIn part = other.faultsIn part := by
  obtain ⟨rules, hnodup, hrules, hfaults⟩ := config.reports_faults
  refine ⟨faults_eq_nil_iff, ⟨rules, hnodup, fun rule => ?_, hfaults⟩,
    fun part other => faultsIn_congr⟩
  rw [hrules, true_and]

/-- A configuration in which every section has a fault. -/
def crooked : Config :=
  { site :=
      { address := "ftp://site.test", pathSeparator := "/"
        templatePaths :=
          [{ href := "/docs", label := "Docs", template := "/pages" },
           { href := "blog", label := "Blog", template := "blog" }] }
    apps :=
      [{ appAlias := "a", address := "", element := "app-one", path := "/one.js", targets := [] },
       { appAlias := "a", address := "localhost:61346", element := "app-two", path := "/two.js",
         targets := [{ path := "/two" }, { path := "" }] },
       { appAlias := "a", address := "localhost:61347", element := "app-three",
         path := "/three.js", targets := [{ path := "/three" }] }]
    navigation := { query := "nav li[", template := "<li>" }
    transform := { chain := [.metadata, .apps, .metadata, .metadata] } }

/-- All that is wrong is found, as often as it is there; and with another site and no navigation,
the same is found wrong with the apps. -/
theorem faults_correspond_crooked :
    crooked.faults =
        [.siteAddress "ftp://site.test" (.unsupportedScheme "ftp"), .pathSeparator "/",
         .templatePath "blog", .app 0 .noAddress, .app 0 .noTarget, .app 1 .targetWithoutPath,
         .repeatedAlias "a", .repeatedAlias "a", .navigation (.query .unterminatedAttribute),
         .repeatedTransformer .metadata, .repeatedTransformer .metadata] ∧
      ¬crooked.IsValid ∧
      { apps := crooked.apps : Config }.faults =
        [.app 0 .noAddress, .app 0 .noTarget, .app 1 .targetWithoutPath, .repeatedAlias "a",
         .repeatedAlias "a"] ∧
      crooked.faultsIn .apps = { apps := crooked.apps : Config }.faultsIn .apps := by
  obtain ⟨hvalid, -, hsections⟩ := faults_correspond crooked
  have hfaults : crooked.faults ≠ [] := by decide +kernel
  refine ⟨by decide +kernel, fun h => hfaults (hvalid.mpr h), by decide +kernel,
    hsections .apps { apps := crooked.apps } rfl⟩

end Config

end ComposingProxy
