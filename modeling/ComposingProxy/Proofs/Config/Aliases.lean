import ComposingProxy.Proofs.Config.Faults
import ComposingProxy.Proofs.Config.Pipeline

/-!
# Aliases that are given out

Apps without alias take random ones, one after another, before the configuration is checked. The
aliases are drawn from the source of random words and from nothing else: neither those of the
other apps nor those drawn before are looked at. So what comes of it is known up to the luck of the
draw:

> `Config.assigned_aliases`: the apps that have an alias stay as they are, and the others take the
> drawn ones (`App.Named`), each four small letters or digits. The aliases are distinct exactly if
> the drawn ones are, among each other and from those that were there (`App.AreNew`), and only then
> an otherwise valid configuration is still accepted.
-/

namespace ComposingProxy

namespace App

/-! ## Drawing -/

/-- Aliases drawn one after another. -/
def draw : Nat → RandomWords → List String
  | 0, _ => []
  | amount + 1, source => (randomAlias source).1 :: draw amount (randomAlias source).2

/-- A generated alias is of the alphabet. -/
theorem mem_aliasAlphabet_of_mem_randomAlias {source : RandomWords} {c : Char}
    (h : c ∈ (randomAlias source).1.toList) : c ∈ aliasAlphabet := by
  have hpicked (n : Nat) : aliasAlphabet.getD n 'a' ∈ aliasAlphabet := by
    rw [List.getD_eq_getElem?_getD]
    cases hc : aliasAlphabet[n]? with
    | none => decide
    | some c => exact List.mem_of_getElem? hc
  unfold randomAlias at h
  rw [String.toList_ofList, List.mem_map] at h
  obtain ⟨n, -, rfl⟩ := h
  exact hpicked n

/-- Every drawn alias has the length of an alias and is of the alphabet. -/
theorem form_of_mem_draw {amount : Nat} {source : RandomWords} {name : String}
    (h : name ∈ draw amount source) :
    name.toList.length = aliasLength ∧ ∀ c ∈ name.toList, c ∈ aliasAlphabet := by
  induction amount generalizing source with
  | zero => exact absurd h List.not_mem_nil
  | succ amount ih =>
    rcases List.mem_cons.mp h with rfl | hlater
    · exact ⟨length_randomAlias source, fun c => mem_aliasAlphabet_of_mem_randomAlias⟩
    · exact ih hlater

/-! ## Taking aliases -/

/-- What apps become when those without alias take the names of a list, one after another. -/
inductive Named : List App → List String → List App → Prop
  | nil : Named [] [] []
  | keeps {app : App} {apps named : List App} {names : List String} (h : app.appAlias ≠ "")
      (hrest : Named apps names named) : Named (app :: apps) names (app :: named)
  | takes {app : App} {apps named : List App} {name : String} {names : List String}
      (h : app.appAlias = "") (hrest : Named apps names named) :
      Named (app :: apps) (name :: names) ({ app with appAlias := name } :: named)

/-- The number of apps without alias. -/
def nameless (apps : List App) : Nat := apps.countP (·.appAlias = "")

/-- Apps take the aliases that are drawn, and as many are drawn as there are apps without one. -/
theorem named_assignAliases (source : RandomWords) (apps : List App) :
    Named apps (draw (nameless apps) source) (assignAliases source apps) := by
  induction apps generalizing source with
  | nil => exact .nil
  | cons app apps ih =>
    rw [assignAliases, nameless, List.countP_cons]
    by_cases happ : app.appAlias = ""
    · rw [if_pos happ, if_pos (decide_eq_true happ)]
      exact .takes happ (ih _)
    · rw [if_neg happ, if_neg (by rwa [decide_eq_true_eq])]
      exact .keeps happ (ih source)

/-- None of the names is there twice or the alias of an app. -/
def AreNew (names : List String) (apps : List App) : Prop :=
  names.Nodup ∧ ∀ app ∈ apps, app.appAlias ∉ names

namespace Named

variable {apps named : List App} {names : List String}

/-- The names are taken and the aliases that were there are kept. -/
theorem perm (h : Named apps names named) :
    (named.map (·.appAlias)).Perm (names ++ (apps.map (·.appAlias)).filter (· ≠ "")) := by
  induction h with
  | nil => exact .nil
  | keeps happ _ ih =>
    rw [List.map_cons, List.map_cons, List.filter_cons_of_pos (by simpa using happ)]
    exact (ih.cons _).trans List.perm_middle.symm
  | takes happ _ ih =>
    rw [List.map_cons, List.map_cons, List.filter_cons_of_neg (by simp [happ])]
    exact ih.cons _

/-- An app is the one that was there or one that has taken a name. -/
theorem exists_of_getElem? (h : Named apps names named) {index : Nat} {app : App}
    (happ : named[index]? = some app) :
    ∃ old, apps[index]? = some old ∧ app = { old with appAlias := app.appAlias } ∧
      (app.appAlias = old.appAlias ∨ app.appAlias ∈ names) := by
  induction h generalizing index with
  | nil => exact absurd happ (by simp)
  | keeps _ _ ih =>
    cases index with
    | zero =>
      obtain rfl := Option.some.inj happ
      exact ⟨_, rfl, rfl, .inl rfl⟩
    | succ index => exact ih happ
  | takes _ _ ih =>
    cases index with
    | zero =>
      obtain rfl := Option.some.inj happ
      exact ⟨_, rfl, rfl, .inr List.mem_cons_self⟩
    | succ index =>
      obtain ⟨old, hold, happ, halias⟩ := ih happ
      exact ⟨old, hold, happ, halias.imp_right (List.mem_cons_of_mem _)⟩

end Named

/-- Distinct aliases are those that are there, without the empty ones. -/
theorem nodup_of_distinctAliases {apps : List App} (h : DistinctAliases apps) :
    ((apps.map (·.appAlias)).filter (· ≠ "")).Nodup := by
  rw [List.nodup_iff_pairwise_ne, List.pairwise_filter, List.pairwise_map]
  exact h.imp fun hne _ hname => hne (of_decide_eq_true hname)

/-- The aliases are distinct afterwards exactly if the names were new. -/
theorem Named.nodup_iff {apps named : List App} {names : List String} (h : Named apps names named)
    (hdistinct : DistinctAliases apps) (hnames : ∀ name ∈ names, name ≠ "") :
    (named.map (·.appAlias)).Nodup ↔ AreNew names apps := by
  rw [h.perm.nodup_iff, List.nodup_append, and_iff_right (nodup_of_distinctAliases hdistinct)]
  refine and_congr_right fun _ => ?_
  constructor
  · intro hnew app happ hname
    refine hnew _ hname _ ?_ rfl
    exact List.mem_filter.mpr ⟨List.mem_map_of_mem happ, decide_eq_true (hnames _ hname)⟩
  · rintro hnew name hname _ hold rfl
    obtain ⟨app, happ, rfl⟩ := List.mem_map.mp (List.mem_filter.mp hold).1
    exact hnew app happ hname

end App

/-! ## What is checked afterwards -/

namespace Config

/-- The aliases that are drawn for the apps of a configuration. -/
def drawnAliases (config : Config) (source : RandomWords) : List String :=
  App.draw (App.nameless config.apps) source

variable {config : Config}

/-- What is found wrong with an otherwise valid configuration afterwards are aliases that were drawn
and are there twice. -/
theorem exists_of_mem_faults_assigned (hvalid : config.faults = []) (source : RandomWords)
    {fault : ConfigFault} (h : fault ∈ (config.assignMissingAliases source).faults) :
    ∃ name ∈ config.drawnAliases source, fault = .repeatedAlias name ∧
      ¬((config.assignMissingAliases source).apps.map (·.appAlias)).Nodup := by
  have hnamed := App.named_assignAliases source config.apps
  have hnone := config.faults_eq_nil_iff_not_breaks.mp hvalid
  -- the other sections are as they were, and nothing was wrong with them
  have happs : fault.inSection = .apps := by
    by_contra hother
    have hagrees : (config.assignMissingAliases source).Agrees config fault.inSection := by
      cases hpart : fault.inSection with
      | apps => exact absurd hpart hother
      | _ => rfl
    have hmem : fault ∈ config.faultsIn fault.inSection := by
      rw [← faultsIn_congr hagrees]
      exact List.mem_filter.mpr ⟨h, decide_eq_true rfl⟩
    rw [faultsIn, hvalid] at hmem
    exact absurd hmem List.not_mem_nil
  obtain ⟨rule, -, hbreaks⟩ := (config.assignMissingAliases source).reports_faults.exists_of_mem h
  cases hbreaks with
  | @app index app lack happ hlacks =>
    -- nothing but the alias of the app is another one
    obtain ⟨old, hold, hsame, -⟩ := hnamed.exists_of_getElem? happ
    have holdLacks : old.Lacks lack := by
      rw [hsame] at hlacks
      cases lack <;> exact hlacks
    exact absurd (.app hold holdLacks) (hnone _ _)
  | @newAlias index first app other happ hname hfirst hother heq =>
    obtain ⟨old, hold, -, halias⟩ := hnamed.exists_of_getElem? happ
    obtain ⟨oldOther, holdOther, -, hotherAlias⟩ := hnamed.exists_of_getElem? hother
    refine ⟨app.appAlias, ?_, rfl, fun hnodup => ?_⟩
    · by_contra hgiven
      -- both were there before
      have hkept := halias.resolve_right hgiven
      rw [heq] at hotherAlias
      have hotherKept := hotherAlias.resolve_right hgiven
      exact hnone _ _ (.newAlias hold (hkept ▸ hname) hfirst holdOther
        (hotherKept.symm.trans hkept))
    · rw [List.nodup_iff_pairwise_ne, List.pairwise_map] at hnodup
      exact pairwise_iff_getElem?.mp hnodup _ _ _ _ hfirst hother happ heq
  | _ => exact absurd happs (by simp [ConfigFault.inSection])

/-- Apps that have an alias stay as they are and the others take the aliases that are drawn, each
four characters of the alphabet. Where the aliases that were there are distinct, all of them are
afterwards exactly if the drawn ones are new; and only then is a configuration still accepted that
had no fault, while otherwise all its faults are drawn aliases that are there twice. -/
theorem assigned_aliases (source : RandomWords) (hdistinct : App.DistinctAliases config.apps) :
    App.Named config.apps (config.drawnAliases source) (config.assignMissingAliases source).apps ∧
      (∀ name ∈ config.drawnAliases source,
        name.toList.length = 4 ∧ ∀ c ∈ name.toList, c ∈ App.aliasAlphabet) ∧
      (((config.assignMissingAliases source).apps.map (·.appAlias)).Nodup ↔
        App.AreNew (config.drawnAliases source) config.apps) ∧
      (config.faults = [] →
        ((config.assignMissingAliases source).faults = [] ↔
          App.AreNew (config.drawnAliases source) config.apps) ∧
        ∀ fault ∈ (config.assignMissingAliases source).faults,
          ∃ name ∈ config.drawnAliases source, fault = .repeatedAlias name) := by
  have hnamed := App.named_assignAliases source config.apps
  have hform : ∀ name ∈ config.drawnAliases source,
      name.toList.length = 4 ∧ ∀ c ∈ name.toList, c ∈ App.aliasAlphabet :=
    fun _ => App.form_of_mem_draw
  have hnames : ∀ name ∈ config.drawnAliases source, name ≠ "" := by
    rintro _ hname rfl
    exact absurd (hform _ hname).1 (by decide)
  have hnodup : ((config.assignMissingAliases source).apps.map (·.appAlias)).Nodup ↔
      App.AreNew (config.drawnAliases source) config.apps :=
    hnamed.nodup_iff hdistinct hnames
  refine ⟨hnamed, hform, hnodup, fun hvalid => ⟨?_, fun fault hfault => ?_⟩⟩
  · rw [← hnodup]
    constructor
    · intro hnone
      -- no alias is empty any more, so distinct aliases are all aliases
      have haliases := App.nodup_of_distinctAliases (faults_eq_nil_iff.mp hnone).aliases
      rwa [List.filter_eq_self.mpr] at haliases
      intro name hname
      obtain ⟨app, happ, rfl⟩ := List.mem_map.mp hname
      exact decide_eq_true (App.appAlias_ne_empty_of_mem_assignAliases happ)
    · intro hnew
      rw [List.eq_nil_iff_forall_not_mem]
      intro fault hfault
      obtain ⟨-, -, -, hrepeated⟩ := exists_of_mem_faults_assigned hvalid source hfault
      exact hrepeated hnew
  · obtain ⟨name, hname, hfault, -⟩ := exists_of_mem_faults_assigned hvalid source hfault
    exact ⟨name, hname, hfault⟩

/-! ### The luck of the draw -/

/-- Two apps without alias, and one that has its own. -/
def twins : Config :=
  { apps :=
      [{ address := "localhost:61345", element := "app-one", path := "/one.js",
         targets := [{ path := "/one" }] },
       { appAlias := "docs", address := "localhost:61346", element := "app-docs",
         path := "/docs.js", targets := [{ path := "/docs" }] },
       { address := "localhost:61347", element := "app-two", path := "/two.js",
         targets := [{ path := "/two" }] }] }

/-- Words that give two different aliases. -/
def luckyWords : RandomWords :=
  ⟨List.replicate 4 0 ++ List.replicate 4 768614336404564650⟩

/-- Two apps may lack an alias, and the third shares its own with none. -/
theorem distinctAliases_twins : App.DistinctAliases twins.apps := by
  unfold App.DistinctAliases
  decide

/-- New aliases are accepted, and the same alias twice is not. -/
theorem assigned_aliases_twins :
    App.DistinctAliases twins.apps ∧ twins.faults = [] ∧
      twins.drawnAliases luckyWords = ["aaaa", "bbbb"] ∧
      (twins.assignMissingAliases luckyWords).faults = [] ∧
      twins.drawnAliases {} = ["aaaa", "aaaa"] ∧
      (twins.assignMissingAliases {}).faults = [.repeatedAlias "aaaa"] ∧
      ¬((twins.assignMissingAliases {}).apps.map (·.appAlias)).Nodup := by
  have hvalid : twins.faults = [] := by decide +kernel
  have hlucky : twins.drawnAliases luckyWords = ["aaaa", "bbbb"] := by decide +kernel
  have hunlucky : twins.drawnAliases {} = ["aaaa", "aaaa"] := by decide +kernel
  obtain ⟨-, -, -, haccepted⟩ := assigned_aliases luckyWords distinctAliases_twins
  obtain ⟨-, -, hnodup, -⟩ := assigned_aliases {} distinctAliases_twins
  refine ⟨distinctAliases_twins, hvalid, hlucky, (haccepted hvalid).1.mpr ?_, hunlucky,
    by decide +kernel, fun h => ?_⟩
  · rw [hlucky]
    exact ⟨by decide, by decide⟩
  · have hnew := (hnodup.mp h).1
    rw [hunlucky] at hnew
    exact absurd hnew (by decide)

/-- Distinct aliases may get company that is not distinct, and a configuration without a fault is
then refused. -/
theorem not_always_distinct :
    ¬∀ (config : Config) (source : RandomWords), App.DistinctAliases config.apps →
      ((config.assignMissingAliases source).apps.map (·.appAlias)).Nodup ∧
        (config.faults = [] → ∀ name,
          .repeatedAlias name ∉ (config.assignMissingAliases source).faults) := by
  intro h
  refine absurd (h twins {} distinctAliases_twins).1 ?_
  decide +kernel

end Config

end ComposingProxy
