import ComposingProxy.Proofs.Http.Stamps
import ComposingProxy.Proofs.Routing.Token

/-!
# Whether a path names an app

An alias that is empty is to say that the path has no separator, and a path inside an app is to
come with an alias only (`TellsToken`). Reading takes the token apart at its first slash and does
not look at what it gets, so a token that is empty or begins with a slash (`IsNameless`) gives an
alias that is empty, as no token does:

> `RoutingContext.decode_tells_iff`: what is read tells of the token exactly where the token has a
> name. A nameless token that goes on behind its slash gives a path inside no app.

The two fields that name the app on the way to the site are set each for itself, so the one with
the path is sent alone in this case, and also where the alias cannot be sent.
-/

namespace ComposingProxy

namespace RoutingContext

/-- The path has a separator, and the token is what follows the first one. -/
def HasToken (separator path token : String) : Prop :=
  ∃ page, path = page ++ separator ++ token ∧
    ∀ before after, page ++ separator = before ++ separator ++ after → after = ""

/-- No alias is in front of the first slash of a token, or of its end. -/
def IsNameless (token : String) : Prop := token = "" ∨ ∃ rest, token = "/" ++ rest

/-- The alias is empty for a path without separator only, and comes with every path inside an
app. -/
structure TellsToken (separator path : String) (context : RoutingContext) : Prop where
  appAlias : context.appAlias = "" ↔ ¬∃ before after, path = before ++ separator ++ after
  subpath : context.subpath ≠ "" → context.appAlias ≠ ""

/-! ## Tokens without a name -/

/-- The token of a path is what is cut off behind the first separator. -/
theorem hasToken_iff {separator path token : String} :
    HasToken separator path token ↔ ∃ page, Text.cut? separator path = some (page, token) := by
  simp only [HasToken, Text.cut?_eq_some_iff]

/-- A token without a name is all path. -/
theorem cutToken_of_isNameless {token : String} (h : IsNameless token) :
    cutToken token = ("", token) := by
  refine cutToken_eq_iff.2 ⟨String.empty_append.symm, List.not_mem_nil, ?_⟩
  exact h

/-- A token has no name if the one that is cut off is empty. -/
theorem isNameless_iff {token : String} : IsNameless token ↔ (cutToken token).1 = "" := by
  constructor
  · intro h
    rw [cutToken_of_isNameless h]
  · intro h
    obtain ⟨name, sub, hparts⟩ : ∃ name sub, cutToken token = (name, sub) := ⟨_, _, rfl⟩
    obtain ⟨htoken, -, hsub⟩ := cutToken_eq_iff.1 hparts
    obtain rfl : name = "" := by rwa [hparts] at h
    rw [String.empty_append] at htoken
    exact htoken ▸ hsub

variable {separator path : String}

/-- What is read is empty but for the page if there is no separator, and else is what the token is
cut into. -/
theorem decode_cases (hseparator : separator ≠ "") (appendSlash : Bool) (path : String) :
    ((¬∃ before after, path = before ++ separator ++ after) ∧
      (∀ token, ¬HasToken separator path token) ∧
      decode separator appendSlash path = { proxiedPath := path }) ∨
    ∃ token, HasToken separator path token ∧
      (∃ before after, path = before ++ separator ++ after) ∧
      (∀ other, HasToken separator path other → other = token) ∧
      (decode separator appendSlash path).appAlias = (cutToken token).1 ∧
      (decode separator appendSlash path).subpath = (cutToken token).2 := by
  cases hcut : Text.cut? separator path with
  | none =>
    refine Or.inl ⟨fun hpath => ?_, fun token htoken => ?_, decode_of_cut?_eq_none hcut⟩
    · obtain ⟨before, after, hpath⟩ := hpath
      exact Text.cut?_eq_none_iff.1 hcut before after hpath
    · obtain ⟨page, hsome⟩ := hasToken_iff.1 htoken
      exact absurd (hcut.symm.trans hsome) (by simp)
  | some parts =>
    obtain ⟨page, token⟩ := parts
    refine Or.inr ⟨token, hasToken_iff.2 ⟨page, hcut⟩, ⟨page, token, ?_⟩, fun other hother => ?_,
      ?_, ?_⟩
    · exact (Text.cut?_eq_some_iff.1 hcut).1
    · obtain ⟨page', hsome⟩ := hasToken_iff.1 hother
      exact (Prod.mk.inj (Option.some.inj (hsome.symm.trans hcut))).2
    · rw [decode_of_cut? hseparator hcut]
    · rw [decode_of_cut? hseparator hcut]

/-- The alias is empty for a path without a token, and for one whose token has no name. -/
theorem appAlias_decode_eq_empty_iff (hseparator : separator ≠ "") (appendSlash : Bool) :
    (decode separator appendSlash path).appAlias = "" ↔
      ∀ token, HasToken separator path token → IsNameless token := by
  rcases decode_cases hseparator appendSlash path with ⟨-, hnone, heq⟩ | ⟨token, htoken, -, honly,
    halias, -⟩
  · rw [heq]
    exact ⟨fun _ token htoken => absurd htoken (hnone token), fun _ => rfl⟩
  · rw [halias, ← isNameless_iff]
    exact ⟨fun hnameless other hother => honly other hother ▸ hnameless,
      fun hall => hall token htoken⟩

/-- What is read tells whether there is a token just if no token is without a name. -/
theorem tellsToken_decode_iff (hseparator : separator ≠ "") (appendSlash : Bool) :
    (decode separator appendSlash path).TellsToken separator path ↔
      ∀ token, HasToken separator path token → ¬IsNameless token := by
  rcases decode_cases hseparator appendSlash path with ⟨hpath, hnone, heq⟩ | ⟨token, htoken, hpath,
    honly, halias, -⟩
  · rw [heq]
    exact ⟨fun _ token htoken => absurd htoken (hnone token), fun _ =>
      ⟨⟨fun _ => hpath, fun _ => rfl⟩, fun hsubpath => absurd rfl hsubpath⟩⟩
  · constructor
    · intro htells other hother hnameless
      rw [honly other hother, isNameless_iff, ← halias] at hnameless
      exact htells.appAlias.mp hnameless hpath
    · intro hnamed
      have hne : (decode separator appendSlash path).appAlias ≠ "" := fun hempty =>
        hnamed token htoken (isNameless_iff.2 (halias ▸ hempty))
      exact ⟨⟨fun hempty => absurd hempty hne, fun hnot => absurd hpath hnot⟩, fun _ => hne⟩

/-- A path inside no app is the whole token, slash and all. -/
theorem subpath_alone_iff (hseparator : separator ≠ "") (appendSlash : Bool) (rest : String) :
    (decode separator appendSlash path).appAlias = "" ∧
        (decode separator appendSlash path).subpath = "/" ++ rest ↔
      HasToken separator path ("/" ++ rest) := by
  have hslash : IsNameless ("/" ++ rest) := Or.inr ⟨rest, rfl⟩
  rcases decode_cases hseparator appendSlash path with ⟨-, hnone, heq⟩ | ⟨token, htoken, -, honly,
    halias, hsubpath⟩
  · rw [heq]
    exact ⟨fun h => absurd h.2 (by simp), fun h => absurd h (hnone _)⟩
  · rw [halias, hsubpath, ← isNameless_iff]
    constructor
    · rintro ⟨hnameless, hsub⟩
      rw [cutToken_of_isNameless hnameless] at hsub
      exact hsub ▸ htoken
    · intro h
      rw [← honly _ h, cutToken_of_isNameless hslash]
      exact ⟨hslash, rfl⟩

end RoutingContext

/-! ## The fields of the request -/

namespace Headers

/-- A value is not sent if it is empty or may not be in a field. -/
theorem sendable_eq_nil_iff {value : String} :
    sendable value = [] ↔ value = "" ∨ HeaderValue.isValid value = false := by
  unfold sendable
  split
  · next h => simp [h.1, h.2]
  · next h =>
    simp only [ne_eq, not_and, Bool.not_eq_true] at h
    exact ⟨fun _ => Decidable.or_iff_not_imp_left.mpr h, fun _ => rfl⟩

/-- The path inside an app is sent without the alias if it can be sent and the alias cannot. -/
theorem subpathField_alone_iff (headers : Headers) (routing : RoutingContext) :
    (headers.setRouting routing).values appSubpathField ≠ [] ∧
        (headers.setRouting routing).values appAliasField = [] ↔
      (routing.subpath ≠ "" ∧ HeaderValue.isValid routing.subpath = true) ∧
        (routing.appAlias = "" ∨ HeaderValue.isValid routing.appAlias = false) := by
  have hne : appSubpathField ≠ appAliasField := by decide
  rw [values_setRouting, values_setRouting, routingStamps]
  simp only [List.lookup_cons, beq_self_eq_true, beq_false_of_ne hne, Option.getD_some, ne_eq,
    sendable_eq_nil_iff, not_or, Bool.not_eq_false]

end Headers

namespace RoutingContext

/-- With a separator that is not empty, what is read of a path tells of the token exactly if the
path has none or one with a name. An app is told exactly if the first separator is followed by a
name, and a path inside no app exactly if it is followed by a slash. The field with the path is set
without the one with the alias exactly if the path can be sent and the alias is empty or cannot. -/
theorem decode_tells_iff {separator : String} (hseparator : separator ≠ "") (appendSlash : Bool)
    (path : String) :
    ((decode separator appendSlash path).TellsToken separator path ↔
      ∀ token, HasToken separator path token → ¬IsNameless token) ∧
    ((decode separator appendSlash path).hasApp = true ↔
      ∃ token, HasToken separator path token ∧ ¬IsNameless token) ∧
    (∀ rest, (decode separator appendSlash path).appAlias = "" ∧
        (decode separator appendSlash path).subpath = "/" ++ rest ↔
      HasToken separator path ("/" ++ rest)) ∧
    ∀ headers : Headers,
      (headers.setRouting (decode separator appendSlash path)).values Headers.appSubpathField ≠ [] ∧
        (headers.setRouting (decode separator appendSlash path)).values Headers.appAliasField = [] ↔
      ((decode separator appendSlash path).subpath ≠ "" ∧
        HeaderValue.isValid (decode separator appendSlash path).subpath = true) ∧
        ((decode separator appendSlash path).appAlias = "" ∨
          HeaderValue.isValid (decode separator appendSlash path).appAlias = false) := by
  refine ⟨tellsToken_decode_iff hseparator appendSlash, ?_, subpath_alone_iff hseparator
    appendSlash, fun headers => headers.subpathField_alone_iff _⟩
  rw [hasApp, bne_iff_ne, ne_eq, appAlias_decode_eq_empty_iff hseparator]
  simp only [not_forall, exists_prop]

/-- The separator overlaps itself, so the token begins with a slash. -/
theorem decode_tells_iff_overlapping :
    HasToken "/_/" "/p/_//_/x" "/_/x" ∧
      ¬(decode "/_/" true "/p/_//_/x").TellsToken "/_/" "/p/_//_/x" ∧
      (decode "/_/" true "/p/_//_/x").appAlias = "" ∧
      (decode "/_/" true "/p/_//_/x").subpath = "/_/x" := by
  have htoken : HasToken "/_/" "/p/_//_/x" "/_/x" := hasToken_iff.2 ⟨"/p", by decide⟩
  obtain ⟨htells, -, halone, -⟩ :=
    decode_tells_iff (show "/_/" ≠ "" by decide) true "/p/_//_/x"
  obtain ⟨halias, hsubpath⟩ := (halone "_/x").mpr htoken
  exact ⟨htoken, fun h => htells.mp h _ htoken (Or.inr ⟨"_/x", rfl⟩), halias, hsubpath⟩

/-- It is not so that what is read always tells of the token: with a second slash behind the
separator, a path inside an app is read and the app has no name. -/
theorem not_every_token_told :
    ¬∀ separator path appendSlash, separator ≠ "" →
      (decode separator appendSlash path).TellsToken separator path := by
  intro hall
  have htells := hall "/_/" "/p/_//x" false (by decide)
  exact htells.subpath (by decide) (by decide)

end RoutingContext

end ComposingProxy
