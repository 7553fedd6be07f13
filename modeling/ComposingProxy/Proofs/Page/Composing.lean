import Mathlib.Control.Monad.Basic
import ComposingProxy.Page.Composer

/-!
# What becomes of a response

A response that carries no page that can be composed goes on as it is. Any other one ends in one
of three ways, and which one is settled by its body alone: it is too long, or a transformer
fails on its page, or all of them pass it on.

> `Composer.compose_outcome`: when a response fails and why, and what is sent in its place when
> it does not: the page as the last transformer left it, with its length as the only
> `content-length`, and nothing else changed.

`TransformerChain.Passes` says what it is for transformers to pass a page on, one transformer
after the other; `FailsWith` that one of them fails on what those before it passed on.
-/

namespace ComposingProxy

open Markup

/-! ## Runs of a chain -/

namespace TransformerChain

variable {exchange : Exchange} {transformers rest : List Transformer} {doc page : Document}
  {cause : ModulesError}

/-- Transformers make one page of another: those that want the response change it one after
the other, and the others leave it. -/
inductive Passes (exchange : Exchange) : List Transformer → Document → Document → Prop
  | done (doc : Document) : Passes exchange [] doc doc
  | skip {transformer : Transformer} {rest : List Transformer} {doc page : Document}
      (hdeclines : transformer.applies exchange = false) (hrest : Passes exchange rest doc page) :
      Passes exchange (transformer :: rest) doc page
  | step {transformer : Transformer} {rest : List Transformer} {doc next page : Document}
      (happlies : transformer.applies exchange = true)
      (htransform : transformer.transform exchange doc = .ok next)
      (hrest : Passes exchange rest next page) : Passes exchange (transformer :: rest) doc page

/-- A transformer that wants the response fails on what those before it make of a page. -/
def FailsWith (exchange : Exchange) (transformers : List Transformer) (doc : Document)
    (cause : ModulesError) : Prop :=
  ∃ before transformer after page, transformers = before ++ transformer :: after ∧
    Passes exchange before doc page ∧ transformer.applies exchange = true ∧
    transformer.transform exchange page = .error cause

/-- A run goes on with the page that its first part makes. -/
theorem Passes.runAll_append (h : Passes exchange transformers doc page)
    (rest : List Transformer) :
    runAll exchange (transformers ++ rest) doc = runAll exchange rest page := by
  induction h with
  | done doc => rfl
  | skip hdeclines _ ih =>
    rw [List.cons_append, runAll, if_neg (by simp [hdeclines])]
    exact ih
  | step happlies htransform _ ih =>
    rw [List.cons_append, runAll, if_pos happlies, htransform]
    exact ih

/-- A run in which no transformer fails ends with the page of the last. -/
theorem Passes.runAll_eq (h : Passes exchange transformers doc page) :
    runAll exchange transformers doc = { doc := page } := by
  have hrun := h.runAll_append []
  rwa [List.append_nil] at hrun

/-- The cause of a run that fails is that of its first failure. -/
theorem FailsWith.failure_eq (h : FailsWith exchange transformers doc cause) :
    (runAll exchange transformers doc).failure = some cause := by
  obtain ⟨before, transformer, after, page, rfl, hpasses, happlies, htransform⟩ := h
  rw [hpasses.runAll_append, runAll, if_pos happlies, htransform]

theorem FailsWith.cons_of_ok {transformer : Transformer}
    (happlies : transformer.applies exchange = true)
    (htransform : transformer.transform exchange doc = .ok page)
    (h : FailsWith exchange rest page cause) :
    FailsWith exchange (transformer :: rest) doc cause := by
  obtain ⟨before, failing, after, last, rfl, hpasses, hfails⟩ := h
  exact ⟨transformer :: before, failing, after, last, rfl,
    .step happlies htransform hpasses, hfails⟩

theorem FailsWith.cons_of_declines {transformer : Transformer}
    (hdeclines : transformer.applies exchange = false)
    (h : FailsWith exchange rest doc cause) :
    FailsWith exchange (transformer :: rest) doc cause := by
  obtain ⟨before, failing, after, last, rfl, hpasses, hfails⟩ := h
  exact ⟨transformer :: before, failing, after, last, rfl, .skip hdeclines hpasses, hfails⟩

/-- Transformers pass a page on unless one of them fails. -/
theorem passes_or_failsWith (exchange : Exchange) : ∀ (transformers : List Transformer)
    (doc : Document), (∃ page, Passes exchange transformers doc page) ∨
      ∃ cause, FailsWith exchange transformers doc cause := by
  intro transformers
  induction transformers with
  | nil => intro doc; exact Or.inl ⟨doc, .done doc⟩
  | cons transformer rest ih =>
    intro doc
    cases happlies : transformer.applies exchange with
    | false =>
      rcases ih doc with ⟨page, hpasses⟩ | ⟨cause, hfails⟩
      · exact Or.inl ⟨page, .skip happlies hpasses⟩
      · exact Or.inr ⟨cause, hfails.cons_of_declines happlies⟩
    | true =>
      cases htransform : transformer.transform exchange doc with
      | error cause =>
        exact Or.inr ⟨cause, [], transformer, rest, doc, rfl, .done doc, happlies, htransform⟩
      | ok next =>
        rcases ih next with ⟨page, hpasses⟩ | ⟨cause, hfails⟩
        · exact Or.inl ⟨page, .step happlies htransform hpasses⟩
        · exact Or.inr ⟨cause, hfails.cons_of_ok happlies htransform⟩

/-- A run ends with a page just if all transformers pass it on. -/
theorem runAll_eq_iff :
    runAll exchange transformers doc = { doc := page } ↔ Passes exchange transformers doc page := by
  constructor
  · intro hrun
    rcases passes_or_failsWith exchange transformers doc with ⟨other, hpasses⟩ | ⟨cause, hfails⟩
    · obtain rfl := congrArg Outcome.doc (hpasses.runAll_eq.symm.trans hrun)
      exact hpasses
    · have hfailure := hfails.failure_eq
      rw [hrun] at hfailure
      exact absurd hfailure (by simp)
  · exact Passes.runAll_eq

end TransformerChain

/-! ## Lengths -/

/-- A number is read back from its decimal digits. -/
theorem Text.ofDecimalDigits_decimal (n : Nat) :
    Text.ofDecimalDigits (Text.decimal n).toList = n := by
  rw [Text.decimal, String.toList_ofList]
  exact Nat.ofDigitChars_toDigits (by omega) (by omega)

/-- Setting a field leaves the entries of all other names as they stand. -/
theorem Headers.filter_entries_set (headers : Headers) (name value : String) :
    (headers.set name value).entries.filter (·.1 != name) =
      headers.entries.filter (·.1 != name) := by
  simp [Headers.set, Headers.remove, Headers.append, List.filter_filter]

/-! ## The response -/

namespace Composer

/-- What the transformers of a page know of a response. -/
def exchangeOf (sent : SentRequest) (response : Response) : Exchange :=
  { sent, status := response.status, headers := response.headers }

/-- A response with a page in the place of its body, and otherwise as it was. -/
structure Carries (response : Response) (page : Document) (out : Response) : Prop where
  status : out.status = response.status
  body : out.body = Text.Utf8.encode page.render.toList
  /-- All other fields have their values, in the same order. -/
  others : out.headers.entries.filter (·.1 != "content-length") =
    response.headers.entries.filter (·.1 != "content-length")
  /-- There is one length, in decimal digits, -/
  length : out.headers.values "content-length" = [Text.decimal out.body.length]
  /-- and it is read as the number of bytes of the body. -/
  value : Text.ofDecimalDigits (Text.decimal out.body.length).toList = out.body.length

variable {composer : Composer} {sent : SentRequest} {response : Response}

/-- What becomes of a response that is composed. -/
theorem compose_eq
    (h : shouldTransform sent.request.method response.status response.headers = true) :
    composer.compose sent response =
      if composer.maxDocumentBytes < response.body.length then .error .body
      else
        match composer.composeDocument (exchangeOf sent response) response.body with
        | .error cause => .error cause
        | .ok body =>
          .ok
            { response with
              headers := response.headers.set "content-length" (Text.decimal body.length)
              body } := by
  rw [compose, h]
  rfl

/-- A page that passes the chain is written and encoded. -/
theorem composeDocument_of_passes {exchange : Exchange} {bytes : List UInt8} {page : Document}
    (h : TransformerChain.Passes exchange composer.chain.transformers (Document.ofBytes bytes)
      page) :
    composer.composeDocument exchange bytes = .ok (Text.Utf8.encode page.render.toList) := by
  rw [composeDocument, TransformerChain.run, h.runAll_eq]

/-- A chain that fails is reported with its cause. -/
theorem composeDocument_of_failsWith {exchange : Exchange} {bytes : List UInt8}
    {cause : ModulesError}
    (h : TransformerChain.FailsWith exchange composer.chain.transformers (Document.ofBytes bytes)
      cause) : composer.composeDocument exchange bytes = .error (.modules cause) := by
  rw [composeDocument, TransformerChain.run, h.failure_eq]

/-- A page that is passed on is sent with its length. -/
theorem compose_of_passes
    (h : shouldTransform sent.request.method response.status response.headers = true)
    (hlimit : response.body.length ≤ composer.maxDocumentBytes) {page : Document}
    (hpasses : TransformerChain.Passes (exchangeOf sent response) composer.chain.transformers
      (Document.ofBytes response.body) page) :
    ∃ out, composer.compose sent response = .ok out ∧ Carries response page out := by
  rw [compose_eq h, if_neg (Nat.not_lt.mpr hlimit), composeDocument_of_passes hpasses]
  refine ⟨_, rfl, rfl, rfl, response.headers.filter_entries_set _ _, ?_,
    Text.ofDecimalDigits_decimal _⟩
  rw [Headers.values_set, if_pos rfl]

/-- Where the chain fails, the response does: nothing of the page is sent. -/
theorem compose_of_failsWith
    (h : shouldTransform sent.request.method response.status response.headers = true)
    (hlimit : response.body.length ≤ composer.maxDocumentBytes) {cause : ModulesError}
    (hfails : TransformerChain.FailsWith (exchangeOf sent response) composer.chain.transformers
      (Document.ofBytes response.body) cause) :
    composer.compose sent response = .error (.modules cause) := by
  rw [compose_eq h, if_neg (Nat.not_lt.mpr hlimit), composeDocument_of_failsWith hfails]

/-- A response that is composed carries the page that all transformers pass on. -/
theorem exists_of_compose {out : Response}
    (h : shouldTransform sent.request.method response.status response.headers = true)
    (hout : composer.compose sent response = .ok out) :
    ∃ page, TransformerChain.Passes (exchangeOf sent response) composer.chain.transformers
      (Document.ofBytes response.body) page ∧ Carries response page out := by
  have hlimit : response.body.length ≤ composer.maxDocumentBytes := by
    by_contra hlong
    rw [compose_eq h, if_pos (Nat.not_le.mp hlong)] at hout
    exact absurd hout (by simp)
  rcases TransformerChain.passes_or_failsWith (exchangeOf sent response)
    composer.chain.transformers (Document.ofBytes response.body) with
    ⟨page, hpasses⟩ | ⟨cause, hfails⟩
  · obtain ⟨other, hother, hcarries⟩ := compose_of_passes h hlimit hpasses
    obtain rfl := Except.ok.inj (hother.symm.trans hout)
    exact ⟨page, hpasses, hcarries⟩
  · exact absurd ((compose_of_failsWith h hlimit hfails).symm.trans hout) (by simp)

/-- A response that carries no page goes on as it is. Any other fails because of its body just
when that is longer than the limit, fails because of a transformer just when that is the first
one that fails, and else is sent with the page that the chain makes. -/
theorem compose_outcome (composer : Composer) (sent : SentRequest) (response : Response) :
    (shouldTransform sent.request.method response.status response.headers = false →
      composer.compose sent response = .ok response) ∧
    (shouldTransform sent.request.method response.status response.headers = true →
      (composer.compose sent response = .error .body ↔
        composer.maxDocumentBytes < response.body.length) ∧
      (∀ cause, composer.compose sent response = .error (.modules cause) ↔
        response.body.length ≤ composer.maxDocumentBytes ∧
          TransformerChain.FailsWith (exchangeOf sent response) composer.chain.transformers
            (Document.ofBytes response.body) cause) ∧
      (response.body.length ≤ composer.maxDocumentBytes →
        (∀ cause, ¬TransformerChain.FailsWith (exchangeOf sent response)
          composer.chain.transformers (Document.ofBytes response.body) cause) →
        ∃ page out, TransformerChain.Passes (exchangeOf sent response) composer.chain.transformers
            (Document.ofBytes response.body) page ∧
          composer.compose sent response = .ok out ∧ Carries response page out)) := by
  refine ⟨fun h => ?_, fun h => ?_⟩
  · rw [compose, h]
    rfl
  by_cases hlong : composer.maxDocumentBytes < response.body.length
  · have hbody : composer.compose sent response = .error .body := by
      rw [compose_eq h, if_pos hlong]
    refine ⟨⟨fun _ => hlong, fun _ => hbody⟩, fun cause => ⟨fun hcause => ?_, fun hcause => ?_⟩,
      fun hlimit _ => absurd hlimit (Nat.not_le.mpr hlong)⟩
    · exact absurd (hbody.symm.trans hcause) (by simp)
    · exact absurd hcause.1 (Nat.not_le.mpr hlong)
  -- what fits in is decided by the chain, which passes or fails
  have hlimit := Nat.not_lt.mp hlong
  rcases TransformerChain.passes_or_failsWith (exchangeOf sent response)
    composer.chain.transformers (Document.ofBytes response.body) with
    ⟨page, hpasses⟩ | ⟨cause, hfails⟩
  · obtain ⟨out, hout, hcarries⟩ := compose_of_passes h hlimit hpasses
    refine ⟨⟨fun hbody => ?_, fun hbody => absurd hbody hlong⟩,
      fun cause => ⟨fun hcause => ?_, fun hcause => compose_of_failsWith h hlimit hcause.2⟩,
      fun _ _ => ⟨page, out, hpasses, hout, hcarries⟩⟩
    · exact absurd (hout.symm.trans hbody) (by simp)
    · exact absurd (hout.symm.trans hcause) (by simp)
  · have herror := compose_of_failsWith h hlimit hfails
    refine ⟨⟨fun hbody => ?_, fun hbody => absurd hbody hlong⟩,
      fun other => ⟨fun hother => ?_, fun hother => compose_of_failsWith h hlimit hother.2⟩,
      fun _ hnone => absurd hfails (hnone cause)⟩
    · exact absurd (herror.symm.trans hbody) (by simp)
    · rw [herror, Except.error.injEq, TransformError.modules.injEq] at hother
      exact ⟨hlimit, hother ▸ hfails⟩

/-- A composer of pages of at most six bytes, which has modules to add. -/
def sampleComposer : Composer :=
  { chain := { transformers := [.metadata "/_/" {}, .modules { moduleBody := "run();" }] }
    maxDocumentBytes := 6 }

/-- A response with two lengths, both wrong. -/
def sampleResponse : Response :=
  { headers := ⟨[("content-length", "1"), ("content-type", "text/html"), ("x-a", "1"),
      ("content-length", "2"), ("x-a", "0")]⟩
    body := Text.Utf8.encode "<p>hi\n".toList }

/-- A body of exactly the limit is composed, and both lengths make place for the right one. -/
theorem compose_outcome_sample :
    shouldTransform "GET" sampleResponse.status sampleResponse.headers = true ∧
      sampleResponse.body.length = sampleComposer.maxDocumentBytes ∧
      ∃ page out, sampleComposer.compose { request := {} } sampleResponse = .ok out ∧
        Carries sampleResponse page out := by
  have heligible :
      shouldTransform "GET" sampleResponse.status sampleResponse.headers = true := by
    decide +kernel
  have hlimit : sampleResponse.body.length = sampleComposer.maxDocumentBytes := by decide +kernel
  have hok : (sampleComposer.compose { request := {} } sampleResponse).isOk = true := by
    decide +kernel
  obtain ⟨-, hcomposed⟩ := compose_outcome sampleComposer { request := {} } sampleResponse
  obtain ⟨-, hmodules, hsent⟩ := hcomposed heligible
  obtain ⟨page, out, -, hout, hcarries⟩ := hsent (Nat.le_of_eq hlimit) fun cause hfails => by
    rw [(hmodules cause).mpr ⟨(Nat.le_of_eq hlimit), hfails⟩] at hok
    exact absurd hok (by simp [Except.isOk, Except.toBool])
  exact ⟨heligible, hlimit, page, out, hout, hcarries⟩

end Composer

end ComposingProxy
