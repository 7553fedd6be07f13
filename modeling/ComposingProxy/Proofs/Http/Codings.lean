import ComposingProxy.Page.Composer

/-!
# Codings of the content

A page that is still coded cannot be read, so a response with a coding is to be left as it is. The
codings may be spread over several `content-encoding` lines, and not all of them are looked at:

> `Composer.compose_codings`: the first line decides. A response is left as it is if that line
> names a coding; if it does not, the response is treated as if it had no such line at all.

The other two fields that are looked at are searched line by line (`Headers.isHtml`,
`Headers.isChunked`), so a coding on a later line is missed for no other reason than that it comes
later (`Composer.not_every_coding_spared`).
-/

namespace ComposingProxy

/-- Whether a line of the `content-encoding` field names a coding: it can be read, and without the
blanks around it something is left that is not `identity`. -/
def HeaderValue.isCoding (line : String) : Bool :=
  let coding := Text.trimText line
  isVisible line && (coding != "" && !Text.eqIgnoringCase coding.toList "identity".toList)

namespace Headers

variable {headers : Headers}

/-- The lines of the `content-encoding` field. -/
def codingLines (headers : Headers) : List String := headers.values "content-encoding"

/-- There is no coding exactly if the first line names none. -/
theorem contentEncoding?_eq_none_iff :
    headers.contentEncoding? = none ↔
      ∀ line ∈ headers.codingLines.head?, HeaderValue.isCoding line = false := by
  have hsteps {isCoding : String → Bool} (first : Option String) :
      ((first.filter HeaderValue.isVisible).map Text.trimText).filter isCoding = none ↔
        ∀ line ∈ first, (HeaderValue.isVisible line && isCoding (Text.trimText line)) = false := by
    cases first with
    | none => simp
    | some line => cases hvisible : HeaderValue.isVisible line <;> simp [Option.filter, hvisible]
  exact hsteps headers.codingLines.head?

/-- Taking away other fields changes nothing about whether a response is transformed. -/
theorem isTransformable_remove {name : String} (htype : name ≠ "content-type")
    (hchunks : name ≠ "transfer-encoding") :
    (headers.remove name).isTransformable = headers.isTransformable := by
  simp only [isTransformable, isHtml, isChunked, visible, values_remove, if_neg htype,
    if_neg hchunks]

end Headers

variable {headers : Headers} {line : String}

/-- A coding on the first line keeps a response from being composed. -/
theorem shouldTransform_of_isCoding (method : String) (status : Nat)
    (hfirst : headers.codingLines.head? = some line) (hcoding : HeaderValue.isCoding line = true) :
    shouldTransform method status headers = false := by
  have hsome : headers.contentEncoding? ≠ none := fun hnone =>
    absurd (Headers.contentEncoding?_eq_none_iff.mp hnone line hfirst) (by simp [hcoding])
  rw [shouldTransform, Option.isNone_eq_false_iff.mpr (Option.isSome_iff_ne_none.mpr hsome),
    Bool.and_false]

/-- Where the first line names no coding, all lines may as well be missing. -/
theorem shouldTransform_remove (method : String) (status : Nat)
    (hfirst : ∀ line ∈ headers.codingLines.head?, HeaderValue.isCoding line = false) :
    shouldTransform method status headers =
      shouldTransform method status (headers.remove "content-encoding") := by
  have hlines : (headers.remove "content-encoding").codingLines = [] := by
    rw [Headers.codingLines, Headers.values_remove, if_pos rfl]
  have hremoved : (headers.remove "content-encoding").contentEncoding? = none :=
    Headers.contentEncoding?_eq_none_iff.mpr (by simp [hlines])
  rw [shouldTransform, shouldTransform, Headers.contentEncoding?_eq_none_iff.mpr hfirst, hremoved,
    Headers.isTransformable_remove (by decide) (by decide)]

namespace Composer

/-- The first `content-encoding` line decides whether a response is left as it is for its codings. If
it names one, the response is; if it names none, then whether the response is composed does not
depend on any of the lines. So, over all methods and all statuses, a response with a
coding on some line is left alone exactly if that is the first line that names one or the
response would be left alone without any. -/
theorem compose_codings (composer : Composer) (sent : SentRequest) (response : Response) :
    (∀ line, response.headers.codingLines.head? = some line → HeaderValue.isCoding line = true →
      (∀ method status, shouldTransform method status response.headers = false) ∧
        composer.compose sent response = .ok response) ∧
    ((∀ line ∈ response.headers.codingLines.head?, HeaderValue.isCoding line = false) →
      ∀ method status, shouldTransform method status response.headers =
        shouldTransform method status (response.headers.remove "content-encoding")) ∧
    ((∀ method status, shouldTransform method status response.headers = false) ↔
      (∃ line ∈ response.headers.codingLines.head?, HeaderValue.isCoding line = true) ∨
        response.headers.isTransformable = false) := by
  have hspared : ∀ line, response.headers.codingLines.head? = some line →
      HeaderValue.isCoding line = true →
        ∀ method status, shouldTransform method status response.headers = false :=
    fun line hfirst hcoding method status => shouldTransform_of_isCoding method status hfirst hcoding
  refine ⟨fun line hfirst hcoding => ⟨hspared line hfirst hcoding, ?_⟩,
    fun hfirst method status => shouldTransform_remove method status hfirst,
    fun hnever => ?_, fun hwhy method status => ?_⟩
  · rw [compose, hspared line hfirst hcoding]
    rfl
  · by_cases hfirst : ∃ line ∈ response.headers.codingLines.head?, HeaderValue.isCoding line = true
    · exact .inl hfirst
    · have hnone : response.headers.contentEncoding? = none :=
        Headers.contentEncoding?_eq_none_iff.mpr fun line hline =>
          Bool.eq_false_iff.mpr fun hcoding => hfirst ⟨line, hline, hcoding⟩
      -- a plain answer to a plain request can only be spared for what it carries
      have hplain := hnever "GET" 200
      have hbody : ("GET" != "HEAD" && statusHasBody 200) = true := by decide
      rw [shouldTransform, hnone, hbody, Bool.true_and, Option.isNone_none, Bool.and_true] at hplain
      exact .inr hplain
  · rcases hwhy with ⟨line, hfirst, hcoding⟩ | hpage
    · exact hspared line hfirst hcoding method status
    · rw [shouldTransform, hpage, Bool.and_false, Bool.false_and]

/-! ### A coding after `identity` -/

/-- A response with a page and the given `content-encoding` lines. -/
def coded (lines : List String) : Response :=
  { headers := ⟨("content-type", "text/html") :: lines.map ("content-encoding", ·)⟩
    body := [0x1F, 0x8B] }

/-- The composer without transformers. -/
def copier : Composer := { chain := {}, maxDocumentBytes := 1024 }

/-- Coded bytes stay as they are where the coding is named first. -/
theorem compose_codings_gzip :
    copier.compose { request := {} } (coded ["gzip", "identity"]) =
        .ok (coded ["gzip", "identity"]) ∧
      shouldTransform "GET" 200 (coded ["identity", "gzip"]).headers =
        shouldTransform "GET" 200 (coded []).headers := by
  obtain ⟨hspared, -, -⟩ := compose_codings copier { request := {} } (coded ["gzip", "identity"])
  obtain ⟨-, hsame, -⟩ := compose_codings copier { request := {} } (coded ["identity", "gzip"])
  have hidentity : ∀ line ∈ (coded ["identity", "gzip"]).headers.codingLines.head?,
      HeaderValue.isCoding line = false := by
    intro line hline
    obtain rfl : "identity" = line := Option.some.inj hline
    decide +kernel
  have hremoved : (coded ["identity", "gzip"]).headers.remove "content-encoding" =
      (coded []).headers := by decide +kernel
  exact ⟨(hspared "gzip" (by decide +kernel) (by decide +kernel)).2,
    hremoved ▸ hsame hidentity "GET" 200⟩

/-- It is not so that every coding is seen: a page with `identity` on its first line is
composed, though it is coded by `gzip` as the second line says. -/
theorem not_every_coding_spared :
    ¬∀ (method : String) (status : Nat) (headers : Headers),
      (∃ line ∈ headers.codingLines, HeaderValue.isCoding line = true) →
        shouldTransform method status headers = false := by
  intro hall
  have hspared := hall "GET" 200 (coded ["identity", "gzip"]).headers
    ⟨"gzip", by decide +kernel, by decide +kernel⟩
  have hcomposed : shouldTransform "GET" 200 (coded ["identity", "gzip"]).headers = true := by
    decide +kernel
  exact absurd (hspared.symm.trans hcomposed) (by decide)

end Composer

end ComposingProxy
