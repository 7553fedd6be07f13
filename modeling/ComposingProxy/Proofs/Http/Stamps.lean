import ComposingProxy.Gateway
import ComposingProxy.Proofs.Http.Visible
import Mathlib.Control.Monad.Basic

/-!
# The fields that the proxy stamps

On the way to the site three passes change the fields of a request: the forwarding fields
are set, then those that name the addressed app, and last the fields of the connection are
taken away. The laws say what each pass does to the values of *every* name, and put
together they say what becomes of a stamped field:

> `Gateway.send_stamps`: a request that has a target is sent, and each stamped name has
> exactly the values that were stamped, unless the `connection` fields of the client list
> it; then it has none.

The last pass does not know which fields the proxy itself set, so a client can have any
of them taken away by naming it (`Gateway.not_all_stamps_arrive`).
-/

namespace ComposingProxy

namespace Headers

variable {headers : Headers} {name value : String}

/-- Each of the fields has exactly the values that go with its name. -/
def Carries (headers : Headers) (fields : List (String × List String)) : Prop :=
  ∀ field ∈ fields, headers.values field.1 = field.2

/-! ## One field -/

/-- Setting a field gives it one value if the value may be sent, and touches no other. -/
theorem values_setValid (headers : Headers) (name value other : String) :
    (headers.setValid name value).values other =
      if name = other ∧ HeaderValue.isValid value = true then [value]
      else headers.values other := by
  unfold setValid
  split
  · next hvalid => rw [values_set]; simp [hvalid]
  · next hinvalid => simp [hinvalid]

theorem values_setValid_of_ne {other : String} (h : name ≠ other) :
    (headers.setValid name value).values other = headers.values other := by
  rw [values_setValid, if_neg fun hboth => h hboth.1]

theorem setValid_of_isVisible (h : HeaderValue.isVisible value = true) :
    headers.setValid name value = headers.set name value :=
  if_pos (HeaderValue.isValid_of_isVisible h)

/-- The values that `setNonempty` gives its field: the text, if it can be sent. -/
def sendable (value : String) : List String :=
  if value ≠ "" ∧ HeaderValue.isValid value = true then [value] else []

/-- A field that is missing gets the value, if that is not empty and may be sent. -/
theorem values_setNonempty_self (h : headers.values name = []) :
    (headers.setNonempty name value).values name = sendable value := by
  unfold setNonempty sendable
  split
  · next hempty => simp [hempty, h]
  · next hne => rw [values_setValid]; simp [hne, h]

theorem values_setNonempty_of_ne {other : String} (h : name ≠ other) :
    (headers.setNonempty name value).values other = headers.values other := by
  unfold setNonempty
  split
  · rfl
  · rw [values_setValid, if_neg fun hboth => h hboth.1]

/-! ## The last pass: fields of the connection -/

/-- The fields that are taken away have no values, and the others have theirs. -/
theorem values_foldl_remove (names : List String) (headers : Headers) (name : String) :
    (names.foldl remove headers).values name =
      if name ∈ names then [] else headers.values name := by
  induction names generalizing headers with
  | nil => simp
  | cons first rest ih =>
    rw [List.foldl_cons, ih, values_remove]
    by_cases hrest : name ∈ rest
    · rw [if_pos hrest, if_pos (List.mem_cons_of_mem first hrest)]
    · rw [if_neg hrest]
      by_cases hfirst : first = name
      · rw [if_pos hfirst, if_pos (hfirst ▸ List.mem_cons_self)]
      · rw [if_neg hfirst, if_neg]
        exact fun hmem => (List.mem_cons.mp hmem).elim (fun heq => hfirst heq.symm) hrest

/-- The last pass empties the fields of the connection and leaves all others. -/
theorem values_stripHopByHop (headers : Headers) (name : String) :
    headers.stripHopByHop.values name =
      if name ∈ headers.listedNames ++ connectionFields then [] else headers.values name :=
  values_foldl_remove _ headers name

/-- What is listed depends on the values of the `connection` fields alone. -/
theorem listedNames_congr {other : Headers}
    (h : headers.values "connection" = other.values "connection") :
    headers.listedNames = other.listedNames := by
  rw [listedNames, listedNames, visible, visible, h]

/-! ## The first pass: forwarding fields -/

/-- The addresses that are passed on are visible, whatever the client sent. -/
theorem isVisible_forwardedFor (headers : Headers) (client : Option IpAddress) :
    HeaderValue.isVisible (headers.forwardedFor client) = true := by
  unfold forwardedFor
  dsimp only
  split
  · cases client with
    | none => rfl
    | some address => exact address.isVisible_render
  · refine HeaderValue.isVisible_intercalate rfl fun part hpart => ?_
    exact (List.mem_filter.mp hpart).2

/-- With a client there is an address to pass on. -/
theorem forwardedFor_ne_empty (headers : Headers) {client : IpAddress}
    (hclient : client.IsComplete) : headers.forwardedFor (some client) ≠ "" := by
  unfold forwardedFor
  dsimp only
  split
  · exact IpAddress.render_ne_empty hclient
  · next hne => exact hne

/-- The value of the `forwarded` field is visible if its parts are. -/
theorem isVisible_forwardedValue {forwardedFor host scheme : String} (egress : IpAddress)
    (hfor : HeaderValue.isVisible forwardedFor = true) (hhost : HeaderValue.isVisible host = true)
    (hscheme : HeaderValue.isVisible scheme = true) :
    HeaderValue.isVisible (forwardedValue egress forwardedFor host scheme) = true := by
  unfold forwardedValue
  have happend := @HeaderValue.isVisible_append
  refine happend (happend (happend (happend (happend (happend (happend rfl ?_) rfl) hfor) rfl)
    hhost) rfl) hscheme
  exact egress.isVisible_render

/-- The names of the fields that tell where a request comes from. -/
def forwardingNames : List String :=
  ["x-forwarded-for", "x-forwarded-host", "x-forwarded-proto", "x-forwarded-port", "forwarded"]

/-- Forwarding leaves all other fields alone. -/
theorem values_setForwarding_of_not_mem (hname : name ∉ forwardingNames) (host scheme : String)
    (client : Option IpAddress) (egress : IpAddress) :
    (headers.setForwarding host scheme client egress).values name = headers.values name := by
  have hne : ∀ field ∈ forwardingNames, field ≠ name := fun field hfield heq =>
    hname (heq ▸ hfield)
  unfold setForwarding
  dsimp only
  rw [values_setValid_of_ne (hne _ (by decide))]
  have hport : (headers.remove "x-forwarded-port").values name = headers.values name := by
    rw [values_remove, if_neg (hne _ (by decide))]
  cases hostPortNumber? host <;> dsimp only <;> split <;>
    simp only [values_setValid_of_ne (hne "x-forwarded-port" (by decide)),
      values_setValid_of_ne (hne "x-forwarded-proto" (by decide)),
      values_setValid_of_ne (hne "x-forwarded-host" (by decide)),
      values_setValid_of_ne (hne "x-forwarded-for" (by decide)), hport]

/-- The forwarding fields of a request for a host, with the values each is to have. -/
def forwardingStamps (headers : Headers) (host scheme : String) (client egress : IpAddress) :
    List (String × List String) :=
  let forwardedFor := headers.forwardedFor (some client)
  [("x-forwarded-for", [forwardedFor]),
    ("x-forwarded-host", [host]),
    ("x-forwarded-proto", [scheme]),
    ("x-forwarded-port", (hostPortNumber? host).toList.map Text.decimal),
    ("forwarded", [forwardedValue egress forwardedFor host scheme])]

/-- Each forwarding field gets its values, and every other field keeps its own. -/
theorem values_setForwarding {host scheme : String} {client : IpAddress} (egress : IpAddress)
    (hclient : client.IsComplete) (hhost : HeaderValue.isVisible host = true)
    (hscheme : HeaderValue.isVisible scheme = true) (name : String) :
    (headers.setForwarding host scheme (some client) egress).values name =
      ((headers.forwardingStamps host scheme client egress).lookup name).getD
        (headers.values name) := by
  have hfor := isVisible_forwardedFor headers (some client)
  have hvalue := isVisible_forwardedValue egress hfor hhost hscheme
  unfold setForwarding forwardingStamps
  dsimp only
  -- all values are visible and the first is not empty, so none is left out
  rw [if_neg (forwardedFor_ne_empty headers hclient), setValid_of_isVisible hfor,
    setValid_of_isVisible hhost, setValid_of_isVisible hscheme, setValid_of_isVisible hvalue]
  cases hostPortNumber? host with
  | none =>
    simp only [values_set, values_remove, List.lookup_cons, List.lookup_nil]
    grind
  | some number =>
    dsimp only
    rw [setValid_of_isVisible (HeaderValue.isVisible_decimal number)]
    simp only [values_set, values_remove, List.lookup_cons, List.lookup_nil]
    grind

/-! ## The second pass: the addressed app -/

/-- The fields that name the addressed app, with the values each is to have. -/
def routingStamps (routing : RoutingContext) : List (String × List String) :=
  [(appAliasField, sendable routing.appAlias), (appSubpathField, sendable routing.subpath)]

/-- Both fields get their values, and every other field keeps its own. -/
theorem values_setRouting (headers : Headers) (routing : RoutingContext) (name : String) :
    (headers.setRouting routing).values name =
      ((routingStamps routing).lookup name).getD (headers.values name) := by
  have hne : appAliasField ≠ appSubpathField := by decide
  unfold setRouting routingStamps
  dsimp only
  -- the second field is set last; the first one is seen through it
  by_cases hpath : appSubpathField = name
  · subst hpath
    rw [values_setNonempty_self]
    · simp [List.lookup_cons, beq_false_of_ne hne.symm]
    · rw [values_setNonempty_of_ne hne, values_remove, if_pos rfl]
  rw [values_setNonempty_of_ne hpath]
  by_cases halias : appAliasField = name
  · subst halias
    rw [values_setNonempty_self]
    · simp
    · rw [values_remove, if_neg hpath, values_remove, if_pos rfl]
  rw [values_setNonempty_of_ne halias, values_remove, if_neg hpath, values_remove, if_neg halias]
  simp [List.lookup_cons, beq_false_of_ne (Ne.symm hpath), beq_false_of_ne (Ne.symm halias)]

end Headers

/-! ## All passes -/

/-- Under a name that no other entry has, an entry is found. -/
theorem lookup_of_mem_of_nodup {α β : Type} [BEq α] [LawfulBEq α] {entry : α × β} :
    ∀ {entries : List (α × β)}, (entries.map Prod.fst).Nodup → entry ∈ entries →
      entries.lookup entry.1 = some entry.2 := by
  intro entries
  induction entries with
  | nil => intro _ hmem; exact absurd hmem List.not_mem_nil
  | cons first rest ih =>
    intro hnodup hmem
    obtain ⟨hfirst, hrest⟩ := List.nodup_cons.mp hnodup
    rw [List.lookup_cons]
    rcases List.mem_cons.mp hmem with rfl | hmem
    · simp
    · have hne : entry.1 ≠ first.1 := by
        intro heq
        exact hfirst (heq ▸ List.mem_map_of_mem hmem)
      simp only [beq_false_of_ne hne]
      exact ih hrest hmem

namespace Request

/-- The host that is passed on is visible. -/
theorem isVisible_host {request : Request} (h : request.uri.HasVisibleParts) :
    HeaderValue.isVisible request.host = true := by
  unfold host
  cases hread : request.headers.readable? "host" with
  | some value => exact (Option.filter_eq_some_iff.mp hread).2
  | none =>
    cases hauthority : request.uri.authority with
    | none => rfl
    | some authority => exact h.2 authority hauthority

/-- The scheme that is passed on is visible. -/
theorem isVisible_scheme {request : Request} (h : request.uri.HasVisibleParts) :
    HeaderValue.isVisible request.scheme = true := by
  unfold scheme
  cases hscheme : request.uri.scheme with
  | none => rfl
  | some scheme => exact h.1 scheme hscheme

/-- All fields that the proxy stamps on a request, with the values each is to have. -/
def stamps (request : Request) (routing : RoutingContext) (client egress : IpAddress) :
    List (String × List String) :=
  Headers.routingStamps routing ++
    request.headers.forwardingStamps request.host request.scheme client egress

/-- The names of the stamped fields. -/
def stampedNames : List String :=
  [Headers.appAliasField, Headers.appSubpathField, "x-forwarded-for", "x-forwarded-host",
    "x-forwarded-proto", "x-forwarded-port", "forwarded"]

theorem map_fst_stamps (request : Request) (routing : RoutingContext)
    (client egress : IpAddress) :
    (request.stamps routing client egress).map Prod.fst = stampedNames := rfl

/-- A stamp has one of the stamped names. -/
theorem fst_mem_stampedNames {request : Request} {routing : RoutingContext}
    {client egress : IpAddress} {stamp : String × List String}
    (h : stamp ∈ request.stamps routing client egress) : stamp.1 ∈ stampedNames := by
  rw [← map_fst_stamps request routing client egress]
  exact List.mem_map_of_mem h

/-- The fields of a request before those of the connection are taken away. -/
def stampedFields (request : Request) (authority : String) (routing : RoutingContext)
    (client egress : IpAddress) : Headers :=
  ((request.headers.setForwarding request.host request.scheme (some client) egress).setValid
    "host" authority).setRouting routing

variable {request : Request} {client : IpAddress}

/-- Before the last pass every stamped field has its values, and every other field but the host has
those of the request. -/
theorem values_stampedFields (hparts : request.uri.HasVisibleParts) (hclient : client.IsComplete)
    (egress : IpAddress) (authority : String) (routing : RoutingContext) {name : String}
    (hname : name ≠ "host") :
    (request.stampedFields authority routing client egress).values name =
      ((request.stamps routing client egress).lookup name).getD
        (request.headers.values name) := by
  rw [stampedFields, Headers.values_setRouting, Headers.values_setValid,
    if_neg fun h => hname h.1.symm, Headers.values_setForwarding egress hclient
      (isVisible_host hparts) (isVisible_scheme hparts), stamps, List.lookup_append]
  cases (Headers.routingStamps routing).lookup name <;> rfl

/-- No pass before the last one changes what the client lists. -/
theorem listedNames_stampedFields (hparts : request.uri.HasVisibleParts)
    (hclient : client.IsComplete) (egress : IpAddress) (authority : String)
    (routing : RoutingContext) :
    (request.stampedFields authority routing client egress).listedNames =
      request.headers.listedNames := by
  refine Headers.listedNames_congr ?_
  have hlookup : (request.stamps routing client egress).lookup "connection" = none := by
    refine List.lookup_eq_none_iff.mpr fun stamp hstamp => bne_iff_ne.mpr fun heq => ?_
    exact absurd (heq ▸ fst_mem_stampedNames hstamp) (by decide)
  rw [values_stampedFields hparts hclient egress authority routing (by decide), hlookup]
  rfl

/-- What becomes of a stamp when the fields of the connection are taken away. -/
theorem values_strip_stampedFields (hparts : request.uri.HasVisibleParts)
    (hclient : client.IsComplete) (egress : IpAddress) (authority : String)
    (routing : RoutingContext) {stamp : String × List String}
    (hstamp : stamp ∈ request.stamps routing client egress) :
    (request.stampedFields authority routing client egress).stripHopByHop.values stamp.1 =
      if stamp.1 ∈ request.headers.listedNames then [] else stamp.2 := by
  have hname := fst_mem_stampedNames hstamp
  have hhost : stamp.1 ≠ "host" := fun heq => absurd (heq ▸ hname) (by decide)
  have hconnection : stamp.1 ∉ Headers.connectionFields := by
    have hall : ∀ name ∈ stampedNames, name ∉ Headers.connectionFields := by decide
    exact hall stamp.1 hname
  have hnodup : ((request.stamps routing client egress).map Prod.fst).Nodup := by
    rw [map_fst_stamps]
    decide
  rw [Headers.values_stripHopByHop, listedNames_stampedFields hparts hclient,
    values_stampedFields hparts hclient egress authority routing hhost,
    lookup_of_mem_of_nodup hnodup hstamp]
  simp only [List.mem_append, hconnection, or_false, Option.getD_some]

end Request

namespace Gateway

/-- A request that has a target is sent on, with the fields that the passes leave. -/
theorem send_of_target {gateway : Gateway} {request : Request} {target : Target}
    (client egress : IpAddress) (htarget : gateway.site.target request.uri = .ok target) :
    ∃ sent, gateway.send request (some client) egress = .ok sent ∧
      sent.routing = target.routing ∧
      sent.request.headers =
        (request.stampedFields gateway.site.authority target.routing client
          egress).stripHopByHop.remove "accept-encoding" := by
  simp only [send, Site.forward, htarget]
  exact ⟨_, rfl, rfl, rfl⟩

/-- A request that has a target is sent on, and each field that the proxy stamps has the
values it was stamped with unless a `connection` field of the client lists its name; then it has
none. So all stamps arrive exactly if every listed one has no values anyway. -/
theorem send_stamps (gateway : Gateway) {request : Request} {text : String} {target : Target}
    {client : IpAddress} (egress : IpAddress) (hrequest : Uri.parse text = .ok request.uri)
    (hclient : client.IsComplete) (htarget : gateway.site.target request.uri = .ok target) :
    ∃ sent, gateway.send request (some client) egress = .ok sent ∧
      sent.routing = target.routing ∧
      (∀ stamp ∈ request.stamps target.routing client egress,
        sent.request.headers.values stamp.1 =
          if stamp.1 ∈ request.headers.listedNames then [] else stamp.2) ∧
      (sent.request.headers.Carries (request.stamps target.routing client egress) ↔
        ∀ stamp ∈ request.stamps target.routing client egress,
          stamp.1 ∈ request.headers.listedNames → stamp.2 = []) := by
  obtain ⟨sent, hsent, hrouting, hheaders⟩ := send_of_target client egress htarget
  have hvalues : ∀ stamp ∈ request.stamps target.routing client egress,
      sent.request.headers.values stamp.1 =
        if stamp.1 ∈ request.headers.listedNames then [] else stamp.2 := by
    intro stamp hstamp
    -- the field that is removed last is none of the stamps
    have hencoding : stamp.1 ≠ "accept-encoding" := fun heq =>
      absurd (heq ▸ Request.fst_mem_stampedNames hstamp) (by decide)
    rw [hheaders, Headers.values_remove, if_neg (Ne.symm hencoding),
      Request.values_strip_stampedFields (Uri.hasVisibleParts_of_parse hrequest) hclient egress _
        target.routing hstamp]
  refine ⟨sent, hsent, hrouting, hvalues, fun hcarries stamp hstamp hlisted => ?_,
    fun hlisted stamp hstamp => ?_⟩
  · rw [← hcarries stamp hstamp, hvalues stamp hstamp, if_pos hlisted]
  · rw [hvalues stamp hstamp]
    split
    · next hmem => exact (hlisted stamp hstamp hmem).symm
    · rfl

/-! ### A client that lists stamped names -/

/-- The gateway in front of `http://site.test` that changes no page. -/
def sampleGateway : Gateway :=
  { site :=
      { scheme := "http", authority := "site.test", path := "/", rawPath := "/", query := ""
        separator := "/_/", appendSlash := false, index := none, aliases := [] }
    composer := { chain := {}, maxDocumentBytes := 0 }
    sessions := .anonymous }

/-- A request for an app whose `connection` field is given. -/
def sampleRequest (connection : String) : Request :=
  { uri := { path := "/blog/_/comments/42" }
    headers := ⟨[("host", "shop.test:8443"), ("connection", connection)]⟩ }

/-- Where the sample request goes. -/
def sampleTarget : Target :=
  { uri := { scheme := some "http", authority := some "site.test", path := "/blog" }
    path := "/blog", rawPath := "/blog", query := ""
    routing := { proxiedPath := "/blog", appAlias := "comments", subpath := "/42" } }

/-- Where the client lists no stamped field, all stamps arrive. -/
theorem send_stamps_sample :
    ∃ sent, sampleGateway.send (sampleRequest "keep-alive") (some (.v4 0x7F000001)) (.v4 0) =
        .ok sent ∧
      sent.request.headers.Carries
        ((sampleRequest "keep-alive").stamps sampleTarget.routing (.v4 0x7F000001) (.v4 0)) := by
  have hclient : IpAddress.IsComplete (.v4 0x7F000001) := trivial
  have hrequest : Uri.parse "/blog/_/comments/42" = .ok (sampleRequest "keep-alive").uri := by
    decide +kernel
  have htarget : sampleGateway.site.target (sampleRequest "keep-alive").uri =
      .ok sampleTarget := by decide +kernel
  obtain ⟨sent, hsent, -, -, hcarries⟩ :=
    send_stamps sampleGateway (.v4 0) hrequest hclient htarget
  exact ⟨sent, hsent, hcarries.mpr (by decide +kernel)⟩

/-- It is not so that every stamp of every request arrives: a client that lists
`x-forwarded-host` has that field taken away. -/
theorem not_all_stamps_arrive :
    ¬∀ (gateway : Gateway) (request : Request) (text : String) (target : Target)
      (client egress : IpAddress), Uri.parse text = .ok request.uri → client.IsComplete →
        gateway.site.target request.uri = .ok target →
        ∃ sent, gateway.send request (some client) egress = .ok sent ∧
          sent.request.headers.Carries (request.stamps target.routing client egress) := by
  intro hall
  obtain ⟨sent, hsent, hcarries⟩ := hall sampleGateway (sampleRequest "x-forwarded-host")
    "/blog/_/comments/42" sampleTarget (.v4 0x7F000001) (.v4 0) (by decide +kernel) trivial
    (by decide +kernel)
  have hhost := hcarries ("x-forwarded-host", ["shop.test:8443"]) (by decide +kernel)
  have hnone : ((sampleGateway.send (sampleRequest "x-forwarded-host") (some (.v4 0x7F000001))
      (.v4 0)).toOption.map fun sent => sent.request.headers.values "x-forwarded-host") =
        some [] := by decide +kernel
  rw [hsent] at hnone
  rw [Except.toOption, Option.map_some, hhost] at hnone
  exact absurd hnone (by decide)

end Gateway

end ComposingProxy
