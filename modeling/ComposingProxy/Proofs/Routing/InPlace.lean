import ComposingProxy.Proofs.Address.VisibleHosts
import ComposingProxy.Proofs.Http.Stamps

/-!
# Requests made ready in place

The head of a client's request is changed step by step until it is that of the request to the
site. Two things could go wrong on the way: that it is given up with half of the steps done, and that
a value which cannot be sent is left out, so that what the client wrote in its place goes on to the
site. Neither happens:

> `Site.rewrite_outcome`: without a target nothing at all is changed; with one, each field of
> the proxy has the one value that the proxy gives it, whatever was there before, and every
> other field is as it was.

Where a request goes is found out first (`Site.run_rewrite`). And every text that is put in a field
is visible ASCII: the addresses, the host and the scheme because that is how they were read, the
authority of the site because the hosts of web addresses are (`Site.isVisible_authority`).
-/

namespace ComposingProxy

namespace Site

variable {site : Site}

/-- Rewriting in place does what forwarding says: it makes the request that is forwarded and
attaches its routing, or else changes nothing. -/
theorem run_rewrite (site : Site) (client : Option IpAddress) (egress : IpAddress)
    (parts : RequestParts) :
    (site.rewrite client egress).run.run parts =
      match site.forward parts.request client egress with
      | .error error => (.error error, parts)
      | .ok routed =>
        (.ok routed.routing, { request := routed.request, attached := routed.routing }) := by
  -- all later steps depend on the request as it came
  have hstart : ∀ steps : RequestParts → ExceptT TargetError (StateM RequestParts) RoutingContext,
      (get >>= steps).run.run parts = (steps parts).run.run parts := fun _ => rfl
  simp only [rewrite, forward, hstart]
  cases site.target parts.request.uri <;> rfl

/-- The authority of a site can be sent. -/
theorem isVisible_authority {settings : SiteSettings} (hsite : ofSettings settings = .ok site) :
    HeaderValue.isVisible site.authority = true := by
  unfold ofSettings at hsite
  split at hsite
  · exact absurd hsite (by simp)
  · next address haddress =>
    split at hsite
    · exact absurd hsite (by simp)
    · next host hhost =>
      have hvisible := WebAddress.isVisible_host haddress host hhost
      rw [← Except.ok.inj hsite]
      dsimp only
      split
      · next number hnumber =>
        exact HeaderValue.isVisible_append (HeaderValue.isVisible_append hvisible rfl)
          (HeaderValue.isVisible_decimal number)
      · exact hvisible

end Site

/-! ## Where a request comes from -/

/-- The way a request came to the proxy, as the site is told of it. -/
structure Arrival where
  /-- The addresses it came through. -/
  addresses : String
  host : String
  scheme : String
  deriving DecidableEq, Repr

/-- The addresses are those that the request names and that can be read, or else that of the client;
the host is that of its first `host` field, if that can be read, or else that of its URI. -/
def Request.arrival (request : Request) (client : IpAddress) : Arrival :=
  let named := String.intercalate ", "
    ((request.headers.values "x-forwarded-for").filter HeaderValue.isVisible)
  let host := (request.headers.values "host").head?.filter HeaderValue.isVisible
  { addresses := if named = "" then client.render else named
    host := (host.or request.uri.authority).getD ""
    scheme := request.uri.scheme.getD "http" }

/-- The number of the port that a host is written with. -/
def Arrival.portNumber? (arrival : Arrival) : Option Nat :=
  match Authority.parse arrival.host.toList with
  | .ok authority => Authority.portNumber? authority
  | .error _ => none

/-- The value of the `forwarded` field. -/
def Arrival.forwarded (arrival : Arrival) (egress : IpAddress) : String :=
  "by=" ++ egress.render ++ ";for=" ++ arrival.addresses ++ ";host=" ++ arrival.host ++
    ";proto=" ++ arrival.scheme

/-! ## Requests for the site -/

/-- The fields that the proxy writes on the way to the site. -/
def writtenFields : List String := Headers.forwardingNames ++ ["host"]

/-- The head `after` is that of the request to the site, made from the head `before`. -/
structure Site.IsReady (site : Site) (client egress : IpAddress) (target : Target)
    (before after : RequestParts) : Prop where
  method : after.request.method = before.request.method
  uri : after.request.uri = target.uri
  attached : after.attached = some target.routing
  addresses : after.request.headers.values "x-forwarded-for" =
    [(before.request.arrival client).addresses]
  forwardedHost : after.request.headers.values "x-forwarded-host" =
    [(before.request.arrival client).host]
  scheme : after.request.headers.values "x-forwarded-proto" =
    [(before.request.arrival client).scheme]
  portNumber : after.request.headers.values "x-forwarded-port" =
    (before.request.arrival client).portNumber?.toList.map Text.decimal
  forwarded : after.request.headers.values "forwarded" =
    [(before.request.arrival client).forwarded egress]
  host : after.request.headers.values "host" = [site.authority]
  /-- No other field is touched. -/
  others : ∀ name ∉ writtenFields,
    after.request.headers.values name = before.request.headers.values name

namespace Site

variable {site : Site}

/-- A request that was given its target and its fields is ready to be sent. -/
theorem isReady_of_forward {settings : SiteSettings} (hsite : ofSettings settings = .ok site)
    {before : RequestParts} (hparts : before.request.uri.HasVisibleParts) {client : IpAddress}
    (hclient : client.IsComplete) (egress : IpAddress) (target : Target) :
    site.IsReady client egress target before
      { request :=
          { before.request with
            uri := target.uri
            headers := (before.request.headers.setForwarding before.request.host
              before.request.scheme (some client) egress).setValid "host" site.authority }
        attached := target.routing } := by
  have hauthority := HeaderValue.isValid_of_isVisible (isVisible_authority hsite)
  have hvalues (name : String) :
      (before.request.headers.setForwarding before.request.host before.request.scheme
          (some client) egress).values name =
        ((before.request.headers.forwardingStamps before.request.host before.request.scheme client
          egress).lookup name).getD (before.request.headers.values name) :=
    Headers.values_setForwarding egress hclient (Request.isVisible_host hparts)
      (Request.isVisible_scheme hparts) name
  constructor
  case method | uri | attached => rfl
  case host =>
    rw [Headers.values_setValid, if_pos ⟨rfl, hauthority⟩]
  case others =>
    intro name hname
    have hforwarding : name ∉ Headers.forwardingNames := fun hmem =>
      hname (List.mem_append_left ["host"] hmem)
    have hne : "host" ≠ name := by
      intro heq
      exact hname (heq ▸ List.mem_append_right _ (List.mem_singleton_self "host"))
    rw [Headers.values_setValid_of_ne hne, Headers.values_setForwarding_of_not_mem hforwarding]
  -- the forwarding fields are seen through the `host` field, which is set last
  all_goals
    exact (Headers.values_setValid_of_ne (by decide)).trans (hvalues _)

/-- Making a request ready changes nothing where it has no target. Where it has one, the
routing of the target is returned and attached, the URI is that of the target, each field that
tells where the request comes from has the one value that is to be told and the `host` field that
of the site, with none of the client's values beside them, and all other fields keep
their values in order. -/
theorem rewrite_outcome {settings : SiteSettings} (hsite : ofSettings settings = .ok site)
    {parts : RequestParts} {text : String} (hparts : Uri.parse text = .ok parts.request.uri)
    {client : IpAddress} (hclient : client.IsComplete) (egress : IpAddress) :
    (∀ error, site.target parts.request.uri = .error error →
      (site.rewrite (some client) egress).run.run parts = (.error error, parts)) ∧
    ∀ target, site.target parts.request.uri = .ok target →
      ∃ after, (site.rewrite (some client) egress).run.run parts = (.ok target.routing, after) ∧
        site.IsReady client egress target parts after := by
  constructor
  · intro error herror
    rw [run_rewrite, forward, herror]
  · intro target htarget
    refine ⟨_, ?_, isReady_of_forward hsite (Uri.hasVisibleParts_of_parse hparts) hclient egress
      target⟩
    rw [run_rewrite, forward, htarget]

/-! ### A client that claims to be someone else -/

/-- A request that names two addresses and one that cannot be read, and with values in all fields
of the proxy. -/
def disguisedRequest : Request :=
  { uri := { path := "/blog" }
    headers :=
      ⟨[("x-forwarded-for", "10.0.0.1"), ("accept", "text/html"), ("host", "shop.test:8443"),
        ("x-forwarded-for", "10.0.0.2\xE9"), ("x-forwarded-for", "10.0.0.3"),
        ("x-forwarded-host", "bank.test"), ("x-forwarded-proto", "https"),
        ("x-forwarded-port", "1"), ("x-forwarded-port", "2"), ("forwarded", "for=10.0.0.9"),
        ("host", "bank.test"), ("accept", "text/plain")]⟩ }

/-- Where that request goes. -/
def disguisedTarget : Target :=
  { uri := { scheme := some "http", authority := some "site.test:8080", path := "/blog" }
    path := "/blog", rawPath := "/blog", query := ""
    routing := { proxiedPath := "/blog" } }

/-- The site at the given address, with the usual settings. -/
def plainSite : Site :=
  { scheme := "http", authority := "site.test:8080", path := "/", rawPath := "/", query := ""
    separator := "/_/", appendSlash := false, index := none, aliases := [] }

/-- Of what the client claims only the addresses are left, and the host it asks for. -/
theorem rewrite_outcome_disguised :
    ofSettings { address := "http://site.test:8080" } = .ok plainSite ∧
      Uri.parse "/blog" = .ok disguisedRequest.uri ∧
      ∃ after, (plainSite.rewrite (some (.v4 0x7F000001)) (.v4 0)).run.run
          { request := disguisedRequest } = (.ok disguisedTarget.routing, after) ∧
        after.request.headers.values "x-forwarded-for" = ["10.0.0.1, 10.0.0.3"] ∧
        after.request.headers.values "x-forwarded-port" = ["8443"] ∧
        after.request.headers.values "forwarded" =
          ["by=0.0.0.0;for=10.0.0.1, 10.0.0.3;host=shop.test:8443;proto=http"] ∧
        after.request.headers.values "host" = ["site.test:8080"] ∧
        after.request.headers.values "accept" = ["text/html", "text/plain"] := by
  have hsite : ofSettings { address := "http://site.test:8080" } = .ok plainSite := by
    decide +kernel
  have huri : Uri.parse "/blog" = .ok disguisedRequest.uri := by decide +kernel
  have htarget : plainSite.target disguisedRequest.uri = .ok disguisedTarget := by decide +kernel
  have hparts : Uri.parse "/blog" = .ok (RequestParts.mk disguisedRequest none).request.uri := huri
  have hclient : IpAddress.IsComplete (.v4 0x7F000001) := trivial
  obtain ⟨-, hok⟩ := rewrite_outcome hsite hparts hclient (.v4 0)
  obtain ⟨after, hrun, hready⟩ := hok disguisedTarget htarget
  exact ⟨hsite, huri, after, hrun, hready.addresses.trans (by decide +kernel),
    hready.portNumber.trans (by decide +kernel), hready.forwarded.trans (by decide +kernel),
    hready.host, hready.others "accept" (by decide)⟩

end Site

end ComposingProxy
