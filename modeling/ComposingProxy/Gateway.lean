import ComposingProxy.Page.Composer

/-!
# The gateway

From the request of a client to the response it gets: the request goes to the site with
the fields that the proxy adds, those of the connection are left out on both ways, and
the response is composed on the way back. What goes wrong is told to the client as plain
text.
-/

namespace ComposingProxy

/-- Why a gateway cannot be made from a configuration. -/
inductive GatewayError where
  | site (cause : SiteError)
  | chain (cause : BuildError)
  deriving DecidableEq, Repr

/-- The wording of an error. -/
def GatewayError.message : GatewayError → String
  | .site cause => cause.message
  | .chain cause => cause.message

/-- What a proxy needs to answer requests. -/
structure Gateway where
  site : Site
  composer : Composer
  sessions : Sessions

namespace Gateway

/-- The gateway of a configuration. -/
def ofConfig (config : Config) (sessions : Sessions) : Except GatewayError Gateway := do
  let site ← (Site.ofSettings config.site).mapError .site
  let chain ← (TransformerChain.ofConfig config).mapError .chain
  .ok
    { site
      composer := { chain, maxDocumentBytes := config.transform.maxDocumentBytes }
      sessions }

/-- The request that goes to the site for a request of a client. -/
def send (gateway : Gateway) (request : Request) (client : Option IpAddress)
    (egress : IpAddress) : Except TargetError SentRequest :=
  match gateway.site.forward request client egress with
  | .error cause => .error cause
  | .ok routed =>
    let headers := (routed.request.headers.setRouting routed.routing).stripHopByHop
    .ok
      { request := { routed.request with headers := headers.remove "accept-encoding" }
        routing := routed.routing
        session := gateway.sessions request.headers }

/-- A response of plain text. -/
def plainText (status : Nat) (text : String) : Response :=
  let body := Text.Utf8.encode text.toList
  { status
    headers :=
      ⟨[("content-type", "text/plain; charset=utf-8"),
        ("content-length", Text.decimal body.length)]⟩
    body }

/-- The response that goes to the client for a response of the site. -/
def receive (gateway : Gateway) (sent : SentRequest) (response : Response) : Response :=
  match gateway.composer.compose sent response with
  | .error _ => plainText 500 "Response transformation failed"
  | .ok response => { response with headers := response.headers.stripHopByHop }

/-- Answers a request; `ask` gives the answer of the site, if there is one. -/
def handle (gateway : Gateway) (request : Request) (client : Option IpAddress)
    (egress : IpAddress) (ask : Request → Option Response) : Response :=
  match gateway.send request client egress with
  | .error _ => plainText 500 "Invalid upstream request"
  | .ok sent =>
    match ask sent.request with
    | none => plainText 502 "Upstream request failed"
    | some response => gateway.receive sent response

end Gateway

end ComposingProxy
