import ComposingProxy.Address.Ip
import ComposingProxy.Http.HopByHop
import ComposingProxy.Http.Request
import ComposingProxy.Routing.Site

/-!
# Forwarding requests

What a request tells the site about the client and about the proxy: the forwarding
fields, which replace those of the client but keep the chain of addresses it came
through, and the fields that name the app that the path addresses.
-/

namespace ComposingProxy

namespace Headers

/-- The addresses that a request came through: those it names or else that of the client. -/
def forwardedFor (headers : Headers) (client : Option IpAddress) : String :=
  let named := String.intercalate ", " (headers.visible "x-forwarded-for")
  if named = "" then (client.map IpAddress.render).getD "" else named

/-- The value of the `forwarded` field. -/
def forwardedValue (egress : IpAddress) (forwardedFor host scheme : String) : String :=
  "by=" ++ egress.render ++ ";for=" ++ forwardedFor ++ ";host=" ++ host ++ ";proto=" ++ scheme

/-- The port number of a host, if the host names one. -/
def hostPortNumber? (host : String) : Option Nat :=
  match Authority.parse host.toList with
  | .ok authority => Authority.portNumber? authority
  | .error _ => none

/-- Sets the forwarding fields of a request for a host. -/
def setForwarding (headers : Headers) (host scheme : String) (client : Option IpAddress)
    (egress : IpAddress) : Headers :=
  let forwardedFor := headers.forwardedFor client
  let headers := headers.remove "x-forwarded-port"
  let headers :=
    if forwardedFor = "" then headers else headers.setValid "x-forwarded-for" forwardedFor
  let headers := headers.setValid "x-forwarded-host" host
  let headers := headers.setValid "x-forwarded-proto" scheme
  let headers :=
    match hostPortNumber? host with
    | some number => headers.setValid "x-forwarded-port" (Text.decimal number)
    | none => headers
  headers.setValid "forwarded" (forwardedValue egress forwardedFor host scheme)

/-- The field that names the addressed app. -/
def appAliasField : String := "x-kdex-proxy-app-alias"

/-- The field that holds the path inside the addressed app. -/
def appSubpathField : String := "x-kdex-proxy-app-path"

/-- Sets a field unless the value is empty or cannot be sent. -/
def setNonempty (headers : Headers) (name value : String) : Headers :=
  if value = "" then headers else headers.setValid name value

/-- Names the addressed app; what the client said of it is dropped. -/
def setRouting (headers : Headers) (routing : RoutingContext) : Headers :=
  let headers := (headers.remove appAliasField).remove appSubpathField
  (headers.setNonempty appAliasField routing.appAlias).setNonempty appSubpathField routing.subpath

end Headers

namespace Request

/-- The host that a request is for. -/
def host (request : Request) : String :=
  ((request.headers.readable? "host").or request.uri.authority).getD ""

/-- The scheme that a request came by. -/
def scheme (request : Request) : String := request.uri.scheme.getD "http"

end Request

/-- A request on its way to the site, with what its path said. -/
structure RoutedRequest where
  request : Request
  routing : RoutingContext
  deriving DecidableEq, Repr

namespace Site

/-- The request to the site for a request of a client. -/
def forward (site : Site) (request : Request) (client : Option IpAddress) (egress : IpAddress) :
    Except TargetError RoutedRequest :=
  match site.target request.uri with
  | .error error => .error error
  | .ok target =>
    let headers := request.headers.setForwarding request.host request.scheme client egress
    .ok
      { request :=
          { request with
            uri := target.uri
            headers := headers.setValid "host" site.authority }
        routing := target.routing }

end Site

/-! ## In place -/

/-- The head of a request while it is made ready for the site. -/
structure RequestParts where
  request : Request
  /-- What the path said, once that is attached for those who answer the request. -/
  attached : Option RoutingContext := none
  deriving DecidableEq, Repr

namespace Site

/-- Makes the head of a client's request that of the request to the site, step by step. Where the
request goes is found out before anything is changed. -/
def rewrite (site : Site) (client : Option IpAddress) (egress : IpAddress) :
    ExceptT TargetError (StateM RequestParts) RoutingContext := do
  let inbound := (← get).request
  let target ← site.target inbound.uri
  let changeHeaders (change : Headers → Headers) : StateM RequestParts Unit :=
    modify fun parts =>
      { parts with request := { parts.request with headers := change parts.request.headers } }
  changeHeaders (·.setForwarding inbound.host inbound.scheme client egress)
  changeHeaders (·.setValid "host" site.authority)
  modify fun parts => { parts with request := { parts.request with uri := target.uri } }
  modify fun parts => { parts with attached := some target.routing }
  return target.routing

end Site

end ComposingProxy
