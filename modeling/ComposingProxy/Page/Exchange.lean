import ComposingProxy.Http.Eligibility
import ComposingProxy.Http.Request
import ComposingProxy.Routing.Token

/-!
# Exchanges

What the transformers of a page know about where it comes from: the request as it went to
the site, the session of the client, and the status and fields of the response.
-/

namespace ComposingProxy

/-- What is known about the client. -/
structure Session where
  loggedIn : Bool := false
  roles : List String := []
  deriving DecidableEq, Repr

/-- Finds the session of a request by its fields. -/
abbrev Sessions := Headers → Session

/-- Nobody is logged in. -/
def Sessions.anonymous : Sessions := fun _ => {}

/-- A request as it went to the site, with what its path said and the session. -/
structure SentRequest where
  request : Request
  routing : RoutingContext := {}
  session : Session := {}
  deriving DecidableEq, Repr

/-- A request and the response to it, without their bodies. -/
structure Exchange where
  sent : SentRequest
  status : Nat
  headers : Headers
  deriving DecidableEq, Repr

/-- A response with its body. -/
structure Response where
  status : Nat := 200
  headers : Headers := {}
  body : List UInt8 := []
  deriving DecidableEq, Repr

end ComposingProxy
