import ComposingProxy.Address.Uri
import ComposingProxy.Http.Headers

/-!
# Requests

A request without its body: the method, where it goes and its fields.
-/

namespace ComposingProxy

/-- A request without its body. -/
structure Request where
  method : String := "GET"
  uri : Uri := {}
  headers : Headers := {}
  deriving DecidableEq, Repr

/-- The identifier that a request carries, for its trace. -/
def Headers.requestId (headers : Headers) : String :=
  (headers.readable? "x-request-id").getD "unknown"

/-- The value of a field under any spelling of its name; empty where there is none that can
be read. -/
def Headers.lookUp (headers : Headers) (name : String) : String :=
  ((HeaderName.parse? name).bind headers.readable?).getD ""

end ComposingProxy
