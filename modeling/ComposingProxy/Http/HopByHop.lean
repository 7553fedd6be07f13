import ComposingProxy.Http.Headers

/-!
# Fields of one connection

Some fields belong to the connection they came over and are not passed on: eight of
them always, and every one that a `connection` field lists.
-/

namespace ComposingProxy.Headers

/-- The fields that always belong to one connection. -/
def connectionFields : List String :=
  ["connection", "keep-alive", "proxy-authenticate", "proxy-authorization", "te", "trailer",
    "transfer-encoding", "upgrade"]

/-- The field names that one `connection` value lists. What is no name is passed over. -/
def listedIn (value : String) : List String :=
  (Text.splitAt ',' value.toList).filterMap fun part =>
    HeaderName.parse? (String.ofList (Text.trim part))

/-- The field names that the `connection` fields list. -/
def listedNames (headers : Headers) : List String :=
  (headers.visible "connection").flatMap listedIn

/-- The fields without those of the connection. -/
def stripHopByHop (headers : Headers) : Headers :=
  (headers.listedNames ++ connectionFields).foldl remove headers

end ComposingProxy.Headers
