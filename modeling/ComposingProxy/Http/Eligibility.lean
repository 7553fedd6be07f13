import ComposingProxy.Http.Headers

/-!
# Which responses are composed

A response is composed when it carries a page that can be read: HTML that is neither
sent in chunks nor encoded, in answer to a method and with a status that have a body.
-/

namespace ComposingProxy

namespace Headers

/-- Whether a text holds another one. -/
def holds (marker text : String) : Bool := (Text.cut? marker text).isSome

/-- Whether the content is said to be HTML. -/
def isHtml (headers : Headers) : Bool :=
  (headers.visible "content-type").any (holds "text/html")

/-- Whether the body comes in chunks. -/
def isChunked (headers : Headers) : Bool :=
  (headers.visible "transfer-encoding").any fun value => holds "chunked" (Text.toLowerAscii value)

/-- Whether the body is a page as far as these fields tell: HTML and not in chunks. -/
def isTransformable (headers : Headers) : Bool := headers.isHtml && !headers.isChunked

/-- The encoding of the content, if it has one. -/
def contentEncoding? (headers : Headers) : Option String :=
  ((headers.readable? "content-encoding").map Text.trimText).filter fun value =>
    value != "" && !Text.eqIgnoringCase value.toList "identity".toList

end Headers

/-- Whether responses of a status have a body. -/
def statusHasBody (status : Nat) : Bool :=
  !(100 ≤ status && status < 200) && status != 204 && status != 304

/-- Whether the response to a request is composed. -/
def shouldTransform (method : String) (status : Nat) (headers : Headers) : Bool :=
  method != "HEAD" && statusHasBody status && headers.isTransformable &&
    headers.contentEncoding?.isNone

end ComposingProxy
