import ComposingProxy.Markup.Writer
import ComposingProxy.Page.Chain

/-!
# Composing responses

A response that carries a page is read whole, its page goes through the chain, and what
comes out is sent with its length. Any other response stays as it is. Once a page is read
there is no way back: if it cannot be composed, the response fails.
-/

namespace ComposingProxy

open Markup

/-- The chain and the most bytes of a page. -/
structure Composer where
  chain : TransformerChain
  maxDocumentBytes : Nat
  deriving DecidableEq, Repr

/-- The outcome of composing a page, for the counters. -/
inductive ComposeOutcome where
  | applied
  | failed
  deriving DecidableEq, Repr

/-- The label of an outcome. -/
def ComposeOutcome.label : ComposeOutcome → String
  | .applied => "applied"
  | .failed => "failed"

/-- The name of the transformer that failed, and why; for a body, only why. -/
def TransformError.message : TransformError → String
  | .body => "failed to read upstream body: length limit exceeded"
  | .modules cause => TransformerKind.importmap.name ++ ": " ++ cause.message

namespace Composer

/-- The page of some bytes after the chain has worked on it, as bytes. -/
def composeDocument (composer : Composer) (exchange : Exchange) (bytes : List UInt8) :
    Except TransformError (List UInt8) :=
  let outcome := composer.chain.run exchange (Document.ofBytes bytes)
  match outcome.failure with
  | some cause => .error (.modules cause)
  | none => .ok (Text.Utf8.encode outcome.doc.render.toList)

/-- The response to the client for a response of the site. -/
def compose (composer : Composer) (sent : SentRequest) (response : Response) :
    Except TransformError Response :=
  if !shouldTransform sent.request.method response.status response.headers then .ok response
  else if composer.maxDocumentBytes < response.body.length then .error .body
  else
    let exchange : Exchange := { sent, status := response.status, headers := response.headers }
    match composer.composeDocument exchange response.body with
    | .error cause => .error cause
    | .ok body =>
      .ok
        { response with
          headers := response.headers.set "content-length" (Text.decimal body.length)
          body }

end Composer

end ComposingProxy
