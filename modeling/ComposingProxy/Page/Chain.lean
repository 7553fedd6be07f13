import ComposingProxy.Page.Metadata
import ComposingProxy.Page.Modules
import ComposingProxy.Page.Mounting
import ComposingProxy.Page.Navigation

/-!
# The chain of transformers

The transformers work on one page, one after the other in the configured order. Each is
asked first whether it wants the response; the first that fails ends the chain.
-/

namespace ComposingProxy

open Markup

/-- A transformer with what it needs. -/
inductive Transformer where
  | modules (settings : ImportMapSettings)
  | mounting (apps : List App)
  | metadata (separator : String) (settings : MetaSettings)
  /-- There may be no navigation. -/
  | navigation (items : Option Navigation)
  deriving DecidableEq, Repr

/-- Why a page cannot be composed. -/
inductive TransformError where
  /-- The body is longer than the limit. -/
  | body
  | modules (cause : ModulesError)
  deriving DecidableEq, Repr

namespace Transformer

/-- Whether a transformer wants a response. -/
def applies (transformer : Transformer) (exchange : Exchange) : Bool :=
  exchange.headers.isHtml &&
    match transformer with
    | .modules settings => settings.saysSomething
    | .mounting apps => !apps.isEmpty
    | .metadata _ _ => true
    | .navigation items => items.isSome

/-- What a transformer makes of a page. -/
def transform (transformer : Transformer) (exchange : Exchange) (doc : Document) :
    Except ModulesError Document :=
  match transformer with
  | .modules settings => settings.transform doc
  | .mounting apps => .ok (App.mountAll apps exchange.sent doc)
  | .metadata separator settings => .ok (settings.transform separator doc)
  | .navigation none => .ok doc
  | .navigation (some items) => .ok (items.transform exchange.sent.session.loggedIn doc)

/-- The transformer of a kind. -/
def ofConfig (config : Config) : TransformerKind → Except BuildError Transformer
  | .importmap => .ok (.modules config.importMap)
  | .apps => .ok (.mounting config.apps)
  | .metadata => .ok (.metadata config.site.pathSeparator config.metadata)
  | .navigation => do
    .ok (.navigation (← Navigation.compile config.navigation config.site.templatePaths))

end Transformer

/-- Transformers in the order they work. -/
structure TransformerChain where
  transformers : List Transformer := []
  deriving DecidableEq, Repr

namespace TransformerChain

/-- The chain of a configuration. -/
def ofConfig (config : Config) : Except BuildError TransformerChain := do
  .ok ⟨← config.transform.chain.mapM (Transformer.ofConfig config)⟩

/-- Whether any transformer wants a response. -/
def applies (chain : TransformerChain) (exchange : Exchange) : Bool :=
  chain.transformers.any (·.applies exchange)

/-- What is left of a page when the chain ends, and why it ended early. -/
structure Outcome where
  doc : Document
  failure : Option ModulesError := none
  deriving DecidableEq, Repr

/-- Lets transformers work on a page. -/
def runAll (exchange : Exchange) : List Transformer → Document → Outcome
  | [], doc => { doc }
  | transformer :: rest, doc =>
    if transformer.applies exchange then
      match transformer.transform exchange doc with
      | .ok doc => runAll exchange rest doc
      | .error cause => { doc, failure := some cause }
    else runAll exchange rest doc

/-- Lets the chain work on a page. -/
def run (chain : TransformerChain) (exchange : Exchange) (doc : Document) : Outcome :=
  runAll exchange chain.transformers doc

end TransformerChain

end ComposingProxy
