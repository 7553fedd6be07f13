import ComposingProxy.Config.Basic
import ComposingProxy.Markup.Edit

/-!
# Metadata of a page

What the code in a page has to know about the proxy stands in an element at the end of
its head.
-/

namespace ComposingProxy.MetaSettings

open Markup

/-- The attributes of the element. -/
def attrs (settings : MetaSettings) (separator : String) : List (String × String) :=
  [("name", "kdex-ui"),
    ("data-path-separator", separator),
    ("data-login-path", settings.loginPath),
    ("data-login-label", settings.loginLabel),
    ("data-login-css-query", settings.loginCssQuery),
    ("data-logout-path", settings.logoutPath),
    ("data-logout-label", settings.logoutLabel),
    ("data-logout-css-query", settings.logoutCssQuery),
    ("data-state-endpoint", settings.stateEndpoint),
    ("data-check-batch-endpoint", settings.checkBatchEndpoint),
    ("data-check-single-endpoint", settings.checkSingleEndpoint)]

/-- Puts the element into a page that has a head. -/
def transform (settings : MetaSettings) (separator : String) (doc : Document) : Document :=
  match doc.head? with
  | none => doc
  | some head =>
    let (element, doc) := doc.createElement "meta" (settings.attrs separator)
    doc.appendChild head element

end ComposingProxy.MetaSettings
