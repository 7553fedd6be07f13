import ComposingProxy.Text.Search

/-!
# Routing tokens

A routed path is a page, and after a separator the alias of an app with the path
inside that app:

    page  [ separator  alias  [ "/" app path ] ]

`RoutingToken.cut` finds these parts and `RoutingContext.decode` reads what a
request carries. Reading is total: a path without the separator has no token.
-/

namespace ComposingProxy

/-- What the path of a request says about the page and the app it addresses. -/
structure RoutingContext where
  /-- The page. -/
  proxiedPath : String := ""
  /-- The alias of the addressed app; empty when the path carries no token. -/
  appAlias : String := ""
  /-- The path inside the app; empty or beginning with a slash. -/
  subpath : String := ""
  deriving DecidableEq, Repr, Inhabited

/-- Whether the path carried a token with an alias. -/
def RoutingContext.hasApp (context : RoutingContext) : Bool := context.appAlias != ""

/-- A path cut at its first separator. -/
structure RoutingToken where
  /-- The part before the separator, or the whole path when there is none. -/
  page : String
  /-- The alias, and what follows the slash that ends it, if a slash does. -/
  app : Option (String × Option String)
  deriving DecidableEq, Repr

/-- `s` ending in a slash: as it stands if it does, else with one more. -/
def withFinalSlash (s : String) : String := if Text.endsIn '/' s then s else s ++ "/"

/-- Cuts a path at the first separator. With `appendSlash`, the page of a path that
carries a token ends in a slash. An empty separator never cuts. -/
def RoutingToken.cut (separator : String) (appendSlash : Bool) (path : String) : RoutingToken :=
  if separator = "" then ⟨path, none⟩
  else
    match Text.cut? separator path with
    | none => ⟨path, none⟩
    | some (page, token) =>
      { page := if appendSlash then withFinalSlash page else page
        app := some <|
          match Text.cut? "/" token with
          | some (name, rest) => (name, some rest)
          | none => (token, none) }

/-- The routing context of a path. -/
def RoutingContext.decode (separator : String) (appendSlash : Bool) (path : String) :
    RoutingContext :=
  let token := RoutingToken.cut separator appendSlash path
  match token.app with
  | none => { proxiedPath := path }
  | some (name, rest) =>
    { proxiedPath := token.page
      appAlias := name
      subpath := match rest with
        | some rest => "/" ++ rest
        | none => "" }

/-- Without a separator in it, a path is the page and addresses no app. -/
theorem RoutingContext.decode_of_cut?_eq_none {separator path : String} {appendSlash : Bool}
    (h : Text.cut? separator path = none) :
    decode separator appendSlash path = { proxiedPath := path } := by
  simp [decode, RoutingToken.cut, h]

end ComposingProxy
