import ComposingProxy.Text.Search

/-!
# Template aliases

A page path may be an alias for a template of the site: a known beginning
is replaced by another one. Aliases are tried in order and the first that fits is
taken; one slash at the end of the path plays no part in it.
-/

namespace ComposingProxy.Routing

/-- A beginning of page paths and what stands for it on the site. -/
structure TemplateAlias where
  /-- The beginning that is replaced. -/
  href : String
  /-- What replaces it. -/
  template : String
  deriving DecidableEq, Repr

/-- The path with its beginning replaced, if it begins as the alias says. -/
def TemplateAlias.resolve? (entry : TemplateAlias) (path : String) : Option String :=
  (Text.stripPrefix? entry.href path).map (entry.template ++ ·)

/-- The path as the first alias that fits changes it; its final slash plays no part. -/
def resolveFirst? (aliases : List TemplateAlias) (path : String) : Option String :=
  aliases.findSome? (·.resolve? (Text.dropLastOf '/' path))

/-- An alias applies exactly to the paths that continue its beginning. -/
theorem TemplateAlias.resolve?_append (entry : TemplateAlias) (rest : String) :
    entry.resolve? (entry.href ++ rest) = some (entry.template ++ rest) := by
  simp [resolve?, Text.stripPrefix?_eq_some_iff.2 rfl]

end ComposingProxy.Routing
