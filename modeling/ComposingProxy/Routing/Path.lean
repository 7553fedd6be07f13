import ComposingProxy.Text.Search

/-!
# Joining paths and queries

Paths are joined with exactly one slash at the seam, queries with an ampersand
between two that both say something, and a directory path may be completed with
the name of its index file.
-/

namespace ComposingProxy.Routing

/-- Two paths after one another, with one slash at the seam. -/
def joinPaths (base path : String) : String :=
  match Text.endsIn '/' base, Text.beginsWith '/' path with
  | true, true => base ++ String.ofList path.toList.tail
  | false, false => base ++ "/" ++ path
  | _, _ => base ++ path

/-- Two queries after one another, with an ampersand between them if neither is empty. -/
def mergeQuery (own inbound : String) : String :=
  if own = "" then inbound
  else if inbound = "" then own
  else own ++ "&" ++ inbound

/-- A path that ends in a slash, completed with the name of the index file. -/
def appendIndex (path index : String) : String :=
  if index ≠ "" ∧ Text.endsIn '/' path = true then path ++ index else path

theorem mergeQuery_empty_left (q : String) : mergeQuery "" q = q := by simp [mergeQuery]

theorem mergeQuery_empty_right (q : String) : mergeQuery q "" = q := by
  by_cases h : q = "" <;> simp [mergeQuery, h]

end ComposingProxy.Routing
