import ComposingProxy.Routing.Token

/-!
# Routing tokens and the paths that carry them

A page, an alias and a path inside the app are written into one path with a separator between
the page and the alias (`RoutingContext.path`). Reading such a path back gives them again, as
long as nothing in them can be taken for what divides them (`RoutingContext.IsCarried`):

> `RoutingContext.decode_carries`: a path with a separator is read into parts that are carried
> and that it is written of, and all such parts are read back from the path they are written
> as; a path without a separator is all page.

What makes this work for separators that overlap themselves is that the first separator of a
path is the first one in the page and the separator alone, whatever comes after these
(`Text.cut?_eq_some_iff`).
-/

namespace ComposingProxy.RoutingContext

/-- The path that carries a page, an alias and a path inside the app. -/
def path (separator : String) (context : RoutingContext) : String :=
  context.proxiedPath ++ separator ++ context.appAlias ++ context.subpath

/-- The parts can be told apart in the path that carries them. -/
structure IsCarried (separator : String) (context : RoutingContext) : Prop where
  /-- In the page, with the separator after it, the separator stands only at the end. -/
  page : ∀ before after, context.proxiedPath ++ separator = before ++ separator ++ after →
    after = ""
  appAlias : '/' ∉ context.appAlias.toList
  subpath : context.subpath = "" ∨ ∃ rest, context.subpath = "/" ++ rest

/-! ## Alias and path inside the app -/

/-- What follows a separator, cut into an alias and a path that begins with the slash. -/
def cutToken (token : String) : String × String :=
  match Text.cut? "/" token with
  | some (name, rest) => (name, "/" ++ rest)
  | none => (token, "")

/-- A slash stands only at the end exactly where there is none before it. -/
theorem slash_at_end_iff {name : String} :
    (∀ before after, name ++ "/" = before ++ "/" ++ after → after = "") ↔ '/' ∉ name.toList := by
  constructor
  · intro h hslash
    obtain ⟨before, after, hname⟩ := List.append_of_mem hslash
    have hsplit : name ++ "/" = String.ofList before ++ "/" ++ String.ofList (after ++ ['/']) := by
      apply String.toList_inj.1
      simp [hname]
    have hempty := congrArg String.toList (h _ _ hsplit)
    simp at hempty
  · intro h before after hsplit
    have hlist := congrArg String.toList hsplit
    simp only [String.toList_append] at hlist
    rcases List.eq_nil_or_concat after.toList with hnil | ⟨init, last, hlast⟩
    · exact String.toList_inj.1 hnil
    · -- the last character goes from both sides, and the slash of the right side is in `name`
      rw [hlast, List.concat_eq_append, ← List.append_assoc] at hlist
      have hinit := (List.append_inj' hlist rfl).1
      exact absurd (by rw [hinit]; simp) h

/-- A token is cut in front of its first slash, or at its end. -/
theorem cutToken_eq_iff {token name sub : String} :
    cutToken token = (name, sub) ↔ token = name ++ sub ∧ '/' ∉ name.toList ∧
      (sub = "" ∨ ∃ rest, sub = "/" ++ rest) := by
  unfold cutToken
  constructor
  · intro h
    split at h
    · next hcut =>
      obtain ⟨hname, hsub⟩ := Prod.mk.inj h
      obtain ⟨htoken, hfirst⟩ := Text.cut?_eq_some_iff.1 hcut
      subst hname hsub
      exact ⟨htoken.trans String.append_assoc, slash_at_end_iff.1 hfirst, .inr ⟨_, rfl⟩⟩
    · next hcut =>
      obtain ⟨hname, hsub⟩ := Prod.mk.inj h
      subst hname hsub
      refine ⟨String.append_empty.symm, fun hslash => ?_, .inl rfl⟩
      obtain ⟨before, after, htoken⟩ := List.append_of_mem hslash
      refine Text.cut?_eq_none_iff.1 hcut (String.ofList before) (String.ofList after) ?_
      apply String.toList_inj.1
      simp [htoken]
  · rintro ⟨rfl, hname, rfl | ⟨rest, rfl⟩⟩
    · have hcut : Text.cut? "/" (name ++ "") = none := by
        refine Text.cut?_eq_none_iff.2 fun before after h => hname ?_
        rw [String.append_empty] at h
        rw [h]
        simp
      rw [hcut, String.append_empty]
    · have hcut : Text.cut? "/" (name ++ ("/" ++ rest)) = some (name, rest) :=
        Text.cut?_eq_some_iff.2 ⟨String.append_assoc.symm, slash_at_end_iff.2 hname⟩
      rw [hcut]

/-! ## Reading -/

/-- What is read from a path with a separator. -/
theorem decode_of_cut? {separator page token path : String} (hseparator : separator ≠ "")
    (h : Text.cut? separator path = some (page, token)) (appendSlash : Bool) :
    decode separator appendSlash path =
      { proxiedPath := if appendSlash then withFinalSlash page else page
        appAlias := (cutToken token).1
        subpath := (cutToken token).2 } := by
  simp only [decode, RoutingToken.cut, if_neg hseparator, h, cutToken]
  cases Text.cut? "/" token <;> rfl

/-- Parts that are carried are read back. -/
theorem decode_path {separator : String} (hseparator : separator ≠ "") {context : RoutingContext}
    (h : context.IsCarried separator) :
    decode separator false (context.path separator) = context := by
  have hcut : Text.cut? separator (context.path separator) =
      some (context.proxiedPath, context.appAlias ++ context.subpath) :=
    Text.cut?_eq_some_iff.2 ⟨String.append_assoc, h.page⟩
  have htoken := cutToken_eq_iff.2 ⟨rfl, h.appAlias, h.subpath⟩
  rw [decode_of_cut? hseparator hcut, htoken]
  rfl

/-- What is read from a path with a separator is carried, and the path is written of it. -/
theorem isCarried_decode {separator page token path : String} (hseparator : separator ≠ "")
    (h : Text.cut? separator path = some (page, token)) :
    (decode separator false path).IsCarried separator ∧
      (decode separator false path).path separator = path := by
  obtain ⟨hpath, hfirst⟩ := Text.cut?_eq_some_iff.1 h
  obtain ⟨name, sub, hparts⟩ : ∃ name sub, cutToken token = (name, sub) := ⟨_, _, rfl⟩
  obtain ⟨htoken, hname, hsub⟩ := cutToken_eq_iff.1 hparts
  rw [decode_of_cut? hseparator h, hparts]
  refine ⟨⟨hfirst, hname, hsub⟩, ?_⟩
  show page ++ separator ++ name ++ sub = path
  rw [String.append_assoc, ← htoken, ← hpath]

/-- With a separator that is not empty, the paths in which it stands are those that carry parts,
and reading and writing are inverse to each other. A page may be made to end in a slash, and then
nothing else changes. Every other path, and every path if the separator is empty, is all page. -/
theorem decode_carries (separator : String) :
    (separator ≠ "" →
      (∀ path, (∃ before after, path = before ++ separator ++ after) →
        (decode separator false path).IsCarried separator ∧
          (decode separator false path).path separator = path ∧
          decode separator true path =
            { decode separator false path with
              proxiedPath :=
                let page := (decode separator false path).proxiedPath
                if Text.endsIn '/' page = true then page else page ++ "/" }) ∧
      ∀ context : RoutingContext, context.IsCarried separator →
        decode separator false (context.path separator) = context) ∧
    ∀ path, separator = "" ∨ (¬∃ before after, path = before ++ separator ++ after) →
      ∀ appendSlash, decode separator appendSlash path = ⟨path, "", ""⟩ := by
  refine ⟨fun hseparator => ⟨fun path hpath => ?_, fun context => decode_path hseparator⟩, ?_⟩
  · cases hcut : Text.cut? separator path with
    | none =>
      obtain ⟨before, after, hpath⟩ := hpath
      exact absurd hpath (Text.cut?_eq_none_iff.1 hcut before after)
    | some parts =>
      obtain ⟨hcarried, hwritten⟩ := isCarried_decode hseparator hcut
      refine ⟨hcarried, hwritten, ?_⟩
      rw [decode_of_cut? hseparator hcut, decode_of_cut? hseparator hcut]
      rfl
  · intro path hpath appendSlash
    rcases hpath with hempty | hpath
    · simp [decode, RoutingToken.cut, hempty]
    · refine decode_of_cut?_eq_none (Text.cut?_eq_none_iff.2 fun before after h => ?_)
      exact hpath ⟨before, after, h⟩

/-- The separator overlaps itself behind the page, and stands in the path inside the app, too. -/
theorem decode_carries_overlapping :
    (⟨"/a", "_", "/_/b/_/c"⟩ : RoutingContext).IsCarried "/_/" ∧
      decode "/_/" false "/a/_/_/_/b/_/c" = ⟨"/a", "_", "/_/b/_/c"⟩ := by
  have hcut : Text.cut? "/_/" "/a/_/_/_/b/_/c" = some ("/a", "_/_/b/_/c") := by decide
  have hcarried : (⟨"/a", "_", "/_/b/_/c"⟩ : RoutingContext).IsCarried "/_/" :=
    ⟨(Text.cut?_eq_some_iff.1 hcut).2, by decide, .inr ⟨"_/b/_/c", rfl⟩⟩
  exact ⟨hcarried, ((decode_carries "/_/").1 (by decide)).2 _ hcarried⟩

end ComposingProxy.RoutingContext
