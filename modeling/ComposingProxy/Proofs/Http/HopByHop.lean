import ComposingProxy.Proofs.Http.Stamps

/-!
# What belongs to a connection is taken away, and nothing else

The names of the fields to take away are read off the `connection` fields, which are taken away
with them. `OfConnection` says which fields these are: eight names always, and every name that
stands between two commas of a value that can be read, in any case and with blanks around it at
most. The names are all found before the first field goes (`mem_listedNames_iff`), so none is
missed:

> `stripHopByHop_removes`: the fields of the connection have no values afterwards, all others have
> the values that they had, in order, and a second pass changes nothing.

A second pass finds no `connection` field, so it has only the eight names to look for
(`listedNames_stripHopByHop`), and those are gone.
-/

namespace ComposingProxy

/-! ## Names between commas -/

/-- Cutting at a mark is what the library cuts. -/
theorem Text.splitAt_eq_splitOn (mark : Char) (s : List Char) :
    Text.splitAt mark s = s.splitOn mark := by
  induction s with
  | nil => rfl
  | cons c s ih =>
    rw [Text.splitAt, List.splitOn_cons_eq_if_modifyHead, ih]
    by_cases hc : c = mark
    · rw [if_pos hc, if_pos (beq_iff_eq.mpr hc)]
    · rw [if_neg hc, if_neg (by rwa [beq_iff_eq])]
      cases hparts : s.splitOn mark with
      | nil => exact absurd hparts (List.splitOn_ne_nil mark s)
      | cons part parts => rfl

namespace HeaderName

/-- The text is a field name: not empty, not too long, and all of it characters of a name. -/
structure IsName (s : List Char) : Prop where
  nonempty : s ≠ []
  short : s.length < 65536
  chars : ∀ c ∈ s, isNameChar c = true

theorem isBlank_of_isNameChar {c : Char} (h : isNameChar c = true) : Text.isBlank c = false := by
  have hmarks : ['!', '#', '$', '%', '&', '\'', '*', '+', '-', '.', '^', '_', '\x60', '|',
      '~'].all (Text.isBlank · == false) = true := by decide
  rw [isNameChar, Bool.or_eq_true] at h
  rcases h with halnum | hmark
  · have hranges := toNat_of_isAlphanum halnum
    simp only [Text.isBlank, Bool.or_eq_false_iff, Bool.and_eq_false_iff, decide_eq_false_iff_not,
      beq_eq_false_iff_ne]
    omega
  · exact beq_iff_eq.mp (List.all_eq_true.mp hmarks c (List.elem_iff.mp hmark))

/-- A field name is read from a text of name characters, and is then in small letters. -/
theorem parse?_eq_some_iff {text name : String} :
    parse? text = some name ↔ IsName text.toList ∧ name = Text.toLowerAscii text := by
  unfold parse?
  simp only [Bool.or_eq_true, List.isEmpty_iff, decide_eq_true_eq, Bool.not_eq_true',
    List.all_eq_false]
  constructor
  · intro h
    split at h
    · exact absurd h (by simp)
    · next hvalid =>
      simp only [not_or, not_exists, not_and, not_not, ge_iff_le, not_le] at hvalid
      exact ⟨⟨hvalid.1.1, hvalid.1.2, hvalid.2⟩, (Option.some.inj h).symm⟩
  · rintro ⟨hname, rfl⟩
    rw [if_neg]
    rintro ((hempty | hlong) | ⟨c, hc, hnot⟩)
    · exact hname.nonempty hempty
    · exact absurd hname.short (by omega)
    · exact hnot (hname.chars c hc)

end HeaderName

/-- Between two commas of the value, its ends counting as such, stands the name in any case, with
blanks around it at most. -/
def HeaderValue.Lists (value name : String) : Prop :=
  ∃ front written back, front ++ written ++ back ∈ value.toList.splitOn ',' ∧
    (∀ c ∈ front, Text.isBlank c = true) ∧ (∀ c ∈ back, Text.isBlank c = true) ∧
    HeaderName.IsName written ∧ name = Text.toLowerAscii (String.ofList written)

namespace Headers

/-- The names that are read from a value are those it lists. -/
theorem mem_listedIn_iff {value name : String} :
    name ∈ listedIn value ↔ HeaderValue.Lists value name := by
  rw [listedIn, Text.splitAt_eq_splitOn, List.mem_filterMap]
  constructor
  · rintro ⟨part, hpart, hparse⟩
    obtain ⟨hname, hlower⟩ := HeaderName.parse?_eq_some_iff.mp hparse
    obtain ⟨front, back, hsplit, hfront, hback⟩ := Text.exists_trim_eq part
    rw [String.toList_ofList] at hname
    exact ⟨front, Text.trim part, back, hsplit ▸ hpart, hfront, hback, hname, hlower⟩
  · rintro ⟨front, written, back, hpart, hfront, hback, hname, hlower⟩
    refine ⟨_, hpart, HeaderName.parse?_eq_some_iff.mpr ?_⟩
    rw [Text.trim_append hfront (fun c hc => HeaderName.isBlank_of_isNameChar (hname.chars c hc))
      hback, String.toList_ofList]
    exact ⟨hname, hlower⟩

variable {headers : Headers} {name : String}

/-- The listed names are those of all lines that can be read. -/
theorem mem_listedNames_iff : name ∈ headers.listedNames ↔
    ∃ value ∈ headers.values "connection", HeaderValue.isVisible value = true ∧
      HeaderValue.Lists value name := by
  rw [listedNames, List.mem_flatMap]
  simp only [visible, List.mem_filter, mem_listedIn_iff, and_assoc]

/-! ## Taking fields away -/

/-- A field of the connection that a message came over. -/
inductive OfConnection (headers : Headers) : String → Prop
  | always {name : String} (hname : name ∈ ["connection", "keep-alive", "proxy-authenticate",
      "proxy-authorization", "te", "trailer", "transfer-encoding", "upgrade"]) :
    OfConnection headers name
  | listed {value name : String} (hvalue : value ∈ headers.values "connection")
      (hvisible : HeaderValue.isVisible value = true) (hlists : HeaderValue.Lists value name) :
    OfConnection headers name

/-- The fields of the connection are those that are taken away. -/
theorem ofConnection_iff :
    headers.OfConnection name ↔ name ∈ headers.listedNames ++ connectionFields := by
  rw [List.mem_append, mem_listedNames_iff]
  constructor
  · rintro (hname | ⟨hvalue, hvisible, hlists⟩)
    · exact Or.inr hname
    · exact Or.inl ⟨_, hvalue, hvisible, hlists⟩
  · rintro (⟨value, hvalue, hvisible, hlists⟩ | hname)
    · exact .listed hvalue hvisible hlists
    · exact .always hname

/-- Taking names away one by one leaves the entries of all other names, in their order. -/
theorem entries_foldl_remove (names : List String) (headers : Headers) :
    (names.foldl remove headers).entries = headers.entries.filter (·.1 ∉ names) := by
  induction names generalizing headers with
  | nil => exact (List.filter_eq_self.mpr fun _ _ => by simp).symm
  | cons first rest ih =>
    rw [List.foldl_cons, ih, remove, List.filter_filter]
    refine List.filter_congr fun entry _ => ?_
    simp only [List.mem_cons, not_or, Bool.decide_and, Bool.and_comm, bne, decide_not,
      Bool.beq_eq_decide_eq]

/-- Nothing is listed any more. -/
theorem listedNames_stripHopByHop (headers : Headers) :
    headers.stripHopByHop.listedNames = [] := by
  have hgone : headers.stripHopByHop.values "connection" = [] := by
    rw [values_stripHopByHop, if_pos]
    exact List.mem_append_right _ (by decide)
  rw [listedNames, visible, hgone]
  rfl

/-- A second time nothing is taken away. -/
theorem stripHopByHop_stripHopByHop (headers : Headers) :
    headers.stripHopByHop.stripHopByHop = headers.stripHopByHop := by
  have hentries : headers.stripHopByHop.stripHopByHop.entries = headers.stripHopByHop.entries := by
    have hsecond : headers.stripHopByHop.stripHopByHop =
        connectionFields.foldl remove headers.stripHopByHop := by
      rw [stripHopByHop, listedNames_stripHopByHop, List.nil_append]
    rw [hsecond, entries_foldl_remove]
    -- what the first pass leaves is none of the eight
    refine List.filter_eq_self.mpr fun entry hentry => ?_
    rw [stripHopByHop, entries_foldl_remove] at hentry
    have hnot := of_decide_eq_true (List.mem_filter.mp hentry).2
    exact decide_eq_true fun hmem => hnot (List.mem_append_right _ hmem)
  exact congrArg Headers.mk hentries

/-- The fields that belong to the connection have no values left, every other field has the values
that it had, and doing it once more changes nothing. -/
theorem stripHopByHop_removes (headers : Headers) :
    (∀ name, headers.OfConnection name → headers.stripHopByHop.values name = []) ∧
    (∀ name, ¬headers.OfConnection name →
      headers.stripHopByHop.values name = headers.values name) ∧
    headers.stripHopByHop.stripHopByHop = headers.stripHopByHop := by
  refine ⟨fun name hname => ?_, fun name hname => ?_, headers.stripHopByHop_stripHopByHop⟩
  · rw [values_stripHopByHop, if_pos (ofConnection_iff.mp hname)]
  · rw [values_stripHopByHop, if_neg fun hmem => hname (ofConnection_iff.mpr hmem)]

/-- Three lines list fields, one of which cannot be read. -/
def listingFields : Headers :=
  ⟨[("connection", "X-Trace ,,b d"), ("accept", "text/html"), ("x-trace", "1"),
    ("connection", "x-über"), ("te", "gzip"), ("connection", "\tx-two"), ("x-two", "2"),
    ("accept", "*/*"), ("b", "3"), ("x-trace", "4")]⟩

theorem stripHopByHop_removes_listing :
    listingFields.OfConnection "x-trace" ∧ listingFields.OfConnection "x-two" ∧
      ¬listingFields.OfConnection "b" ∧
      listingFields.stripHopByHop.values "x-trace" = [] ∧
      listingFields.stripHopByHop.values "x-two" = [] ∧
      listingFields.stripHopByHop.values "b" = ["3"] := by
  have htrace : listingFields.OfConnection "x-trace" := ofConnection_iff.mpr (by decide +kernel)
  have htwo : listingFields.OfConnection "x-two" := ofConnection_iff.mpr (by decide +kernel)
  have hother : ¬listingFields.OfConnection "b" := fun h =>
    absurd (ofConnection_iff.mp h) (by decide +kernel)
  obtain ⟨hgone, hkept, -⟩ := stripHopByHop_removes listingFields
  exact ⟨htrace, htwo, hother, hgone _ htrace, hgone _ htwo,
    (hkept _ hother).trans (by decide +kernel)⟩

end Headers

end ComposingProxy
