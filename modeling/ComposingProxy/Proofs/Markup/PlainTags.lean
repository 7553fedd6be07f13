import ComposingProxy.Markup.Reader

/-!
# Reading tags without attributes

A name of small letters between brackets is read as a tag of that name, and nothing in it as
anything else:

> `Reading.readText_startTag`, `Reading.readText_endTag`: what such a tag does to a reading is what
> its token does to the page.

An end tag is one in raw text too, if the start tag that was read last had its name.
-/

namespace ComposingProxy.Markup

namespace Reading

variable {reading : Reading} {c : Char} {rest : List Char}

/-- The same reading in another state. -/
def inState (reading : Reading) (state : TextState) : Reading := { reading with state }

theorem inState_self (reading : Reading) {state : TextState} (h : reading.state = state) :
    reading.inState state = reading := by
  rw [← h]
  rfl

/-- A step takes its tokens and goes on behind what it has taken, unless reading pauses. -/
theorem readText_step (hruns : reading.pausing = false) {state : TextState} {step : TextStep}
    (hstep : state.step reading.opened reading.isForeign c rest = step)
    (hgoes : ((reading.inState step.state).takeAll step.tokens).pausing = false) :
    (reading.inState state).readText 0 (c :: rest) =
      ((reading.inState step.state).takeAll step.tokens).readText step.taken rest := by
  have hsame : ({ reading.inState state with state := step.state, pausing := false } : Reading) =
      reading.inState step.state :=
    congrArg (fun pausing => ({ reading with state := step.state, pausing } : Reading)) hruns.symm
  have hfirst : (reading.inState state).state.step (reading.inState state).opened
      (reading.inState state).isForeign c rest = step := hstep
  rw [readText, readCharacter, hfirst]
  dsimp only
  rw [hsame, isMarked, hgoes]
  rfl

/-- A step without tokens only changes the state. -/
theorem readText_quiet (hruns : reading.pausing = false) (state next : TextState)
    (hstep : state.step reading.opened reading.isForeign c rest = { state := next }) :
    (reading.inState state).readText 0 (c :: rest) = (reading.inState next).readText 0 rest :=
  readText_step hruns hstep hruns

/-- Characters that are skipped are passed over. -/
theorem readText_skip (reading : Reading) (front rest : List Char) :
    reading.readText front.length (front ++ rest) = reading.readText 0 rest := by
  induction front with
  | nil => rfl
  | cons c front ih => exact ih

end Reading

/-! ## Names of small letters -/

/-- A name of one small letter or more. -/
structure IsPlainName (name : String) : Prop where
  ne_empty : name ≠ ""
  small : ∀ c ∈ name.toList, c.isLower = true

instance (name : String) : Decidable (IsPlainName name) :=
  decidable_of_iff (name ≠ "" ∧ name.toList.all Char.isLower = true)
    ⟨fun h => ⟨h.1, List.all_eq_true.mp h.2⟩, fun h => ⟨h.1, List.all_eq_true.mpr h.2⟩⟩

/-- A name is a first letter, from which the tokenizer makes it, and the letters that are
gathered. -/
theorem IsPlainName.exists_cons {name : String} (h : IsPlainName name) :
    ∃ c cs, name.toList = c :: cs ∧ name = String.singleton c ++ String.ofList cs ∧
      c.isLower = true ∧ ∀ c ∈ cs, c.isLower = true := by
  obtain ⟨c, cs, hname⟩ := List.exists_cons_of_ne_nil fun hnil =>
    h.ne_empty (String.toList_eq_nil_iff.mp hnil)
  have hall := hname ▸ h.small
  refine ⟨c, cs, hname, ?_, hall c List.mem_cons_self, fun d hd =>
    hall d (List.mem_cons_of_mem c hd)⟩
  rw [← String.ofList_cons, ← hname, String.ofList_toList]

section Letters

variable {c : Char}

theorem ne_of_isLower (h : c.isLower = true) {d : Char} (hd : d.isLower = false) : c ≠ d := by
  rintro rfl
  exact absurd (h.symm.trans hd) (by decide)

theorem isAlpha_of_isLower (h : c.isLower = true) : c.isAlpha = true :=
  Bool.or_eq_true_iff.mpr (.inr h)

theorem toLower_of_isLower (h : c.isLower = true) : c.toLower = c := by
  have hrange : (decide (97 ≤ c.val) && decide (c.val ≤ 122)) = true := h
  rw [Bool.and_eq_true, decide_eq_true_eq, decide_eq_true_eq] at hrange
  exact dif_neg fun hcapital => absurd (UInt32.le_trans hrange.1 hcapital.2) (by decide)

/-- A small letter is no zero, so it is not replaced. -/
theorem mendZero_of_isLower (h : c.isLower = true) : TextState.mendZero c = c :=
  if_neg (by simpa using ne_of_isLower h (d := '\x00') (by decide))

theorem isSeparator_of_isLower (h : c.isLower = true) : isSeparator c = false := by
  simp only [isSeparator, Bool.or_eq_false_iff, beq_eq_false_iff_ne]
  exact ⟨⟨⟨⟨ne_of_isLower h (by decide), ne_of_isLower h (by decide)⟩,
    ne_of_isLower h (by decide)⟩, ne_of_isLower h (by decide)⟩, ne_of_isLower h (by decide)⟩

end Letters

/-! ## Names in tags -/

/-- A start tag without attributes in front of a text. -/
def withStartTag (name : String) (rest : List Char) : List Char := '<' :: name.toList ++ '>' :: rest

/-- An end tag in front of a text. -/
def withEndTag (name : String) (rest : List Char) : List Char :=
  '<' :: '/' :: name.toList ++ '>' :: rest

/-- What stands behind a start tag is part of its rest. -/
theorem withStartTag_append (name : String) (front back : List Char) :
    withStartTag name front ++ back = withStartTag name (front ++ back) := by
  simp only [withStartTag, List.append_assoc, List.cons_append]

theorem withEndTag_append (name : String) (front back : List Char) :
    withEndTag name front ++ back = withEndTag name (front ++ back) := by
  simp only [withEndTag, List.append_assoc, List.cons_append]

namespace TextState

/-- In the name of a tag without attributes. -/
def inName (isEnd : Bool) (name : String) : TextState := .tagName { isEnd, tag := { name } }

/-- In the first state a letter begins a name, which is gathered in the others. -/
def Opens (first : TextState) (state : String → TextState) : Prop :=
  ∀ {c : Char}, c.isLower = true → ∀ opened foreign rest,
    first.step opened foreign c rest = { state := state (String.singleton c) }

/-- Behind `<` a letter begins the name of a start tag. -/
theorem opens_tagOpen : Opens .tagOpen (inName false) := by
  intro c h opened foreign rest
  show tagOpenStep foreign c rest = _
  rw [tagOpenStep, if_neg (ne_of_isLower h (by decide)), if_neg (ne_of_isLower h (by decide)),
    if_neg (ne_of_isLower h (by decide)), if_pos (isAlpha_of_isLower h), beginTag,
    toLower_of_isLower h]
  rfl

/-- Behind `</` a letter begins the name of an end tag. -/
theorem opens_endTagOpen : Opens .endTagOpen (inName true) := by
  intro c h opened foreign rest
  show endTagOpenStep c = _
  rw [endTagOpenStep, if_neg (ne_of_isLower h (by decide)), if_pos (isAlpha_of_isLower h),
    beginTag, toLower_of_isLower h]
  rfl

/-- Behind `</` in raw text a letter begins what may be the name of an end tag. -/
theorem opens_rawEndTagOpen (kind : RawKind) :
    Opens (.rawEndTagOpen kind) (.rawEndTagName kind) := by
  intro c h opened foreign rest
  show rawEndTagOpenStep kind c rest = _
  rw [rawEndTagOpenStep, if_pos (isAlpha_of_isLower h)]

/-- In these states the letters of a name are gathered. -/
def Gathers (state : String → TextState) : Prop :=
  ∀ {c : Char}, c.isLower = true → ∀ opened foreign rest s,
    (state s).step opened foreign c rest = { state := state (s.push c) }

/-- The letters of the name of a tag are gathered. -/
theorem gathers_inName (isEnd : Bool) : Gathers (inName isEnd) := by
  intro c h opened foreign rest s
  show tagNameStep _ c = _
  rw [tagNameStep, isSeparator_of_isLower h, if_neg Bool.false_ne_true,
    if_neg (ne_of_isLower h (by decide)), if_neg (ne_of_isLower h (by decide)),
    toLower_of_isLower h, mendZero_of_isLower h]
  rfl

theorem gathers_rawEndTagName (kind : RawKind) : Gathers (.rawEndTagName kind) := by
  intro c h opened foreign rest s
  show rawEndTagNameStep opened kind s c rest = _
  unfold rawEndTagNameStep
  dsimp only
  rw [if_neg fun hends => absurd (hends.2.symm.trans (isSeparator_of_isLower h)) (by decide),
    if_neg fun hends => ne_of_isLower h (by decide) hends.2,
    if_neg fun hends => ne_of_isLower h (by decide) hends.2, if_pos (isAlpha_of_isLower h)]

end TextState

namespace Reading

open TextState (inName)

variable {reading : Reading} {name : String}

/-- The letters of a name are gathered in the state. -/
theorem readText_letters (hruns : reading.pausing = false) {state : String → TextState}
    (hstate : TextState.Gathers state) {cs : List Char} (hcs : ∀ c ∈ cs, c.isLower = true)
    (s : String) (rest : List Char) :
    (reading.inState (state s)).readText 0 (cs ++ rest) =
      (reading.inState (state (s ++ String.ofList cs))).readText 0 rest := by
  induction cs generalizing s with
  | nil => rw [String.ofList_nil, String.append_empty, List.nil_append]
  | cons c cs ih =>
    have hname : s ++ String.ofList (c :: cs) = s.push c ++ String.ofList cs := by
      rw [String.ofList_cons, ← String.append_assoc, String.append_singleton]
    rw [hname, ← ih (fun d hd => hcs d (List.mem_cons_of_mem c hd)) (s.push c), List.cons_append]
    exact readText_quiet hruns _ _ (hstate (hcs c List.mem_cons_self) _ _ _ s)

/-- A name is gathered from its first letter on. -/
theorem readText_name (hruns : reading.pausing = false) {first : TextState}
    {state : String → TextState} (hfirst : TextState.Opens first state)
    (hstate : TextState.Gathers state) (hname : IsPlainName name) (rest : List Char) :
    (reading.inState first).readText 0 (name.toList ++ rest) =
      (reading.inState (state name)).readText 0 rest := by
  obtain ⟨c, cs, hchars, hwhole, hc, hcs⟩ := hname.exists_cons
  rw [hchars, List.cons_append, readText_quiet hruns first _ (hfirst hc _ _ _), hwhole]
  exact readText_letters hruns hstate hcs _ _

/-- The reading after a tag, behind which text among tags begins. -/
def takeTag (reading : Reading) (token : Token) : Reading := (reading.inState .data).take token

/-- A tag ends with its bracket. -/
theorem readText_tagEnd (hruns : reading.pausing = false) (isEnd : Bool)
    (hgoes : (reading.takeTag (if isEnd then .endTag { name } else .startTag { name })).pausing =
      false) (rest : List Char) :
    (reading.inState (inName isEnd name)).readText 0 ('>' :: rest) =
      (reading.takeTag (if isEnd then .endTag { name } else .startTag { name })).readText 0
        rest := by
  have hstep : ∀ opened foreign, (inName isEnd name).step opened foreign '>' rest =
      { state := .data, tokens := [if isEnd then .endTag { name } else .startTag { name }] } := by
    cases isEnd <;> exact fun _ _ => rfl
  exact readText_step hruns (hstep _ _) hgoes

/-- A start tag among text. -/
theorem readText_startTag (reading : Reading) (hstate : reading.state = .data)
    (hruns : reading.pausing = false) (hname : IsPlainName name)
    (hgoes : (reading.takeTag (.startTag { name })).pausing = false) (rest : List Char) :
    reading.readText 0 (withStartTag name rest) =
      (reading.takeTag (.startTag { name })).readText 0 rest := by
  conv => lhs; rw [← reading.inState_self hstate]
  rw [withStartTag, List.cons_append, readText_quiet hruns .data .tagOpen rfl,
    readText_name hruns TextState.opens_tagOpen (TextState.gathers_inName false) hname]
  exact readText_tagEnd hruns false hgoes rest

/-- An end tag among text. -/
theorem readText_endTag (reading : Reading) (hstate : reading.state = .data)
    (hruns : reading.pausing = false) (hname : IsPlainName name)
    (hgoes : (reading.takeTag (.endTag { name })).pausing = false) (rest : List Char) :
    reading.readText 0 (withEndTag name rest) =
      (reading.takeTag (.endTag { name })).readText 0 rest := by
  conv => lhs; rw [← reading.inState_self hstate]
  rw [withEndTag, List.cons_append, List.cons_append,
    readText_quiet hruns .data .tagOpen rfl, readText_quiet hruns .tagOpen .endTagOpen rfl,
    readText_name hruns TextState.opens_endTagOpen (TextState.gathers_inName true) hname]
  exact readText_tagEnd hruns true hgoes rest

/-- The end tag of raw text with references. -/
theorem readText_rawEndTag (hstate : reading.state = .raw .escapable)
    (hopened : reading.opened = some name) (hruns : reading.pausing = false)
    (hname : IsPlainName name) (hgoes : (reading.takeTag (.endTag { name })).pausing = false)
    (rest : List Char) :
    reading.readText 0 (withEndTag name rest) =
      (reading.takeTag (.endTag { name })).readText 0 rest := by
  have hlower : Text.toLowerAscii name = name := by
    rw [Text.toLowerAscii, List.map_congr_left fun d hd => toLower_of_isLower (hname.small d hd),
      List.map_id', String.ofList_toList]
  have hlast : ∀ foreign, (TextState.rawEndTagName .escapable name).step reading.opened foreign '>'
      rest = { state := .data, tokens := [.endTag { name }] } := by
    intro foreign
    show TextState.rawEndTagNameStep _ _ _ _ _ = _
    unfold TextState.rawEndTagNameStep
    dsimp only
    rw [hlower, if_neg fun h => absurd h.2 (by decide), if_neg fun h => absurd h.2 (by decide),
      if_pos ⟨hopened, rfl⟩]
    rfl
  conv => lhs; rw [← reading.inState_self hstate]
  rw [withEndTag, List.cons_append, List.cons_append,
    readText_quiet hruns (.raw .escapable) (.rawTagOpen .escapable) rfl,
    readText_quiet hruns (.rawTagOpen .escapable) (.rawEndTagOpen .escapable) rfl,
    readText_name hruns (TextState.opens_rawEndTagOpen .escapable)
      (TextState.gathers_rawEndTagName .escapable) hname]
  exact readText_step hruns (hlast _) hgoes

end Reading

end ComposingProxy.Markup
