import ComposingProxy.Markup.Tokenizer
import ComposingProxy.Proofs.Json.Marks

/-!
# The text of a script

Between the start tag of a script and its end tag the tokenizer gives out every
character as it stands, with two exceptions: `</script` begins the end tag, and `<!--`
begins a comment, in which end tags may count for less. A text without those
(`IsScriptText`) is read as it is written:

> `ScriptState.step`: one character more is given out or kept back, and none is lost.
-/

namespace ComposingProxy.Markup

/-! ## Texts that stand for themselves -/

/-- What a script cannot have in it: the beginnings of its end tag and of a comment. -/
def scriptMarks : List (List Char) := ["</script".toList, "<!--".toList]

/-- A text that a script can have in it as it stands. -/
structure IsScriptText (s : List Char) : Prop where
  zero : '\x00' ∉ s
  unmarked : ∀ mark ∈ scriptMarks, ¬Json.IsMarked mark s

/-- What a script cannot have in it can stand in a string of JSON only. -/
theorem isMark_of_mem_scriptMarks : ∀ mark ∈ scriptMarks, Json.IsMark mark := by
  intro mark hmark
  rcases List.mem_cons.mp hmark with rfl | hmark
  · exact Json.IsMark.of_all (by decide)
  · rw [List.mem_singleton.mp hmark]
    exact Json.IsMark.of_all (by decide)

/-- The beginning of a text for scripts is one. -/
theorem IsScriptText.of_append {front back : List Char} (h : IsScriptText (front ++ back)) :
    IsScriptText front := by
  refine ⟨fun hzero => h.zero (List.mem_append_left back hzero), fun mark hmark hfront => ?_⟩
  refine h.unmarked mark hmark (hfront.trans ?_)
  rw [List.map_append]
  exact List.infix_append' [] _ _

/-! ## What the tokenizer keeps back -/

namespace TextState

/-- A state in the text of a script, where `given` has been given out as characters and
`pending` is kept back because it may begin an end tag. -/
inductive ScriptState : List Char → List Char → TextState → Prop where
  | text (given : List Char) : ScriptState given [] (.raw .script)
  | bracket (given : List Char) : ScriptState given ['<'] (.rawTagOpen .script)
  | slash (given : List Char) : ScriptState given ['<', '/'] (.rawEndTagOpen .script)
  | name (given : List Char) (written : String) :
      ScriptState given ('<' :: '/' :: written.toList) (.rawEndTagName .script written)
  | bang (front : List Char) : ScriptState (front ++ ['<', '!']) [] .scriptCommentStart
  | dash (front : List Char) : ScriptState (front ++ ['<', '!', '-']) [] .scriptCommentStartDash

/-- A step gives out characters and keeps others back, which are those that were kept
back before and the one that was read. -/
def Continues (given pending : List Char) (c : Char) (step : TextStep) : Prop :=
  ∃ chars pending' state,
    step = { state, tokens := chars.map Token.character } ∧
      pending ++ [c] = chars ++ pending' ∧ ScriptState (given ++ chars) pending' state

/-- Where a character does not go on with what was kept back, it is read as if it came
first, and what was kept back is given out before. -/
theorem continues_rawStep (given pending : List Char) {c : Char} (hzero : c ≠ '\x00')
    (rest : List Char) :
    Continues given pending c ((rawStep .script c rest).after (pending.map Token.character)) := by
  rw [rawStep]
  by_cases hc : c = '<'
  · rw [if_pos hc, hc]
    refine ⟨pending, ['<'], .rawTagOpen .script, ?_, rfl, .bracket _⟩
    rw [TextStep.after, List.append_nil]
  · have hmend : mendZero c = c := if_neg (by rwa [beq_iff_eq])
    rw [if_neg hc, hmend]
    refine ⟨pending ++ [c], [], .raw .script, ?_, (List.append_nil _).symm, .text _⟩
    rw [TextStep.after, List.map_append]
    rfl

/-- Where nothing is kept back, a character is given out, unless it begins a tag. -/
theorem continues_rawStep_nil (given : List Char) {c : Char} (hzero : c ≠ '\x00')
    (rest : List Char) : Continues given [] c (rawStep .script c rest) :=
  continues_rawStep given [] hzero rest

/-- The name of an end tag that would end the script has not been read. -/
theorem name_ne_script {given : List Char} {written : String}
    (h : IsScriptText (given ++ '<' :: '/' :: written.toList)) :
    some "script" ≠ some (Text.toLowerAscii written) := by
  intro hname
  have hlower : written.toList.map Char.toLower = "script".toList := by
    rw [Option.some.inj hname, Text.toLowerAscii, String.toList_ofList]
  refine h.unmarked "</script".toList List.mem_cons_self ?_
  rw [Json.IsMarked, List.map_append, List.map_cons, List.map_cons, hlower]
  exact List.infix_append_of_infix_right (List.infix_refl _)

/-- One character of the text of a script. -/
theorem ScriptState.step {given pending : List Char} {state : TextState}
    (h : ScriptState given pending state) {c : Char}
    (htext : IsScriptText (given ++ pending ++ [c])) (foreign : Bool) (rest : List Char) :
    Continues given pending c (state.step (some "script") foreign c rest) := by
  have hzero : c ≠ '\x00' := by
    rintro rfl
    exact htext.zero (List.mem_append_right _ List.mem_cons_self)
  cases h with
  | text => exact continues_rawStep_nil given hzero rest
  | bracket =>
    show Continues given ['<'] c (rawTagOpenStep .script c rest)
    unfold rawTagOpenStep
    dsimp only
    by_cases hslash : c = '/'
    · -- nothing is given out yet: the bracket and the slash may belong to an end tag
      rw [if_pos hslash, hslash]
      exact ⟨[], ['<', '/'], .rawEndTagOpen .script, rfl, rfl, by simpa using .slash given⟩
    · rw [if_neg hslash]
      by_cases hbang : c = '!'
      · rw [if_pos ⟨hbang, rfl⟩, hbang]
        exact ⟨['<', '!'], [], .scriptCommentStart, rfl, rfl, .bang given⟩
      · rw [if_neg fun hboth => hbang hboth.1]
        exact continues_rawStep given ['<'] hzero rest
  | slash =>
    -- a letter begins a name
    show Continues given ['<', '/'] c (rawEndTagOpenStep .script c rest)
    unfold rawEndTagOpenStep
    split
    · refine ⟨[], ['<', '/', c], .rawEndTagName .script (String.singleton c), rfl, rfl, ?_⟩
      have hname := ScriptState.name (given ++ []) (String.singleton c)
      rwa [String.toList_singleton] at hname
    · exact continues_rawStep given ['<', '/'] hzero rest
  | name _ written =>
    -- the name read so far is not the script's, so no character ends the tag here
    have hname := name_ne_script htext.of_append
    show Continues given _ c (rawEndTagNameStep (some "script") .script written c rest)
    unfold rawEndTagNameStep
    dsimp only
    rw [if_neg fun hboth => hname hboth.1, if_neg fun hboth => hname hboth.1,
      if_neg fun hboth => hname hboth.1]
    split
    · refine ⟨[], '<' :: '/' :: (written.toList ++ [c]),
        .rawEndTagName .script (written.push c), rfl, rfl, ?_⟩
      rw [List.append_nil, ← String.toList_push]
      exact .name given (written.push c)
    · exact continues_rawStep given ('<' :: '/' :: written.toList) hzero rest
  | bang front =>
    show Continues _ [] c (scriptCommentStartStep .scriptCommentStartDash c rest)
    unfold scriptCommentStartStep
    by_cases hdash : c = '-'
    · rw [if_pos hdash, hdash]
      refine ⟨['-'], [], .scriptCommentStartDash, rfl, rfl, ?_⟩
      rw [List.append_assoc]
      exact .dash front
    · rw [if_neg hdash]
      exact continues_rawStep_nil _ hzero rest
  | dash front =>
    show Continues _ [] c (scriptCommentStartStep (.scriptDashDash false) c rest)
    unfold scriptCommentStartStep
    rw [if_neg]
    · exact continues_rawStep_nil _ hzero rest
    · -- a second dash would make it the beginning of a comment
      rintro rfl
      refine htext.unmarked "<!--".toList (List.mem_cons_of_mem _ List.mem_cons_self) ?_
      rw [Json.IsMarked, List.append_nil, List.append_assoc, List.map_append]
      exact List.infix_append_of_infix_right (List.infix_refl _)

/-- A bracket is kept back, and all before it is given out. -/
theorem ScriptState.step_bracket {given pending : List Char} {state : TextState}
    (h : ScriptState given pending state) (htext : IsScriptText (given ++ pending))
    (foreign : Bool) (rest : List Char) :
    state.step (some "script") foreign '<' rest =
      { state := .rawTagOpen .script, tokens := pending.map Token.character } := by
  cases h with
  | text | bracket | slash | bang | dash => rfl
  | name _ written =>
    have hname := name_ne_script htext
    show rawEndTagNameStep (some "script") .script written '<' rest = _
    unfold rawEndTagNameStep
    dsimp only
    rw [if_neg fun hboth => hname hboth.1, if_neg fun hboth => hname hboth.1,
      if_neg fun hboth => hname hboth.1, if_neg (by decide)]
    exact congrArg (TextStep.mk _ · 0) (List.append_nil _)

end TextState

end ComposingProxy.Markup
