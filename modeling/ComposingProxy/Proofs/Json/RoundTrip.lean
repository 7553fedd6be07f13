import ComposingProxy.Json.Reader
import ComposingProxy.Proofs.Json.Strings

/-!
# Texts and objects of JSON and back

Values made of strings and objects alone read back as they were written:

> `parse?_render`: reading the text of such a value gives the value.

The reader is run on the text directly (`runText`): it takes one lexeme at a time
(`runText_cons`), and behind the text of a value it stands where `place` puts the value
(`runText_write`). That is an induction over the value and, within an object, over the fields that
are still to come, with the ones already read in the innermost frame.
-/

namespace ComposingProxy.Json

/-- A value made of strings and objects. -/
inductive IsTextual : Json → Prop
  | string (text : String) : IsTextual (.string text)
  | object {fields : List (String × Json)} (h : ∀ field ∈ fields, IsTextual field.2) :
    IsTextual (.object fields)

/-! ## Reading a text -/

/-- Runs the reader over the lexemes of a text. -/
def runText (phase : Phase) (frames : List Frame) (s : List Char) : Option Json :=
  (lexemes s).bind (run phase frames)

/-- The lexemes of a text are the first one and those of what it leaves. -/
theorem lexemes_cons {c : Char} {s after : List Char} {lexeme : Lexeme}
    (hblank : isBlank c = false) (hcut : cutLexeme c s = some (lexeme, after)) :
    lexemes (c :: s) = (lexemes after).map (lexeme :: ·) := by
  rw [lexemes, if_neg (by rw [hblank]; exact Bool.false_ne_true)]
  split
  · next hnone => rw [hcut] at hnone; exact absurd hnone (by simp)
  · next hsome =>
    rw [hcut] at hsome
    obtain ⟨rfl, rfl⟩ := Prod.mk.inj (Option.some.inj hsome)
    rfl

/-- One lexeme is one step. -/
theorem runText_cons {phase : Phase} {frames : List Frame} {c : Char} {s after : List Char}
    {lexeme : Lexeme} {next : Phase × List Frame} (hblank : isBlank c = false)
    (hcut : cutLexeme c s = some (lexeme, after))
    (hstep : step phase frames lexeme = some next) :
    runText phase frames (c :: s) = runText next.1 next.2 after := by
  rw [runText, lexemes_cons hblank hcut, runText]
  cases lexemes after with
  | none => rfl
  | some rest =>
    rw [Option.map_some, Option.bind_some, Option.bind_some, run, hstep]

/-- A written string is read as one step. -/
theorem runText_quote {phase : Phase} {frames : List Frame} {text : String} {s : List Char}
    {next : Phase × List Frame} (hstep : step phase frames (.string text) = some next) :
    runText phase frames (quote text ++ s) = runText next.1 next.2 s := by
  obtain ⟨inner, hquote, hcut⟩ := cutLexeme_quote text s
  rw [hquote]
  exact runText_cons rfl hcut hstep

/-! ## Objects -/

/-- The fields that a frame holds once they are read. -/
def readFields (fields : List (String × Json)) : List (Option String × Json) :=
  (fields.map fun field => (some field.1, field.2)).reverse

/-- The fields that were read make the object that was written. -/
theorem ofFields_readFields (fields : List (String × Json)) :
    ofFields (readFields fields) = .object fields := by
  rw [ofFields, readFields, List.reverse_reverse, mapM_map_eq_some]
  intro field
  rfl

/-- What the reader makes of the text of a value. -/
def ReadsAs (value : Json) : Prop :=
  ∀ (frames : List Frame) (s : List Char),
    runText .value frames (value.write ++ s) =
      runText (place value frames).1 (place value frames).2 s

/-- One field up to what follows its value. -/
theorem runText_field {phase : Phase} (hphase : phase = .nameOrClose ∨ phase = .name)
    {name : String} {value : Json} (hvalue : ReadsAs value) (done : List (String × Json))
    (outer : List Frame) (s : List Char) :
    runText phase (.object (readFields done) none :: outer)
        (quote name ++ ':' :: (value.write ++ s)) =
      runText .separator (.object (readFields (done ++ [(name, value)])) none :: outer) s := by
  have hname : step phase (.object (readFields done) none :: outer) (.string name) =
      some (.colon, .object (readFields done) (some name) :: outer) := by
    rcases hphase with rfl | rfl <;> rfl
  rw [runText_quote hname]
  dsimp only
  rw [runText_cons (c := ':') rfl rfl rfl]
  dsimp only
  rw [hvalue, place]
  have hfields : (some name, value) :: readFields done = readFields (done ++ [(name, value)]) := by
    rw [readFields, readFields, List.map_append, List.reverse_append]
    rfl
  rw [hfields]

/-- The fields of an object up to its end. -/
theorem runText_writeFields {phase : Phase} (hphase : phase = .nameOrClose ∨ phase = .name)
    (outer : List Frame) (s : List Char) {field : String × Json} {fields : List (String × Json)} :
    ∀ (done : List (String × Json)), (∀ f ∈ field :: fields, ReadsAs f.2) →
      runText phase (.object (readFields done) none :: outer)
          (writeFields (field :: fields) ++ '}' :: s) =
        runText (place (.object (done ++ field :: fields)) outer).1
          (place (.object (done ++ field :: fields)) outer).2 s := by
  induction fields generalizing phase field with
  | nil =>
    intro done hreads
    obtain ⟨name, value⟩ := field
    rw [writeFields, List.append_assoc, List.cons_append,
      runText_field hphase (hreads _ List.mem_cons_self), runText_cons (c := '}') rfl rfl rfl,
      ofFields_readFields]
  | cons next fields ih =>
    intro done hreads
    obtain ⟨name, value⟩ := field
    have hrest : ∀ f ∈ next :: fields, ReadsAs f.2 := fun f hf =>
      hreads f (List.mem_cons_of_mem _ hf)
    rw [writeFields.eq_3 _ _ _ (by simp), List.append_assoc, List.cons_append, List.append_assoc,
      List.cons_append, runText_field hphase (hreads _ List.mem_cons_self),
      runText_cons (c := ',') rfl rfl rfl]
    dsimp only
    -- behind a comma a name has to follow
    rw [ih (Or.inr rfl) _ hrest, List.append_assoc]
    rfl

/-! ## Values -/

/-- The reader takes the text of a value for the value, whatever stands around it. -/
theorem readsAs_of_isTextual {value : Json} (h : IsTextual value) : ReadsAs value := by
  induction h with
  | string text =>
    intro frames s
    rw [write]
    exact runText_quote rfl
  | @object fields _ ih =>
    intro frames s
    rw [write, List.cons_append, List.cons_append, List.append_assoc,
      runText_cons (c := '{') rfl rfl rfl]
    dsimp only
    cases fields with
    | nil => exact runText_cons (c := '}') rfl rfl rfl
    | cons field fields => exact runText_writeFields (Or.inl rfl) frames s [] ih

/-- Values of strings and objects read back as they were written. -/
theorem parse?_render {value : Json} (h : IsTextual value) : parse? value.render = some value := by
  have hread := readsAs_of_isTextual h [] []
  rw [List.append_nil] at hread
  rw [parse?, render, String.toList_ofList]
  show runText .value [] value.write = some value
  rw [hread, place, runText, lexemes]
  rfl

end ComposingProxy.Json
