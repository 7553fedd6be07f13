import ComposingProxy.Markup.CharacterReference.Basic
import ComposingProxy.Markup.Token

/-!
# Cutting text into tokens

The text of a page is read one character at a time. What has been read of an unfinished
tag, comment or document type is part of the state, so `TextState.step` needs the state, the
next character and, for the few places that look ahead, the text after it. A character
that ends one thing and begins another is handed on within the step, so every step
takes at least one character.
-/

namespace ComposingProxy.Markup

/-- A tag that is being read, with the attribute that is being read. -/
structure TagDraft where
  isEnd : Bool
  tag : Tag
  attrName : String := ""
  attrValue : String := ""
  deriving DecidableEq, Repr, Inhabited

namespace TagDraft

/-- Keeps the attribute that was read, unless there is one of its name. -/
def closeAttr (draft : TagDraft) : TagDraft :=
  if draft.attrName.isEmpty then draft
  else
    let tag := draft.tag
    let attrs :=
      if tag.attrs.any (Element.isNamed draft.attrName) then tag.attrs
      else tag.attrs ++ [⟨.plain draft.attrName, draft.attrValue⟩]
    { draft with tag := { tag with attrs }, attrName := "", attrValue := "" }

/-- Begins an attribute. -/
def openAttr (draft : TagDraft) (c : Char) : TagDraft :=
  { draft.closeAttr with attrName := String.singleton c }

/-- Adds to the name of the tag. -/
def pushName (draft : TagDraft) (c : Char) : TagDraft :=
  { draft with tag := { draft.tag with name := draft.tag.name.push c } }

/-- Adds to the name of the attribute. -/
def pushAttrName (draft : TagDraft) (c : Char) : TagDraft :=
  { draft with attrName := draft.attrName.push c }

/-- Adds to the value of the attribute. -/
def pushValue (draft : TagDraft) (text : List Char) : TagDraft :=
  { draft with attrValue := text.foldl String.push draft.attrValue }

/-- The finished tag. -/
def token (draft : TagDraft) (selfClosing : Bool := false) : Token :=
  let tag := { draft.closeAttr.tag with selfClosing }
  if draft.isEnd then .endTag tag else .startTag tag

end TagDraft

/-- One of the two identifiers of a document type. -/
inductive DoctypeId where
  | ofPublic
  | ofSystem
  deriving DecidableEq, Repr

namespace Doctype

/-- Begins an identifier. -/
def openId (doctype : Doctype) : DoctypeId → Doctype
  | .ofPublic => { doctype with publicId := some "" }
  | .ofSystem => { doctype with systemId := some "" }

/-- Adds to an identifier. -/
def pushId (doctype : Doctype) (c : Char) : DoctypeId → Doctype
  | .ofPublic => { doctype with publicId := some ((doctype.publicId.getD "").push c) }
  | .ofSystem => { doctype with systemId := some ((doctype.systemId.getD "").push c) }

/-- The same document type, marked as broken. -/
def spoil (doctype : Doctype) : Doctype := { doctype with broken := true }

end Doctype

/-- Where in the text the reader is. -/
inductive TextState where
  | data
  | plain
  | raw (kind : RawKind)
  | tagOpen
  | endTagOpen
  | tagName (draft : TagDraft)
  | beforeAttr (draft : TagDraft)
  | attrName (draft : TagDraft)
  | afterAttrName (draft : TagDraft)
  | beforeValue (draft : TagDraft)
  /-- In a value, between quotes or without. -/
  | value (quote : Option Char) (draft : TagDraft)
  | afterValue (draft : TagDraft)
  | selfClosing (draft : TagDraft)
  | rawTagOpen (kind : RawKind)
  | rawEndTagOpen (kind : RawKind)
  /-- In the name of what may be the end tag of the raw text, as it is written. -/
  | rawEndTagName (kind : RawKind) (written : String)
  | scriptCommentStart
  | scriptCommentStartDash
  | scriptDash (nested : Bool)
  | scriptDashDash (nested : Bool)
  /-- In the name of a tag that may begin a script in a comment. -/
  | nestedScriptStart (name : String)
  /-- In the name of a tag that may end a script in a comment. -/
  | nestedScriptEnd (name : String)
  | bogusComment (text : String)
  | commentStart
  | commentStartDash
  | comment (text : String)
  | commentDash (text : String)
  | commentDashDash (text : String)
  | commentBang (text : String)
  | beforeDoctypeName
  | doctypeName (doctype : Doctype)
  | afterDoctypeName (doctype : Doctype)
  | beforeDoctypeId (which : DoctypeId) (doctype : Doctype)
  | doctypeId (which : DoctypeId) (quote : Char) (doctype : Doctype)
  | afterPublicId (doctype : Doctype)
  | afterSystemId (doctype : Doctype)
  | bogusDoctype (doctype : Doctype)
  /-- In a section of plain text in foreign content. -/
  | plainSection
  | plainSectionBracket
  | plainSectionEnd
  deriving DecidableEq, Repr, Inhabited

/-- What one step gives: the next state, the tokens that are finished, and how many more
characters it has taken. -/
structure TextStep where
  state : TextState
  tokens : List Token := []
  taken : Nat := 0
  deriving DecidableEq, Repr

namespace TextStep

/-- The same step with tokens before its own. -/
def after (tokens : List Token) (step : TextStep) : TextStep :=
  { step with tokens := tokens ++ step.tokens }

end TextStep

namespace TextState

/-- The character that stands for a zero in most places. -/
def mendZero (c : Char) : Char := if c == '\x00' then '\uFFFD' else c

/-! ## Text -/

/-- What an ampersand in front of `rest` stands for in text. -/
def reference (state : TextState) (rest : List Char) : TextStep :=
  match CharacterReference.read? false rest with
  | some found =>
    { state
      tokens := (if found.faulty then [.fault] else []) ++ found.text.map Token.character
      taken := found.length }
  | none => { state, tokens := [.character '&'] }

/-- A character of text among tags. -/
def dataStep (c : Char) (rest : List Char) : TextStep :=
  if c = '&' then reference .data rest
  else if c = '<' then { state := .tagOpen }
  else if c = '\x00' then { state := .data, tokens := [.zero] }
  else { state := .data, tokens := [.character c] }

/-- A character of the text of a script in a comment. -/
def scriptStep (nested : Bool) (c : Char) : TextStep :=
  let kind := if nested then RawKind.scriptNested else .scriptComment
  if c = '-' then { state := .scriptDash nested, tokens := [.character '-'] }
  else if c = '<' then
    { state := .rawTagOpen kind, tokens := if nested then [.character '<'] else [] }
  else { state := .raw kind, tokens := [.character (mendZero c)] }

/-- A character of raw text. -/
def rawStep (kind : RawKind) (c : Char) (rest : List Char) : TextStep :=
  match kind with
  | .escapable =>
    if c = '&' then reference (.raw .escapable) rest
    else if c = '<' then { state := .rawTagOpen kind }
    else { state := .raw kind, tokens := [.character (mendZero c)] }
  | .verbatim | .script =>
    if c = '<' then { state := .rawTagOpen kind }
    else { state := .raw kind, tokens := [.character (mendZero c)] }
  | .scriptComment => scriptStep false c
  | .scriptNested => scriptStep true c

/-- A character of a section of plain text. -/
def plainSectionStep (c : Char) : TextStep :=
  if c = ']' then { state := .plainSectionBracket }
  else if c = '\x00' then { state := .plainSection, tokens := [.zero] }
  else { state := .plainSection, tokens := [.character c] }

/-! ## Tags -/

/-- A character before the name of an attribute. -/
def beforeAttrStep (draft : TagDraft) (c : Char) : TextStep :=
  if isSeparator c then { state := .beforeAttr draft }
  else if c = '/' then { state := .selfClosing draft }
  else if c = '>' then { state := .data, tokens := [draft.token] }
  else { state := .attrName (draft.openAttr (mendZero c.toLower)) }

/-- A character in the name of an attribute. -/
def attrNameStep (draft : TagDraft) (c : Char) : TextStep :=
  if isSeparator c then { state := .afterAttrName draft }
  else if c = '/' then { state := .selfClosing draft }
  else if c = '=' then { state := .beforeValue draft }
  else if c = '>' then { state := .data, tokens := [draft.token] }
  else { state := .attrName (draft.pushAttrName (mendZero c.toLower)) }

/-- A character after the name of an attribute. -/
def afterAttrNameStep (draft : TagDraft) (c : Char) : TextStep :=
  if isSeparator c then { state := .afterAttrName draft }
  else if c = '=' then { state := .beforeValue draft }
  else beforeAttrStep draft c

/-- A character in a value. -/
def valueStep (quote : Option Char) (draft : TagDraft) (c : Char) (rest : List Char) :
    TextStep :=
  if some c = quote then { state := .afterValue draft }
  else if quote = none ∧ isSeparator c then { state := .beforeAttr draft }
  else if quote = none ∧ c = '>' then { state := .data, tokens := [draft.token] }
  else if c = '&' then
    match CharacterReference.read? true rest with
    | some found =>
      { state := .value quote (draft.pushValue found.text), taken := found.length }
    | none => { state := .value quote (draft.pushValue ['&']) }
  else { state := .value quote (draft.pushValue [mendZero c]) }

/-- A character before a value. -/
def beforeValueStep (draft : TagDraft) (c : Char) (rest : List Char) : TextStep :=
  if isSeparator c then { state := .beforeValue draft }
  else if c = '"' ∨ c = '\'' then { state := .value (some c) draft }
  else if c = '>' then { state := .data, tokens := [draft.token] }
  else valueStep none draft c rest

/-- A character after a value in quotes. -/
def afterValueStep (draft : TagDraft) (c : Char) : TextStep := beforeAttrStep draft c

/-- A character in the name of a tag. -/
def tagNameStep (draft : TagDraft) (c : Char) : TextStep :=
  if isSeparator c then { state := .beforeAttr draft }
  else if c = '/' then { state := .selfClosing draft }
  else if c = '>' then { state := .data, tokens := [draft.token] }
  else { state := .tagName (draft.pushName (mendZero c.toLower)) }

/-- A character after a slash in a tag. -/
def selfClosingStep (draft : TagDraft) (c : Char) : TextStep :=
  if c = '>' then { state := .data, tokens := [draft.token true] } else beforeAttrStep draft c

/-- The beginning of a tag. -/
def beginTag (isEnd : Bool) (c : Char) : TextStep :=
  { state := .tagName { isEnd, tag := { name := String.singleton c.toLower } } }

/-! ## Comments -/

/-- A character of a comment that ends at the first closing bracket. -/
def bogusCommentStep (text : String) (c : Char) : TextStep :=
  if c = '>' then { state := .data, tokens := [.comment text] }
  else { state := .bogusComment (text.push (mendZero c)) }

/-- A character of a comment. -/
def commentStep (text : String) (c : Char) : TextStep :=
  if c = '-' then { state := .commentDash text } else { state := .comment (text.push (mendZero c)) }

/-- A character after the start of a comment. -/
def commentStartStep (c : Char) : TextStep :=
  if c = '-' then { state := .commentStartDash }
  else if c = '>' then { state := .data, tokens := [.comment ""] }
  else { state := .comment (String.singleton (mendZero c)) }

/-- A character after a dash at the start of a comment. -/
def commentStartDashStep (c : Char) : TextStep :=
  if c = '-' then { state := .commentDashDash "" }
  else if c = '>' then { state := .data, tokens := [.comment ""] }
  else { state := .comment ("-".push (mendZero c)) }

/-- A character after a dash in a comment. -/
def commentDashStep (text : String) (c : Char) : TextStep :=
  if c = '-' then { state := .commentDashDash text }
  else { state := .comment ((text ++ "-").push (mendZero c)) }

/-- A character after two dashes in a comment. -/
def commentDashDashStep (text : String) (c : Char) : TextStep :=
  if c = '>' then { state := .data, tokens := [.comment text] }
  else if c = '!' then { state := .commentBang text }
  else if c = '-' then { state := .commentDashDash (text ++ "-") }
  else { state := .comment ((text ++ "--").push (mendZero c)) }

/-- A character after two dashes and an exclamation mark in a comment. -/
def commentBangStep (text : String) (c : Char) : TextStep :=
  if c = '-' then { state := .commentDash (text ++ "--!") }
  else if c = '>' then { state := .data, tokens := [.comment text] }
  else { state := .comment ((text ++ "--!").push (mendZero c)) }

/-- What begins with an exclamation mark in a tag, in front of `rest`. -/
def declarationStep (foreign : Bool) (rest : List Char) : TextStep :=
  if (Text.dropPrefix? "--".toList rest).isSome then { state := .commentStart, taken := 2 }
  else if Text.eqIgnoringCase (rest.take 7) "doctype".toList then
    { state := .beforeDoctypeName, taken := 7 }
  else if foreign && (Text.dropPrefix? "[CDATA[".toList rest).isSome then
    { state := .plainSection, taken := 7 }
  else { state := .bogusComment "" }

/-- A character after an opening bracket. -/
def tagOpenStep (foreign : Bool) (c : Char) (rest : List Char) : TextStep :=
  if c = '!' then declarationStep foreign rest
  else if c = '/' then { state := .endTagOpen }
  else if c = '?' then bogusCommentStep "" c
  else if c.isAlpha then beginTag false c
  else (dataStep c rest).after [.character '<']

/-- A character after an opening bracket and a slash. -/
def endTagOpenStep (c : Char) : TextStep :=
  if c = '>' then { state := .data, tokens := [.fault] }
  else if c.isAlpha then beginTag true c
  else bogusCommentStep "" c

/-! ## Document types -/

/-- A finished document type. -/
def endDoctype (doctype : Doctype) : TextStep := { state := .data, tokens := [.doctype doctype] }

/-- A character before the name of a document type. -/
def beforeDoctypeNameStep (c : Char) : TextStep :=
  if isSeparator c then { state := .beforeDoctypeName }
  else if c = '>' then endDoctype { broken := true }
  else { state := .doctypeName { name := String.singleton (mendZero c.toLower) } }

/-- A character in the name of a document type. -/
def doctypeNameStep (doctype : Doctype) (c : Char) : TextStep :=
  if isSeparator c then { state := .afterDoctypeName doctype }
  else if c = '>' then endDoctype doctype
  else { state := .doctypeName { doctype with name := doctype.name.push (mendZero c.toLower) } }

/-- A character after the name of a document type. -/
def afterDoctypeNameStep (doctype : Doctype) (c : Char) (rest : List Char) : TextStep :=
  let word := c :: rest.take 5
  if Text.eqIgnoringCase word "public".toList then
    { state := .beforeDoctypeId .ofPublic doctype, taken := 5 }
  else if Text.eqIgnoringCase word "system".toList then
    { state := .beforeDoctypeId .ofSystem doctype, taken := 5 }
  else if isSeparator c then { state := .afterDoctypeName doctype }
  else if c = '>' then endDoctype doctype
  else { state := .bogusDoctype doctype.spoil }

/-- A character before an identifier. -/
def beforeDoctypeIdStep (which : DoctypeId) (doctype : Doctype) (c : Char) : TextStep :=
  if isSeparator c then { state := .beforeDoctypeId which doctype }
  else if c = '"' ∨ c = '\'' then { state := .doctypeId which c (doctype.openId which) }
  else if c = '>' then endDoctype doctype.spoil
  else { state := .bogusDoctype doctype.spoil }

/-- A character in an identifier. -/
def doctypeIdStep (which : DoctypeId) (quote : Char) (doctype : Doctype) (c : Char) : TextStep :=
  if c = quote then
    { state := match which with
        | .ofPublic => .afterPublicId doctype
        | .ofSystem => .afterSystemId doctype }
  else if c = '>' then endDoctype doctype.spoil
  else { state := .doctypeId which quote (doctype.pushId (mendZero c) which) }

/-- A character after the public identifier. -/
def afterPublicIdStep (doctype : Doctype) (c : Char) : TextStep :=
  if isSeparator c then { state := .afterPublicId doctype }
  else if c = '>' then endDoctype doctype
  else if c = '"' ∨ c = '\'' then { state := .doctypeId .ofSystem c (doctype.openId .ofSystem) }
  else { state := .bogusDoctype doctype.spoil }

/-- A character after the system identifier. -/
def afterSystemIdStep (doctype : Doctype) (c : Char) : TextStep :=
  if isSeparator c then { state := .afterSystemId doctype }
  else if c = '>' then endDoctype doctype
  else { state := .bogusDoctype doctype }

/-! ## Raw text -/

/-- The tokens of a text. -/
def characters (text : String) : List Token := text.toList.map Token.character

/-- A character after an opening bracket in raw text. -/
def rawTagOpenStep (kind : RawKind) (c : Char) (rest : List Char) : TextStep :=
  match kind with
  | .scriptComment =>
    if c = '/' then { state := .rawEndTagOpen kind }
    else if c.isAlpha then
      { state := .nestedScriptStart (String.singleton c.toLower)
        tokens := [.character '<', .character c] }
    else (rawStep kind c rest).after [.character '<']
  | .scriptNested =>
    if c = '/' then { state := .nestedScriptEnd "", tokens := [.character '/'] }
    else rawStep kind c rest
  | _ =>
    if c = '/' then { state := .rawEndTagOpen kind }
    else if c = '!' ∧ kind = .script then
      { state := .scriptCommentStart, tokens := [.character '<', .character '!'] }
    else (rawStep kind c rest).after [.character '<']

/-- A character after an opening bracket and a slash in raw text. -/
def rawEndTagOpenStep (kind : RawKind) (c : Char) (rest : List Char) : TextStep :=
  if c.isAlpha then { state := .rawEndTagName kind (String.singleton c) }
  else (rawStep kind c rest).after [.character '<', .character '/']

/-- A character in the name of what may be the end tag of the raw text, which the start
tag `opened` began. -/
def rawEndTagNameStep (opened : Option String) (kind : RawKind) (written : String) (c : Char)
    (rest : List Char) : TextStep :=
  let name := Text.toLowerAscii written
  let draft : TagDraft := { isEnd := true, tag := { name } }
  if opened = some name ∧ isSeparator c then { state := .beforeAttr draft }
  else if opened = some name ∧ c = '/' then { state := .selfClosing draft }
  else if opened = some name ∧ c = '>' then { state := .data, tokens := [draft.token] }
  else if c.isAlpha then { state := .rawEndTagName kind (written.push c) }
  else
    (rawStep kind c rest).after (.character '<' :: .character '/' :: characters written)

/-- A character after the beginning of a comment in a script. -/
def scriptCommentStartStep (next : TextState) (c : Char) (rest : List Char) : TextStep :=
  if c = '-' then { state := next, tokens := [.character '-'] } else rawStep .script c rest

/-- A character after a dash in a comment in a script. -/
def scriptDashStep (nested : Bool) (c : Char) : TextStep :=
  if c = '-' then { state := .scriptDashDash nested, tokens := [.character '-'] }
  else scriptStep nested c

/-- A character after two dashes in a comment in a script. -/
def scriptDashDashStep (nested : Bool) (c : Char) : TextStep :=
  if c = '-' then { state := .scriptDashDash nested, tokens := [.character '-'] }
  else if c = '>' then { state := .raw .script, tokens := [.character '>'] }
  else scriptStep nested c

/-- A character that ends the name of a tag in a comment in a script. -/
def endsTagName (c : Char) : Bool := isSeparator c || c == '/' || c == '>'

/-- A character in the name of a tag that may begin a script in a comment. -/
def nestedScriptStartStep (name : String) (c : Char) : TextStep :=
  if endsTagName c then
    { state := .raw (if name = "script" then .scriptNested else .scriptComment)
      tokens := [.character c] }
  else if c.isAlpha then
    { state := .nestedScriptStart (name.push c.toLower), tokens := [.character c] }
  else scriptStep false c

/-- A character in the name of a tag that may end a script in a comment. -/
def nestedScriptEndStep (name : String) (c : Char) : TextStep :=
  if endsTagName c then
    { state := .raw (if name = "script" then .scriptComment else .scriptNested)
      tokens := [.character c] }
  else if c.isAlpha then
    { state := .nestedScriptEnd (name.push c.toLower), tokens := [.character c] }
  else scriptStep true c

/-! ## All states -/

/-- Reads one character, with `rest` after it. `opened` is the name of the start tag that was
read last; `foreign` tells whether the text stands in content of another vocabulary. -/
def step (opened : Option String) (foreign : Bool) (state : TextState) (c : Char)
    (rest : List Char) : TextStep :=
  match state with
  | .data => dataStep c rest
  | .plain => { state := .plain, tokens := [.character (mendZero c)] }
  | .raw kind => rawStep kind c rest
  | .tagOpen => tagOpenStep foreign c rest
  | .endTagOpen => endTagOpenStep c
  | .tagName draft => tagNameStep draft c
  | .beforeAttr draft => beforeAttrStep draft c
  | .attrName draft => attrNameStep draft c
  | .afterAttrName draft => afterAttrNameStep draft c
  | .beforeValue draft => beforeValueStep draft c rest
  | .value quote draft => valueStep quote draft c rest
  | .afterValue draft => afterValueStep draft c
  | .selfClosing draft => selfClosingStep draft c
  | .rawTagOpen kind => rawTagOpenStep kind c rest
  | .rawEndTagOpen kind => rawEndTagOpenStep kind c rest
  | .rawEndTagName kind written => rawEndTagNameStep opened kind written c rest
  | .scriptCommentStart => scriptCommentStartStep .scriptCommentStartDash c rest
  | .scriptCommentStartDash => scriptCommentStartStep (.scriptDashDash false) c rest
  | .scriptDash nested => scriptDashStep nested c
  | .scriptDashDash nested => scriptDashDashStep nested c
  | .nestedScriptStart name => nestedScriptStartStep name c
  | .nestedScriptEnd name => nestedScriptEndStep name c
  | .bogusComment text => bogusCommentStep text c
  | .commentStart => commentStartStep c
  | .commentStartDash => commentStartDashStep c
  | .comment text => commentStep text c
  | .commentDash text => commentDashStep text c
  | .commentDashDash text => commentDashDashStep text c
  | .commentBang text => commentBangStep text c
  | .beforeDoctypeName => beforeDoctypeNameStep c
  | .doctypeName doctype => doctypeNameStep doctype c
  | .afterDoctypeName doctype => afterDoctypeNameStep doctype c rest
  | .beforeDoctypeId which doctype => beforeDoctypeIdStep which doctype c
  | .doctypeId which quote doctype => doctypeIdStep which quote doctype c
  | .afterPublicId doctype => afterPublicIdStep doctype c
  | .afterSystemId doctype => afterSystemIdStep doctype c
  | .bogusDoctype doctype =>
    if c = '>' then endDoctype doctype else { state := .bogusDoctype doctype }
  | .plainSection => plainSectionStep c
  | .plainSectionBracket =>
    if c = ']' then { state := .plainSectionEnd }
    else (plainSectionStep c).after [.character ']']
  | .plainSectionEnd =>
    if c = ']' then { state := .plainSectionEnd, tokens := [.character ']'] }
    else if c = '>' then { state := .data }
    else (plainSectionStep c).after [.character ']', .character ']']

/-- What is left to say where the text ends. -/
def finish (state : TextState) : List Token :=
  match state with
  | .tagOpen => characters "<"
  | .endTagOpen => characters "</"
  | .rawTagOpen kind => if kind = .scriptNested then [] else characters "<"
  | .rawEndTagOpen _ => characters "</"
  | .rawEndTagName _ written => characters ("</" ++ written)
  | .bogusComment text | .comment text | .commentDash text | .commentDashDash text
  | .commentBang text => [.comment text]
  | .commentStart | .commentStartDash => [.comment ""]
  | .beforeDoctypeName => [.doctype { broken := true }]
  | .doctypeName doctype | .afterDoctypeName doctype | .beforeDoctypeId _ doctype
  | .doctypeId _ _ doctype | .afterPublicId doctype | .afterSystemId doctype =>
    [.doctype doctype.spoil]
  | .bogusDoctype doctype => [.doctype doctype]
  | .plainSectionBracket => characters "]"
  | .plainSectionEnd => characters "]]"
  | _ => []

end TextState

end ComposingProxy.Markup
