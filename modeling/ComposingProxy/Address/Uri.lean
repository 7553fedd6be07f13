import ComposingProxy.Text.Ascii
import ComposingProxy.Text.Utf8

/-!
# Request URIs

The four forms a request target takes: a path with a query (origin form), a whole
address (absolute form), an authority alone, and `*`. Reading checks every character
against the form it stands in and drops a fragment; what is read prints back as it
was, apart from the case of the schemes `http` and `https` and a missing path, which
is a slash.
-/

namespace ComposingProxy

/-- Why a text is not a request URI. -/
inductive UriError where
  | empty
  | tooLong
  | invalidCharacter
  | invalidAuthority
  | invalidFormat
  | schemeTooLong
  deriving DecidableEq, Repr

/-- The wording of an error. -/
def UriError.message : UriError → String
  | .empty => "empty string"
  | .tooLong => "uri too long"
  | .invalidCharacter => "invalid uri character"
  | .invalidAuthority => "invalid authority"
  | .invalidFormat => "invalid format"
  | .schemeTooLong => "scheme too long"

/-- A request URI. -/
structure Uri where
  /-- The scheme, in absolute form only. -/
  scheme : Option String := none
  /-- The host with its port number and user, in absolute and authority form. -/
  authority : Option String := none
  /-- The path; empty in authority form only. -/
  path : String := ""
  /-- What follows the question mark, if there is one. -/
  query : Option String := none
  deriving DecidableEq, Repr, Inhabited

/-- The text of a URI. -/
def Uri.render (uri : Uri) : String :=
  (match uri.scheme with | some scheme => scheme ++ "://" | none => "") ++
    uri.authority.getD "" ++ uri.path ++
    (match uri.query with | some query => "?" ++ query | none => "")

/-! ## Authorities -/

namespace Authority

/-- The most colons that an address in brackets with a port number holds. -/
def maxColons : Nat := 8

/-- What has been seen of an authority. Colons and percent signs count from the last
user part or bracketed address on. -/
structure Scan where
  colons : Nat := 0
  opened : Bool := false
  closed : Bool := false
  percent : Bool := false
  /-- The last character was an at sign. -/
  atSign : Bool := false

/-- Characters that stand in an authority without a rule of their own. -/
def isPlain (c : Char) : Bool :=
  c.isAlphanum ||
    ['!', '$', '&', '\'', '(', ')', '*', '+', ',', '-', '.', ';', '=', '_', '~'].elem c

/-- Takes one more character of an authority into account. -/
def Scan.push (seen : Scan) (c : Char) : Except UriError Scan :=
  let seen := { seen with atSign := false }
  match c with
  | ':' =>
    if seen.colons ≥ maxColons then .error .invalidAuthority
    else .ok { seen with colons := seen.colons + 1 }
  | '[' =>
    if seen.percent || seen.opened then .error .invalidAuthority
    else .ok { seen with opened := true }
  | ']' =>
    if !seen.opened || seen.closed then .error .invalidAuthority
    else .ok { seen with closed := true, colons := 0, percent := false }
  | '@' => .ok { seen with colons := 0, percent := false, atSign := true }
  | '%' => .ok { seen with percent := true }
  | c => if isPlain c then .ok seen else .error .invalidCharacter

/-- Whether a whole authority was seen: brackets come in pairs, at most one colon names a
port number, a user part has a host after it, and escapes stand in the user part or in brackets. -/
def Scan.complete (seen : Scan) : Bool :=
  seen.opened == seen.closed && seen.colons ≤ 1 && !seen.atSign && !seen.percent

/-- A character that ends an authority. -/
def endsAuthority (c : Char) : Bool := c == '/' || c == '?' || c == '#'

/-- Cuts a text where its authority ends. -/
def cut (s : List Char) : Except UriError (List Char × List Char) := do
  if s.isEmpty then .error .empty
  let authority := s.takeWhile (!endsAuthority ·)
  let seen ← authority.foldlM Scan.push {}
  if seen.complete then .ok (authority, s.dropWhile (!endsAuthority ·))
  else .error .invalidAuthority

/-- A text that is an authority and nothing more. -/
def parse (s : List Char) : Except UriError String := do
  let (authority, rest) ← cut s
  if rest.isEmpty then .ok (String.ofList authority) else .error .invalidCharacter

/-- A port number: decimal digits after an optional plus sign, below 65536. -/
def readPortNumber? (s : List Char) : Option Nat :=
  let digits := match s with | '+' :: digits => digits | _ => s
  if digits.isEmpty || !digits.all Char.isDigit then none
  else
    let n := Text.ofDecimalDigits digits
    if n < 65536 then some n else none

/-- The port number that an authority names after its last colon. -/
def portNumber? (authority : String) : Option Nat :=
  let reversed := authority.toList.reverse
  if reversed.elem ':' then readPortNumber? (reversed.takeWhile (· != ':')).reverse else none

end Authority

/-! ## Schemes -/

/-- A character of a scheme. -/
def isSchemeChar (c : Char) : Bool := c.isAlphanum || c == '+' || c == '-' || c == '.' || c == '~'

/-- The most characters a scheme has. -/
def maxSchemeLength : Nat := 64

/-- Cuts the scheme off the front of a text, with the colon and two slashes that end it. -/
def cutScheme (s : List Char) : Except UriError (Option (List Char) × List Char) :=
  let scheme := s.takeWhile isSchemeChar
  match s.dropWhile isSchemeChar with
  | ':' :: '/' :: '/' :: rest =>
    if s.length ≤ 3 then .ok (none, s)
    else if Text.eqIgnoringCase scheme "http".toList then .ok (some "http".toList, rest)
    else if Text.eqIgnoringCase scheme "https".toList then .ok (some "https".toList, rest)
    else if scheme.length > maxSchemeLength then .error .schemeTooLong
    else .ok (some scheme, rest)
  | _ => .ok (none, s)

/-! ## Paths and queries -/

/-- A character that stands unescaped in a path. -/
def isPathChar (c : Char) : Bool :=
  let n := c.toNat
  n ≥ 0x80 || n == 0x21 || n == 0x22 || (0x24 ≤ n && n ≤ 0x3B) || n == 0x3D ||
    (0x40 ≤ n && n ≤ 0x5F) || (0x61 ≤ n && n ≤ 0x7E)

/-- A character that stands unescaped in a query. -/
def isQueryChar (c : Char) : Bool :=
  let n := c.toNat
  n ≥ 0x80 || n == 0x21 || (0x24 ≤ n && n ≤ 0x3B) || n == 0x3D || (0x3F ≤ n && n ≤ 0x7E)

/-- A path with its query; a fragment is dropped unread. -/
def pathAndQuery (s : List Char) : Except UriError (String × Option String) :=
  let path := s.takeWhile isPathChar
  match s.dropWhile isPathChar with
  | [] => .ok (String.ofList path, none)
  | '#' :: _ => .ok (String.ofList path, none)
  | '?' :: rest =>
    let query := rest.takeWhile isQueryChar
    match rest.dropWhile isQueryChar with
    | [] => .ok (String.ofList path, some (String.ofList query))
    | '#' :: _ => .ok (String.ofList path, some (String.ofList query))
    | _ => .error .invalidCharacter
  | _ => .error .invalidCharacter

/-! ## The four forms -/

/-- The most bytes of a URI. -/
def maxUriLength : Nat := 65534

/-- A URI that begins with a scheme or is an authority. -/
def Uri.parseFull (s : List Char) : Except UriError Uri := do
  let (scheme, rest) ← cutScheme s
  let (authority, rest) ← Authority.cut rest
  match scheme with
  | none =>
    if rest.isEmpty then .ok { authority := some (String.ofList authority) }
    else .error .invalidFormat
  | some scheme =>
    if authority.isEmpty then .error .invalidFormat
    else
      let (path, query) ← pathAndQuery rest
      .ok
        { scheme := some (String.ofList scheme)
          authority := some (String.ofList authority)
          path := if path = "" then "/" else path
          query := query }

/-- Reads a request URI. -/
def Uri.parse (text : String) : Except UriError Uri :=
  let s := text.toList
  if (Text.Utf8.encode s).length > maxUriLength then .error .tooLong
  else
    match s with
    | [] => .error .empty
    | ['*'] => .ok { path := "*" }
    | '/' :: _ => do
      let (path, query) ← pathAndQuery s
      .ok { path, query }
    | [c] =>
      if c.toNat < 0x80 then do .ok { authority := some (← Authority.parse s) }
      else Uri.parseFull s
    | _ => Uri.parseFull s

end ComposingProxy
