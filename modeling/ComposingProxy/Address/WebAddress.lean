import ComposingProxy.Address.HostName

/-!
# Web addresses

Reading a web address the way browsers do: blanks around it and tabs and line ends
inside it are passed over, a backslash is a slash in the schemes of the web, `.` and
`..` are taken out of the path, and characters that may not stand as they are become
escapes. What is kept is what a request needs: scheme, host, port number, path and query.
-/

namespace ComposingProxy

/-- The parts of a web address that a request is made of. -/
structure WebAddress where
  scheme : String
  /-- The host; missing in addresses that name none. -/
  host : Option String
  /-- The port number, where it is not the usual one of the scheme. -/
  portNumber : Option Nat
  path : String
  query : Option String
  deriving DecidableEq, Repr

namespace WebAddress

/-- How the rest of an address is read depends on its scheme. -/
inductive SchemeKind where
  /-- A scheme of the web, with a host that must not be empty. -/
  | web
  | file
  | other
  deriving DecidableEq, Repr

/-- The kind of a scheme in small letters. -/
def SchemeKind.ofScheme (scheme : List Char) : SchemeKind :=
  let scheme := String.ofList scheme
  if ["http", "https", "ws", "wss", "ftp"].elem scheme then .web
  else if scheme == "file" then .file
  else .other

/-- A backslash is a slash in the schemes that browsers know. -/
def SchemeKind.isSlash (kind : SchemeKind) (c : Char) : Bool :=
  c == '/' || (c == '\\' && kind != .other)

/-- The port number that is meant when none is named. -/
def usualPortNumber? (scheme : List Char) : Option Nat :=
  match String.ofList scheme with
  | "http" | "ws" => some 80
  | "https" | "wss" => some 443
  | "ftp" => some 21
  | _ => none

/-! ## Scheme -/

/-- A character that a scheme may hold after its first letter. -/
def isSchemeChar (c : Char) : Bool := c.isAlphanum || c == '+' || c == '-' || c == '.'

/-- Cuts a scheme in small letters off the front, with its colon. -/
def cutScheme? (s : List Char) : Option (List Char × List Char) :=
  match s with
  | [] => none
  | c :: _ =>
    if c.isAlpha then
      match s.dropWhile isSchemeChar with
      | ':' :: rest => some ((s.takeWhile isSchemeChar).map Char.toLower, rest)
      | _ => none
    else none

/-! ## User, host and port number -/

/-- Whether a character ends the part that holds user, host and port number. -/
def endsAuthority (kind : SchemeKind) (c : Char) : Bool :=
  kind.isSlash c || c == '?' || c == '#'

/-- Takes the user part off: everything up to the last at sign. Tells whether it says
anything. A user part must have a host after it. -/
def cutUser (kind : SchemeKind) (s : List Char) : Except AddressError (Bool × List Char) :=
  let authority := s.takeWhile (!endsAuthority kind ·)
  if authority.elem '@' then
    let host := (authority.reverse.takeWhile (· != '@')).reverse
    let user := authority.take (authority.length - host.length - 1)
    let rest := s.drop (user.length + 1)
    let named := user != [':']
    if user.isEmpty then
      match rest with
      | [] => .ok (false, rest)
      | c :: _ => if endsAuthority kind c then .error .emptyHost else .ok (false, rest)
    else .ok (named, rest)
  else .ok (false, s)

/-- Cuts a host at the colon or the character that ends it; brackets shield a colon. -/
def cutHost (kind : SchemeKind) : Bool → List Char → List Char × List Char
  | _, [] => ([], [])
  | bracketed, c :: s =>
    if (c == ':' && !bracketed) || endsAuthority kind c then ([], c :: s)
    else
      let bracketed := if c == '[' then true else if c == ']' then false else bracketed
      let (host, rest) := cutHost kind bracketed s
      (c :: host, rest)

/-- Reads the digits of a port number; what follows them must end the authority. -/
def cutPortNumber (s : List Char) : Except AddressError (Option Nat × List Char) :=
  let digits := s.takeWhile Char.isDigit
  let rest := s.dropWhile Char.isDigit
  let n := Text.ofDecimalDigits digits
  let ended := match rest with
    | [] => true
    | c :: _ => c == '/' || c == '\\' || c == '?' || c == '#'
  if n ≥ 65536 || !ended then .error .invalidPort
  else .ok (if digits.isEmpty then none else some n, rest)

/-- The host and port number at the front of an address. -/
def cutHostAndPort (kind : SchemeKind) (scheme s : List Char) :
    Except AddressError (Option String × Option Nat × List Char) := do
  let (written, rest) := cutHost kind false s
  if written.isEmpty && kind == .web then .error .emptyHost
  let host ← if kind == .web then HostName.parse written else HostName.parseOpaque written
  match rest with
  | ':' :: rest =>
    if host = "" then .error .emptyHost
    else
      let (portNumber, rest) ← cutPortNumber rest
      .ok (some host, if portNumber == usualPortNumber? scheme then none else portNumber, rest)
  | _ => .ok (if host = "" then none else some host, none, rest)

/-! ## Path -/

/-- Characters that are escaped in a path. -/
def escapedInPath (c : Char) : Bool :=
  Text.Percent.isControl c || [' ', '"', '<', '>', '`', '#', '?', '{', '}'].elem c

/-- Characters that are escaped in a query; a quote only in the schemes of the web. -/
def escapedInQuery (kind : SchemeKind) (c : Char) : Bool :=
  Text.Percent.isControl c || [' ', '"', '#', '<', '>'].elem c || (c == '\'' && kind != .other)

/-- A segment that stands for the directory it is in. -/
def isSingleDot (segment : List Char) : Bool :=
  [".", "%2e"].elem (String.ofList (segment.map Char.toLower))

/-- A segment that stands for the directory above. -/
def isDoubleDot (segment : List Char) : Bool :=
  ["..", ".%2e", "%2e.", "%2e%2e"].elem (String.ofList (segment.map Char.toLower))

/-- Whether a letter with a colon or bar after it stands at the front, alone or with a
backslash after it. -/
def beginsWithDrive (s : List Char) : Bool :=
  match s with
  | c :: d :: rest =>
    c.isAlpha && (d == ':' || d == '|') && (rest.isEmpty || rest.head? == some '\\')
  | _ => false

/-- A letter with a colon or bar after it names a drive, not a host or directory. -/
def isDriveLetter (s : List Char) : Bool := beginsWithDrive s && s.length == 2

/-- The directory that a segment leads to, as the segments that name it, the latest first.
There is nothing above the root, and nothing above a drive. -/
def enter (directory : List (List Char)) (segment : List Char) : List (List Char) :=
  if isDoubleDot segment then
    if directory.head?.any beginsWithDrive then directory else directory.tail
  else if isSingleDot segment then directory
  else segment :: directory

/-- The segments of a path without dots, given the directory already reached. A dot at
the end leaves an empty segment, so that the path still names a directory. -/
def resolveDots : List (List Char) → List (List Char) → List (List Char)
  | directory, [] => directory.reverse
  | directory, segment :: segments =>
    let reached := enter directory segment
    if segments.isEmpty && (isDoubleDot segment || isSingleDot segment) then
      ([] :: reached).reverse
    else resolveDots reached segments

/-- Whether a path names a drive at the root, given the directory already reached. -/
def meetsDrive : List (List Char) → List (List Char) → Bool
  | _, [] => false
  | directory, segment :: segments =>
    (directory.isEmpty && isDriveLetter segment) || meetsDrive (enter directory segment) segments

/-- The parts of a text between the characters that a test accepts. -/
def splitWhere (test : Char → Bool) (s : List Char) : List (List Char) :=
  Text.splitAt '/' (s.map fun c => if test c then '/' else c)

/-- The segments that a text without query and fragment spells; a slash at its front
separates nothing. -/
def segmentsOf (kind : SchemeKind) (s : List Char) : List (List Char) :=
  (splitWhere kind.isSlash (if s.head?.any kind.isSlash then s.tail else s)).map
    (Text.Percent.encode escapedInPath)

/-- The path that a text without query and fragment spells. -/
def readPath (kind : SchemeKind) (s : List Char) : List Char :=
  if s.isEmpty then if kind == .other then [] else ['/']
  else
    let path := '/' :: List.intercalate ['/'] (resolveDots [] (segmentsOf kind s))
    if kind == .file then '/' :: path.dropWhile (· == '/') else path

/-- Path and query of what follows the authority; a fragment is dropped. -/
def readPathAndQuery (kind : SchemeKind) (s : List Char) : String × Option String :=
  let s := s.takeWhile (· != '#')
  let path := String.ofList (readPath kind (s.takeWhile (· != '?')))
  match s.dropWhile (· != '?') with
  | _ :: query => (path, some (String.ofList (Text.Percent.encode (escapedInQuery kind) query)))
  | [] => (path, none)

/-! ## Whole addresses -/

/-- The rest of a file address after its two slashes. The own machine is no host, and where
the path names a drive there is none either. -/
def readFile (s : List Char) : Except AddressError (Option String × List Char) := do
  let written := s.takeWhile (!endsAuthority .file ·)
  let rest := s.dropWhile (!endsAuthority .file ·)
  if isDriveLetter written then .ok (none, s)
  else if written.isEmpty then .ok (none, rest)
  else
    let host ← HostName.parse written
    let path := rest.takeWhile fun c => c != '?' && c != '#'
    let isLocal := host = "localhost" || meetsDrive [] (segmentsOf .file path)
    .ok (if isLocal then none else some host, rest)

/-- A character that is passed over wherever it stands. -/
def isSkipped (c : Char) : Bool := c == '\t' || c == '\n' || c == '\r'

/-- A character that is passed over at the ends. -/
def isOuterBlank (c : Char) : Bool := c.toNat ≤ 0x20

/-- The text of an address without what is passed over. -/
def significant (s : List Char) : List Char :=
  let front := s.dropWhile isOuterBlank
  ((front.reverse.dropWhile isOuterBlank).reverse).filter (!isSkipped ·)

/-- Reads a web address. -/
def parse (text : String) : Except AddressError WebAddress := do
  match cutScheme? (significant text.toList) with
  | none => .error .relative
  | some (scheme, rest) =>
    let kind := SchemeKind.ofScheme scheme
    let finish (host : Option String) (portNumber : Option Nat) (rest : List Char) : WebAddress :=
      let (path, query) := readPathAndQuery kind rest
      { scheme := String.ofList scheme, host, portNumber, path, query }
    match kind with
    | .web =>
      let (named, rest) ← cutUser kind (rest.dropWhile kind.isSlash)
      let (host, portNumber, rest) ← cutHostAndPort kind scheme rest
      if host.isNone && named then .error .emptyHost
      .ok (finish host portNumber rest)
    | .file =>
      match rest with
      | c :: d :: rest =>
        if kind.isSlash c && kind.isSlash d then
          let (host, rest) ← readFile rest
          .ok (finish host none rest)
        else .ok (finish none none (c :: d :: rest))
      | _ => .ok (finish none none rest)
    | .other =>
      match rest with
      | '/' :: '/' :: rest =>
        let (named, rest) ← cutUser kind rest
        let (host, portNumber, rest) ← cutHostAndPort kind scheme rest
        if host.isNone && named then .error .emptyHost
        .ok (finish host portNumber rest)
      | _ => .ok (finish none none rest)

end WebAddress

end ComposingProxy
