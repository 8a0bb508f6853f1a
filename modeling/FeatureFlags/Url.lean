import FeatureFlags.Url.Host
import FeatureFlags.Url.Path

/-!
# URLs

A URL is its scheme and, as far as there are any, its credentials, host, port, path, query and
fragment, each in the encoded form in which it is written.

Some schemes are special: their URLs have a host, a path that begins with a slash, and take a
backslash for a slash.  Reading drops control characters and spaces around the text and tabs and
line ends anywhere in it.
-/

namespace FeatureFlags

structure Url where
  scheme : List Char
  username : List Char := []
  password : Option (List Char) := none
  /-- There is no host if the scheme is not followed by two slashes. -/
  host : Option Url.Host := none
  port : Option Nat := none
  path : Url.Path
  query : Option (List Char) := none
  fragment : Option (List Char) := none
deriving DecidableEq, Repr

namespace Url

/-! ## Schemes -/

/-- The default ports of special schemes. -/
def defaultPorts : List (String × Nat) :=
  [("http", 80), ("ws", 80), ("https", 443), ("wss", 443), ("ftp", 21)]

def defaultPort? (scheme : List Char) : Option Nat := defaultPorts.lookup (String.ofList scheme)

def isFileScheme (scheme : List Char) : Bool := String.ofList scheme = "file"

def isSpecialScheme (scheme : List Char) : Bool :=
  (defaultPort? scheme).isSome || isFileScheme scheme

/-- The scheme of a text, in lower case, and the text behind its colon. -/
def splitScheme? (text : List Char) : Option (List Char × List Char) :=
  match Text.splitOnce? (· = ':') text with
  | some (first :: others, rest) =>
    if first.isAlpha && others.all (fun c => c.isAlphanum || c = '+' || c = '-' || c = '.') then
      some ((first :: others).map Char.toLower, rest)
    else none
  | _ => none

/-! ## Writing -/

/-- The credentials, host and port behind two slashes. -/
def writeAuthority (url : Url) : List Char :=
  match url.host with
  | none => []
  | some host =>
    let password := match url.password with
      | some password => ':' :: password
      | none => []
    let credentials := url.username ++ password
    let port := match url.port with
      | some port => ':' :: Text.Digits.write port
      | none => []
    ['/', '/'] ++ credentials ++ (if credentials.isEmpty then [] else ['@']) ++ host.write ++ port

/-- Keeps a path that begins with two slashes from being read as a host. -/
def pathGuard (url : Url) : List Char :=
  match url.host, url.path with
  | none, .segments ([] :: _ :: _) => ['/', '.']
  | _, _ => []

def write (url : Url) : List Char :=
  let query := match url.query with
    | some query => '?' :: query
    | none => []
  let fragment := match url.fragment with
    | some fragment => '#' :: fragment
    | none => []
  url.scheme ++ [':'] ++ url.writeAuthority ++ url.pathGuard ++ url.path.write ++ query ++ fragment

def text (url : Url) : String := String.ofList url.write

/-! ## Reading -/

/-- Characters that end an authority. -/
def endsAuthority (isSpecial : Bool) (c : Char) : Bool :=
  c = '/' || c = '?' || c = '#' || (isSpecial && c = '\\')

def isSlash (isSpecial : Bool) (c : Char) : Bool := c = '/' || (isSpecial && c = '\\')

def endsPath (c : Char) : Bool := c = '?' || c = '#'

/-- Sets query and fragment from the text behind the path. -/
def withQueryAndFragment (url : Url) (text : List Char) : Url :=
  let beforeFragment := text.takeWhile (· ≠ '#')
  let fragment := match text.dropWhile (· ≠ '#') with
    | _ :: rest => some (percentEncode EncodeSet.fragment rest)
    | [] => none
  let set := if isSpecialScheme url.scheme then EncodeSet.specialQuery else EncodeSet.query
  let query := match beforeFragment with
    | '?' :: rest => some (percentEncode set rest)
    | _ => none
  { url with query, fragment }

/-- Sets path, query and fragment from the text behind the authority. -/
def withRest (url : Url) (text : List Char) : Url :=
  let isSpecial := isSpecialScheme url.scheme
  let pathText := text.takeWhile (!endsPath ·)
  let items := match pathText with
    | [] => if isSpecial then [[]] else []
    | c :: rest =>
      Path.readSegments (isSlash isSpecial) (if isSlash isSpecial c then rest else pathText)
  { url with path := .segments items }.withQueryAndFragment (text.dropWhile (!endsPath ·))

/-- Credentials: a name and, if more than a colon follows it, a password. -/
def readCredentials (text : List Char) : List Char × Option (List Char) :=
  match Text.splitOnce? (· = ':') text with
  | some (name, []) => (percentEncode EncodeSet.userinfo name, none)
  | some (name, password) =>
    (percentEncode EncodeSet.userinfo name, some (percentEncode EncodeSet.userinfo password))
  | none => (percentEncode EncodeSet.userinfo text, none)

/-- The text before the last `@`, if there is one, and the text behind it. -/
def splitCredentials (authority : List Char) : Option (List Char) × List Char :=
  match Text.splitOnce? (· = '@') authority.reverse with
  | some (behind, before) => (some before.reverse, behind.reverse)
  | none => (none, authority)

/-- The host before the first colon outside brackets, and the text from that colon on. -/
def splitHost (insideBrackets : Bool) : List Char → List Char × List Char
  | [] => ([], [])
  | c :: rest =>
    if c = ':' && !insideBrackets then ([], c :: rest)
    else
      let inside := if c = '[' then true else if c = ']' then false else insideBrackets
      let (host, behind) := splitHost inside rest
      (c :: host, behind)

/-- Reads a port, which is left out if it is empty or the default one, and returns the text behind
it. -/
def readPort (scheme text : List Char) : Except Failure (Option Nat × List Char) :=
  let digits := text.takeWhile Text.Digits.isDigit
  let rest := text.dropWhile Text.Digits.isDigit
  let port := Text.Digits.read? digits
  if port.any (65535 < ·) then .error .invalidPort
  else
    match rest with
    | c :: _ =>
      if c = '/' || c = '\\' || c = '?' || c = '#' then
        .ok (if port = defaultPort? scheme then none else port, rest)
      else .error .invalidPort
    | [] => .ok (if port = defaultPort? scheme then none else port, rest)

/-- Reads a URL behind the two slashes of its authority. -/
def readAuthority (scheme text : List Char) : Except Failure Url := do
  let isSpecial := isSpecialScheme scheme
  let authority := text.takeWhile (!endsAuthority isSpecial ·)
  let rest := text.dropWhile (!endsAuthority isSpecial ·)
  let (credentials, hostAndPort) := splitCredentials authority
  if credentials = some [] && hostAndPort.isEmpty && !rest.isEmpty then .error .emptyHost
  else
    let (username, password) := readCredentials (credentials.getD [])
    let (hostText, behind) := splitHost false hostAndPort
    if hostText.isEmpty && isSpecial then .error .emptyHost
    else
      let host ← Host.read isSpecial hostText
      let hasCredentials := !username.isEmpty || password.isSome
      match behind with
      | ':' :: portText =>
        if host = .empty then .error .emptyHost
        else
          let (port, leftOver) ← readPort scheme portText
          .ok ({ scheme, username, password, host := some host, port,
                 path := .segments [] : Url }.withRest (leftOver ++ rest))
      | _ =>
        if host = .empty && hasCredentials then .error .emptyHost
        else
          .ok ({ scheme, username, password, host := some host,
                 path := .segments [] : Url }.withRest rest)

/-- The URL of a file, whose path has no empty segments at the front. A path that begins with a
drive letter has no host. -/
def ofFile (host : Host) (text : List Char) : Url :=
  let url : Url :=
    { scheme := "file".toList, host := some host, path := .segments [] : Url }.withRest text
  match url.path with
  | .plain _ => url
  | .segments items =>
    let host := if items.head?.any Path.isDriveLetter then .empty else host
    { url with
      host := some host, path := .segments (Path.dropLeadingEmpty (Path.driveWithColon items)) }

/-- Reads a URL behind the scheme `file` and its colon. -/
def readFile (text : List Char) : Except Failure Url :=
  match text with
  | c :: d :: rest =>
    if isSlash true c && isSlash true d then
      let hostText := rest.takeWhile (!endsAuthority true ·)
      if hostText.isEmpty || Path.isDriveLetter hostText then .ok (ofFile .empty rest)
      else
        match Host.read true hostText with
        | .error failure => .error failure
        | .ok host =>
          let host := if host.write = "localhost".toList then .empty else host
          .ok (ofFile host (rest.dropWhile (!endsAuthority true ·)))
    else .ok (ofFile .empty text)
  | _ => .ok (ofFile .empty text)

/-- Reads a URL behind the colon of its scheme. -/
def readBehindScheme (scheme text : List Char) : Except Failure Url :=
  if isFileScheme scheme then readFile text
  else if isSpecialScheme scheme then readAuthority scheme (text.dropWhile (isSlash true))
  else
    match text with
    | '/' :: '/' :: rest => readAuthority scheme rest
    | '/' :: _ => .ok ({ scheme, path := .segments [] : Url }.withRest text)
    | _ =>
      let plain := percentEncode EncodeSet.controls (text.takeWhile (!endsPath ·))
      .ok ({ scheme, path := .plain plain : Url }.withQueryAndFragment
        (text.dropWhile (!endsPath ·)))

/-- A text without what reading ignores. -/
def strip (text : List Char) : List Char :=
  let trimmed := (text.dropWhile (· ≤ ' ')).reverse.dropWhile (· ≤ ' ')
  trimmed.reverse.filter fun c => c ≠ '\t' && c ≠ '\n' && c ≠ '\r'

/-- Reads a URL. -/
def read (text : List Char) : Except Failure Url :=
  match splitScheme? (strip text) with
  | some (scheme, rest) => readBehindScheme scheme rest
  | none => .error .relativeWithoutBase

/-! ## Endpoints -/

/-- Adds a segment to the end of a path. The dots of a segment that is nothing but one or two dots
are not added. -/
def addPathSegment (isSpecial : Bool) (items : List (List Char)) (segment : List Char) :
    List (List Char) :=
  if segment = ['.'] || segment = ['.', '.'] then items
  else
    let set := if isSpecial then EncodeSet.specialSegment else EncodeSet.segment
    let kept := segment.filter fun c => c ≠ '\t' && c ≠ '\n' && c ≠ '\r'
    let base := if items = [[]] then [] else items
    Path.addSegment base (percentEncode set kept) true

/-- The URL with segments added to its path, in the place of an empty last segment. Only a path
that has segments can be extended. -/
def extend (url : Url) (segments : List (List Char)) : Except Failure Url :=
  match url.path with
  | .plain _ => .error .cannotBeABase
  | .segments items =>
    let base := if items.length > 1 && items.getLast? = some [] then items.dropLast else items
    .ok { url with
      path := .segments (segments.foldl (addPathSegment (isSpecialScheme url.scheme)) base) }

end Url

end FeatureFlags
