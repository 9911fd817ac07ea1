import ToolRelay.Url.Domain

/-!
# URLs

A URL has a scheme, perhaps an authority with credentials, host and port, a path, and perhaps a
query and a fragment. `Url.parse` reads an absolute URL; `Url.text` writes it in its normal form:
lower-case scheme and host, no default port, dot segments resolved, other characters percent
encoded.

The schemes `http`, `https`, `ws`, `wss`, `ftp` and `file` are special: they have a hierarchical
path, and a backslash is a slash in them.
-/

namespace ToolRelay

/-- The path of a URL. -/
inductive UrlPath where
  /-- Text that has no segments. -/
  | rootless (text : String)
  /-- Segments, with a slash before each. -/
  | segments (names : List String)
  deriving DecidableEq, Repr

/-- An absolute URL. -/
structure Url where
  /-- What stands before the first colon, in lower case. -/
  scheme : String
  /-- The user name, perhaps empty. -/
  username : String
  /-- The password. -/
  password : Option String
  /-- The host, when the URL has an authority. -/
  host : Option Url.Host
  /-- The port, when it is not the scheme's own. -/
  port : Option Nat
  /-- The path. -/
  path : UrlPath
  /-- What stands after the question mark. -/
  query : Option String
  /-- What stands after the number sign. -/
  fragment : Option String
  deriving DecidableEq, Repr

namespace Url

/-- The text of a path. -/
def pathText (u : Url) : String :=
  match u.path with
  | .rootless s => s
  | .segments names => String.join (names.map ("/" ++ ·))

/-- Host and port as they stand in the URL. -/
def hostText (u : Url) : String :=
  (u.host.map Host.text).getD "" ++ (u.port.map fun p => ":" ++ toString p).getD ""

/-- The normal form of a URL. -/
def text (u : Url) : String :=
  let credentials :=
    if u.username = "" ∧ u.password = none then ""
    else u.username ++ (u.password.map (":" ++ ·)).getD "" ++ "@"
  let authority := if u.host.isSome then "//" ++ credentials ++ u.hostText else ""
  u.scheme ++ ":" ++ authority ++ u.pathText ++ (u.query.map ("?" ++ ·)).getD "" ++
    (u.fragment.map ("#" ++ ·)).getD ""

/-- Scheme, host and port. -/
def origin (u : Url) : String := u.scheme ++ "://" ++ u.hostText

/-- The URL without user name and password. -/
def withoutCredentials (u : Url) : Url := { u with username := "", password := none }

/-- The port that a special scheme has when none is written. -/
def defaultPort? (scheme : String) : Option Nat :=
  match scheme with
  | "http" | "ws" => some 80
  | "https" | "wss" => some 443
  | "ftp" => some 21
  | _ => none

/-- A scheme with a hierarchical path. -/
def isSpecial (scheme : String) : Bool :=
  ["http", "https", "ws", "wss", "ftp", "file"].contains scheme

/-! ## Reading -/

/-- A character that may be dropped at the ends of a URL. -/
def isEdge (c : Char) : Bool := c.toNat ≤ 32

/-- The characters that count: nothing at the ends, no tabs and line breaks anywhere. -/
def significant (cs : List Char) : List Char :=
  let cs := (cs.dropWhile isEdge).reverse.dropWhile isEdge
  cs.reverse.filter fun c => !(c == '\t' || c == '\n' || c == '\r')

/-- A character of a scheme after the first. -/
def isSchemeChar (c : Char) : Bool := c.isAlphanum || c == '+' || c == '-' || c == '.'

/-- Split off a scheme and its colon. -/
def readScheme? (cs : List Char) : Option (String × List Char) :=
  match cs with
  | [] => none
  | c :: _ =>
    if c.isAlpha then
      match cs.dropWhile isSchemeChar with
      | ':' :: rest => some (String.ofList ((cs.takeWhile isSchemeChar).map Text.lowerAscii), rest)
      | _ => none
    else none

/-- A slash, or in a special scheme a backslash. -/
def isSlash (special : Bool) (c : Char) : Bool := c == '/' || (special && c == '\\')

/-- The end of an authority. -/
def endsAuthority (special : Bool) (c : Char) : Bool :=
  isSlash special c || c == '?' || c == '#'

/-- Split a list at the last occurrence of a character. -/
def splitAtLast (sep : Char) (cs : List Char) : Option (List Char × List Char) :=
  let back := (cs.reverse.takeWhile (· ≠ sep)).reverse
  if back.length = cs.length then none
  else some (cs.take (cs.length - back.length - 1), back)

/-- The characters of a host before its port: a colon in brackets does not end it. -/
def hostPart (inBrackets : Bool) : List Char → List Char
  | [] => []
  | c :: rest =>
    if c == ':' && !inBrackets then []
    else c :: hostPart (if c == '[' then true else if c == ']' then false else inBrackets) rest

/-- Read a port: empty or a 16-bit number. -/
def readPort (scheme : String) (cs : List Char) : Except UrlFault (Option Nat) :=
  if cs.isEmpty then .ok none
  else if !cs.all Text.isDigit then .error .invalidPort
  else
    let n := Text.natOfDigits cs
    if 65535 < n then .error .invalidPort
    else if defaultPort? scheme = some n then .ok none
    else .ok (some n)

/-- User name and password of an authority. -/
def readCredentials (cs : List Char) : String × Option String :=
  let encode := fun cs => String.ofList (percentEncode inUserInfo cs)
  let name := cs.takeWhile (· ≠ ':')
  match cs.dropWhile (· ≠ ':') with
  | _ :: password =>
    (encode name, if password.isEmpty then none else some (encode password))
  | [] => (encode name, none)

/-- A segment that stands for the directory itself. -/
def isSingleDot (s : String) : Bool := s == "." || s.toLower == "%2e"

/-- A segment that stands for the directory above. -/
def isDoubleDot (s : String) : Bool :=
  ["..", ".%2e", "%2e.", "%2e%2e"].contains s.toLower

/-- Add the segments of a path to those before it; the last segment leaves an empty name when it
is a dot segment. -/
def resolveSegments (before : List String) : List String → List String
  | [] => before
  | [s] =>
    if isDoubleDot s then before.dropLast ++ [""]
    else if isSingleDot s then before ++ [""]
    else before ++ [s]
  | s :: t :: rest =>
    if isDoubleDot s then resolveSegments before.dropLast (t :: rest)
    else if isSingleDot s then resolveSegments before (t :: rest)
    else resolveSegments (before ++ [s]) (t :: rest)

/-- Split at every slash. -/
def splitSlashes (special : Bool) : List Char → List (List Char)
  | [] => [[]]
  | c :: rest =>
    if isSlash special c then [] :: splitSlashes special rest
    else match splitSlashes special rest with
      | [] => [[c]]
      | part :: parts => (c :: part) :: parts

/-- Read a hierarchical path; its first slash may be missing. -/
def readPath (special : Bool) (cs : List Char) : UrlPath :=
  let body := match cs with
    | c :: rest => if isSlash special c then some rest else some (c :: rest)
    | [] => if special then some [] else none
  match body with
  | none => .segments []
  | some body =>
    let parts := (splitSlashes special body).map fun p =>
      String.ofList (percentEncode inPath p)
    .segments (resolveSegments [] parts)

/-- Split off query and fragment. -/
def splitTail (cs : List Char) : List Char × Option (List Char) × Option (List Char) :=
  let (cs, fragment) := match cs.dropWhile (· ≠ '#') with
    | _ :: f => (cs.takeWhile (· ≠ '#'), some f)
    | [] => (cs, none)
  match cs.dropWhile (· ≠ '?') with
  | _ :: q => (cs.takeWhile (· ≠ '?'), some q, fragment)
  | [] => (cs, none, fragment)

/-- Put a URL together from its parts; query and fragment are still to be encoded. -/
def assemble (scheme : String) (credentials : String × Option String) (host : Option Host)
    (port : Option Nat) (path : UrlPath) (query fragment : Option (List Char)) : Url :=
  let inQueryOf := if isSpecial scheme then inSpecialQuery else inQuery
  { scheme, host, port, path
    username := credentials.1
    password := credentials.2
    query := query.map fun q => String.ofList (percentEncode inQueryOf q)
    fragment := fragment.map fun f => String.ofList (percentEncode inFragment f) }

/-- Read the authority and path of a scheme other than `file`, after the slashes. -/
def readAuthority (scheme : String) (cs : List Char) : Except UrlFault Url := do
  let special := isSpecial scheme
  let authority := cs.takeWhile fun c => !endsAuthority special c
  let rest := cs.dropWhile fun c => !endsAuthority special c
  let (credentials, address) := match splitAtLast '@' authority with
    | some (user, address) => (readCredentials user, address)
    | none => (("", none), authority)
  let hostChars := hostPart false address
  let portChars := (address.drop hostChars.length).drop 1
  let hasCredentials := authority.length ≠ address.length
  let host ←
    if hostChars.isEmpty then
      if special ∨ hasCredentials ∨ !(address.isEmpty) then .error .emptyHost
      else .ok (Host.opaqueText "")
    else if special then readHost hostChars
    else readOpaqueHost hostChars
  let port ← readPort scheme portChars
  let (pathChars, query, fragment) := splitTail rest
  return assemble scheme credentials (some host) port (readPath special pathChars) query fragment

/-- A drive letter with its colon. -/
def isDrive (cs : List Char) : Bool :=
  match cs with
  | [a, b] => a.isAlpha && (b == ':' || b == '|')
  | _ => false

/-- Read what follows the scheme `file`. -/
def readFile (cs : List Char) : Except UrlFault Url := do
  let (cs, query, fragment) := splitTail cs
  let build := fun host path => assemble "file" ("", none) (some host) none path query fragment
  match cs with
  | a :: b :: rest =>
    if isSlash true a && isSlash true b then
      let hostChars := rest.takeWhile fun c => !isSlash true c
      let pathChars := rest.dropWhile fun c => !isSlash true c
      if isDrive hostChars then return build (.opaqueText "") (readPath true rest)
      else if hostChars.isEmpty then return build (.opaqueText "") (readPath true pathChars)
      else
        let host ← readHost hostChars
        let host := if host = .domain "localhost" then .opaqueText "" else host
        return build host (readPath true pathChars)
    else return build (.opaqueText "") (readPath true cs)
  | cs => return build (.opaqueText "") (readPath true cs)

/-- Read an absolute URL. -/
def parse (s : String) : Except UrlFault Url :=
  match readScheme? (significant s.toList) with
  | none => .error .relativeWithoutBase
  | some (scheme, rest) =>
    if scheme = "file" then readFile rest
    else if isSpecial scheme then readAuthority scheme (rest.dropWhile (isSlash true))
    else match rest with
      | '/' :: '/' :: rest => readAuthority scheme rest
      | '/' :: rest =>
        let (cs, query, fragment) := splitTail ('/' :: rest)
        .ok (assemble scheme ("", none) none none (readPath false cs) query fragment)
      | rest =>
        let (cs, query, fragment) := splitTail rest
        .ok (assemble scheme ("", none) none none
          (.rootless (String.ofList (percentEncode isControl cs))) query fragment)

end Url

end ToolRelay
