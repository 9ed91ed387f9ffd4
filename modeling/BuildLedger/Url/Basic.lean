import BuildLedger.Url.Host

/-!
# Addresses

An address has a scheme, perhaps a user and a password, a host and a port, a path, and perhaps a
query and a fragment. Its parts are kept in encoded form. The path is a list of segments; the empty
list is the empty path, and a list with one empty segment is a lone slash.
-/
namespace BuildLedger

structure Url where
  scheme : String
  username : String := ""
  password : Option String := none
  /-- An address without any authority has no host; one with an empty authority an empty host. -/
  host : Option Url.Host := none
  port : Option Nat := none
  path : List String := []
  query : Option String := none
  fragment : Option String := none
deriving Repr, DecidableEq

namespace Url

/-! ## Schemes -/

/-- The port that a common scheme stands for. -/
def defaultPort? (scheme : String) : Option Nat :=
  if scheme == "http" || scheme == "ws" then some 80
  else if scheme == "https" || scheme == "wss" then some 443
  else if scheme == "ftp" then some 21
  else none

def isFileScheme (scheme : String) : Bool := scheme == "file"

/-- Schemes whose addresses always have a path, and take a backslash for a slash. -/
def isSpecialScheme (scheme : String) : Bool :=
  (defaultPort? scheme).isSome || isFileScheme scheme

def isSpecial (url : Url) : Bool := isSpecialScheme url.scheme

/-! ## Text -/

/-- The path as it stands in the address. -/
def pathText (url : Url) : String := String.join (url.path.map ("/" ++ ·))

def credentialsText (url : Url) : String :=
  match url.password with
  | some password => url.username ++ ":" ++ password ++ "@"
  | none => if url.username.isEmpty then "" else url.username ++ "@"

/-- Host and port, without a port that goes without saying. -/
def hostText (url : Url) : String :=
  (url.host.getD .empty).text ++ (match url.port with
    | some port => ":" ++ toString port
    | none => "")

/-- The path and the query, as a server is asked for them. -/
def target (url : Url) : String :=
  url.pathText ++ (match url.query with
    | some query => "?" ++ query
    | none => "")

/-- What a path without authority needs in front, so that it does not look like one. -/
def guardText (url : Url) : String :=
  match url.host, url.path with
  | none, "" :: _ :: _ => "/."
  | _, _ => ""

/-- The address up to its query. -/
def withoutFragment (url : Url) : String :=
  let authority := if url.host.isSome then "//" ++ url.credentialsText ++ url.hostText else ""
  url.scheme ++ ":" ++ authority ++ url.guardText ++ url.target

def text (url : Url) : String :=
  url.withoutFragment ++ (match url.fragment with
    | some fragment => "#" ++ fragment
    | none => "")

/-! ## Paths -/

def isSingleDot (segment : String) : Bool := [".", "%2e", "%2E"].contains segment

def isDoubleDot (segment : String) : Bool :=
  ["..", ".%2e", ".%2E", "%2e.", "%2E.", "%2e%2e", "%2e%2E", "%2E%2e", "%2E%2E"].contains segment

/-- The path after a segment that another one follows. -/
def enter (path : List String) (segment : String) : List String :=
  if isDoubleDot segment then path.dropLast
  else if isSingleDot segment then path
  else path ++ [segment]

/-- The path after its last segment; dots name a directory, whose path ends with a slash. -/
def close (path : List String) (segment : String) : List String :=
  if isDoubleDot segment then path.dropLast ++ [""]
  else if isSingleDot segment then path ++ [""]
  else path ++ [segment]

/-- The path that a list of segments leads to. -/
def resolve (path : List String) : List String → List String
  | [] => path
  | [last] => close path last
  | segment :: rest => resolve (enter path segment) rest

/-- The address without an empty last segment; a lone slash stays. -/
def withoutFinalSlash (url : Url) : Url :=
  if 1 < url.path.length && url.path.getLast? == some "" then { url with path := url.path.dropLast }
  else url

/-- The characters of a segment that count: tabs and line ends never do. -/
def countedText (segment : String) : String :=
  String.ofList (segment.toList.filter fun character =>
    !(character == '\t' || character == '\n' || character == '\r'))

def encodeSegment (special : Bool) (segment : String) : String :=
  encodeText (standsInSegment special) (countedText segment)

/-- The address with one more segment; a segment of dots is left out. The first segment after a lone
slash takes its place. -/
def push (url : Url) (segment : String) : Url :=
  if segment == "." || segment == ".." then url
  else
    let base := if url.path == [""] then [] else url.path
    { url with path := close base (encodeSegment url.isSpecial segment) }

def append (url : Url) (segments : List String) : Url := segments.foldl push url.withoutFinalSlash

/-- The address with a text behind the last segment of its path. -/
def withSuffix (url : Url) (suffix : String) : Url :=
  match url.path.getLast? with
  | some last => { url with path := url.path.dropLast ++ [last ++ suffix] }
  | none => if suffix.isEmpty then url else { url with path := [suffix] }

/-! ## Queries and users -/

/-- The address with one more pair in its query. -/
def withPair (url : Url) (name value : String) : Url :=
  let before := match url.query with
    | none | some "" => ""
    | some query => query ++ "&"
  { url with query := some (before ++ name ++ "=" ++ value) }

/-- The user and the password in the address, decoded; none if there is neither. -/
def credentials? (url : Url) : Option (String × Option String) :=
  match decodeText? url.username with
  | none => none
  | some username =>
      let password := url.password.bind decodeText?
      if username.isEmpty && password.isNone then none else some (username, password)

def withoutCredentials (url : Url) : Url := { url with username := "", password := none }

end Url

end BuildLedger
