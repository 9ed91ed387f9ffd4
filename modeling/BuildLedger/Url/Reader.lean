import BuildLedger.Url.Basic

/-!
# Reading an address

Blanks and controls around an address are dropped, and so are tabs and line ends inside. The scheme
decides the rest: a common scheme takes any number of slashes before its host, a file address has a
host of its own kind, and all other addresses have a host only after two slashes.
-/
namespace BuildLedger.Url

/-- What counts of an address. -/
def cleaned (text : String) : List Char :=
  let outside (character : Char) : Bool := character.toNat ≤ 0x20
  let inner := (text.toList.dropWhile outside).reverse.dropWhile outside
  inner.reverse.filter fun character =>
    !(character == '\t' || character == '\n' || character == '\r')

def isSchemeCharacter (character : Char) : Bool :=
  isLetter character || isDigit character || ['+', '-', '.'].contains character

/-- The scheme in lower case, and what follows its colon. -/
def scheme? (text : List Char) : Option (String × List Char) :=
  let name := text.takeWhile isSchemeCharacter
  match name.head?, text.drop name.length with
  | some first, ':' :: rest =>
      if isLetter first then some (String.ofList (name.map Host.lower), rest) else none
  | _, _ => none

/-- A character that ends the part of an address with user, host and port. -/
def endsAuthority (special : Bool) (character : Char) : Bool :=
  ['/', '?', '#'].contains character || (special && character == '\\')

/-! ## User and password -/

/-- What stands before and after the last at sign of a text. -/
def lastAt? (text : List Char) : Option (List Char × List Char) :=
  let after := (text.reverse.takeWhile (· != '@')).reverse
  if after.length < text.length then
    some (text.take (text.length - after.length - 1), after)
  else none

def encodedUser (text : List Char) : String :=
  encodeText standsInUserInfo (String.ofList text)

/-- User and password; an empty password is none. -/
def userOf (text : List Char) : String × Option String :=
  let name := text.takeWhile (· != ':')
  match text.drop (name.length + 1) with
  | [] => (encodedUser name, none)
  | password => (encodedUser name, some (encodedUser password))

/-! ## Host and port -/

/-- How many characters belong to the host: up to a colon outside brackets. -/
def hostLength (inBrackets : Bool) : List Char → Nat
  | [] => 0
  | character :: rest =>
      if character == ':' && !inBrackets then 0
      else if character == '[' then hostLength true rest + 1
      else if character == ']' then hostLength false rest + 1
      else hostLength inBrackets rest + 1

/-- The value of decimal digits. -/
def decimalValue (digits : List Char) : Nat :=
  digits.foldl (fun total digit => total * 10 + (digit.toNat - 0x30)) 0

/-- A port after its colon, and what follows; no digits and the default port are no port. -/
def port? (scheme : String) (text : List Char) : Except Fault (Option Nat × List Char) :=
  let digits := text.takeWhile isDigit
  let rest := text.drop digits.length
  if 65535 < decimalValue digits then .error .invalidPort
  else
    let port := if digits.isEmpty || some (decimalValue digits) == defaultPort? scheme then none
      else some (decimalValue digits)
    match rest.head? with
    | none => .ok (port, rest)
    | some next =>
        if ['/', '\\', '?', '#'].contains next then .ok (port, rest) else .error .invalidPort

/-- Host and port of a text that begins with a host, and what follows them. -/
def hostAndPort (scheme : String) (text : List Char) :
    Except Fault (Host × Option Nat × List Char) := do
  let special := isSpecialScheme scheme
  let authority := text.takeWhile (! endsAuthority special ·)
  let name := authority.take (hostLength false authority)
  let rest := text.drop name.length
  if special && name.isEmpty then throw .emptyHost
  let host ← if special then Host.ofName name else Host.free name
  match rest with
  | ':' :: after =>
      if host = .empty then throw .emptyHost
      let (port, behind) ← port? scheme after
      return (host, port, behind)
  | _ => return (host, none, rest)

/-! ## Path, query and fragment -/

def encodedPath (piece : List Char) : String := encodeText standsInPath (String.ofList piece)

/-- The characters of the path, and what follows. -/
def pathPart (text : List Char) : List Char × List Char :=
  let path := text.takeWhile fun character => !(character == '?' || character == '#')
  (path, text.drop path.length)

/-- The segments of a path. -/
def segments (special : Bool) (path : List Char) : List String :=
  let path := if special then path.map fun character => if character == '\\' then '/' else character
    else path
  match path with
  | [] => if special then [""] else []
  | '/' :: rest => resolve [] ((rest.splitOn '/').map encodedPath)
  | _ => resolve [] ((path.splitOn '/').map encodedPath)

/-- A path of a file address does not begin with empty segments. -/
def withoutEmptyStart : List String → List String
  | "" :: next :: rest => withoutEmptyStart (next :: rest)
  | path => path

/-- Query and fragment of what follows a path. -/
def tail (special : Bool) (text : List Char) : Option String × Option String :=
  match text with
  | '?' :: rest =>
      let query := rest.takeWhile (· != '#')
      (some (encodeText (standsInQuery special) (String.ofList query)),
        match rest.drop query.length with
        | '#' :: fragment => some (encodeText standsInFragment (String.ofList fragment))
        | _ => none)
  | '#' :: fragment => (none, some (encodeText standsInFragment (String.ofList fragment)))
  | _ => (none, none)

/-- Put a path with what follows it to the parts of an address that stand before it. -/
def finish (front : Url) (text : List Char) : Url :=
  let special := front.isSpecial
  let (path, rest) := pathPart text
  let (query, fragment) := tail special rest
  let path := segments special path
  { front with
    path := if isFileScheme front.scheme then withoutEmptyStart path else path
    query := query
    fragment := fragment }

/-! ## Whole addresses -/

/-- The rest of an address whose user, host and port come first. -/
def afterSlashes (scheme : String) (text : List Char) : Except Fault Url := do
  let special := isSpecialScheme scheme
  let authority := text.takeWhile (! endsAuthority special ·)
  let rest := text.drop authority.length
  match lastAt? authority with
  | none =>
      let (host, port, behind) ← hostAndPort scheme text
      return finish { scheme, host := some host, port } behind
  | some (user, named) =>
      if user.isEmpty && named.isEmpty && !rest.isEmpty then throw .emptyHost
      let (username, password) := userOf user
      let (host, port, behind) ← hostAndPort scheme (named ++ rest)
      if host = .empty && !(username.isEmpty && password.isNone) then throw .emptyHost
      return finish { scheme, username, password, host := some host, port } behind

/-- The rest of a file address. -/
def afterFileScheme (scheme : String) (text : List Char) : Except Fault Url :=
  let slashes := text.takeWhile fun character => character == '/' || character == '\\'
  if slashes.length < 2 then .ok (finish { scheme, host := some .empty } text)
  else do
    let named := text.drop 2
    let name := named.takeWhile (! endsAuthority true ·)
    let host ← if name.isEmpty then pure .empty else Host.ofName name
    let host := if host = .domain "localhost" then .empty else host
    return finish { scheme, host := some host } (named.drop name.length)

def ofText (text : String) : Except Fault Url :=
  match scheme? (cleaned text) with
  | none => .error .withoutBase
  | some (scheme, rest) =>
      if isFileScheme scheme then afterFileScheme scheme rest
      else if isSpecialScheme scheme then
        afterSlashes scheme (rest.dropWhile fun character => character == '/' || character == '\\')
      else
        match rest with
        | '/' :: '/' :: named => afterSlashes scheme named
        | '/' :: _ => .ok (finish { scheme } rest)
        | _ => .error .withoutPath

end BuildLedger.Url
