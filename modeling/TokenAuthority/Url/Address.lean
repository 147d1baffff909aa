import TokenAuthority.Url.Host

/-!
Reading an address and writing it in its normal form. Web addresses (http, https, ws, wss, ftp)
always have a host, take a backslash for a slash and drop the usual port of their scheme.
-/

namespace TokenAuthority.Url

open Text

/-- An address. Every part is kept as it is written, encoded. -/
structure Address where
  scheme : String
  user : List Char
  password : Option (List Char)
  /-- The host, empty in `file:///x`, and missing where no authority is written. -/
  host : Option (List Char)
  port : Option Nat
  path : List Char
  query : Option (List Char)
  fragment : Option (List Char)

namespace Address

def usualPort? (scheme : String) : Option Nat :=
  if scheme = "http" ∨ scheme = "ws" then some 80
  else if scheme = "https" ∨ scheme = "wss" then some 443
  else if scheme = "ftp" then some 21
  else none

def isWeb (scheme : String) : Bool := (usualPort? scheme).isSome

/-- Whether backslashes count as slashes and paths are never empty. -/
def isSpecial (scheme : String) : Bool := isWeb scheme || scheme == "file"

def hasHost (a : Address) : Bool := a.host.any (· ≠ [])

def authorityText (a : Address) : List Char :=
  match a.host with
  | none => []
  | some host =>
    let password := match a.password with
      | some password => ':' :: password
      | none => []
    let user := a.user ++ password
    "//".toList ++ (if user = [] then [] else user ++ ['@']) ++ host ++
      (match a.port with
        | some port => ':' :: Nat.toDigits 10 port
        | none => [])

def marked (mark : Char) : Option (List Char) → List Char
  | some part => mark :: part
  | none => []

/-- The normal form of an address. A path that would be taken for an authority gets a dot. -/
def text (a : Address) : String :=
  let dot := if a.host.isNone && "//".toList.isPrefixOf a.path then "/.".toList else []
  String.ofList (a.scheme.toList ++ ':' :: a.authorityText ++ dot ++ a.path ++
    marked '?' a.query ++ marked '#' a.fragment)

/-- The address without its user and password. They stay if the user's name is not UTF-8, or if
there is no name and the password is not UTF-8. -/
def withoutUser (a : Address) : Address :=
  let password? := a.password.bind fun password => Utf8.strict? (decode password)
  match Utf8.strict? (decode a.user) with
  | none => a
  | some name =>
    if name ≠ [] ∨ password?.isSome then { a with user := [], password := none } else a

/-! ### Reading -/

def isSlash (special : Bool) (c : Char) : Bool := c == '/' || (special && c == '\\')

def endsAuthority (special : Bool) (c : Char) : Bool := isSlash special c || c == '?' || c == '#'

def trimmed (cs : List Char) : List Char :=
  let outer (c : Char) : Bool := c.toNat ≤ 0x20
  ((cs.dropWhile outer).reverse.dropWhile outer).reverse

def isBreak (c : Char) : Bool := "\t\n\r".contains c

def joined (cs : List Char) : List Char := cs.filter (!isBreak ·)

def readScheme? (cs : List Char) : Option (String × List Char) :=
  let scheme := cs.takeWhile fun c => c.isAlphanum || "+-.".contains c
  match scheme, cs.drop scheme.length with
  | first :: _, ':' :: rest =>
    if first.isAlpha then some (String.ofList (scheme.map Char.toLower), rest) else none
  | _, _ => none

def isDot (segment : List Char) : Bool :=
  [".", "%2e"].contains (String.ofList (segment.map Char.toLower))

def isDoubleDot (segment : List Char) : Bool :=
  ["..", ".%2e", "%2e.", "%2e%2e"].contains (String.ofList (segment.map Char.toLower))

/-- Whether a segment names a drive: a letter with a colon or a bar, alone or before a backslash. -/
def isDrive : List Char → Bool
  | [c, d] => c.isAlpha && (d == ':' || d == '|')
  | c :: d :: e :: _ => c.isAlpha && (d == ':' || d == '|') && e == '\\'
  | _ => false

/-- Leaves the last of the segments, the first one in the list, unless it names a drive. -/
def leave : List (List Char) → List (List Char)
  | [] => []
  | segment :: done => if isDrive segment then segment :: done else done

/-- The drive at the start of a segment that a tab or a line end sets off from more text, and that
text. -/
def setOffDrive? (segment : List Char) : Option (List Char × List Char) :=
  match joined segment with
  | c :: ':' :: rest =>
    let behind := (segment.dropWhile (· != ':')).drop 1
    if c.isAlpha && rest ≠ [] && behind.head?.any isBreak then some ([c, ':'], rest) else none
  | _ => none

structure Path where
  segments : List (List Char)
  isSetOff : Bool

/-- Goes through the segments of a path; `done` holds the ones that stay, the last one first. A
drive that is set off counts as a segment, and the text behind it is taken as it is. -/
def resolve (done : List (List Char)) (isSetOff : Bool) : List (List Char) → Path
  | [] => ⟨done.reverse, isSetOff⟩
  | segment :: rest =>
    match if done = [] then setOffDrive? segment else none with
    | some (drive, name) => resolve [name, drive] true rest
    | none =>
      let name := joined segment
      let last := if rest = [] then [[]] else []
      if isDoubleDot name then resolve (last ++ leave done) isSetOff rest
      else if isDot name then resolve (last ++ done) isSetOff rest
      else resolve (name :: done) isSetOff rest

def splitPath (special : Bool) (cs : List Char) : List (List Char) :=
  (cs.map fun c => if isSlash special c then '/' else c).splitOn '/'

def readSegments (special : Bool) (cs : List Char) : List (List Char) :=
  (resolve [] false (splitPath special cs)).segments

def pathOf (segments : List (List Char)) : List Char :=
  segments.flatMap fun segment => '/' :: encode inPath segment

def readPath (special : Bool) (cs : List Char) : List Char :=
  match cs with
  | [] => if special then ['/'] else []
  | c :: rest => pathOf (readSegments special (if isSlash special c then rest else c :: rest))

def splitTail (cs : List Char) : List Char × Option (List Char) × Option (List Char) :=
  let front := cs.takeWhile (· != '#')
  let fragment := match cs.drop front.length with
    | _ :: rest => some rest
    | [] => none
  let path := front.takeWhile (· != '?')
  let query := match front.drop path.length with
    | _ :: rest => some rest
    | [] => none
  (path, query, fragment)

def splitUser (cs : List Char) : Option (List Char) × List Char :=
  if cs.contains '@' then
    let host := (cs.reverse.takeWhile (· != '@')).reverse
    (some (cs.take (cs.length - host.length - 1)), host)
  else (none, cs)

def splitHost (inside : Bool) : List Char → List Char × List Char
  | [] => ([], [])
  | c :: rest =>
    if c = ':' ∧ !inside then ([], c :: rest)
    else
      let inside := if c = '[' then true else if c = ']' then false else inside
      let (host, rest) := splitHost inside rest
      (c :: host, rest)

/-- Reads what follows the host: nothing, or a colon and a port, which may be empty and which a
backslash ends. -/
def readPort (scheme : String) : List Char → Except Fault (Option Nat × List Char)
  | ':' :: rest =>
    let digits := rest.takeWhile (· != '\\')
    let port := Nat.ofDigitChars 10 digits 0
    if !digits.all Char.isDigit ∨ 0xFFFF < port then .error .badPort
    else .ok (if digits = [] ∨ usualPort? scheme = some port then none else some port,
      rest.drop digits.length)
  | rest => .ok (none, rest)

/-- Reads an authority into an address and gives the text that it leaves to the path. A lone at sign
must be the end of the whole text. -/
def readAuthority (a : Address) (cs : List Char) (isEnd : Bool) :
    Except Fault (Address × List Char) := do
  let (user?, rest) := splitUser cs
  let user := user?.getD []
  if user? = some [] ∧ rest = [] ∧ !isEnd then throw .emptyHost
  let name := user.takeWhile (· != ':')
  let password := user.drop (name.length + 1)
  let (hostText, portText) := splitHost false rest
  if hostText = [] ∧ (isWeb a.scheme ∨ portText ≠ []) then throw .emptyHost
  let host ← if isSpecial a.scheme then readWebHost hostText else readOpaqueHost hostText
  let (port, left) ← readPort a.scheme portText
  let a := { a with
    user := encode inUser name
    password := if password = [] then none else some (encode inUser password)
    host := some host
    port }
  if host = [] ∧ (a.user ≠ [] ∨ a.password.isSome) then throw .emptyHost
  return (a, left)

/-- Gives a file address its host and its path. A drive that is the first segment is written with a
colon and takes the place of the host; further slashes at the start are dropped. -/
def withFile (a : Address) (host : List Char) (pieces : List (List Char)) : Address :=
  let path := resolve [] false pieces
  let plain : Address :=
    { a with host := some host, path := '/' :: (pathOf path.segments).dropWhile (· == '/') }
  match path.segments with
  | [c, d] :: rest =>
    if isDrive [c, d] && !path.isSetOff then
      { a with host := some [], path := pathOf ([c, ':'] :: rest) }
    else plain
  | _ => plain

def readFileHost (a : Address) (piece : List Char) (pieces : List (List Char)) :
    Except Fault Address := do
  let hostText := joined piece
  if hostText = [] ∨ isDrive hostText then return a.withFile [] (piece :: pieces)
  let host ← readWebHost hostText
  if host = "localhost".toList then return a.withFile [] ([] :: pieces)
  return a.withFile host (if pieces = [] then [[]] else pieces)

def readFile (a : Address) : List (List Char) → Except Fault Address
  | first :: second :: pieces =>
    if joined first ≠ [] then .ok (a.withFile [] (first :: second :: pieces))
    else
      match joined second, pieces with
      | [], piece :: pieces => readFileHost a piece pieces
      | _, _ => .ok (a.withFile [] (second :: pieces))
  | pieces => .ok (a.withFile [] pieces)

def readHierarchy (a : Address) (cs : List Char) : Except Fault Address := do
  let special := isSpecial a.scheme
  let authority := cs.takeWhile (!endsAuthority special ·)
  let rest := cs.drop authority.length
  let (a, left) ← readAuthority a authority (rest = [] && a.query.isNone && a.fragment.isNone)
  return { a with path := readPath special (left ++ rest) }

def read (text : String) : Except Fault Address := do
  let cs := trimmed text.toList
  match readScheme? (joined cs) with
  | none => throw .relative
  | some (scheme, rest) =>
    let (path, query, fragment) := splitTail rest
    let set := if isSpecial scheme then inWebQuery else inQuery
    let a : Address :=
      { scheme, user := [], password := none, host := none, port := none, path := []
        query := query.map (encode set), fragment := fragment.map (encode inFragment) }
    if isWeb scheme then readHierarchy a (path.dropWhile (isSlash true))
    else if scheme = "file" then
      let written := ((cs.dropWhile (· != ':')).drop 1).takeWhile fun c => c != '?' && c != '#'
      readFile a (splitPath true written)
    else
      match path with
      | '/' :: '/' :: rest => readHierarchy a rest
      | '/' :: rest => return { a with path := pathOf (readSegments false rest) }
      | path => return { a with path := encode isControl path }

def queryText (a : Address) : List Char := a.query.getD []

end Address

end TokenAuthority.Url
