import QueryGateway.Net.Host

/-!
# Web addresses

An address is read once and then always written in the same form: scheme and
host in lower case, dots in the path resolved, a port that the scheme implies
left out, and characters that have no place in a part written by their bytes.
-/

namespace QueryGateway
namespace Net

/-- The path of an address: segments that each follow a slash, or any text. -/
inductive Path where
  | plain (text : String)
  | segments (list : List String)
deriving DecidableEq

def Path.render : Path -> String
  | .plain text => text
  | .segments list => String.join (list.map fun segment => "/" ++ segment)

structure Url where
  scheme : String
  username : String
  password : String
  host : Option Host
  port : Option Nat
  path : Path
  query : Option String
  fragment : Option String
deriving DecidableEq

namespace Url

/-- The schemes whose addresses all have a host, with the ports they imply. -/
def hostedSchemes : List (String × Nat) :=
  [("http", 80), ("https", 443), ("ws", 80), ("wss", 443), ("ftp", 21)]

def fileScheme : String :=
  "file"

def impliedPort (scheme : String) : Option Nat :=
  (hostedSchemes.find? fun entry => entry.1 == scheme).map Prod.snd

def isHosted (scheme : String) : Bool :=
  (impliedPort scheme).isSome

/-!
## Writing
-/

def credentials (url : Url) : String :=
  if url.username.isEmpty && url.password.isEmpty then ""
  else url.username ++ (if url.password.isEmpty then "" else ":" ++ url.password) ++ "@"

def authority (url : Url) : String :=
  match url.host, url.path with
  | some host, _ =>
      "//" ++ url.credentials ++ host.render ++
        (url.port.map fun port => s!":{port}").getD ""
  | none, .segments ("" :: _ :: _) => "/."
  | none, _ => ""

def afterMark (mark : String) (part : Option String) : String :=
  (part.map fun text => mark ++ text).getD ""

def render (url : Url) : String :=
  url.scheme ++ ":" ++ url.authority ++ url.path.render ++ afterMark "?" url.query ++
    afterMark "#" url.fragment

/-!
## Characters
-/

def isUnprintable (c : Char) : Bool :=
  c.toNat < 0x20 || 0x7E < c.toNat

def encodeWhere (condition : Char -> Bool) (text : List Char) : String :=
  String.ofList (text.flatMap fun c =>
    if isUnprintable c || condition c then Text.percentBytes c else [c])

def inFragment (c : Char) : Bool :=
  " \"<>`".toList.contains c

def inQuery (hosted : Bool) (c : Char) : Bool :=
  " \"#<>".toList.contains c || (hosted && c.toNat == 0x27)

def inPath (c : Char) : Bool :=
  inFragment c || "#?\x7b\x7d".toList.contains c

def inCredentials (c : Char) : Bool :=
  inPath c || "/:;=@[\\]^|".toList.contains c

/-!
## Reading
-/

/-- Line breaks and tabs do not count anywhere, nor blanks and controls at the ends. -/
def clean (text : List Char) : List Char :=
  let edge (c : Char) : Bool := c.toNat ≤ 0x20
  let inner := ((text.dropWhile edge).reverse.dropWhile edge).reverse
  inner.filter fun c => !(c = '\t' || c = '\n' || c = '\r')

def breakAt (condition : Char -> Bool) (text : List Char) : List Char × List Char :=
  (text.takeWhile (!condition ·), text.dropWhile (!condition ·))

def after? (mark : Char) (text : List Char) : Option (List Char) :=
  match text with
  | c :: rest => if c = mark then some rest else none
  | [] => none

def scheme? (text : List Char) : Option (String × List Char) :=
  let (front, rest) := breakAt (· = ':') text
  match front, after? ':' rest with
  | first :: more, some rest =>
      if first.isAlpha &&
          more.all (fun c => c.isAlphanum || c = '+' || c = '-' || c = '.') then
        some (String.ofList ((first :: more).map Char.toLower), rest)
      else
        none
  | _, _ => none

def isSlash (hosted : Bool) (c : Char) : Bool :=
  c = '/' || (hosted && c = '\\')

def isDot (segment : List Char) : Bool :=
  let lowered := segment.map Char.toLower
  lowered = ".".toList || lowered = "%2e".toList

def isDoubleDot (segment : List Char) : Bool :=
  let lowered := String.ofList (segment.map Char.toLower)
  ["..", ".%2e", "%2e.", "%2e%2e"].contains lowered

/-- A letter and a colon or bar name a drive, above which no path leads. -/
def isDrive (segment : String) : Bool :=
  match segment.toList with
  | [letter, mark] => letter.isAlpha && (mark = ':' || mark = '|')
  | _ => false

def parent (done : List String) : List String :=
  match done with
  | last :: above => if isDrive last then done else above
  | [] => []

/-- Resolve dots; `done` holds the segments so far, last one first. -/
def resolve (done : List String) : List (List Char) -> List String
  | [] => done.reverse
  | segment :: rest =>
      if isDoubleDot segment then
        if rest.isEmpty then ("" :: parent done).reverse else resolve (parent done) rest
      else if isDot segment then
        if rest.isEmpty then ("" :: done).reverse else resolve done rest
      else
        resolve (encodeWhere inPath segment :: done) rest

/-- The segments of a path; the slash in front of it starts the first one. -/
def segments (hosted : Bool) (text : List Char) : List String :=
  let body := match text with
    | c :: rest => if isSlash hosted c then rest else text
    | [] => []
  if text.isEmpty && !hosted then [] else resolve [] (body.splitOnP (isSlash hosted))

/-- The port in a text; none when it is empty or the one that the scheme implies. -/
def port? (scheme : String) (text : List Char) : Option (Option Nat) :=
  if text.all Char.isDigit then
    let value := valueOf 10 text
    if text.isEmpty then some none
    else if 65535 < value then none
    else if impliedPort scheme = some value then some none
    else some (some value)
  else
    none

def splitPort (text : List Char) : List Char × Option (List Char) :=
  match text with
  | '[' :: _ =>
      let (inner, rest) := breakAt (· = ']') text
      let (host, tail) := (inner ++ rest.take 1, rest.drop 1)
      let (between, port) := breakAt (· = ':') tail
      (host ++ between, after? ':' port)
  | _ =>
      let (host, port) := breakAt (· = ':') text
      (host, after? ':' port)

def splitLast (mark : Char) (text : List Char) : Option (List Char) × List Char :=
  let (last, front) := breakAt (· = mark) text.reverse
  ((after? mark front).map List.reverse, last.reverse)

def parts (text : List Char) : List Char × Option (List Char) × Option (List Char) :=
  let (front, fragment) := breakAt (· = '#') text
  let (path, query) := breakAt (· = '?') front
  (path, after? '?' query, after? '#' fragment)

def withAuthority? (scheme : String) (text : List Char) : Option Url := do
  let hosted := isHosted scheme
  let (authority, rest) := breakAt (fun c => isSlash hosted c || c = '?' || c = '#') text
  let (user, place) := splitLast '@' authority
  let (username, password) := breakAt (· = ':') (user.getD [])
  let (hostText, portText) := splitPort place
  if hostText.isEmpty && (hosted || user.isSome || portText.isSome) then
    none
  else
    let host ← if hosted then Host.parse? hostText else Host.parseAny? hostText
    let port ← port? scheme (portText.getD [])
    let (path, query, fragment) := parts rest
    pure
      { scheme, host, port
        username := encodeWhere inCredentials username
        password := encodeWhere inCredentials (password.drop 1)
        path := .segments (segments hosted path)
        query := query.map (encodeWhere (inQuery hosted))
        fragment := fragment.map (encodeWhere inFragment) }

def withoutAuthority (scheme : String) (text : List Char) : Url :=
  let (path, query, fragment) := parts text
  { scheme, host := none, port := none, username := "", password := ""
    path :=
      if path.head? = some '/' then .segments (segments false path)
      else .plain (encodeWhere (fun _ => false) path)
    query := query.map (encodeWhere (inQuery false))
    fragment := fragment.map (encodeWhere inFragment) }

/-- Whether a character ends an authority whose scheme has backslashes for slashes. -/
def endsAuthority (c : Char) : Bool :=
  isSlash true c || c = '?' || c = '#'

/-- Host and path of a file; a host stands only between two slashes and a third one. -/
def fileParts (text : List Char) : List Char × List Char :=
  match text with
  | first :: second :: rest =>
      if isSlash true first && isSlash true second then breakAt endsAuthority rest else ([], text)
  | _ => ([], text)

/-- The address of a file; the machine itself need not be named. -/
def ofFile? (text : List Char) : Option Url := do
  let (hostText, rest) := fileParts text
  let host ← if hostText.isEmpty then some (Host.name "") else Host.parse? hostText
  let (path, query, fragment) := parts rest
  pure
    { scheme := fileScheme, port := none, username := "", password := ""
      host := some (if host = .name "localhost" then .name "" else host)
      path := .segments (segments true path)
      query := query.map (encodeWhere (inQuery true))
      fragment := fragment.map (encodeWhere inFragment) }

def parse? (text : String) : Option Url := do
  let (scheme, rest) ← scheme? (clean text.toList)
  if scheme = fileScheme then
    ofFile? rest
  else if isHosted scheme then
    withAuthority? scheme (rest.dropWhile (isSlash true))
  else
    match rest with
    | '/' :: '/' :: tail => withAuthority? scheme tail
    | _ => pure (withoutAuthority scheme rest)

def hasHost (url : Url) : Bool :=
  match url.host with
  | none => false
  | some host => host != .name ""

/-!
## Changes
-/

/-- Pairs added to the query; a query that is still empty then is none at all. -/
def addPairs (pairs : List (String × String)) (url : Url) : Url :=
  let added := Text.formPairs pairs
  let current := url.query.getD ""
  let joined :=
    if current.isEmpty then added
    else if added.isEmpty then current
    else current ++ "&" ++ added
  { url with query := if joined.isEmpty then none else some joined }

def withoutCredentials (url : Url) : Url :=
  { url with username := "", password := "" }

def withoutFragment (url : Url) : Url :=
  { url with fragment := none }

end Url
end Net
end QueryGateway
