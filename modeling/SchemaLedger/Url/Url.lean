import SchemaLedger.Url.Host

namespace SchemaLedger

/-- An address with a host. The path has at least one segment, and a last one that is empty stands
for a slash at the end. -/
structure Url where
  scheme : String
  username : List Char
  password : List Char
  host : List Char
  port : Option Nat
  path : List (List Char)
  query : Option (List Char)
  fragment : Option (List Char)
deriving DecidableEq, Repr

/-- Why a text is no address with a host. -/
inductive UrlFault
  | unreadable
  | otherScheme (scheme : String)
deriving DecidableEq, Repr

namespace Url

/-- The ports that well-known schemes go without. -/
def defaultPort? (scheme : String) : Option Nat :=
  if scheme = "http" ∨ scheme = "ws" then some 80
  else if scheme = "https" ∨ scheme = "wss" then some 443
  else if scheme = "ftp" then some 21
  else none

def isIgnored (c : Char) : Bool := c == '\t' || c == '\n' || c == '\r'

/-- Controls and blanks at the ends do not count, and tabs and line breaks nowhere. -/
def clean (text : String) : List Char :=
  let isEdge (c : Char) : Bool := c.toNat ≤ 0x20
  let front := text.toList.dropWhile isEdge
  (front.reverse.dropWhile isEdge).reverse.filter fun c => !isIgnored c

/-- The scheme in front of the first colon, in lower case, and what follows the colon. -/
def scheme? (text : List Char) : Option (String × List Char) :=
  let isMark (c : Char) : Bool := c.isAlphanum || c == '+' || c == '-' || c == '.'
  let scheme := text.takeWhile isMark
  match scheme, text.dropWhile isMark with
  | first :: _, ':' :: rest =>
    if first.isAlpha then some ((String.ofList scheme).toLower, rest) else none
  | _, _ => none

/-- A name and a password, percent-encoded; an empty password counts as none. -/
def userinfo (text : List Char) : List Char × List Char :=
  let name := text.takeWhile (· ≠ ':')
  let password := (text.dropWhile (· ≠ ':')).drop 1
  (Percent.encode Percent.inUserinfo name, Percent.encode Percent.inUserinfo password)

/-- The text in front of the last at sign and the text behind it. -/
def cutAtSign (text : List Char) : Option (List Char × List Char) :=
  let behind := (text.reverse.takeWhile (· ≠ '@')).reverse
  if text.contains '@' then some (text.take (text.length - behind.length - 1), behind) else none

/-- The host and what follows it; colons inside brackets belong to the host. -/
def cutHost (inBrackets : Bool) : List Char → List Char × List Char
  | [] => ([], [])
  | c :: rest =>
    if c = ':' ∧ !inBrackets then ([], c :: rest)
    else
      let inBrackets := if c = '[' then true else if c = ']' then false else inBrackets
      let (host, rest) := cutHost inBrackets rest
      (c :: host, rest)

/-- The port behind a colon, absent when it is empty or the one that the scheme has anyway. -/
def port? (scheme : String) : List Char → Option (Option Nat)
  | ':' :: digits =>
    if digits.all Char.isDigit then
      let port := digits.foldl (fun n c => n * 10 + (c.toNat - '0'.toNat)) 0
      if port < 65536 then
        some (if digits.isEmpty ∨ defaultPort? scheme = some port then none else some port)
      else none
    else none
  | [] => some none
  | _ => none

def isDot (segment : List Char) : Bool :=
  ((String.ofList segment).toLower) ∈ [".", "%2e"]

def isDoubleDot (segment : List Char) : Bool :=
  ((String.ofList segment).toLower) ∈ ["..", "%2e.", ".%2e", "%2e%2e"]

/-- Puts a segment behind others. A dot adds nothing and two dots take the last segment away; if
they come last, a slash remains in their place. -/
def walk (before : List (List Char)) : List (List Char) → List (List Char)
  | [] => before
  | segment :: rest =>
    if isDoubleDot segment then
      walk (if rest.isEmpty then before.dropLast ++ [[]] else before.dropLast) rest
    else if isDot segment then walk (if rest.isEmpty then before ++ [[]] else before) rest
    else walk (before ++ [segment]) rest

/-- The segments of a path that begins with a slash, or is empty. -/
def segments (path : List Char) : List (List Char) :=
  let isSlash (c : Char) : Bool := c == '/' || c == '\\'
  let body := match path with
    | c :: rest => if isSlash c then rest else c :: rest
    | [] => []
  walk [] ((splitAtEach isSlash body).map (Percent.encode Percent.inPath))

/-- What stands in front of a mark, and what stands behind it if the mark is there. -/
def cutAt (mark : Char) (text : List Char) : List Char × Option (List Char) :=
  match text.dropWhile (· ≠ mark) with
  | [] => (text, none)
  | _ :: behind => (text.takeWhile (· ≠ mark), some behind)

/-- An address with a well-known scheme; any number of slashes may stand in front of the host. -/
def special? (scheme : String) (text : List Char) : Option Url := do
  let isSlash (c : Char) : Bool := c == '/' || c == '\\'
  let (text, fragment) := cutAt '#' (text.dropWhile isSlash)
  let (text, query) := cutAt '?' text
  let authority := text.takeWhile fun c => !isSlash c
  let path := text.dropWhile fun c => !isSlash c
  let (info, place) := match cutAtSign authority with
    | some (info, place) => (info, place)
    | none => ([], authority)
  let (username, password) := userinfo info
  let (host, port) := cutHost false place
  guard (host ≠ [])
  pure {
    scheme := scheme
    username := username
    password := password
    host := ← Host.parse? host
    port := ← port? scheme port
    path := segments path
    query := query.map (Percent.encode Percent.inSpecialQuery)
    fragment := fragment.map (Percent.encode Percent.inFragment) }

/-- Whether a text with an unknown scheme is an address at all. Only a host can be wrong. -/
def isReadable (scheme : String) (text : List Char) : Bool :=
  match text with
  | '/' :: '/' :: rest =>
    let authority := rest.takeWhile fun c => !(c ∈ ['/', '?', '#'])
    let place := ((cutAtSign authority).map (·.2)).getD authority
    let (host, port) := cutHost false place
    if scheme = "file" then place.isEmpty || (Host.parse? place).isSome
    else (Host.opaque? host).isSome && (port? scheme port).isSome &&
      !(host.isEmpty && (authority.contains '@' || !port.isEmpty))
  | _ => true

/-- Reads an address with a host that is reached by requests. -/
def parse (text : String) : Except UrlFault Url :=
  match scheme? (clean text) with
  | none => .error .unreadable
  | some (scheme, rest) =>
    if scheme = "http" ∨ scheme = "https" then
      match special? scheme rest with
      | some url => .ok url
      | none => .error .unreadable
    else
      let readable :=
        if (defaultPort? scheme).isSome then (special? scheme rest).isSome
        else isReadable scheme rest
      .error (if readable then .otherScheme scheme else .unreadable)

def renderPath (url : Url) : List Char :=
  url.path.flatMap fun segment => '/' :: segment

def renderQuery (url : Url) : List Char :=
  match url.query with
  | none => []
  | some query => '?' :: query

/-- What is asked of the host: the path and the query. -/
def target (url : Url) : String :=
  String.ofList (url.renderPath ++ url.renderQuery)

def render (url : Url) : String :=
  let info :=
    if url.username.isEmpty ∧ url.password.isEmpty then []
    else url.username ++ (if url.password.isEmpty then [] else ':' :: url.password) ++ ['@']
  let port := match url.port with
    | none => []
    | some port => ':' :: (toString port).toList
  let fragment := match url.fragment with
    | none => []
    | some fragment => '#' :: fragment
  url.scheme ++ "://" ++ String.ofList (info ++ url.host ++ port) ++ url.target ++
    String.ofList fragment

/-- One slash at the end of a path is taken away, unless it is the whole path. -/
def withoutLastSlash (path : List (List Char)) : List (List Char) :=
  if path ≠ [[]] ∧ path.getLast? = some [] then path.dropLast else path

/-- Puts a text behind a path as one segment. Tabs and line breaks in it do not count. A dot and two
dots add nothing; where only ignored characters hide them they act on the path as dots do. -/
def push (path : List (List Char)) (text : String) : List (List Char) :=
  if text = "." ∨ text = ".." then path
  else
    let before := if path = [[]] then [] else path
    let segment := Percent.encode Percent.inSegment (text.toList.filter fun c => !isIgnored c)
    if segment = ['.', '.'] then before.dropLast ++ [[]]
    else if segment = ['.'] then before ++ [[]]
    else before ++ [segment]

/-- The address below a base address. -/
def below (base : Url) (segments : List String) : Url :=
  { base with path := segments.foldl push (withoutLastSlash base.path) }

/-- Adds a name and a value that need no encoding to the query. -/
def addQuery (url : Url) (name value : String) : Url :=
  let pair := (name ++ "=" ++ value).toList
  { url with
    query := some (match url.query with
      | none => pair
      | some [] => pair
      | some query => query ++ '&' :: pair) }

end Url

end SchemaLedger
