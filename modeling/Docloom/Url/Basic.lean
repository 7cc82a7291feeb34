import Docloom.Url.Host
import Docloom.Url.Path

/-!
# Urls

A url that was read is kept as the texts of its parts. Its path can be replaced;
everything else stays.
-/

namespace Docloom

structure Url where
  scheme : String
  /-- Scheme and host, up to the path. -/
  front : String
  /-- Whether the path is no list of segments. -/
  rootless : Bool
  path : String
  /-- What follows the path: the query and the fragment. -/
  after : String
  deriving DecidableEq, Repr

namespace Url

def text (url : Url) : String := url.front ++ url.path ++ url.after

/-- The schemes with a host of their own kind, and their ports. -/
def specialSchemes : List (String × Option Nat) :=
  [("http", some 80), ("https", some 443), ("ws", some 80), ("wss", some 443),
   ("ftp", some 21), ("file", none)]

def isSpecial (scheme : String) : Bool := specialSchemes.any fun entry => entry.1 == scheme

/-!
# Parts of a url
-/

def isSchemeChar (c : Char) : Bool := c.isAlphanum || c == '+' || c == '-' || c == '.'

/-- Cuts a text after its scheme. -/
def readScheme (cs : List Char) : Option (String × List Char) :=
  match cs.span isSchemeChar with
  | (c :: scheme, ':' :: rest) =>
      if c.isAlpha then
        some (String.ofList ((c :: scheme).map Char.toLower), rest)
      else
        none
  | _ => none

/-- Whether a character ends the host and what belongs to it. -/
def endsAuthority (special : Bool) (c : Char) : Bool :=
  c == '?' || c == '#' || isSlash special c

/-- Cuts a text at its last `@`. -/
def splitUser (cs : List Char) : Option (List Char × List Char) :=
  match cs.reverse.span (· != '@') with
  | (host, _ :: user) => some (user.reverse, host.reverse)
  | (_, []) => none

/-- A user and a password before a host. An empty password is left out. -/
def userText (user : List Char) : String :=
  let text :=
    match user.span (· != ':') with
    | (name, _ :: password) =>
        if password.isEmpty then
          encode isUserEscaped name
        else
          encode isUserEscaped name ++ ':' :: encode isUserEscaped password
    | (name, []) => encode isUserEscaped name
  if text.isEmpty then "" else String.ofList text ++ "@"

/-- Cuts a host at the colon before its port. Colons in brackets do not count. -/
def splitPort (inBrackets : Bool) : List Char → List Char × Option (List Char)
  | [] => ([], none)
  | c :: rest =>
      if c == ':' && !inBrackets then
        ([], some rest)
      else
        let inBrackets := if c == '[' then true else if c == ']' then false else inBrackets
        let (host, port) := splitPort inBrackets rest
        (c :: host, port)

/-- The port after a host, which is left out if it is that of the scheme. -/
def portText (scheme : String) (digits : List Char) : Option String :=
  if !digits.all Char.isDigit then
    none
  else
    let port := digits.foldl (fun n c => n * 10 + (c.toNat - '0'.toNat)) 0
    if 65535 < port then
      none
    else if digits.isEmpty || specialSchemes.lookup scheme == some (some port) then
      some ""
    else
      some (":" ++ toString port)

/-- Reads what stands between the two slashes and the path. -/
def readAuthority (scheme : String) (cs : List Char) : Option String := do
  let special := isSpecial scheme
  let (user, rest) :=
    match splitUser cs with
    | some (user, rest) => (userText user, rest)
    | none => ("", cs)
  let (host, port) := splitPort false rest
  if host.isEmpty && (special || port.isSome || !user.isEmpty) then
    none
  else
    let host ← readHost special host
    let port ← (port.map (portText scheme)).getD (some "")
    pure (user ++ host ++ port)

/-- The query and the fragment. -/
def afterText (special : Bool) (cs : List Char) : String :=
  let (query, fragment) := cs.span (· != '#')
  let query :=
    match query with
    | '?' :: rest => '?' :: encode (isQueryEscaped special) rest
    | _ => []
  let fragment :=
    match fragment with
    | _ :: rest => '#' :: encode isFragmentEscaped rest
    | [] => []
  String.ofList (query ++ fragment)

/-!
# Reading urls
-/

/-- The path that follows a host. -/
def hostPath (special : Bool) (cs : List Char) : String :=
  if !special && cs.isEmpty then "" else pathOf special (dropSlash special cs)

def ofHost (scheme authority : String) (cs : List Char) : Url :=
  let special := isSpecial scheme
  let (path, after) := cs.span fun c => c != '?' && c != '#'
  { scheme
    front := scheme ++ "://" ++ authority
    rootless := false
    path := hostPath special path
    after := afterText special after }

/-- Reads what follows the slashes before a host. -/
def readHosted (scheme : String) (cs : List Char) : Option Url :=
  let (authority, rest) := cs.span fun c => !endsAuthority (isSpecial scheme) c
  (readAuthority scheme authority).map fun authority => ofHost scheme authority rest

/-- The path of a file, with one slash at the start. -/
def filePath (cs : List Char) : String :=
  let path := pathOf true (dropSlash true cs)
  "/" ++ Text.trimStartWhile (· == '/') path

/-- Reads what follows `file:`. -/
def readFile (cs : List Char) : Option Url := do
  let (host, rest) ←
    match cs with
    | a :: b :: rest =>
        if isSlash true a && isSlash true b then do
          let (host, rest) := rest.span fun c => !endsAuthority true c
          let host ← if host.isEmpty then some "" else readHost true host
          pure (if host == "localhost" then "" else host, rest)
        else
          pure ("", cs)
    | _ => pure ("", cs)
  let (path, after) := rest.span fun c => c != '?' && c != '#'
  pure
    { scheme := "file"
      front := "file://" ++ host
      rootless := false
      path := filePath path
      after := afterText true after }

/-- Reads what follows a scheme that is not among the well-known ones. -/
def readPlain (scheme : String) (cs : List Char) : Option Url :=
  let (path, after) := cs.span fun c => c != '?' && c != '#'
  match cs with
  | '/' :: '/' :: rest => readHosted scheme rest
  | '/' :: _ =>
      let path := pathOf false (path.drop 1)
      let front := if Text.startsWith "//" path then scheme ++ ":/." else scheme ++ ":"
      some { scheme, front, rootless := false, path, after := afterText false after }
  | _ =>
      let path := String.ofList (encode isControlChar path)
      some { scheme, front := scheme ++ ":", rootless := true, path, after := afterText false after }

/-- Reads a url that starts with a scheme. -/
def parse? (text : String) : Option Url := do
  let trimmed := Text.trimWhile (fun c => c.toNat ≤ 32) text.toList
  let (scheme, rest) ← readScheme (trimmed.filter (!isIgnored ·))
  if scheme = "file" then
    readFile rest
  else if isSpecial scheme then
    readHosted scheme (rest.dropWhile (isSlash true))
  else
    readPlain scheme rest

/-!
# Replacing the path
-/

/-- What a text becomes as the path of a url. -/
def newPath (url : Url) (path : String) : String :=
  let cs := path.toList
  if url.rootless then
    match cs with
    | '/' :: rest => "%2F" ++ String.ofList (encode isControlChar rest)
    | cs => String.ofList (encode isControlChar cs)
  else if url.scheme = "file" then
    filePath cs
  else if isSpecial url.scheme then
    hostPath true cs
  else
    match cs with
    | '?' :: _ => ""
    | '#' :: _ => ""
    | cs => hostPath false cs

def withPath (url : Url) (path : String) : Url := { url with path := url.newPath path }

theorem front_withPath (url : Url) (path : String) : (url.withPath path).front = url.front := rfl

theorem after_withPath (url : Url) (path : String) : (url.withPath path).after = url.after := rfl

end Url
end Docloom
