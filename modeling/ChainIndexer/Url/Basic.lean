import ChainIndexer.Url.Host

/-!
# URLs

A URL in its parts, read the way browsers read it and written in one form.

* The schemes `http`, `https`, `ws`, `wss`, `ftp` and `file` are special: a backslash is a slash,
  there is a host, and there is a path.
* Steps `.` and `..` of a path are taken away while the path is read.
* `Url.join` reads a text relative to a URL.
-/

namespace ChainIndexer

/-! ## Parts -/

/-- The path of a URL: steps between slashes, or a text that is no path of steps. -/
inductive UrlPath
  | segments (steps : List String)
  | plain (s : String)
  deriving DecidableEq, Repr

/-- A URL in its parts. -/
structure Url where
  scheme : String
  username : String := ""
  password : String := ""
  host : Option Host := none
  port : Option Nat := none
  path : UrlPath
  query : Option String := none
  fragment : Option String := none
  deriving DecidableEq, Repr

namespace Url

/-- The ports that special schemes have when none is written. -/
def specialPorts : List (String × Option Nat) :=
  [("http", some 80), ("https", some 443), ("ws", some 80), ("wss", some 443), ("ftp", some 21),
    ("file", none)]

def isSpecial (scheme : String) : Bool := (specialPorts.lookup scheme).isSome

/-- The port that a scheme has when none is written. -/
def defaultPort? (scheme : String) : Option Nat := (specialPorts.lookup scheme).bind id

/-! ## Writing -/

def pathText (u : Url) : String :=
  match u.path with
  | .segments steps => String.join (steps.map fun s => "/" ++ s)
  | .plain s => s

/-- The user's name and password, as they are written before the host. -/
def credentials (u : Url) : String :=
  let password := if u.password.isEmpty then "" else ":" ++ u.password
  if u.username.isEmpty && u.password.isEmpty then "" else u.username ++ password ++ "@"

/-- What stands between the scheme and the path. -/
def authority (u : Url) : String :=
  match u.host with
  | some host =>
    "//" ++ u.credentials ++ host.text ++ (u.port.map fun p => ":" ++ Numeral.natural p).getD ""
  | none => match u.path with
    | .segments ("" :: _ :: _) => "/."
    | _ => ""

def text (u : Url) : String :=
  u.scheme ++ ":" ++ u.authority ++ u.pathText ++ (u.query.map fun q => "?" ++ q).getD ""
    ++ (u.fragment.map fun f => "#" ++ f).getD ""

/-! ## Reading a path -/

/-- The character is a slash for the scheme. -/
def isSlash (special : Bool) (c : Char) : Bool := c = '/' || (special && c = '\\')

/-- The step stays where it is. -/
def isDot (s : String) : Bool := [".", "%2e"].contains s.toLower

/-- The step goes up. -/
def isDoubleDot (s : String) : Bool := ["..", ".%2e", "%2e.", "%2e%2e"].contains s.toLower

/-- Adds a step to the steps before it, last first; `more` says that a slash follows. -/
def addStep (before : List String) (step : String) (more : Bool) : List String :=
  let before := if isDoubleDot step then before.tail else before
  if isDot step || isDoubleDot step then if more then before else "" :: before
  else step :: before

/-- Reads steps up to a query or a fragment; `before` holds the steps so far, last first, `step`
the characters of the next one, last first. -/
def readSteps (special : Bool) (before : List String) (step : List Char) :
    List Char → List String × List Char
  | [] => ((addStep before (String.ofList step.reverse) false).reverse, [])
  | c :: cs =>
    if c = '?' ∨ c = '#' then
      ((addStep before (String.ofList step.reverse) false).reverse, c :: cs)
    else if isSlash special c then
      readSteps special (addStep before (String.ofList step.reverse) true) [] cs
    else readSteps special before ((Percent.encodeChar Percent.path c).reverse ++ step) cs

/-- The path after an authority, and what follows it. -/
def readPath (special : Bool) (cs : List Char) : UrlPath × List Char :=
  let ended := match cs with
    | [] => true
    | c :: _ => c = '?' || c = '#'
  if ended && !special then (.segments [], cs)
  else
    let cs := match cs with
      | c :: rest => if isSlash special c then rest else cs
      | [] => []
    let (steps, rest) := readSteps special [] [] cs
    (.segments steps, rest)

/-! ## Reading the end -/

/-- The query and the fragment. -/
def withEnd (u : Url) (cs : List Char) : Url :=
  let set := if isSpecial u.scheme then Percent.specialQuery else Percent.query
  let query (cs : List Char) := String.ofList (Percent.encode set cs)
  let fragment (cs : List Char) := String.ofList (Percent.encode Percent.fragment cs)
  match cs with
  | '?' :: rest =>
    let u := { u with query := some (query (rest.takeWhile (· ≠ '#'))) }
    match rest.dropWhile (· ≠ '#') with
    | _ :: rest => { u with fragment := some (fragment rest) }
    | [] => u
  | '#' :: rest => { u with fragment := some (fragment rest) }
  | _ => u

/-! ## Reading an authority -/

def endsAuthority (special : Bool) (c : Char) : Bool := isSlash special c || c = '?' || c = '#'

/-- Cuts at the last of a character: what stands before it, when it is there, and what follows. -/
def cutLast (mark : Char) (cs : List Char) : Option (List Char) × List Char :=
  if cs.contains mark then
    let after := cs.reverse.takeWhile (· ≠ mark)
    (some (cs.take (cs.length - after.length - 1)), after.reverse)
  else (none, cs)

/-- Cuts before the colon that follows the host; colons in brackets belong to it. -/
def cutPort (bracket : Bool) : List Char → List Char × List Char
  | [] => ([], [])
  | c :: cs =>
    if c = ':' ∧ bracket = false then ([], c :: cs)
    else
      let bracket := c = '[' || (bracket && c ≠ ']')
      let (host, port) := cutPort bracket cs
      (c :: host, port)

/-- The port behind a colon, unless it is the scheme's own. -/
def readPort (scheme : String) (cs : List Char) : Except UrlError (Option Nat) :=
  if cs.isEmpty then .ok none
  else match Host.digits? 10 cs with
    | none => .error .port
    | some p =>
      if 65535 < p then .error .port
      else .ok (if defaultPort? scheme = some p then none else some p)

/-- Reads what follows the slashes of an authority. -/
def readAuthority (scheme : String) (cs : List Char) : Except UrlError Url := do
  let special := isSpecial scheme
  let (part, rest) := cs.span fun c => !endsAuthority special c
  let (user?, hostPort) := cutLast '@' part
  let user := user?.getD []
  if user?.isSome ∧ hostPort.isEmpty ∧ (!user.isEmpty || !rest.isEmpty) then throw .emptyHost
  let username := user.takeWhile (· ≠ ':')
  let password := (user.dropWhile (· ≠ ':')).drop 1
  let (hostChars, portChars) := cutPort false hostPort
  if hostChars.isEmpty ∧ (special || !portChars.isEmpty) then throw .emptyHost
  let host ← if special then Host.read hostChars else Host.readPlain hostChars
  let port ← readPort scheme (portChars.drop 1)
  let (path, rest) := readPath special rest
  let encode (cs : List Char) := String.ofList (Percent.encode Percent.userinfo cs)
  return withEnd
    { scheme, username := encode username, password := encode password, host := some host, port,
      path } rest

/-! ## Reading -/

/-- Drops controls and spaces at both ends, and tabs and line ends everywhere. -/
def clean (cs : List Char) : List Char :=
  let outer (c : Char) : Bool := c ≤ ' '
  let cs := ((cs.dropWhile outer).reverse.dropWhile outer).reverse
  cs.filter fun c => c ≠ '\t' && c ≠ '\n' && c ≠ '\r'

/-- The scheme before the first colon. -/
def scheme? (cs : List Char) : Option (String × List Char) :=
  match cs.span fun c => c.isAlphanum || c = '+' || c = '-' || c = '.' with
  | (c :: scheme, ':' :: rest) =>
    if c.isAlpha then some ((String.ofList (c :: scheme)).toLower, rest) else none
  | _ => none

/-- Reads a URL of the scheme `file`: a host only after two slashes, and none when it is the local
one or a drive. -/
def readFile (cs : List Char) : Except UrlError Url := do
  let empty := Host.name ""
  let (host, rest) ← match cs with
    | a :: b :: cs =>
      if isSlash true a && isSlash true b then
        let (name, rest) := cs.span fun c => !endsAuthority true c
        let drive := match name with
          | [c, d] => c.isAlpha && (d = ':' || d = '|')
          | _ => false
        if name.isEmpty then pure (empty, rest)
        else if drive then pure (empty, cs)
        else do
          let host ← Host.read name
          pure (if host = .name "localhost" then empty else host, rest)
      else pure (empty, a :: b :: cs)
    | cs => pure (empty, cs)
  let (path, rest) := readPath true rest
  return withEnd { scheme := "file", host := some host, path } rest

def readAfterScheme (scheme : String) (cs : List Char) : Except UrlError Url :=
  if scheme = "file" then readFile cs
  else if isSpecial scheme then readAuthority scheme (cs.dropWhile (isSlash true))
  else match cs with
    | '/' :: '/' :: rest => readAuthority scheme rest
    | '/' :: rest =>
      let (steps, rest) := readSteps false [] [] rest
      .ok (withEnd { scheme, path := .segments steps } rest)
    | cs =>
      let (path, rest) := cs.span fun c => c ≠ '?' && c ≠ '#'
      let path := .plain (String.ofList (Percent.encode Percent.controls path))
      .ok (withEnd { scheme, path } rest)

def parse (s : String) : Except UrlError Url :=
  match scheme? (clean s.toList) with
  | some (scheme, rest) => readAfterScheme scheme rest
  | none => .error .relativeWithoutBase

/-! ## Reading relative to a URL -/

def withoutFragment (u : Url) : Url := { u with fragment := none }

/-- Reads a text without a scheme relative to a URL with steps. -/
def joinSteps (base : Url) (steps : List String) (cs : List Char) : Except UrlError Url :=
  let special := isSpecial base.scheme
  let bare := { base with query := none, fragment := none }
  match cs with
  | [] => .ok base.withoutFragment
  | '?' :: _ => .ok (withEnd bare cs)
  | '#' :: _ => .ok (withEnd base.withoutFragment cs)
  | c :: rest =>
    if isSlash special c then
      match rest with
      | d :: more =>
        if isSlash special d then
          readAuthority base.scheme
            (if c = '/' ∧ d = '/' then more else more.dropWhile (isSlash special))
        else
          let (steps, rest) := readSteps special [] [] rest
          .ok (withEnd { bare with path := .segments steps } rest)
      | [] => .ok { bare with path := .segments [""] }
    else
      let (steps, rest) := readSteps special steps.dropLast.reverse [] cs
      .ok (withEnd { bare with path := .segments steps } rest)

/-- Reads a text relative to a URL. -/
def join (base : Url) (s : String) : Except UrlError Url :=
  let cs := clean s.toList
  match scheme? cs with
  | some (scheme, rest) =>
    let slashes := (rest.takeWhile (isSlash true)).length
    if isSpecial scheme ∧ scheme = base.scheme ∧ slashes < 2 then
      match base.path with
      | .segments steps => joinSteps base steps rest
      | .plain _ => readAfterScheme scheme rest
    else readAfterScheme scheme rest
  | none => match base.path with
    | .segments steps => joinSteps base steps cs
    | .plain _ =>
      if cs.head? = some '#' then .ok (withEnd base.withoutFragment cs)
      else .error .relativeToPlain

/-! ## Changes -/

/-- The URL with a path that ends in a slash, so that what is joined to it comes below it. -/
def asFolder (u : Url) : Url :=
  match u.path with
  | .segments steps =>
    if steps.getLast? = some "" then u else { u with path := .segments (steps ++ [""]) }
  | .plain _ => u

/-- The URL with more names and values in its query. -/
def withQuery (u : Url) (pairs : List (String × String)) : Url :=
  if pairs.isEmpty then u
  else
    let added := String.ofList (List.intercalate ['&'] (pairs.map Percent.formPair))
    let before := u.query.getD ""
    { u with query := some (if before.isEmpty then added else before ++ "&" ++ added) }

/-- The URL without a user's name and password. -/
def withoutCredentials (u : Url) : Url := { u with username := "", password := "" }

end Url

end ChainIndexer
