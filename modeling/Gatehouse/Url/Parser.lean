/-
  Gatehouse/Url/Parser.lean --- reading addresses.

  Blanks at the ends and line breaks anywhere are passed over.  What stands in a
  part of the address and cannot stand there is written as bytes; a segment of one
  dot is left out, and one of two dots takes the segment before it away.  A drive
  letter is never taken away, and as the first segment of a file path it excludes
  a host.

  Main definition: `Url.parse`.
-/
import Gatehouse.Url.Basic

set_option autoImplicit false

namespace Gatehouse.Url

/-! ## The text to be read -/

/-- Whether a character is passed over at the ends of an address. -/
def isPadding (c : Char) : Bool := c.toNat ≤ 0x20

/-- Whether a character is passed over anywhere. -/
def isBreak (c : Char) : Bool := c = '\t' || c = '\n' || c = '\r'

/-- An address without what is passed over. -/
def cleaned (cs : List Char) : List Char :=
  ((cs.dropWhile isPadding).reverse.dropWhile isPadding).reverse.filter fun c => !isBreak c

/-! ## Scheme -/

/-- Whether a character may stand in a scheme after its first letter. -/
def isSchemeChar (c : Char) : Bool := c.isAlphanum || c = '+' || c = '-' || c = '.'

/-- The scheme of an address, in lower case, and what follows its colon. -/
def scheme? (cs : List Char) : Option (List Char × List Char) :=
  match cs with
  | [] => none
  | c :: _ =>
      if c.isAlpha then
        match cs.dropWhile isSchemeChar with
        | ':' :: rest => some ((cs.takeWhile isSchemeChar).map Char.toLower, rest)
        | _ => none
      else none

/-! ## Authority -/

/-- Whether a character ends the authority. -/
def endsAuthority (kind : SchemeKind) (c : Char) : Bool :=
  c = '/' || c = '?' || c = '#' || (c = '\\' && kind.takesBackslash)

/-- The user and password in front of the last at sign.  An empty password and its
colon are left out. -/
def readLogin (cs : List Char) : List Char × List Char :=
  let user := cs.takeWhile (· ≠ ':')
  let password := (cs.dropWhile (· ≠ ':')).drop 1
  (Percent.encode Percent.inUserInfo user, Percent.encode Percent.inUserInfo password)

/-- The text in front of the last at sign, none without one, and the text behind. -/
def splitLogin (cs : List Char) : Option (List Char) × List Char :=
  if cs.contains '@' then
    let behind := (cs.reverse.takeWhile (· ≠ '@')).reverse
    (some (cs.take (cs.length - behind.length - 1)), behind)
  else (none, cs)

/-- The text of a host, and the text from the colon on that follows it; colons in
brackets belong to the host. -/
def splitHost (inBrackets : Bool) : List Char → List Char × List Char
  | [] => ([], [])
  | c :: cs =>
      if c = ':' && !inBrackets then ([], c :: cs)
      else
        let (host, rest) := splitHost (c = '[' || (inBrackets && c ≠ ']')) cs
        (c :: host, rest)

/-- Reads digits as a port; the digits must be all there is. -/
def readPort (cs : List Char) : Except UrlFault (Option Nat) :=
  if cs.isEmpty then .ok none
  else
    match Numeral.readDigits Numeral.max16 .tooLarge cs 0 with
    | .ok n => .ok (some n)
    | .error _ => .error .port

/-- The parts of an authority as they are written: what stands in front of the last
at sign, the host, and the port with its colon. -/
structure AuthorityParts where
  login : Option (List Char)
  host : List Char
  port : List Char
  deriving DecidableEq, Repr, Inhabited

/-- The parts of an authority, and what follows it.  A backslash behind the port ends
the authority under any scheme. -/
def splitAuthority (kind : SchemeKind) (cs : List Char) : AuthorityParts × List Char :=
  let text := cs.takeWhile fun c => !endsAuthority kind c
  let (login, rest) := splitLogin text
  let (host, tail) := splitHost false rest
  let port := tail.takeWhile (· ≠ '\\')
  ({ login, host, port }, tail.drop port.length ++ cs.drop text.length)

/-- Reads the host of an authority. -/
def readHost (kind : SchemeKind) (parts : AuthorityParts) : Except UrlFault (Option Host) :=
  if parts.host.isEmpty then
    if kind = .special || !parts.port.isEmpty then .error .emptyHost else .ok none
  else (if kind = .special then Host.parse parts.host else Host.parseOpaque parts.host).map some

/-- Reads an authority; `more` is what follows it. -/
def readAuthority (scheme : List Char) (parts : AuthorityParts) (more : List Char) :
    Except UrlFault Authority := do
  if parts.login = some [] && parts.host.isEmpty && parts.port.isEmpty && !more.isEmpty then
    throw .emptyHost
  else
    let (user, password) := readLogin (parts.login.getD [])
    let host ← readHost (.ofName scheme) parts
    let port ← readPort (parts.port.drop 1)
    if host.isNone && !(user.isEmpty && password.isEmpty) then throw .emptyHost
    else pure { user, password, host, port := port.filter fun n => defaultPort? scheme ≠ some n }

/-! ## Path -/

/-- Whether a segment stands for the place where it is. -/
def isSingleDot (s : List Char) : Bool :=
  [".", "%2e"].contains (String.ofList (s.map Char.toLower))

/-- Whether a segment stands for the place above. -/
def isDoubleDot (s : List Char) : Bool :=
  ["..", ".%2e", "%2e.", "%2e%2e"].contains (String.ofList (s.map Char.toLower))

/-- Whether a text is a drive letter with its colon. -/
def isDrive : List Char → Bool
  | [letter, mark] => letter.isAlpha && (mark = ':' || mark = '|')
  | _ => false

/-- Whether a segment begins with a drive letter. -/
def beginsWithDrive (s : List Char) : Bool :=
  isDrive (s.take 2) && (s.drop 2).head?.all fun c => c = '\\'

/-- The segments without the last one, unless that is a drive letter. -/
def shortened (done : List (List Char)) : List (List Char) :=
  match done.getLast? with
  | some last => if beginsWithDrive last then done else done.dropLast
  | none => done

/-- A segment as it is kept: the first of a file path may be a drive letter, whose
second character is always a colon. -/
def kept (kind : SchemeKind) (done : List (List Char)) (s : List Char) : List Char :=
  if kind = .file && done.isEmpty && isDrive s then s.take 1 ++ [':'] else s

/-- Adds segments to a path. -/
def addSegments (kind : SchemeKind) (done : List (List Char)) :
    List (List Char) → List (List Char)
  | [] => done
  | [s] =>
      if isDoubleDot s then shortened done ++ [[]]
      else if isSingleDot s then done ++ [[]]
      else done ++ [kept kind done s]
  | s :: rest =>
      if isDoubleDot s then addSegments kind (shortened done) rest
      else if isSingleDot s then addSegments kind done rest
      else addSegments kind (done ++ [kept kind done s]) rest

/-- Whether the first segment of a file path was read as a drive letter. -/
def hasDrive (segments : List (List Char)) : Bool :=
  match segments with
  | s :: _ => isDrive s
  | [] => false

/-- Cuts a text at every character of a kind. -/
def splitAll (isMark : Char → Bool) : List Char → List (List Char)
  | [] => [[]]
  | c :: cs =>
      if isMark c then [] :: splitAll isMark cs
      else
        match splitAll isMark cs with
        | [] => [[c]]
        | s :: rest => (c :: s) :: rest

/-- The segments of a path given without its first slash. -/
def readSegments (kind : SchemeKind) (cs : List Char) : List (List Char) :=
  let isSlash (c : Char) : Bool := c = '/' || (c = '\\' && kind.takesBackslash)
  addSegments kind [] ((splitAll isSlash cs).map (Percent.encode Percent.inPath))

/-- The segments of a file path: empty ones at its beginning are left out. -/
def fileSegments (cs : List Char) : List (List Char) :=
  let segments := readSegments .file cs
  let rest := segments.dropWhile List.isEmpty
  if rest.isEmpty then [[]] else rest

/-- The path behind an authority. -/
def readPath (kind : SchemeKind) (cs : List Char) : UrlPath :=
  match cs with
  | [] => .segments (if kind = .other then [] else [[]])
  | '/' :: rest => .segments (readSegments kind rest)
  | '\\' :: rest =>
      .segments (if kind.takesBackslash then readSegments kind rest
        else readSegments kind ('\\' :: rest))
  | cs => .segments (readSegments kind cs)

/-! ## Query and fragment -/

/-- Whether a character ends the path. -/
def endsPath (c : Char) : Bool := c = '?' || c = '#'

/-- An address with what stands behind its path. -/
def withTail (u : Url) (cs : List Char) : Url :=
  let inQuery := if u.kind = .other then Percent.inQuery else Percent.inSpecialQuery
  let fragment (cs : List Char) : Option (List Char) :=
    match cs with
    | [] => none
    | _ :: rest => some (Percent.encode Percent.inFragment rest)
  match cs with
  | '?' :: rest =>
      { u with
        query := some (Percent.encode inQuery (rest.takeWhile (· ≠ '#')))
        fragment := fragment (rest.dropWhile (· ≠ '#')) }
  | cs => { u with fragment := fragment cs }

/-! ## Addresses -/

/-- The address with a scheme, an authority and a path alone. -/
def plain (scheme : List Char) (authority : Option Authority) (path : UrlPath) : Url :=
  { scheme, authority, path, query := none, fragment := none }

/-- The authority of an address without one: nothing between the slashes. -/
def noAuthority : Authority := { user := [], password := [], host := none, port := none }

/-- Reads what follows two slashes. -/
def readHierarchy (scheme cs : List Char) : Except UrlFault Url := do
  let kind := SchemeKind.ofName scheme
  let (parts, more) := splitAuthority kind cs
  let authority ← readAuthority scheme parts more
  let path := more.takeWhile fun c => !endsPath c
  pure ((plain scheme (some authority) (readPath kind path)).withTail (more.drop path.length))

/-- Reads a path behind a scheme that has no authority. -/
def readBare (scheme cs : List Char) : Url :=
  let path := cs.takeWhile fun c => !endsPath c
  let parsed : UrlPath := match path with
    | '/' :: rest => .segments (readSegments .other rest)
    | path => .bare (Percent.encode Percent.isControl path)
  (plain scheme none parsed).withTail (cs.drop path.length)

/-- Whether a character is a slash or a backslash. -/
def isSlash (c : Char) : Bool := c = '/' || c = '\\'

/-- The host of a file: this machine is not named, and neither is any host when the
path begins with a drive letter. -/
def fileHost (text : List Char) : Except UrlFault (Option Host) :=
  if text.isEmpty then .ok none
  else
    match Host.parse text with
    | .error e => .error e
    | .ok host => .ok (if host = .domain "localhost".toList then none else some host)

/-- The address of a file from its host and what follows it; a drive letter excludes
the host. -/
def fileUrl (host : Option Host) (cs : List Char) : Url :=
  let path := cs.takeWhile fun c => !endsPath c
  let inner := if path.head?.any isSlash then path.drop 1 else path
  let host := if hasDrive (readSegments .file inner) then none else host
  (plain "file".toList (some { noAuthority with host }) (.segments (fileSegments inner))).withTail
    (cs.drop path.length)

/-- Reads what follows the scheme of a file. -/
def readFile (cs : List Char) : Except UrlFault Url :=
  match cs with
  | a :: b :: rest =>
      if isSlash a && isSlash b then
        let text := rest.takeWhile fun c => !(isSlash c || endsPath c)
        if isDrive text then .ok (fileUrl none rest)
        else (fileHost text).map fun host => fileUrl host (rest.drop text.length)
      else .ok (fileUrl none cs)
  | cs => .ok (fileUrl none cs)

/-- Reads an address. -/
def parse (s : List Char) : Except UrlFault Url :=
  match scheme? (cleaned s) with
  | none => .error .relative
  | some (scheme, rest) =>
      match SchemeKind.ofName scheme, rest with
      | .file, rest => readFile rest
      | .special, rest => readHierarchy scheme (rest.dropWhile isSlash)
      | .other, '/' :: '/' :: rest => readHierarchy scheme rest
      | .other, rest => .ok (readBare scheme rest)

end Gatehouse.Url
