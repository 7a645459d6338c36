import Toolbench.Url.Address

/-!
# Reading addresses

An absolute address is cut into its parts from left to right.  Web addresses may
have backslashes for slashes and any number of slashes before the host; dot segments
are resolved; the characters that a part may not hold are percent-encoded.
-/

namespace Toolbench

namespace Url

def staysInFragment (c : Char) : Bool :=
  Text.Percent.isPlain c && !" \"<>\x60".toList.contains c

def staysInPath (c : Char) : Bool :=
  staysInFragment c && !"#?\x7b\x7d".toList.contains c

def staysInCredentials (c : Char) : Bool :=
  staysInPath c && !"/:;=@[\\]^|".toList.contains c

def staysInQuery (special : Bool) (c : Char) : Bool :=
  Text.Percent.isPlain c && !" \"#<>".toList.contains c && !(special && c = '\'')

def encoded (stays : Char → Bool) (text : List Char) : String :=
  String.ofList (Text.Percent.encode stays text)

def isSpaceOrControl (c : Char) : Bool :=
  c.toNat ≤ 0x20

/-- A text without what surrounds it, and without tabs and line breaks. -/
def cleaned (text : List Char) : List Char :=
  let inner := ((text.dropWhile isSpaceOrControl).reverse.dropWhile isSpaceOrControl).reverse
  inner.filter fun c => !(c = '\t' || c = '\n' || c = '\r')

/-- A scheme in lower case, and the text behind its colon. -/
def scheme? (text : List Char) : Option (String × List Char) :=
  let isPart := fun c : Char => c.isAlphanum || c = '+' || c = '-' || c = '.'
  match text.head?, text.dropWhile isPart with
  | some first, ':' :: rest =>
      if first.isAlpha then
        some (String.ofList ((text.takeWhile isPart).map Char.toLower), rest)
      else none
  | _, _ => none

def isSlash (special : Bool) (c : Char) : Bool :=
  c = '/' || (special && c = '\\')

def endsAuthority (special : Bool) (c : Char) : Bool :=
  isSlash special c || c = '?' || c = '#'

def endsPath (c : Char) : Bool :=
  c = '?' || c = '#'

def rawSegments (special : Bool) : List Char → List (List Char)
  | [] => [[]]
  | c :: rest =>
      if isSlash special c then [] :: rawSegments special rest
      else
        match rawSegments special rest with
        | first :: others => (c :: first) :: others
        | [] => [[c]]

/-- A dot, also where it is encoded. -/
def dropDot? : List Char → Option (List Char)
  | '.' :: rest => some rest
  | '%' :: '2' :: 'e' :: rest => some rest
  | '%' :: '2' :: 'E' :: rest => some rest
  | _ => none

def isSingleDot (segment : List Char) : Bool :=
  dropDot? segment == some []

def isDoubleDot (segment : List Char) : Bool :=
  (dropDot? segment).bind dropDot? == some []

/-- A letter and a colon or a bar, which name a drive. -/
def isDrive : List Char → Bool
  | [letter, mark] => letter.isAlpha && (mark = ':' || mark = '|')
  | _ => false

/-- A segment as a path keeps it; a drive in front of a file's path has a colon. -/
def segmentText (isFile : Bool) (before : List String) (segment : List Char) : String :=
  if isFile && before.isEmpty && isDrive segment then
    String.ofList (segment.take 1 ++ [':'])
  else encoded staysInPath segment

/-- Whether a segment is a drive, or one with a backslash behind it. -/
def startsWithDrive (segment : List Char) : Bool :=
  isDrive (segment.take 2) && (segment.drop 2).head?.all (· = '\\')

/-- The segments without the last one; a drive is kept wherever it stands. -/
def dropSegment : List String → List String
  | [] => []
  | segment :: before => if startsWithDrive segment.toList then segment :: before else before

/-- Resolves dot segments; `before` are the segments so far, the last one first. -/
def resolve (isFile : Bool) (before : List String) : List (List Char) → List String
  | [] => before.reverse
  | segment :: rest =>
      let isLast := rest.isEmpty
      if isDoubleDot segment then
        let before := dropSegment before
        resolve isFile (if isLast then "" :: before else before) rest
      else if isSingleDot segment then
        resolve isFile (if isLast then "" :: before else before) rest
      else resolve isFile (segmentText isFile before segment :: before) rest

/-- The resolved segments of a path with web syntax, in which the first slash may be left out. -/
def webSegments (isFile : Bool) (text : List Char) : List String :=
  match text with
  | c :: rest => resolve isFile [] (rawSegments true (if isSlash true c then rest else text))
  | [] => resolve isFile [] [[]]

/-- The path of a web address, which is never empty. -/
def webPath (text : List Char) : Path :=
  .segments (webSegments false text)

/-- The path of a file, which does not start with empty segments. -/
def filePath (text : List Char) : Path :=
  match (webSegments true text).dropWhile String.isEmpty with
  | [] => .segments [""]
  | names => .segments names

def startsOnDrive (text : List Char) : Bool :=
  (webSegments true text).head?.any fun name => isDrive name.toList

def plainPath : List Char → List String
  | [] => []
  | '/' :: rest => resolve false [] (rawSegments false rest)
  | text => resolve false [] (rawSegments false text)

def queryAndFragment (special : Bool) (text : List Char) : Option String × Option String :=
  match text with
  | '?' :: rest =>
      let query := encoded (staysInQuery special) (rest.takeWhile (· != '#'))
      match rest.dropWhile (· != '#') with
      | _ :: fragment => (some query, some (encoded staysInFragment fragment))
      | [] => (some query, none)
  | '#' :: fragment => (none, some (encoded staysInFragment fragment))
  | _ => (none, none)

def withRest (url : Url) (special : Bool) (text : List Char) (path : List Char → Path) : Url :=
  let (query, fragment) := queryAndFragment special (text.dropWhile fun c => !endsPath c)
  { url with path := path (text.takeWhile fun c => !endsPath c), query, fragment }

/-- The text before the last commercial at and the text behind it. -/
def splitCredentials (authority : List Char) : Option (List Char × List Char) :=
  if authority.contains '@' then
    let behind := (authority.reverse.takeWhile (· != '@')).reverse
    some (authority.take (authority.length - behind.length - 1), behind)
  else none

/-- The length of the host at the start of a text; colons in brackets belong to it. -/
def hostLength (inBrackets : Bool) : List Char → Nat
  | [] => 0
  | c :: rest =>
      if c = ':' && !inBrackets then 0
      else 1 + hostLength (if c = '[' then true else if c = ']' then false else inBrackets) rest

def port? (value : Option Nat) : List Char → Except Fault (Option Nat × List Char)
  | [] => .ok (value, [])
  | c :: rest =>
      if c.isDigit then
        let value := value.getD 0 * 10 + (c.toNat - 0x30)
        if value < 0x10000 then port? (some value) rest else .error .badPort
      else if c = '/' || c = '\\' || c = '?' || c = '#' then .ok (value, c :: rest)
      else .error .badPort

def hostAndPort? (scheme : String) (text : List Char) :
    Except Fault (Host × Option Nat × List Char) := do
  let special := isSpecial scheme
  let authority := text.takeWhile fun c => !endsAuthority special c
  let behind := text.dropWhile fun c => !endsAuthority special c
  let length := hostLength false authority
  let hostText := authority.take length
  let portText := authority.drop length
  if special && hostText.isEmpty then throw .emptyHost
  let host ← if special then Host.ofText? hostText else Host.ofPlainText? hostText
  match portText with
  | _ :: digits =>
      if hostText.isEmpty then throw .emptyHost
      let (port, rest) ← port? none (digits ++ behind)
      .ok (host, port.filter fun n => usualPorts.lookup scheme != some n, rest)
  | [] => .ok (host, none, behind)

def credentials (text : List Char) : String × String :=
  (encoded staysInCredentials (text.takeWhile (· != ':')),
    encoded staysInCredentials ((text.dropWhile (· != ':')).drop 1))

/-- An address from behind the two slashes in front of its authority. -/
def withAuthority? (scheme : String) (text : List Char) : Except Fault Url := do
  let special := isSpecial scheme
  let authority := text.takeWhile fun c => !endsAuthority special c
  let behind := text.dropWhile fun c => !endsAuthority special c
  let (info, rest) ←
    match splitCredentials authority with
    | none => .ok ([], text)
    | some ([], host) =>
        if host.isEmpty && !behind.isEmpty then throw .emptyHost
        .ok ([], host ++ behind)
    | some (info, host) => .ok (info, host ++ behind)
  let (username, password) := credentials info
  let (host, port, rest) ← hostAndPort? scheme rest
  if host = .domain "" && !(username.isEmpty && password.isEmpty) then throw .emptyHost
  let url : Url := { scheme, username, password, host := some host, port, path := .segments [] }
  .ok (url.withRest special rest fun path =>
    if special then webPath path else .segments (plainPath path))

/-- The host of a file; the local one has no name, and neither has that of a drive. -/
def fileHost? (text behind : List Char) : Except Fault Host := do
  let host ← Host.ofText? text
  let path := behind.takeWhile fun c => !endsPath c
  .ok (if host = .domain "localhost" || startsOnDrive path then .domain "" else host)

def ofFile? (text : List Char) : Except Fault Url := do
  let url : Url := { scheme := "file", host := some (.domain ""), path := .segments [] }
  match text with
  | a :: b :: rest =>
      if isSlash true a && isSlash true b then
        let hostText := rest.takeWhile fun c => !endsAuthority true c
        let behind := rest.dropWhile fun c => !endsAuthority true c
        if isDrive hostText then .ok (url.withRest true rest filePath)
        else if hostText.isEmpty then .ok (url.withRest true behind filePath)
        else do
          let host ← fileHost? hostText behind
          .ok ({ url with host := some host }.withRest true behind filePath)
      else .ok (url.withRest true text filePath)
  | text => .ok (url.withRest true text filePath)

def parse (input : String) : Except Fault Url := do
  let some (scheme, rest) := scheme? (cleaned input.toList) | throw .noScheme
  if scheme == "file" then ofFile? rest
  else if isSpecial scheme then withAuthority? scheme (rest.dropWhile (isSlash true))
  else
    match rest with
    | '/' :: '/' :: rest => withAuthority? scheme rest
    | '/' :: rest =>
        let url : Url := { scheme, path := .segments [] }
        .ok (url.withRest false rest fun path => .segments (plainPath ('/' :: path)))
    | rest =>
        let url : Url := { scheme, path := .whole "" }
        .ok (url.withRest false rest fun path => .whole (encoded Text.Percent.isPlain path))

end Url

end Toolbench
