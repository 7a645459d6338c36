import Toolbench.Text.Percent

/-!
# Addresses

The parts of an absolute URL and its text.  The parts are kept as they are written:
lower-cased, percent-encoded and without dot segments where the reading of addresses
asks for that.
-/

namespace Toolbench

namespace Url

inductive Host where
  | domain (name : String)
  | ipv4 (address : Nat)
  | ipv6 (pieces : List Nat)
deriving DecidableEq

/-- The path of an address: segments, or one text that is no hierarchy. -/
inductive Path where
  | segments (names : List String)
  | whole (text : String)
deriving DecidableEq

end Url

structure Url where
  scheme : String
  username : String := ""
  password : String := ""
  /-- The host; an address may have an empty one or none at all. -/
  host : Option Url.Host := none
  /-- The port, unless it is the usual one of the scheme. -/
  port : Option Nat := none
  path : Url.Path
  query : Option String := none
  fragment : Option String := none
deriving DecidableEq

namespace Url

inductive Fault where
  | noScheme
  | emptyHost
  | badDomain
  | badDomainCharacter
  | badIpv4
  | badIpv6
  | badPort
deriving DecidableEq

def Fault.message : Fault → String
  | noScheme => "relative URL without a base"
  | emptyHost => "empty host"
  | badDomain => "invalid international domain name"
  | badDomainCharacter => "invalid domain character"
  | badIpv4 => "invalid IPv4 address"
  | badIpv6 => "invalid IPv6 address"
  | badPort => "invalid port number"

/-- The usual ports of the schemes whose addresses always have a host. -/
def usualPorts : List (String × Nat) :=
  [("http", 80), ("https", 443), ("ws", 80), ("wss", 443), ("ftp", 21)]

def isSpecial (scheme : String) : Bool :=
  scheme == "file" || (usualPorts.lookup scheme).isSome

def ipv4Text (address : Nat) : String :=
  ".".intercalate ([0x1000000, 0x10000, 0x100, 1].map fun unit => toString (address / unit % 0x100))

def pieceText (piece : Nat) : String :=
  String.ofList (Nat.toDigits 16 piece)

/-- The lengths of the runs of zeros that start at each piece. -/
def zeroRuns : List Nat → List Nat
  | [] => []
  | piece :: rest =>
      let runs := zeroRuns rest
      (if piece = 0 then runs.headD 0 + 1 else 0) :: runs

/-- The text of an IPv6 address; the first longest run of several zeros is left out. -/
def ipv6Text (pieces : List Nat) : String :=
  let runs := zeroRuns pieces
  let longest := runs.foldl max 0
  let join := fun list : List Nat => ":".intercalate (list.map pieceText)
  if longest < 2 then join pieces
  else
    let start := runs.findIdx (· == longest)
    join (pieces.take start) ++ "::" ++ join (pieces.drop (start + longest))

def Host.text : Host → String
  | domain name => name
  | ipv4 address => ipv4Text address
  | ipv6 pieces => "[" ++ ipv6Text pieces ++ "]"

def Path.text : Path → String
  | segments names => String.join (names.map ("/" ++ ·))
  | whole text => text

def credentialsText (url : Url) : String :=
  if url.username.isEmpty && url.password.isEmpty then ""
  else
    url.username ++ (if url.password.isEmpty then "" else ":" ++ url.password) ++ "@"

def authorityText (url : Url) : String :=
  match url.host with
  | none => if url.path.text.startsWith "//" then "/." else ""
  | some host =>
      "//" ++ url.credentialsText ++ host.text ++
        (match url.port with
          | some port => ":" ++ toString port
          | none => "")

def text (url : Url) : String :=
  url.scheme ++ ":" ++ url.authorityText ++ url.path.text ++
    (match url.query with
      | some query => "?" ++ query
      | none => "") ++
    (match url.fragment with
      | some fragment => "#" ++ fragment
      | none => "")

def isWeb (url : Url) : Bool :=
  url.scheme == "http" || url.scheme == "https"

end Url

end Toolbench
