import Toolbench.Url.Basic
import Toolbench.Url.Domain

/-!
# Hosts

Reading the host of an address: a domain name, an IPv4 address in any of its number
forms, or an IPv6 address in brackets.
-/

namespace Toolbench

namespace Url

namespace Host

inductive AddressNumber where
  | number (value : Nat)
  | tooLarge
  | notNumber

/-- A number in base 8, 10 or 16; a base without digits is zero. -/
def addressNumber (text : List Char) : AddressNumber :=
  let (base, digits) := match text with
    | '0' :: 'x' :: rest => (16, rest)
    | '0' :: 'X' :: rest => (16, rest)
    | '0' :: c :: rest => (8, c :: rest)
    | text => (10, text)
  let value? := fun c => (Text.Hex.value? c).filter (· < base)
  if text.isEmpty then .notNumber
  else
    match digits.foldlM (fun sum c => (value? c).map (sum * base + ·)) 0 with
    | none => .notNumber
    | some value => if value < 0x100000000 then .number value else .tooLarge

/-- Whether the last label of a name is a number, so that the name has to be an IPv4 address. -/
def endsInNumber (labels : List (List Char)) : Bool :=
  let last? := match labels.reverse with
    | [] :: last :: _ => some last
    | [] :: [] => none
    | last :: _ => some last
    | [] => none
  match last? with
  | none => false
  | some last =>
      (!last.isEmpty && last.all Char.isDigit) ||
        (match addressNumber last with
          | .notNumber => false
          | _ => true)

def dropEmptyLast (labels : List (List Char)) : List (List Char) :=
  if labels.getLast? = some [] then labels.dropLast else labels

/-- The address of at most four numbers, of which the last fills the places that are left. -/
def ipv4? (labels : List (List Char)) : Option Nat := do
  let parts := dropEmptyLast labels
  if 4 < parts.length then none
  let numbers ← parts.mapM fun part =>
    match addressNumber part with
    | .number value => some value
    | _ => none
  let last ← numbers.getLast?
  let leading := numbers.dropLast
  if leading.any (255 < ·) || Nat.pow 256 (4 - leading.length) ≤ last then none
  some ((leading.zipIdx.map fun (n, place) => n * Nat.pow 256 (3 - place)).foldl (· + ·) last)

/-- A piece of one to four hexadecimal digits. -/
def piece? (text : List Char) : Option Nat :=
  if text.isEmpty || 4 < text.length then none
  else text.foldlM (fun sum c => (Text.Hex.value? c).map (sum * 16 + ·)) 0

/-- A decimal number up to 255 without leading zeros. -/
def octet? (text : List Char) : Option Nat :=
  if text.isEmpty || !text.all Char.isDigit || (text.head? = some '0' && 1 < text.length) then none
  else
    let value := text.foldl (fun sum c => sum * 10 + (c.toNat - 0x30)) 0
    if value ≤ 255 then some value else none

/-- The two pieces that an IPv4 address at the end of an IPv6 address makes. -/
def embeddedPieces? (text : List Char) : Option (List Nat) := do
  match ← (Text.splitAt '.' text).mapM octet? with
  | [a, b, c, d] => some [a * 256 + b, c * 256 + d]
  | _ => none

/-- The pieces between colons, of which the last may be an IPv4 address. -/
def pieces? : List (List Char) → Option (List Nat)
  | [] => some []
  | [last] => if last.contains '.' then embeddedPieces? last else (piece? last).map ([·])
  | first :: rest => do
      let piece ← piece? first
      let others ← pieces? rest
      some (piece :: others)

def partPieces? (text : List Char) : Option (List Nat) :=
  if text.isEmpty then some [] else pieces? (Text.splitAt ':' text)

def splitGap : List Char → Option (List Char × List Char)
  | ':' :: ':' :: rest => some ([], rest)
  | [] => none
  | c :: rest => (splitGap rest).map fun (before, behind) => (c :: before, behind)

/-- The eight pieces of an address; a double colon stands for at least one piece of zero. -/
def ipv6? (text : List Char) : Option (List Nat) :=
  match splitGap text with
  | none => do
      let pieces ← pieces? (Text.splitAt ':' text)
      if pieces.length = 8 then some pieces else none
  | some (before, behind) => do
      if before.contains '.' then none
      let left ← partPieces? before
      let right ← partPieces? behind
      if 7 < left.length + right.length then none
      some (left ++ List.replicate (8 - left.length - right.length) 0 ++ right)

/-- The characters that the host of an address without web syntax may not hold. -/
def isForbidden (c : Char) : Bool :=
  c.toNat = 0 || "\t\n\r #/:<>?@[\\]^|".toList.contains c

def bracketed? (text : List Char) : Except Fault Host :=
  if 2 ≤ text.length && text.getLast? = some ']' then
    match ipv6? (text.drop 1).dropLast with
    | some pieces => .ok (.ipv6 pieces)
    | none => .error .badIpv6
  else .error .badIpv6

def ofText? (text : List Char) : Except Fault Host :=
  if text.head? = some '[' then bracketed? text
  else
    match Domain.toAscii? (Text.Percent.decode text) with
    | none => .error .badDomain
    | some [] => .error .emptyHost
    | some name =>
        let labels := Text.splitAt '.' name
        if endsInNumber labels then
          match ipv4? labels with
          | some address => .ok (.ipv4 address)
          | none => .error .badIpv4
        else .ok (.domain (String.ofList name))

/-- The host of another address, which is only percent-encoded. -/
def ofPlainText? (text : List Char) : Except Fault Host :=
  if text.head? = some '[' then bracketed? text
  else if text.any isForbidden then .error .badDomainCharacter
  else .ok (.domain (String.ofList (Text.Percent.encode Text.Percent.isPlain text)))

end Host

end Url

end Toolbench
