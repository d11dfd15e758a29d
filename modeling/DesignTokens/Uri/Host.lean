import DesignTokens.Number.Numeral
import DesignTokens.Text.Percent
import DesignTokens.Uri.DomainName
import DesignTokens.Uri.Fault

/-!
# DesignTokens.Uri.Host — hosts

1. **IPv4 addresses** in any of their spellings (`Host.ipv4?`): up to four parts, each decimal,
   octal or hexadecimal, the last part filling the remaining bytes.
2. **IPv6 addresses** (`Host.ipv6?`), written with their longest run of zeros left out.
3. **Hosts**: `Host.ofSpecial` for the schemes with domain names, `Host.ofOther` for all others.
-/

namespace DesignTokens.Uri.Host

open Text (splitOn)

/-! ## IPv4 -/

/-- The number written in a base; no digits at all stand for zero. -/
def number? (base : Nat) (digits : List Char) : Option Nat :=
  if digits.isEmpty then some 0 else Numeral.value? base digits

def ipv4Part? : List Char → Option Nat
  | [] => none
  | '0' :: 'x' :: rest => number? 16 rest
  | '0' :: 'X' :: rest => number? 16 rest
  | '0' :: c :: rest => number? 8 (c :: rest)
  | digits => number? 10 digits

/-- The parts between the dots; one empty part at the end is dropped. -/
def ipv4Parts (domain : List Char) : List (List Char) :=
  match (splitOn '.' domain).reverse with
  | [] :: last :: rest => (last :: rest).reverse
  | parts => parts.reverse

/-- Whether the last part of a domain is a number, so that the domain has to be an address. -/
def endsInNumber (domain : List Char) : Bool :=
  match (ipv4Parts domain).getLast? with
  | some last => (!last.isEmpty && last.all Char.isDigit) || (ipv4Part? last).isSome
  | none => false

def ipv4? (domain : List Char) : Option Nat :=
  let parts := ipv4Parts domain
  if 4 < parts.length then none
  else (parts.mapM ipv4Part?).bind fun numbers =>
    let whole := numbers.dropLast
    let last := numbers.getLastD 0
    if whole.all (· < 256) && last < Nat.pow 256 (4 - whole.length) then
      some (whole.zipIdx.foldl (fun sum p => sum + p.1 * Nat.pow 256 (3 - p.2)) last)
    else none

def ipv4Text (address : Nat) : String :=
  String.intercalate "." ([3, 2, 1, 0].map fun i => toString (address / Nat.pow 256 i % 256))

/-! ## IPv6 -/

/-- A piece of up to four hexadecimal digits. -/
def ipv6Piece? (digits : List Char) : Option Nat :=
  if digits.isEmpty || 4 < digits.length then none else number? 16 digits

def decimalByte? (digits : List Char) : Option Nat :=
  if digits.isEmpty || (1 < digits.length && digits.head? == some '0') then none
  else (number? 10 digits).filter (· < 256)

/-- The pieces of one side of a double colon; an IPv4 address may stand for the last two. -/
def ipv6Pieces? (text : List Char) (last : Bool) : Option (List Nat) :=
  if text.isEmpty then some []
  else
    let pieces := splitOn ':' text
    match last, pieces.getLast? with
    | true, some final =>
      if final.contains '.' then
        ((splitOn '.' final).mapM decimalByte?).bind fun
          | [a, b, c, d] => (pieces.dropLast.mapM ipv6Piece?).map (· ++ [a * 256 + b, c * 256 + d])
          | _ => none
      else pieces.mapM ipv6Piece?
    | _, _ => pieces.mapM ipv6Piece?

/-- The two sides of the first double colon. -/
def splitDouble : List Char → Option (List Char × List Char)
  | ':' :: ':' :: rest => some ([], rest)
  | c :: rest => (splitDouble rest).map fun (before, after) => (c :: before, after)
  | [] => none

def ipv6? (text : List Char) : Option (List Nat) :=
  match splitDouble text with
  | some (before, after) =>
    (ipv6Pieces? before false).bind fun front =>
      (ipv6Pieces? after true).bind fun back =>
        let count := front.length + back.length
        if count < 8 then some (front ++ List.replicate (8 - count) 0 ++ back) else none
  | none => (ipv6Pieces? text true).filter (·.length = 8)

/-- The lengths of the runs of zeros that start at each piece. -/
def zeroRuns : List Nat → List Nat
  | [] => []
  | piece :: rest =>
    let runs := zeroRuns rest
    (if piece = 0 then runs.headD 0 + 1 else 0) :: runs

/-- An IPv6 address; of the longest runs of at least two zeros the first is left out. -/
def ipv6Text (pieces : List Nat) : String :=
  let hex (ps : List Nat) :=
    String.intercalate ":" (ps.map fun p => String.ofList (Nat.toDigits 16 p))
  let runs := zeroRuns pieces
  let longest := runs.foldl max 0
  -- A single zero is written out.
  if longest < 2 then hex pieces
  else
    let start := runs.findIdx (· = longest)
    hex (pieces.take start) ++ "::" ++ hex (pieces.drop (start + longest))

/-! ## Hosts -/

def bracketed? (text : List Char) : Option String :=
  if text.getLast? == some ']' then
    (ipv6? text.tail.dropLast).map fun pieces => "[" ++ ipv6Text pieces ++ "]"
  else none

/-- A character that no host holds. -/
def isForbidden (c : Char) : Bool :=
  c == '\x00' || "\t\n\r #/:<>?@[\\]^|".toList.contains c

/-- The host of a scheme with domain names: percent-encoding is undone, names are written in ASCII,
addresses get their normal form. -/
def ofSpecial (text : List Char) : Except Fault String :=
  if text.head? == some '[' then
    match bracketed? text with
    | some host => .ok host
    | none => .error .invalidIpv6Address
  else match (Text.Percent.decode text).toOption.bind DomainName.ofText? with
    | none => .error .invalidDomain
    | some domain =>
      if domain.isEmpty then .error .emptyHost
      -- No name ends in a number, so this has to be an address.
      else if endsInNumber domain then
        match ipv4? domain with
        | some address => .ok (ipv4Text address)
        | none => .error .invalidIpv4Address
      else .ok (String.ofList domain)

/-- The host of any other scheme: it is taken as it stands, characters beyond ASCII and control
characters encoded. -/
def ofOther (text : List Char) : Except Fault String :=
  if text.head? == some '[' then
    match bracketed? text with
    | some host => .ok host
    | none => .error .invalidIpv6Address
  else if text.any isForbidden then .error .invalidDomainCharacter
  else .ok (String.ofList (Text.Percent.encode (fun c => ' ' ≤ c && c < '\x7f') text))

end DesignTokens.Uri.Host
