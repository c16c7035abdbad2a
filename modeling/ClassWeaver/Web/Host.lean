import ClassWeaver.Bytes.Hex
import ClassWeaver.Text.Split
import ClassWeaver.Web.DomainName

/-!
# Hosts of addresses

The host part of a web address: an IPv6 address between brackets, an IPv4 address in any of its spellings, or a
domain name. A domain that ends in a number has to be an IPv4 address.

## Contents

* `AddressFault` — why an address is refused.
* `isNumeric`, `isIpv4`, `isIpv6` — the two kinds of numeric hosts.
* `percentDecode`, `domain` — domain names.
* `checkHost`, `checkOpaqueHost` — whole hosts.
-/

namespace ClassWeaver.Web

/-- Why an address is refused. -/
inductive AddressFault
  | relative
  | emptyHost
  | invalidPort
  | invalidIpv4
  | invalidIpv6
  | invalidDomainName
  | invalidDomainCharacter
  deriving DecidableEq, Repr

/-- The text shown for a refused address. -/
def AddressFault.message : AddressFault → String
  | relative => "relative URL without a base"
  | emptyHost => "empty host"
  | invalidPort => "invalid port number"
  | invalidIpv4 => "invalid IPv4 address"
  | invalidIpv6 => "invalid IPv6 address"
  | invalidDomainName => "invalid international domain name"
  | invalidDomainCharacter => "invalid domain character"

/-! ## IPv4 -/

/-- A number of an IPv4 address: hexadecimal behind `0x`, octal behind `0`, else decimal. -/
def ipv4Number? (part : List Char) : Option Nat :=
  let value (base : Nat) (digits : List Char) : Option Nat :=
    digits.foldlM (fun n c => (Bytes.hexValue? c).bind fun d => if d < base then some (n * base + d) else none) 0
  match part with
  | [] => none
  | '0' :: 'x' :: digits | '0' :: 'X' :: digits => value 16 digits
  | '0' :: d :: digits => value 8 (d :: digits)
  | digits => value 10 digits

/-- The parts of a domain, without an empty one at the end. -/
def domainParts (domain : List Char) : List (List Char) :=
  let parts := Text.split '.' domain
  if parts.getLast? == some [] then parts.dropLast else parts

/-- Whether the last part of a domain is a number. -/
def isNumeric (domain : List Char) : Bool :=
  match (domainParts domain).getLast? with
  | none => false
  | some last => (!last.isEmpty && last.all Char.isDigit) || (ipv4Number? last).isSome

/-- Whether a domain is an IPv4 address: up to four numbers, the last of which fills the bytes that are left. -/
def isIpv4 (domain : List Char) : Bool :=
  let parts := domainParts domain
  match parts.mapM ipv4Number? with
  | none => false
  | some numbers =>
    parts.length ≤ 4 && numbers.dropLast.all (· ≤ 255) &&
      (numbers.getLast?.getD 0) < Nat.pow 256 (5 - numbers.length)

/-! ## IPv6 -/

/-- Whether a text is four decimal numbers of a byte each, without superfluous zeros. -/
def isDottedQuad (cs : List Char) : Bool :=
  let parts := Text.split '.' cs
  parts.length == 4 && parts.all fun part =>
    !part.isEmpty && part.length ≤ 3 && part.all Char.isDigit && !(part.head? == some '0' && 1 < part.length) &&
      part.foldl (fun n c => n * 10 + (c.toNat - 48)) 0 ≤ 255

/-- Whether a text is one to four hexadecimal digits. -/
def isPiece (cs : List Char) : Bool :=
  !cs.isEmpty && cs.length ≤ 4 && cs.all fun c => (Bytes.hexValue? c).isSome

/-- The number of 16-bit pieces that a list of parts stands for; a dotted quad may end it. -/
def countPieces : List (List Char) → Option Nat
  | [] => some 0
  | [last] => if isPiece last then some 1 else if isDottedQuad last then some 2 else none
  | part :: rest => if isPiece part then (countPieces rest).map (· + 1) else none

/-- The texts before and behind the first double colon. -/
def splitAtDoubleColon : List Char → Option (List Char × List Char)
  | ':' :: ':' :: rest => some ([], rest)
  | c :: rest => (splitAtDoubleColon rest).map fun (before, after) => (c :: before, after)
  | [] => none

/-- The parts between colons; an empty text has none. -/
def colonParts (cs : List Char) : List (List Char) :=
  if cs.isEmpty then [] else Text.split ':' cs

/-- Whether a text is an IPv6 address: eight pieces, or fewer with a double colon for those left out. -/
def isIpv6 (cs : List Char) : Bool :=
  match splitAtDoubleColon cs with
  | none => countPieces (Text.split ':' cs) == some 8
  | some (before, after) =>
    let beforeParts := colonParts before
    beforeParts.all isPiece &&
      match countPieces (colonParts after) with
      | some n => beforeParts.length + n ≤ 7
      | none => false

/-! ## Domains -/

/-- The bytes of a text with `%xx` read as a byte. -/
def percentDecode : List Char → List UInt8
  | '%' :: a :: b :: rest =>
    match Bytes.hexValue? a, Bytes.hexValue? b with
    | some high, some low => UInt8.ofNat (high * 16 + low) :: percentDecode rest
    | _, _ => 0x25 :: percentDecode (a :: b :: rest)
  | c :: rest => (String.singleton c).toUTF8.toList ++ percentDecode rest
  | [] => []

/-- The characters of a domain name that may have bytes spelled out. -/
def domain (cs : List Char) : Except AddressFault (List Char) :=
  match (String.fromUTF8? (ByteArray.mk (percentDecode cs).toArray)).bind fun text => labels? text.toList with
  | none => .error .invalidDomainName
  | some labels => .ok (['.'].intercalate labels)

/-! ## Hosts -/

/-- Checks an IPv6 address behind its opening bracket. -/
def checkBracketed (rest : List Char) : Except AddressFault Unit :=
  if rest.getLast? == some ']' && isIpv6 rest.dropLast then .ok () else .error .invalidIpv6

/-- Checks the host of an address that names a server. -/
def checkHost : List Char → Except AddressFault Unit
  | '[' :: rest => checkBracketed rest
  | cs => do
    let name ← domain cs
    if name.isEmpty then .error .emptyHost
    else if isNumeric name && !isIpv4 name then .error .invalidIpv4
    else .ok ()

/-- Checks the host of an address of a scheme without rules of its own. -/
def checkOpaqueHost : List Char → Except AddressFault Unit
  | '[' :: rest => checkBracketed rest
  | cs =>
    if cs.any fun c => c == '\x00' || c == '\t' || c == '\n' || c == '\r' || " #/:<>?@[\\]^|".toList.contains c then
      .error .invalidDomainCharacter
    else .ok ()

end ClassWeaver.Web
