import ClassWeaver.Web.Host

/-!
# Web addresses

Which texts are absolute web addresses, and of which scheme. Only the parts of an address that can be wrong are
looked at: the scheme, the host and the number behind the host. What follows them may be anything.

## Contents

* `scheme?` — the scheme in front of the colon.
* `authority`, `splitUser`, `hostAndPort` — the parts between the slashes and the path.
* `schemeOf` — the scheme of an address, or why the text is none.
-/

namespace ClassWeaver.Web

/-- The text without blanks and controls at its ends, and without tabs and line ends. -/
def tidy (text : String) : List Char :=
  let edge (c : Char) : Bool := c.toNat ≤ 0x20
  let cs := ((text.toList.dropWhile edge).reverse.dropWhile edge).reverse
  cs.filter fun c => !(c == '\t' || c == '\n' || c == '\r')

/-- The scheme in lower case and the text behind its colon. -/
def scheme? (cs : List Char) : Option (String × List Char) :=
  let isSchemeChar (c : Char) : Bool := c.isAlphanum || c == '+' || c == '-' || c == '.'
  match cs.head?, cs.dropWhile isSchemeChar with
  | some first, ':' :: rest =>
    if first.isAlpha then some (String.ofList ((cs.takeWhile isSchemeChar).map Char.toLower), rest) else none
  | _, _ => none

/-- Whether a scheme names servers, so that its addresses have a host. -/
def namesServer (scheme : String) : Bool :=
  ["http", "https", "ws", "wss", "ftp"].contains scheme

/-- Whether a character ends the authority of an address. -/
def endsAuthority (special : Bool) (c : Char) : Bool :=
  c == '/' || c == '?' || c == '#' || (special && c == '\\')

/-- The authority at the front of a text. -/
def authority (special : Bool) (cs : List Char) : List Char :=
  cs.takeWhile fun c => !endsAuthority special c

/-- The texts before and behind the last `@`. -/
def splitUser (cs : List Char) : Option (List Char × List Char) :=
  let behind := (cs.reverse.takeWhile (· != '@')).reverse
  if behind.length = cs.length then none else some (cs.take (cs.length - behind.length - 1), behind)

/-- The host in front of the first colon outside brackets, and what follows it. -/
def hostAndPort (bracketed : Bool) (host : List Char) : List Char → List Char × List Char
  | [] => (host.reverse, [])
  | c :: rest =>
    if c == ':' && !bracketed then (host.reverse, c :: rest)
    else hostAndPort (if c == '[' then true else if c == ']' then false else bracketed) (c :: host) rest

/-- Checks what follows the host: nothing, or a colon and a 16-bit number, which may be empty. A backslash ends it. -/
def checkPort : List Char → Except AddressFault Unit
  | ':' :: rest =>
    let rec digits (n : Nat) : List Char → Except AddressFault Unit
      | [] => .ok ()
      | c :: rest =>
        if c.isDigit then
          let n := n * 10 + (c.toNat - 48)
          if 65535 < n then .error .invalidPort else digits n rest
        else if c == '\\' then .ok ()
        else .error .invalidPort
    digits 0 rest
  | _ => .ok ()

/-- Checks the authority of an address. -/
def checkAuthority (special : Bool) (cs : List Char) : Except AddressFault Unit := do
  let whole := authority special cs
  let (user, rest) := (splitUser whole).getD ([], whole)
  let hasUser := (splitUser whole).isSome
  if hasUser && user.isEmpty && rest.isEmpty && whole.length < cs.length then .error .emptyHost
  else
    let (host, behind) := hostAndPort false [] rest
    if host.isEmpty && (special || !behind.isEmpty) then .error .emptyHost
    else
      (if special then checkHost host else checkOpaqueHost host)
      checkPort behind
      if host.isEmpty && !user.isEmpty && user != [':'] then .error .emptyHost else .ok ()

/-- Whether a text is a drive letter with its colon or bar. -/
def isDrive : List Char → Bool
  | [letter, mark] => letter.isAlpha && (mark == ':' || mark == '|')
  | _ => false

/-- Checks the host of a file's address, if it has one. -/
def checkFile (cs : List Char) : Except AddressFault Unit :=
  match cs with
  | a :: b :: rest =>
    if (a == '/' || a == '\\') && (b == '/' || b == '\\') then
      let host := authority true rest
      if host.isEmpty || isDrive host then .ok () else checkHost host
    else .ok ()
  | _ => .ok ()

/-- The scheme of an absolute address. -/
def schemeOf (text : String) : Except AddressFault String :=
  match scheme? (tidy text) with
  | none => .error .relative
  | some (scheme, rest) => do
    if namesServer scheme then checkAuthority true (rest.dropWhile fun c => c == '/' || c == '\\')
    else if scheme == "file" then checkFile rest
    else
      match rest with
      | '/' :: '/' :: rest => checkAuthority false rest
      | _ => .ok ()
    return scheme

end ClassWeaver.Web
