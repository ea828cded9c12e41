import EdgeFleet.Net.Address
import EdgeFleet.Uri.HostName

/-!
# Absolute URLs

`Url.check` decides whether a text is an absolute URL as browsers read them, and says why not.
Blanks around the text and line ends and tabs within it do not count. The common schemes need a
host, however many slashes come before it; a file may have one; any other scheme has one only
behind two slashes, and then the host is taken as it is written.
-/

namespace EdgeFleet.Uri

open Text Net

/-- Why a text is not an absolute URL. -/
inductive UrlError where
  | relative
  | emptyHost
  | hostName
  | hostCharacter
  | portNumber
  | addressV4
  | addressV6
  deriving Repr, DecidableEq

/-- The words for an error. -/
def UrlError.message : UrlError → String
  | .relative => "relative URL without a base"
  | .emptyHost => "empty host"
  | .hostName => "invalid international domain name"
  | .hostCharacter => "invalid domain character"
  | .portNumber => "invalid port number"
  | .addressV4 => "invalid IPv4 address"
  | .addressV6 => "invalid IPv6 address"

namespace Url

/-- How URLs of a scheme are laid out. -/
inductive Layout where
  | common
  | file
  | other
  deriving Repr, DecidableEq

/-- The layout that a scheme, in small letters, asks for. -/
def layout (scheme : String) : Layout :=
  if scheme == "file" then .file
  else if ["http", "https", "ws", "wss", "ftp"].contains scheme then .common
  else .other

/-- Characters that do not count at either end. -/
def isOuterBlank (c : Char) : Bool :=
  c.toNat ≤ 32

/-- Characters that do not count anywhere. -/
def isSkipped (c : Char) : Bool :=
  c == '\t' || c == '\n' || c == '\r'

/-- The text without the characters that do not count. -/
def strip (cs : List Char) : List Char :=
  let cs := cs.dropWhile isOuterBlank
  let cs := (cs.reverse.dropWhile isOuterBlank).reverse
  cs.filter fun c => !isSkipped c

/-- A scheme and the text after its colon. -/
def scheme? (cs : List Char) : Option (String × List Char) :=
  let (scheme, rest) :=
    cs.span fun c => c.isAlpha || c.isDigit || c == '+' || c == '-' || c == '.'
  match scheme, rest with
  | first :: _, ':' :: rest =>
    if first.isAlpha then some (String.ofList (scheme.map Char.toLower), rest) else none
  | _, _ => none

/-- The value of an escape `%xx`, if the text begins with one. -/
def escape? : List Char → Option Nat
  | '%' :: a :: b :: _ => do return (← digitValue? 16 a) * 16 + (← digitValue? 16 b)
  | _ => none

/-- The bytes that a text stands for, with its escapes undone. -/
def unescape : List Char → List UInt8
  | [] => []
  | c :: rest =>
    match escape? (c :: rest) with
    | some value => UInt8.ofNat value :: unescape (rest.drop 2)
    | none => (String.singleton c).toUTF8.toList ++ unescape rest
termination_by cs => cs.length
decreasing_by all_goals simp; try omega

/-- The text that a list of bytes encodes. -/
def decodeText? (bytes : List UInt8) : Option (List Char) :=
  (String.fromUTF8? ⟨bytes.toArray⟩).map String.toList

/-- A part of an IPv4 address: decimal, octal behind a zero, hexadecimal behind `0x`. The inner
result is absent when the number is too large to be an address. -/
def numberPart? (cs : List Char) : Option (Option Nat) :=
  let (radix, digits) :=
    match cs with
    | '0' :: 'x' :: rest => (16, rest)
    | '0' :: c :: rest => (8, c :: rest)
    | cs => (10, cs)
  if cs.isEmpty then none
  else if digits.isEmpty then some (some 0)
  else (digits? radix digits).map fun value => if value < 0x100000000 then some value else none

/-- Whether a host name must be read as an IPv4 address: its last label is a number. -/
def endsInNumber (labels : List (List Char)) : Bool :=
  let last :=
    match labels.reverse with
    | [] :: last :: _ => some last
    | [] :: [] => none
    | last :: _ => some last
    | [] => none
  last.any fun label =>
    (!label.isEmpty && label.all Char.isDigit) || (numberPart? label).isSome

/-- Checks the labels of a host name that must be an IPv4 address: at most four numbers, where the
last one fills the bytes that the others leave. -/
def checkV4 (labels : List (List Char)) : Except UrlError Unit :=
  let labels := if labels.getLast? == some [] then labels.dropLast else labels
  match labels.mapM numberPart? with
  | some parts =>
    match parts.mapM id with
    | some numbers =>
      match numbers.reverse with
      | last :: others =>
        if labels.length ≤ 4 && others.all (· ≤ 255) && last < Nat.pow 256 (4 - others.length) then
          .ok ()
        else .error .addressV4
      | [] => .error .addressV4
    | none => .error .addressV4
  | none => .error .addressV4

/-- Checks a host between brackets, after the opening one: an IPv6 address. -/
def checkV6 (cs : List Char) : Except UrlError Unit :=
  if cs.getLast? == some ']' && (Address.parseV6? cs.dropLast).isSome then .ok ()
  else .error .addressV6

/-- Checks the host of a URL of a common scheme or of a file. -/
def checkHost (host : List Char) : Except UrlError Unit :=
  match host with
  | '[' :: rest => checkV6 rest
  | host =>
    match (decodeText? (unescape host)).bind HostName.normalize? with
    | none => .error .hostName
    | some [] => .error .emptyHost
    | some name =>
      let labels := HostName.labels name
      if endsInNumber labels then checkV4 labels else .ok ()

/-- Checks the host of a URL of another scheme, which is taken as it is written. -/
def checkPlainHost (host : List Char) : Except UrlError Unit :=
  match host with
  | '[' :: rest => checkV6 rest
  | host =>
    if host.any fun c => c.toNat == 0 || " #/:<>?@[\\]^|".toList.contains c then
      .error .hostCharacter
    else .ok ()

/-- Whether a character ends the authority. -/
def endsAuthority (layout : Layout) (c : Char) : Bool :=
  c == '/' || c == '?' || c == '#' || (c == '\\' && layout == .common)

/-- What stands before the last at sign of an authority, if there is one, and what stands after
it. -/
def splitUser (authority : List Char) : Option (List Char) × List Char :=
  let (after, before) := authority.reverse.span (· != '@')
  match before with
  | [] => (none, authority)
  | _ :: user => (some user.reverse, after.reverse)

/-- The host at the head of an authority: up to the first colon outside brackets. -/
def splitHost (inBrackets : Bool) : List Char → List Char × List Char
  | [] => ([], [])
  | c :: rest =>
    if c == ':' && !inBrackets then ([], c :: rest)
    else
      let inBrackets := if c == '[' then true else if c == ']' then false else inBrackets
      let (host, port) := splitHost inBrackets rest
      (c :: host, port)

/-- Checks a port: digits with a value that fits 16 bits, or nothing. -/
def checkPort (port : List Char) : Except UrlError Unit :=
  if port.isEmpty then .ok ()
  else
    match digits? 10 port with
    | some value => if value < 65536 then .ok () else .error .portNumber
    | none => .error .portNumber

/-- Whether user information says anything: more than a colon. -/
def namesUser (user : List Char) : Bool :=
  !(user.isEmpty || user == [':'])

/-- Checks what stands behind the slashes: user information, host and port. -/
def checkAuthority (layout : Layout) (cs : List Char) : Except UrlError Unit := do
  let authority := cs.takeWhile fun c => !endsAuthority layout c
  let rest := cs.dropWhile fun c => !endsAuthority layout c
  let (user, place) := splitUser authority
  if user == some [] && place.isEmpty && !rest.isEmpty then throw .emptyHost
  let (host, port) := splitHost false place
  if layout == .common && host.isEmpty then throw .emptyHost
  match layout with
  | .other => checkPlainHost host
  | _ => checkHost host
  if host.isEmpty && !port.isEmpty then throw .emptyHost
  let port := port.drop 1
  let port := if layout == .other then port.takeWhile (· != '\\') else port
  checkPort port
  if host.isEmpty && user.any namesUser then throw .emptyHost

/-- Whether a text is a drive letter, which a file URL may have in place of a host. -/
def isDrive : List Char → Bool
  | [letter, mark] => letter.isAlpha && (mark == ':' || mark == '|')
  | _ => false

/-- Whether a character separates the parts of a path. -/
def isSlash (c : Char) : Bool :=
  c == '/' || c == '\\'

/-- Checks what comes after the scheme of a file URL. -/
def checkFile (cs : List Char) : Except UrlError Unit :=
  match cs with
  | a :: b :: rest =>
    if isSlash a && isSlash b then
      let host := rest.takeWhile fun c => !(isSlash c || c == '?' || c == '#')
      if host.isEmpty || isDrive host then .ok () else checkHost host
    else .ok ()
  | _ => .ok ()

/-- Whether a text is an absolute URL, or why it is not. -/
def check (text : String) : Except UrlError Unit :=
  match scheme? (strip text.toList) with
  | none => .error .relative
  | some (scheme, rest) =>
    match layout scheme with
    | .common => checkAuthority .common (rest.dropWhile isSlash)
    | .file => checkFile rest
    | .other =>
      match rest with
      | '/' :: '/' :: rest => checkAuthority .other rest
      | _ => .ok ()

end Url

end EdgeFleet.Uri
