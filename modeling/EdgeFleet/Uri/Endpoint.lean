import EdgeFleet.Uri.Target

/-!
# Addresses of services

An address of a service is a scheme, an authority and a target. `Endpoint.parse?` reads the part
after the scheme: the authority goes up to the first slash, question mark or number sign, and must
look like a host with at most one port. `Endpoint.render` writes the
address with a path, which is a slash if none was given.
-/

namespace EdgeFleet.Uri

/-- The schemes of services. -/
inductive Scheme where
  | http
  | https
  deriving Repr, DecidableEq, Inhabited

/-- The name of a scheme. -/
def Scheme.name : Scheme → String
  | .http => "http"
  | .https => "https"

/-- The address of a service. -/
structure Endpoint where
  scheme : Scheme
  authority : String
  target : Target
  deriving Repr, DecidableEq

namespace Endpoint

/-- Whether a character ends an authority. -/
def endsAuthority (c : Char) : Bool :=
  c == '/' || c == '?' || c == '#'

/-- Whether a character may stand in an authority, a percent sign apart. -/
def isAuthorityChar (c : Char) : Bool :=
  c.isAlphanum || "!$&'()*+,-.:;=@[]_~".toList.contains c

/-- What has been seen of an authority, from its head. User information before an at sign and an
address in brackets may hold colons and percent signs, so these are counted anew after them. -/
structure Scan where
  colons : Nat
  opened : Bool
  closed : Bool
  percent : Bool

/-- The most colons before a bracket or an at sign. -/
def maxColons : Nat := 8

/-- Reads one character of an authority. -/
def Scan.step (scan : Scan) (c : Char) : Option Scan :=
  match c with
  | ':' => if scan.colons ≥ maxColons then none else some { scan with colons := scan.colons + 1 }
  | '[' => if scan.percent || scan.opened then none else some { scan with opened := true }
  | ']' =>
    if !scan.opened || scan.closed then none
    else some { scan with closed := true, colons := 0, percent := false }
  | '@' => some { scan with colons := 0, percent := false }
  | '%' => some { scan with percent := true }
  | c => if isAuthorityChar c then some scan else none

/-- Whether a text is an authority. -/
def isAuthority (cs : List Char) : Bool :=
  match cs.foldlM Scan.step ⟨0, false, false, false⟩ with
  | none => false
  | some scan =>
    scan.opened == scan.closed && scan.colons ≤ 1 && !scan.percent && cs.getLast? != some '@' &&
      !cs.isEmpty

/-- Reads the address of a service of the given scheme from what follows the scheme. -/
def parse? (scheme : Scheme) (text : String) : Option Endpoint := do
  let (authority, rest) := text.toList.span fun c => !endsAuthority c
  let target ← Target.ofChars? rest
  if scheme.name.utf8ByteSize + 3 + text.utf8ByteSize ≤ Target.maxLength &&
      isAuthority authority then
    some ⟨scheme, .ofList authority, target⟩
  else none

/-- The text of an address. -/
def render (endpoint : Endpoint) : String :=
  let slash := if endpoint.target.path.isEmpty then "/" else ""
  endpoint.scheme.name ++ "://" ++ endpoint.authority ++ slash ++ endpoint.target.render

end Endpoint

end EdgeFleet.Uri
