import EchoProbe.Text.Digit

/-!
# Addresses in requests

An address that is asked for stands in a request, whose grammar is narrower
than the one of addresses: each of its parts has its own characters. Beyond
ASCII all characters may stand in a path and in a query. A fragment is not
asked for.
-/

namespace EchoProbe.Net.RequestTarget

/-- The characters of a host with credentials and port. -/
def isAuthorityChar (c : Char) : Bool := c.isAlphanum || "!$%&'()*+,-.:;=@[]_~".contains c

/-- The characters of a path. -/
def isPathChar (c : Char) : Bool :=
  127 ≤ c.toNat || (32 < c.toNat && !"#<>?`".contains c)

/-- The characters of a query. -/
def isQueryChar (c : Char) : Bool :=
  127 ≤ c.toNat || (32 < c.toNat && !"\"#<>".contains c)

/-- What stands behind the scheme. -/
def afterScheme : List Char → List Char
  | ':' :: '/' :: '/' :: cs => cs
  | _ :: cs => afterScheme cs
  | [] => []

/-- **Whether an address can be asked for.** -/
def isValid (address : String) : Bool :=
  let cs := (afterScheme address.toList).takeWhile (· != '#')
  let authority := cs.takeWhile fun c => c != '/' && c != '?'
  let tail := cs.drop authority.length
  let path := tail.takeWhile (· != '?')
  let query := (tail.drop path.length).drop 1
  authority.all isAuthorityChar && path.all isPathChar && query.all isQueryChar

end EchoProbe.Net.RequestTarget
