import EchoProbe.Net.Address
import EchoProbe.Net.Domain
import EchoProbe.Text.Utf8

/-!
# Addresses of the web

`Url.parse` reads an absolute address by the rules of the URL standard. It
is lenient: blanks around the address are dropped, tabs and line breaks
inside it too, any number of slashes may follow the scheme, and what may not
stand in a path, a query or a fragment is percent-encoded.

The *special* schemes, among them those of WebSockets, need a host. Their
host is a domain name, an address of version 6 in brackets, or an address of
version 4, which may be written with fewer than four numbers and in other
bases. A port that is the default of the scheme is left out.
-/

namespace EchoProbe.Net

open EchoProbe.Text

/-- **Why a text is no absolute address.** -/
inductive Url.Fault where
  /-- It has no scheme. -/
  | noScheme
  /-- It needs a host and has none. -/
  | emptyHost
  /-- The port is no number below 65536. -/
  | invalidPort
  /-- The host ends in a number and is no address of version 4. -/
  | invalidIpv4
  /-- What stands in brackets is no address of version 6. -/
  | invalidIpv6
  /-- The host cannot be a domain name. -/
  | invalidDomain
  /-- The host of an address with an unknown scheme holds a character that
  it may not hold. -/
  | invalidCharacter
deriving DecidableEq, Repr

/-- The wording of a fault. -/
def Url.Fault.message : Url.Fault → String
  | .noScheme => "relative URL without a base"
  | .emptyHost => "empty host"
  | .invalidPort => "invalid port number"
  | .invalidIpv4 => "invalid IPv4 address"
  | .invalidIpv6 => "invalid IPv6 address"
  | .invalidDomain => "invalid international domain name"
  | .invalidCharacter => "invalid domain character"

/-- **The host of an address.** -/
inductive Host where
  /-- A domain name, in the form in which it is looked up. -/
  | domain (name : String)
  /-- An address of version 4. -/
  | ipv4 (address : Ipv4)
  /-- An address of version 6. -/
  | ipv6 (address : Ipv6)
  /-- The host of an address with an unknown scheme, as it is. -/
  | verbatim (text : String)
deriving DecidableEq, Repr

/-- The text of a host. -/
def Host.toText : Host → String
  | .domain name => name
  | .ipv4 address => address.toText
  | .ipv6 address => "[" ++ address.compressed ++ "]"
  | .verbatim text => text

/-- **An absolute address**, each part in the form in which it is written. -/
structure Url where
  /-- The scheme, in small letters. -/
  scheme : String
  /-- The user's name and what stands between it and the host. -/
  credentials : String
  /-- The host, if there is one. -/
  host : Option Host
  /-- The port, unless it is the default of the scheme. -/
  port : Option UInt16
  /-- The path. -/
  path : String
  /-- What stands behind the question mark. -/
  query : Option String
  /-- What stands behind the number sign. -/
  fragment : Option String
deriving DecidableEq, Repr

/-! ### Percent-encoding -/

/-- A capital hexadecimal digit. -/
def upperHex (n : Nat) : Char := (hexDigit n).toUpper

/-- A byte in percent-encoding. -/
def percentByte (b : UInt8) : List Char :=
  ['%', upperHex (b.toNat / 16), upperHex (b.toNat % 16)]

/-- Controls and what is not ASCII are always encoded. -/
def isControl (c : Char) : Bool := c.toNat < 0x20 || 0x7F ≤ c.toNat

/-- A text with its controls and some further characters encoded. -/
def percentEncode (others : List Char) (cs : List Char) : List Char :=
  cs.flatMap fun c =>
    if isControl c || others.contains c then (String.utf8EncodeChar c).flatMap percentByte
    else [c]

/-- What is encoded in a fragment. -/
def fragmentSet : List Char := [' ', '"', '<', '>', '`']

/-- What is encoded in a path. -/
def pathSet : List Char := fragmentSet ++ ['#', '?', '{', '}']

/-- What is encoded in a user's name and password. -/
def credentialsSet : List Char :=
  pathSet ++ ['/', ':', ';', '=', '@', '[', '\\', ']', '^', '|']

/-- What is encoded in a query. -/
def querySet (special : Bool) : List Char :=
  [' ', '"', '#', '<', '>'] ++ if special then ['\''] else []

/-- The bytes of a text whose percent-encoded bytes are decoded. -/
def percentDecode : List Char → List UInt8
  | [] => []
  | c :: cs =>
    match c, cs with
    | '%', a :: b :: rest =>
      match hexValue? a, hexValue? b with
      | some i, some j => UInt8.ofNat (i * 16 + j) :: percentDecode rest
      | _, _ => String.utf8EncodeChar '%' ++ percentDecode (a :: b :: rest)
    | c, cs => String.utf8EncodeChar c ++ percentDecode cs

/-! ### Hosts -/

/-- A number of an address of version 4: hexadecimal behind `0x`, octal
behind another zero, else decimal. -/
def ipv4Number? (cs : List Char) : Option Nat :=
  let (base, digits) : Nat × List Char :=
    match cs with
    | '0' :: 'x' :: rest => (16, rest)
    | '0' :: 'X' :: rest => (16, rest)
    | '0' :: c :: rest => (8, c :: rest)
    | cs => (10, cs)
  if cs.isEmpty then none
  else
    match splitBase base digits with
    | (ds, []) => some (ds.foldl (fun n d => n * base + d) 0)
    | _ => none

/-- The parts of a host between its points, without an empty last one. -/
def hostParts (cs : List Char) : List (List Char) :=
  let parts := splitAt '.' cs
  if parts.getLast? == some [] then parts.dropLast else parts

/-- Whether the last part of a host is a number. -/
def endsInNumber (cs : List Char) : Bool :=
  match (hostParts cs).getLast? with
  | none => false
  | some [] => false
  | some last => last.all (fun c => (Digit.ofChar? c).isSome) || (ipv4Number? last).isSome

/-- The address of version 4 that a number is. -/
def Ipv4.ofNat (n : Nat) : Ipv4 :=
  ⟨#v[UInt8.ofNat (n / 0x1000000), UInt8.ofNat (n / 0x10000), UInt8.ofNat (n / 0x100),
    UInt8.ofNat n]⟩

/-- An address of version 4 in any of its notations: each number but the
last is a byte, and the last fills the bytes that are left. -/
def parseIpv4 (cs : List Char) : Except Url.Fault Ipv4 :=
  match (hostParts cs).mapM ipv4Number? with
  | none => .error .invalidIpv4
  | some numbers =>
    let bytes := numbers.dropLast
    let last := numbers.getLast?.getD 0
    if 4 < numbers.length || bytes.any (0xFF < ·) || 256 ^ (4 - bytes.length) ≤ last then
      .error .invalidIpv4
    else
      let high := bytes.foldl (fun n b => n * 256 + b) 0
      .ok (Ipv4.ofNat (high * 256 ^ (4 - bytes.length) + last))

/-- A host in brackets. -/
def parseBracketed (cs : List Char) : Except Url.Fault Host :=
  if cs.getLast? == some ']' then
    match readIpv6? (cs.drop 1).dropLast with
    | some (address, []) => .ok (.ipv6 address)
    | _ => .error .invalidIpv6
  else .error .invalidIpv6

/-- The host of an address with a special scheme. -/
def parseHost (cs : List Char) : Except Url.Fault Host :=
  if cs.head? == some '[' then parseBracketed cs
  else
    match (Utf8.decode? (percentDecode cs)).bind fun s => domainToAscii? s.toList with
    | none => .error .invalidDomain
    | some [] => .error .emptyHost
    | some name =>
      if endsInNumber name then (parseIpv4 name).map .ipv4
      else .ok (.domain (String.ofList name))

/-- The characters that the host of an unknown scheme may not hold. -/
def verbatimForbidden : List Char :=
  ['\x00', ' ', '#', '/', ':', '<', '>', '?', '@', '[', '\\', ']', '^', '|']

/-- The host of an address with an unknown scheme. -/
def parseVerbatim (cs : List Char) : Except Url.Fault Host :=
  if cs.head? == some '[' then parseBracketed cs
  else if cs.any verbatimForbidden.contains then .error .invalidCharacter
  else .ok (.verbatim (String.ofList (percentEncode [] cs)))

/-! ### The parts of an address -/

/-- How the rest of an address is read. -/
inductive SchemeKind where
  /-- A scheme whose addresses have a host. -/
  | special
  /-- The scheme of files. -/
  | file
  /-- Any other scheme. -/
  | other
deriving DecidableEq, Repr

/-- The kind of a scheme. -/
def SchemeKind.of (scheme : String) : SchemeKind :=
  if ["http", "https", "ws", "wss", "ftp"].contains scheme then .special
  else if scheme = "file" then .file
  else .other

/-- The port that a scheme stands for. -/
def defaultPort? (scheme : String) : Option Nat :=
  if scheme = "ws" ∨ scheme = "http" then some 80
  else if scheme = "wss" ∨ scheme = "https" then some 443
  else if scheme = "ftp" then some 21
  else none

/-- Whether a character may stand in a scheme. -/
def isSchemeChar (c : Char) : Bool := c.isAlphanum || c == '+' || c == '-' || c == '.'

/-- The scheme at the front of an address, and the text behind its colon. -/
def splitScheme? (cs : List Char) : Option (String × List Char) :=
  match cs with
  | [] => none
  | c :: _ =>
    if c.isAlpha then
      match cs.dropWhile isSchemeChar with
      | ':' :: rest =>
        some (String.ofList ((cs.takeWhile isSchemeChar).map Char.toLower), rest)
      | _ => none
    else none

/-- Whether a character ends the host and what belongs to it. -/
def endsAuthority (kind : SchemeKind) (c : Char) : Bool :=
  c == '/' || c == '?' || c == '#' || (c == '\\' && kind != .other)

/-- The encoded name and password in front of a host, with the sign behind
them; a colon in front of an empty password is left out. -/
def credentialsText (cs : List Char) : List Char :=
  let name := cs.takeWhile (· != ':')
  let password := (cs.dropWhile (· != ':')).drop 1
  if name.isEmpty && password.isEmpty then []
  else
    percentEncode credentialsSet name ++
      (if password.isEmpty then [] else ':' :: percentEncode credentialsSet password) ++ ['@']

/-- The text up to the last character of a kind, and the text behind it. -/
def splitLast? (c : Char) (cs : List Char) : Option (List Char × List Char) :=
  if cs.contains c then
    some (((cs.reverse.dropWhile (· != c)).drop 1).reverse,
      (cs.reverse.takeWhile (· != c)).reverse)
  else none

/-- The host at the front of a text and the text behind it. A colon ends it
unless it stands in brackets. -/
def splitHost (bracketed : Bool) : List Char → List Char × List Char
  | [] => ([], [])
  | c :: cs =>
    if c = ':' && !bracketed then ([], c :: cs)
    else
      let inside := if c = '[' then true else if c = ']' then false else bracketed
      (c :: (splitHost inside cs).1, (splitHost inside cs).2)

/-- The port behind a colon; none without digits, or when it is the default
of the scheme. -/
def parsePort (scheme : String) (cs : List Char) : Except Url.Fault (Option UInt16) :=
  match splitDigits cs with
  | ([], []) => .ok none
  | (ds, []) =>
    let port := digitsValue ds
    if 0xFFFF < port then .error .invalidPort
    else if defaultPort? scheme = some port then .ok none
    else .ok (some (UInt16.ofNat port))
  | _ => .error .invalidPort

/-- What stands between the slashes and the path. -/
structure Authority where
  /-- The name and the password. -/
  credentials : String
  /-- The host. -/
  host : Host
  /-- The port. -/
  port : Option UInt16

/-- Read the authority of an address. -/
def parseAuthority (scheme : String) (kind : SchemeKind) (cs : List Char) :
    Except Url.Fault Authority := do
  let (user, server) := (splitLast? '@' cs).getD ([], cs)
  let (hostText, portText) := splitHost false server
  if hostText.isEmpty && (kind != .other || !user.isEmpty || !portText.isEmpty) then
    throw .emptyHost
  let host ← if kind = .other then parseVerbatim hostText else parseHost hostText
  let port ← parsePort scheme (portText.drop 1)
  return ⟨String.ofList (credentialsText user), host, port⟩

/-- Whether a segment of a path stands for the one in front of it. -/
def isDoubleDot (segment : List Char) : Bool :=
  let s := segment.map Char.toLower
  [['.', '.'], ['.', '%', '2', 'e'], ['%', '2', 'e', '.'],
    ['%', '2', 'e', '%', '2', 'e']].contains s

/-- Whether a segment of a path stands for itself. -/
def isSingleDot (segment : List Char) : Bool :=
  let s := segment.map Char.toLower
  s == ['.'] || s == ['%', '2', 'e']

/-- Follow the segments of a path: a double dot takes the last one away, a
single dot adds nothing; at the end both leave an empty segment. -/
def followSegments (done : List (List Char)) : List (List Char) → List (List Char)
  | [] => done
  | segment :: rest =>
    let final := if rest.isEmpty then [[]] else []
    let done :=
      if isDoubleDot segment then done.dropLast ++ final
      else if isSingleDot segment then done ++ final
      else done ++ [segment]
    followSegments done rest

/-- The path of an address with a host. -/
def pathText (kind : SchemeKind) (cs : List Char) : List Char :=
  let cs := if kind = .other then cs else cs.map fun c => if c = '\\' then '/' else c
  if kind = .other && cs.isEmpty then []
  else
    let cs := if cs.head? == some '/' then cs.drop 1 else cs
    let segments := (splitAt '/' cs).map (percentEncode pathSet)
    (followSegments [] segments).flatMap ('/' :: ·)

/-- The path, the query and the fragment of the text behind the authority. -/
structure Tail where
  /-- The text in front of the query and the fragment. -/
  path : List Char
  /-- The query. -/
  query : Option String
  /-- The fragment. -/
  fragment : Option String

/-- Take the query and the fragment off the end of a text. -/
def splitTail (kind : SchemeKind) (cs : List Char) : Tail :=
  let fragment :=
    match cs.dropWhile (· != '#') with
    | [] => none
    | _ :: rest => some (String.ofList (percentEncode fragmentSet rest))
  let cs := cs.takeWhile (· != '#')
  let query :=
    match cs.dropWhile (· != '?') with
    | [] => none
    | _ :: rest => some (String.ofList (percentEncode (querySet (kind != .other)) rest))
  ⟨cs.takeWhile (· != '?'), query, fragment⟩

/-- The text that matters of an address: without controls and spaces around
it, and without tabs and line breaks. -/
def trimAddress (cs : List Char) : List Char :=
  let outer (c : Char) : Bool := c.toNat ≤ 0x20
  let cs := ((cs.dropWhile outer).reverse.dropWhile outer).reverse
  cs.filter fun c => c != '\t' && c != '\n' && c != '\r'

/-- Whether a character is a slash of either kind. -/
def isSlash (c : Char) : Bool := c == '/' || c == '\\'

/-- The address of the text behind the slashes that come before a host. -/
def parseWithHost (scheme : String) (kind : SchemeKind) (cs : List Char) :
    Except Url.Fault Url := do
  let authority ← parseAuthority scheme kind (cs.takeWhile fun c => !endsAuthority kind c)
  let tail := splitTail kind (cs.dropWhile fun c => !endsAuthority kind c)
  return {
    scheme
    credentials := authority.credentials
    host := some authority.host
    port := authority.port
    path := String.ofList (pathText kind tail.path)
    query := tail.query
    fragment := tail.fragment }

/-- The address of a file, which may name a host. -/
def parseFile (scheme : String) (cs : List Char) : Except Url.Fault Url := do
  let named := (cs.take 2).length = 2 ∧ (cs.take 2).all isSlash
  let after := if named then cs.drop 2 else cs
  let hostText := if named then after.takeWhile fun c => !endsAuthority .file c else []
  let host ← if hostText.isEmpty then pure none else (parseHost hostText).map some
  let tail := splitTail .file (after.drop hostText.length)
  return {
    scheme
    credentials := ""
    host := if host = some (.domain "localhost") then none else host
    port := none
    path := String.ofList (pathText .file tail.path)
    query := tail.query
    fragment := tail.fragment }

/-- An address with an unknown scheme and without a host. -/
def parseHostless (scheme : String) (cs : List Char) : Url :=
  let tail := splitTail .other cs
  { scheme
    credentials := ""
    host := none
    port := none
    path := String.ofList
      (if tail.path.head? == some '/' then pathText .other tail.path
        else percentEncode [] tail.path)
    query := tail.query
    fragment := tail.fragment }

namespace Url

/-- **The address that a text denotes.** -/
def parse (text : String) : Except Fault Url :=
  match splitScheme? (trimAddress text.toList) with
  | none => .error .noScheme
  | some (scheme, cs) =>
    match SchemeKind.of scheme with
    | .special => parseWithHost scheme .special (cs.dropWhile isSlash)
    | .file => parseFile scheme cs
    | .other =>
      match cs with
      | '/' :: '/' :: rest => parseWithHost scheme .other rest
      | cs => .ok (parseHostless scheme cs)

/-- **The text of an address.** -/
def toText (u : Url) : String :=
  let host :=
    match u.host with
    | none => if u.scheme = "file" then "//" else ""
    | some h => "//" ++ u.credentials ++ h.toText
  let port := (u.port.map fun p => ":" ++ decimal p.toNat).getD ""
  u.scheme ++ ":" ++ host ++ port ++ u.path ++
    (u.query.map ("?" ++ ·)).getD "" ++ (u.fragment.map ("#" ++ ·)).getD ""

/-- Whether the address is one of a WebSocket. -/
def isWebSocket (u : Url) : Bool := u.scheme == "ws" || u.scheme == "wss"

end Url

end EchoProbe.Net
