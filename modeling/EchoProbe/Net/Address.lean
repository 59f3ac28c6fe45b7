import EchoProbe.Text.Digit

/-!
# Network addresses

Addresses of both versions, and the address of one end of a connection: an
address with a port. `SocketAddress.parse?` reads the usual notation, in
which an address of version 6 stands in brackets, may leave out one run of
zeros and may end in the notation of version 4; `SocketAddress.toText`
writes the shortest form of it.
-/

namespace EchoProbe.Net

open EchoProbe.Text

/-- **An address of version 4**: four bytes. -/
structure Ipv4 where
  /-- The bytes. -/
  octets : Vector UInt8 4
deriving DecidableEq, Repr

/-- **An address of version 6**: eight groups of sixteen bits. -/
structure Ipv6 where
  /-- The groups. -/
  groups : Vector UInt16 8
deriving DecidableEq, Repr

/-- **An address with a port.** -/
inductive SocketAddress where
  /-- An address of version 4 and a port. -/
  | v4 (address : Ipv4) (port : UInt16)
  /-- An address of version 6, the zone it is meant in, and a port. -/
  | v6 (address : Ipv6) (scope : UInt32) (port : UInt16)
deriving DecidableEq, Repr

/-- The address of the local host. -/
def Ipv4.loopback : Ipv4 := ⟨#v[127, 0, 0, 1]⟩

/-- Whether the address stands for all interfaces. -/
def Ipv4.isUnspecified (a : Ipv4) : Bool := a.octets.all (· == 0)

/-- Whether the address stands for all interfaces. -/
def Ipv6.isUnspecified (a : Ipv6) : Bool := a.groups.all (· == 0)

/-- The address at which a server bound to an address is reached from the
same host: one that stands for all interfaces is replaced. -/
def SocketAddress.reachable : SocketAddress → SocketAddress
  | .v4 address port => .v4 (if address.isUnspecified then .loopback else address) port
  | .v6 address scope port =>
    if address.isUnspecified then .v4 .loopback port else .v6 address scope port

/-! ### Writing -/

/-- The four bytes with points between them. -/
def Ipv4.toText (a : Ipv4) : String :=
  String.intercalate "." (a.octets.toList.map fun b => decimal b.toNat)

/-- The groups in hexadecimal with colons between them. -/
def groupsText (gs : List UInt16) : String :=
  String.intercalate ":" (gs.map fun g => hexadecimal g.toNat)

/-- How many zeros stand at the front. -/
def leadingZeros (gs : List UInt16) : Nat := (gs.takeWhile (· == 0)).length

/-- The place and the length of the longest run of zeros behind a place; of
several the first. -/
def longestZeros (place : Nat) : List UInt16 → Nat × Nat
  | [] => (place, 0)
  | g :: gs =>
    let here := leadingZeros (g :: gs)
    let later := longestZeros (place + 1) gs
    if later.2 ≤ here then (place, here) else later

/-- The groups, with the longest run of at least two zeros left out. -/
def Ipv6.compressed (a : Ipv6) : String :=
  let gs := a.groups.toList
  let (place, count) := longestZeros 0 gs
  if count < 2 then groupsText gs
  else groupsText (gs.take place) ++ "::" ++ groupsText (gs.drop (place + count))

/-- The address of version 4 that an address of version 6 stands for. -/
def Ipv6.mapped? (a : Ipv6) : Option Ipv4 :=
  match a.groups.toList with
  | [0, 0, 0, 0, 0, 0xFFFF, high, low] =>
    some ⟨#v[(high >>> 8).toUInt8, high.toUInt8, (low >>> 8).toUInt8, low.toUInt8]⟩
  | _ => none

/-- An address of version 6; one that stands for an address of version 4
shows it. -/
def Ipv6.toText (a : Ipv6) : String :=
  match a.mapped? with
  | some v4 => "::ffff:" ++ v4.toText
  | none => a.compressed

namespace SocketAddress

/-- The port. -/
def port : SocketAddress → UInt16
  | .v4 _ port => port
  | .v6 _ _ port => port

/-- **The notation of an address with a port.** -/
def toText : SocketAddress → String
  | .v4 address port => address.toText ++ ":" ++ decimal port.toNat
  | .v6 address scope port =>
    let zone := if scope = 0 then "" else "%" ++ decimal scope.toNat
    "[" ++ address.toText ++ zone ++ "]:" ++ decimal port.toNat

end SocketAddress

/-! ### Reading -/

/-- How a number of an address is written. -/
structure NumberForm where
  /-- The base of its digits. -/
  base : Nat
  /-- The most digits it may have. -/
  width : Option Nat
  /-- Whether a zero may stand in front of other digits. -/
  zeros : Bool
  /-- The greatest number. -/
  limit : Nat

/-- The digits of a base at the front of a text, and what follows them. -/
def splitBase (base : Nat) : List Char → List Nat × List Char
  | [] => ([], [])
  | c :: cs =>
    match (hexValue? c).filter (· < base) with
    | some d => (d :: (splitBase base cs).1, (splitBase base cs).2)
    | none => ([], c :: cs)

/-- Read a number of a form. -/
def readNumber? (form : NumberForm) (cs : List Char) : Option (Nat × List Char) :=
  let (ds, rest) := splitBase form.base cs
  let value := ds.foldl (fun n d => n * form.base + d) 0
  let fits := (form.width.map fun w => decide (ds.length ≤ w)).getD true
  let zeroFirst := ds.head? == some 0 && 1 < ds.length
  if ds.isEmpty || !fits || (zeroFirst && !form.zeros) || form.limit < value then none
  else some (value, rest)

/-- A byte of an address of version 4. -/
def byteForm : NumberForm := ⟨10, some 3, false, 0xFF⟩

/-- A group of an address of version 6. -/
def groupForm : NumberForm := ⟨16, some 4, true, 0xFFFF⟩

/-- A port. -/
def portForm : NumberForm := ⟨10, none, true, 0xFFFF⟩

/-- A zone. -/
def scopeForm : NumberForm := ⟨10, none, true, 0xFFFFFFFF⟩

/-- Read a character that must stand here. -/
def readChar? (c : Char) : List Char → Option (List Char)
  | [] => none
  | d :: ds => if c = d then some ds else none

/-- Read an address of version 4. -/
def readIpv4? (cs : List Char) : Option (Ipv4 × List Char) := do
  let (a, cs) ← readNumber? byteForm cs
  let (b, cs) ← readNumber? byteForm (← readChar? '.' cs)
  let (c, cs) ← readNumber? byteForm (← readChar? '.' cs)
  let (d, cs) ← readNumber? byteForm (← readChar? '.' cs)
  return (⟨#v[UInt8.ofNat a, UInt8.ofNat b, UInt8.ofNat c, UInt8.ofNat d]⟩, cs)

/-- The two groups that four bytes make. -/
def Ipv4.groups (a : Ipv4) : List UInt16 :=
  [a.octets[0].toUInt16 <<< 8 ||| a.octets[1].toUInt16,
    a.octets[2].toUInt16 <<< 8 ||| a.octets[3].toUInt16]

/-- A run of groups. -/
structure GroupRun where
  /-- The groups. -/
  groups : List UInt16
  /-- Whether the last two were written in the notation of version 4. -/
  endsInIpv4 : Bool
  /-- The text behind them. -/
  rest : List Char

/-- Read as many groups as there are, at most a given number. The last two
of them may be written in the notation of version 4. -/
def readGroups : Nat → Bool → List Char → GroupRun
  | 0, _, cs => ⟨[], false, cs⟩
  | n + 1, first, cs =>
    match if first then some cs else readChar? ':' cs with
    | none => ⟨[], false, cs⟩
    | some start =>
      match if n = 0 then none else readIpv4? start with
      | some (a, rest) => ⟨a.groups, true, rest⟩
      | none =>
        match readNumber? groupForm start with
        | none => ⟨[], false, cs⟩
        | some (g, rest) =>
          let run := readGroups n false rest
          ⟨UInt16.ofNat g :: run.groups, run.endsInIpv4, run.rest⟩

/-- The address of eight groups. -/
def Ipv6.ofList? (gs : List UInt16) : Option Ipv6 :=
  if h : gs.toArray.size = 8 then some ⟨⟨gs.toArray, h⟩⟩ else none

/-- Read an address of version 6. -/
def readIpv6? (cs : List Char) : Option (Ipv6 × List Char) := do
  let front := readGroups 8 true cs
  if front.groups.length = 8 then
    return (← Ipv6.ofList? front.groups, front.rest)
  if front.endsInIpv4 then none
  let rest ← readChar? ':' (← readChar? ':' front.rest)
  let back := readGroups (7 - front.groups.length) true rest
  let zeros := List.replicate (8 - front.groups.length - back.groups.length) 0
  return (← Ipv6.ofList? (front.groups ++ zeros ++ back.groups), back.rest)

/-- Read a colon and a port. -/
def readPort? (cs : List Char) : Option (UInt16 × List Char) := do
  let (port, rest) ← readNumber? portForm (← readChar? ':' cs)
  return (UInt16.ofNat port, rest)

/-- Read the zone of an address; without one it is zero. -/
def readScope (cs : List Char) : UInt32 × List Char :=
  match (readChar? '%' cs).bind (readNumber? scopeForm) with
  | some (scope, rest) => (UInt32.ofNat scope, rest)
  | none => (0, cs)

/-- Read an address of version 4 with a port. -/
def readSocketV4? (cs : List Char) : Option (SocketAddress × List Char) := do
  let (address, cs) ← readIpv4? cs
  let (port, cs) ← readPort? cs
  return (.v4 address port, cs)

/-- Read an address of version 6 with a port. -/
def readSocketV6? (cs : List Char) : Option (SocketAddress × List Char) := do
  let (address, cs) ← readIpv6? (← readChar? '[' cs)
  let (scope, cs) := readScope cs
  let (port, cs) ← readPort? (← readChar? ']' cs)
  return (.v6 address scope port, cs)

/-- **The address that a text denotes**, with nothing around it. -/
def SocketAddress.parse? (text : String) : Option SocketAddress :=
  match (readSocketV4? text.toList).or (readSocketV6? text.toList) with
  | some (address, []) => some address
  | _ => none

end EchoProbe.Net
