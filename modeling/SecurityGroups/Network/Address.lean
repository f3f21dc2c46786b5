/-
SecurityGroups/Network/Address.lean

IPv4 and IPv6 addresses and their texts.

An IPv4 address is four decimal numbers of at most three digits, without
leading zeros.  An IPv6 address is eight groups of at most four hexadecimal
digits; one run of zero groups may be left out at a double colon, and the
last two groups may be written as an IPv4 address.

`Address.text` leaves out the first longest run of two or more zero groups,
and writes an IPv4 address mapped into IPv6 with its dotted tail.
-/
import SecurityGroups.Network.Error
import SecurityGroups.Text.Numeral
import SecurityGroups.Text.Split

namespace SecurityGroups

/-- An IPv4 address. -/
structure Ipv4 where
  a : UInt8
  b : UInt8
  c : UInt8
  d : UInt8
  deriving Repr, DecidableEq

/-- An IPv6 address, as its eight groups of 16 bits. -/
structure Ipv6 where
  groups : List UInt16
  length_eq : groups.length = 8 := by decide
  deriving Repr, DecidableEq

/-- An address of either family. -/
inductive Address where
  | v4 (ip : Ipv4)
  | v6 (ip : Ipv6)
  deriving Repr, DecidableEq

/-- The family of an address. -/
def Address.family : Address → Family
  | v4 _ => .ipv4
  | v6 _ => .ipv6

namespace Ipv4

/-! ### IPv4 texts -/

/-- One of the four numbers. -/
def part? (cs : List Char) : Option UInt8 :=
  if cs.length ≤ 3 ∧ (cs.head? = some '0' → cs.length = 1) then
    (Text.unsignedDigits? 255 cs).map UInt8.ofNat
  else none

/-- The address that a text writes. -/
def read? (cs : List Char) : Option Ipv4 :=
  match Text.split '.' cs with
  | [a, b, c, d] => do return ⟨← part? a, ← part? b, ← part? c, ← part? d⟩
  | _ => none

/-- The text of an address. -/
def text (ip : Ipv4) : List Char :=
  Text.join '.' [Text.decimal ip.a.toNat, Text.decimal ip.b.toNat, Text.decimal ip.c.toNat,
    Text.decimal ip.d.toNat]

/-- The two groups of 16 bits that hold the address. -/
def toGroups (ip : Ipv4) : List UInt16 :=
  [UInt16.ofNat (ip.a.toNat * 256 + ip.b.toNat), UInt16.ofNat (ip.c.toNat * 256 + ip.d.toNat)]

/-- The address that two groups of 16 bits hold. -/
def ofGroups (high low : UInt16) : Ipv4 where
  a := UInt8.ofNat (high.toNat / 256)
  b := UInt8.ofNat (high.toNat % 256)
  c := UInt8.ofNat (low.toNat / 256)
  d := UInt8.ofNat (low.toNat % 256)

end Ipv4

namespace Ipv6

/-! ### IPv6 texts -/

/-- One hexadecimal group. -/
def group? (cs : List Char) : Option UInt16 :=
  if cs.length ≤ 4 then (Text.hexadecimal? cs).map UInt16.ofNat else none

/-- Groups with a colon between them. -/
def groups? : List (List Char) → Option (List UInt16)
  | [] => some []
  | piece :: rest => do return (← group? piece) :: (← groups? rest)

/-- Groups with a colon between them, the last two of which may be an IPv4 address. -/
def groupsWithTail? : List (List Char) → Option (List UInt16)
  | [] => some []
  | [piece] =>
    match Ipv4.read? piece with
    | some ip => some ip.toGroups
    | none => (group? piece).map fun g => [g]
  | piece :: rest => do return (← group? piece) :: (← groupsWithTail? rest)

/-- The pieces of a part of an address; an empty part has none. -/
def pieces (cs : List Char) : List (List Char) :=
  if cs = [] then [] else Text.split ':' cs

/-- The address with the given groups, if there are eight. -/
def ofList? (groups : List UInt16) : Option Ipv6 :=
  if h : groups.length = 8 then some ⟨groups, h⟩ else none

/-- The address that a text writes; a double colon stands for at least one zero group. -/
def read? (cs : List Char) : Option Ipv6 :=
  match Text.splitDouble? ':' cs with
  | none => do ofList? (← groupsWithTail? (Text.split ':' cs))
  | some (before, after) => do
    -- an IPv4 address may only end the text, so not the part before the double colon
    let head ← groups? (pieces before)
    let tail ← groupsWithTail? (pieces after)
    if head.length + tail.length ≤ 7 then
      ofList? (head ++ List.replicate (8 - head.length - tail.length) 0 ++ tail)
    else none

/-- How many groups at the start are zero. -/
def leadingZeros (groups : List UInt16) : Nat := (groups.takeWhile (· == 0)).length

/-- The start and the length of the first longest run of zero groups. -/
def longestZeros : List UInt16 → Nat × Nat
  | [] => (0, 0)
  | g :: gs =>
    let here := leadingZeros (g :: gs)
    let (start, length) := longestZeros gs
    -- of two runs of one length the first is kept
    if length ≤ here then (0, here) else (start + 1, length)

/-- The hexadecimal text of groups. -/
def groupsText (groups : List UInt16) : List Char :=
  Text.join ':' (groups.map fun g => Text.hexadecimal g.toNat)

/-- The text of an address. -/
def text (ip : Ipv6) : List Char :=
  match ip.groups with
  | [0, 0, 0, 0, 0, 0xFFFF, high, low] =>
    "::ffff:".toList ++ (Ipv4.ofGroups high low).text
  | groups =>
    let (start, length) := longestZeros groups
    -- a single zero group is written out
    if 1 < length then
      groupsText (groups.take start) ++ ':' :: ':' :: groupsText (groups.drop (start + length))
    else groupsText groups

end Ipv6

namespace Address

/-- The address that a text writes. -/
def read? (s : String) : Option Address :=
  match Ipv4.read? s.toList with
  | some ip => some (v4 ip)
  | none => (Ipv6.read? s.toList).map v6

/-- The text of an address. -/
def text : Address → String
  | v4 ip => String.ofList ip.text
  | v6 ip => String.ofList ip.text

end Address

end SecurityGroups
