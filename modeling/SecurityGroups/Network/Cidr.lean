/-
SecurityGroups/Network/Cidr.lean

Addresses with an optional prefix length, as in `10.0.0.0/8`.

`Cidr.ofParts` is the only gate for a length: it may not exceed the bits of
the address.  The family-bound readers `Cidr.readIn` read as `Cidr.read`
does and then look at the family.
-/
import SecurityGroups.Network.Address

namespace SecurityGroups

/-- An address with an optional prefix length. -/
structure Cidr where
  address : Address
  length? : Option UInt8
  deriving Repr, DecidableEq

namespace Cidr

/-- Whether the length fits the family of the address. -/
def InRange (c : Cidr) : Prop := ∀ n ∈ c.length?, n.toNat ≤ c.address.family.bits

instance (c : Cidr) : Decidable c.InRange :=
  match h : c.length? with
  | none => .isTrue (by simp [InRange, h])
  | some n => if hn : n.toNat ≤ c.address.family.bits then .isTrue (by simpa [InRange, h] using hn)
    else .isFalse (by simpa [InRange, h] using hn)

/-- An address with a length that fits it. -/
def ofParts (address : Address) (length? : Option UInt8) : Except NetworkError Cidr :=
  match length? with
  | some n =>
    if n.toNat ≤ address.family.bits then .ok ⟨address, some n⟩ else .error (.invalidLength n)
  | none => .ok ⟨address, none⟩

/-- Reads an address, and after the first slash its length. -/
def read (s : String) : Except NetworkError Cidr :=
  match Text.splitFirst? '/' s.toList with
  | some (before, after) =>
    match Address.read? (String.ofList before) with
    | none => .error (.invalidAddress (String.ofList before))
    | some address =>
      match Text.unsigned? 255 after with
      | none => .error (.invalidCidr s)
      | some n => ofParts address (some (UInt8.ofNat n))
  | none =>
    match Address.read? s with
    | none => .error (.invalidAddress s)
    | some address => .ok ⟨address, none⟩

/-- Reads an address of one family. -/
def readIn (family : Family) (s : String) : Except NetworkError Cidr :=
  match read s with
  | .error e => .error e
  | .ok c => if c.address.family = family then .ok c else .error (.wrongFamily family s)

/-- The text of an address with its length. -/
def text (c : Cidr) : String :=
  match c.length? with
  | some n => c.address.text ++ "/" ++ String.ofList (Text.decimal n.toNat)
  | none => c.address.text

end Cidr

end SecurityGroups
