/-
SecurityGroups/Network/Error.lean

Why a text is not an address, a port or a range of ports.
-/
namespace SecurityGroups

/-- The two families of addresses. -/
inductive Family where
  | ipv4 | ipv6
  deriving Repr, DecidableEq

namespace Family

/-- The name of a family. -/
def name : Family → String
  | ipv4 => "IPv4"
  | ipv6 => "IPv6"

/-- The number of bits of an address. -/
def bits : Family → Nat
  | ipv4 => 32
  | ipv6 => 128

end Family

/-- A text that is not an address, a port or a range of ports. -/
inductive NetworkError where
  | invalidAddress (text : String)
  | invalidCidr (text : String)
  | invalidLength (length : UInt8)
  | wrongFamily (expected : Family) (text : String)
  | invalidPort (text : String)
  | invalidPortRange (text : String)
  deriving Repr, DecidableEq

/-- The wording of a network error. -/
def NetworkError.message : NetworkError → String
  | invalidAddress text => "Invalid IP address format: " ++ text
  | invalidCidr text => "Invalid CIDR notation: " ++ text
  | invalidLength length =>
    "Invalid prefix length: " ++ toString length.toNat ++ " (must be 0-32 for IPv4, 0-128 for IPv6)"
  | wrongFamily expected text => "Expected an " ++ expected.name ++ " address, got " ++ text
  | invalidPort text => "Invalid port: " ++ text ++ " (must be 1-65535)"
  | invalidPortRange text => "Invalid port range: " ++ text

end SecurityGroups
