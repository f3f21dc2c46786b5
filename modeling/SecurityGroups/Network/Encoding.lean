/-
SecurityGroups/Network/Encoding.lean

How addresses and ports look in JSON.

Reading does not check ranges: a length that is too large for its address,
or a range that ends before it starts, reads back as it was written.
-/
import SecurityGroups.Json.Members
import SecurityGroups.Network.Cidr
import SecurityGroups.Network.Port

namespace SecurityGroups

namespace Cidr

/-- The address and the length, both of which an array has to have. -/
def parts? : Json → Option (Json × Json)
  | .arr [address, length] => some (address, length)
  | .obj ms => (Members.find? "address" ms).map (·, (Members.find? "prefix_length" ms).getD .null)
  | _ => none

/-- Reads an address with its length. -/
def ofJson? (json : Json) : Option Cidr := do
  let (address, length) ← parts? json
  return ⟨← address.text?.bind Address.read?, ← length.optional? Json.uint8?⟩

/-- Writes an address with its length. -/
def toJson (c : Cidr) : Json :=
  .obj [("address", .str c.address.text),
    ("prefix_length", Json.ofOption (fun n => Json.ofNat n.toNat) c.length?)]

end Cidr

namespace PortRange

/-- Reads a range of ports. -/
def ofJson? (json : Json) : Option PortRange := do
  let ms ← json.record? ["from", "to"]
  return ⟨← ms.require "from" Json.uint16?, ← ms.require "to" Json.uint16?⟩

/-- Writes a range of ports. -/
def toJson (r : PortRange) : Json :=
  .obj [("from", Json.ofNat r.first.toNat), ("to", Json.ofNat r.last.toNat)]

end PortRange

namespace PortSpec

/-- Reads a port specification. -/
def ofJson? : Json → Option PortSpec
  | .str "All" => some all
  | .obj [("All", .null)] => some all
  | .obj [("List", rs)] => (rs.list? PortRange.ofJson?).map ranges
  | _ => none

/-- Writes a port specification. -/
def toJson : PortSpec → Json
  | all => .str "All"
  | ranges rs => .obj [("List", .arr (rs.map PortRange.toJson))]

end PortSpec

end SecurityGroups
