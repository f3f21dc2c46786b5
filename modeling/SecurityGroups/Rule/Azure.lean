/-
SecurityGroups/Rule/Azure.lean

The rules of Azure.

Addresses, ports and peer groups come one at a time or in lists, for both
ends of the traffic.  A rule may declare its direction, which has to agree
with the set it is created in; an update can not, and refuses every name
that is none of its fields.
-/
import SecurityGroups.Naming
import SecurityGroups.Rule.Shape

namespace SecurityGroups.Azure

/-- A rule. -/
structure Rule where
  name : String := ""
  memo : Option String := none
  destAddress : Option String := none
  destAddresses : List String := []
  destGroupIds : List String := []
  destPort : Option String := none
  destPorts : List String := []
  protocol : String := ""
  sourceAddress : Option String := none
  sourceAddresses : List String := []
  sourceGroupIds : List String := []
  sourcePort : Option String := none
  sourcePorts : List String := []
  priority : Int64 := 0
  direction : Option Direction := none
  access : String := ""
  deriving Repr, DecidableEq

/-- A partial update of a rule. -/
structure Update where
  name : Option String := none
  memo : Option String := none
  destAddress : Option String := none
  destAddresses : Option (List String) := none
  destGroupIds : Option (List String) := none
  destPort : Option String := none
  destPorts : Option (List String) := none
  protocol : Option String := none
  sourceAddress : Option String := none
  sourceAddresses : Option (List String) := none
  sourceGroupIds : Option (List String) := none
  sourcePort : Option String := none
  sourcePorts : Option (List String) := none
  priority : Option Int64 := none
  access : Option String := none
  deriving Repr, DecidableEq

/-! ### Constraints -/

/-- The most characters of a name. -/
def nameMaxLength : Nat := 80

/-- The most characters of an address or an id. -/
def addressMaxLength : Nat := 255

/-- The protocols. -/
def protocols : List String := ["*", "Tcp", "Udp", "Icmp", "Esp", "Ah"]

/-- What a rule can do with traffic. -/
def accesses : List String := ["Allow", "Deny"]

/-- The name is there and short enough. -/
def checkName (s : String) : Verdict :=
  .first [Check.required "name" s, Check.maxLength "name" s nameMaxLength]

/-- The memo is short enough. -/
def checkMemo (s : String) : Verdict := Check.maxLength "memo" s Naming.memoMaxLength

/-- The address or id is there and short enough. -/
def checkAddress (field s : String) : Verdict :=
  .first [Check.required field s, Check.maxLength field s addressMaxLength]

/-- Every address or id is there and short enough. -/
def checkAddresses (field : String) (values : List String) : Verdict :=
  Check.each values (checkAddress field)

/-- Every text is a star, a port or a range. -/
def checkPorts (field : String) (values : List String) : Verdict :=
  Check.each values (Check.wildcardPortRange field)

/-- The protocol is known. -/
def checkProtocol (s : String) : Verdict := Check.oneOf "protocol" s protocols

/-- The priority is a number from 100 to 4096. -/
def checkPriority (n : Int64) : Verdict := Check.range "priority" n 100 4096

/-- The access is known. -/
def checkAccess (s : String) : Verdict := Check.oneOf "access" s accesses

/-- What is wrong with a rule. -/
def Rule.check (r : Rule) : Verdict := .first
  [checkName r.name,
    Check.optional r.memo checkMemo,
    Check.optional r.destAddress (checkAddress "destination_address_prefix"),
    checkAddresses "destination_address_prefixes" r.destAddresses,
    checkAddresses "cloud_destination_security_group_ids" r.destGroupIds,
    Check.optional r.destPort (Check.wildcardPortRange "destination_port_range"),
    checkPorts "destination_port_ranges" r.destPorts,
    Check.required "protocol" r.protocol,
    checkProtocol r.protocol,
    Check.optional r.sourceAddress (checkAddress "source_address_prefix"),
    checkAddresses "source_address_prefixes" r.sourceAddresses,
    checkAddresses "cloud_source_security_group_ids" r.sourceGroupIds,
    Check.optional r.sourcePort (Check.wildcardPortRange "source_port_range"),
    checkPorts "source_port_ranges" r.sourcePorts,
    checkPriority r.priority,
    Check.required "access" r.access,
    checkAccess r.access]

/-- What is wrong with an update. -/
def Update.check (u : Update) : Verdict := .first
  [Check.optional u.name checkName,
    Check.optional u.memo checkMemo,
    Check.optional u.destAddress (checkAddress "destination_address_prefix"),
    Check.optional u.destAddresses (checkAddresses "destination_address_prefixes"),
    Check.optional u.destGroupIds (checkAddresses "cloud_destination_security_group_ids"),
    Check.optional u.destPort (Check.wildcardPortRange "destination_port_range"),
    Check.optional u.destPorts (checkPorts "destination_port_ranges"),
    Check.optional u.protocol checkProtocol,
    Check.optional u.sourceAddress (checkAddress "source_address_prefix"),
    Check.optional u.sourceAddresses (checkAddresses "source_address_prefixes"),
    Check.optional u.sourceGroupIds (checkAddresses "cloud_source_security_group_ids"),
    Check.optional u.sourcePort (Check.wildcardPortRange "source_port_range"),
    Check.optional u.sourcePorts (checkPorts "source_port_ranges"),
    Check.optional u.priority checkPriority,
    Check.optional u.access checkAccess]

/-- A rule with the fields that the update has; its direction stays. -/
def Update.apply (u : Update) (r : Rule) : Rule where
  name := u.name.getD r.name
  memo := u.memo.or r.memo
  destAddress := u.destAddress.or r.destAddress
  destAddresses := u.destAddresses.getD r.destAddresses
  destGroupIds := u.destGroupIds.getD r.destGroupIds
  destPort := u.destPort.or r.destPort
  destPorts := u.destPorts.getD r.destPorts
  protocol := u.protocol.getD r.protocol
  sourceAddress := u.sourceAddress.or r.sourceAddress
  sourceAddresses := u.sourceAddresses.getD r.sourceAddresses
  sourceGroupIds := u.sourceGroupIds.getD r.sourceGroupIds
  sourcePort := u.sourcePort.or r.sourcePort
  sourcePorts := u.sourcePorts.getD r.sourcePorts
  priority := u.priority.getD r.priority
  direction := r.direction
  access := u.access.getD r.access

/-! ### Fields -/

/-- The fields of a rule. -/
def Rule.attributes : List (Attribute Rule) :=
  [{ name := "name", kind := .text, get := name,
      set := fun v r => { r with name := v } },
    { name := "memo", kind := .optText, get := memo,
      set := fun v r => { r with memo := v }, quiet := true },
    { name := "destination_address_prefix", kind := .optText, get := destAddress,
      set := fun v r => { r with destAddress := v }, quiet := true },
    { name := "destination_address_prefixes", kind := .texts, get := destAddresses,
      set := fun v r => { r with destAddresses := v }, quiet := true },
    { name := "cloud_destination_security_group_ids", kind := .texts, get := destGroupIds,
      set := fun v r => { r with destGroupIds := v }, quiet := true },
    { name := "destination_port_range", kind := .optText, get := destPort,
      set := fun v r => { r with destPort := v }, quiet := true },
    { name := "destination_port_ranges", kind := .texts, get := destPorts,
      set := fun v r => { r with destPorts := v }, quiet := true },
    { name := "protocol", kind := .text, get := protocol,
      set := fun v r => { r with protocol := v } },
    { name := "source_address_prefix", kind := .optText, get := sourceAddress,
      set := fun v r => { r with sourceAddress := v }, quiet := true },
    { name := "source_address_prefixes", kind := .texts, get := sourceAddresses,
      set := fun v r => { r with sourceAddresses := v }, quiet := true },
    { name := "cloud_source_security_group_ids", kind := .texts, get := sourceGroupIds,
      set := fun v r => { r with sourceGroupIds := v }, quiet := true },
    { name := "source_port_range", kind := .optText, get := sourcePort,
      set := fun v r => { r with sourcePort := v }, quiet := true },
    { name := "source_port_ranges", kind := .texts, get := sourcePorts,
      set := fun v r => { r with sourcePorts := v }, quiet := true },
    { name := "priority", kind := .number, get := priority,
      set := fun v r => { r with priority := v } },
    { name := "type", kind := .optDirection, get := direction,
      set := fun v r => { r with direction := v }, quiet := true },
    { name := "access", kind := .text, get := access,
      set := fun v r => { r with access := v } }]

/-- The fields of an update. -/
def Update.attributes : List (Attribute Update) :=
  [{ name := "name", kind := .optText, get := name,
      set := fun v u => { u with name := v }, quiet := true },
    { name := "memo", kind := .optText, get := memo,
      set := fun v u => { u with memo := v }, quiet := true },
    { name := "destination_address_prefix", kind := .optText, get := destAddress,
      set := fun v u => { u with destAddress := v }, quiet := true },
    { name := "destination_address_prefixes", kind := .optTexts, get := destAddresses,
      set := fun v u => { u with destAddresses := v }, quiet := true },
    { name := "cloud_destination_security_group_ids", kind := .optTexts, get := destGroupIds,
      set := fun v u => { u with destGroupIds := v }, quiet := true },
    { name := "destination_port_range", kind := .optText, get := destPort,
      set := fun v u => { u with destPort := v }, quiet := true },
    { name := "destination_port_ranges", kind := .optTexts, get := destPorts,
      set := fun v u => { u with destPorts := v }, quiet := true },
    { name := "protocol", kind := .optText, get := protocol,
      set := fun v u => { u with protocol := v }, quiet := true },
    { name := "source_address_prefix", kind := .optText, get := sourceAddress,
      set := fun v u => { u with sourceAddress := v }, quiet := true },
    { name := "source_address_prefixes", kind := .optTexts, get := sourceAddresses,
      set := fun v u => { u with sourceAddresses := v }, quiet := true },
    { name := "cloud_source_security_group_ids", kind := .optTexts, get := sourceGroupIds,
      set := fun v u => { u with sourceGroupIds := v }, quiet := true },
    { name := "source_port_range", kind := .optText, get := sourcePort,
      set := fun v u => { u with sourcePort := v }, quiet := true },
    { name := "source_port_ranges", kind := .optTexts, get := sourcePorts,
      set := fun v u => { u with sourcePorts := v }, quiet := true },
    { name := "priority", kind := .optNumber, get := priority,
      set := fun v u => { u with priority := v }, quiet := true },
    { name := "access", kind := .optText, get := access,
      set := fun v u => { u with access := v }, quiet := true }]

instance : Shape Rule where
  vendor := .azure
  table := .azureRules
  attributes := Rule.attributes
  blank := {}
  check := Rule.check
  declared := Rule.direction

instance : Change Update Rule where
  attributes := Update.attributes
  blank := {}
  closed := true
  check := Update.check
  apply := Update.apply

end SecurityGroups.Azure
