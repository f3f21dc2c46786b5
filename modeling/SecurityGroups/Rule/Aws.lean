/-
SecurityGroups/Rule/Aws.lean

The rules of AWS.

A rule lets in traffic of a protocol to the ports between two numbers; -1
stands for every port, and the text `-1` for every protocol.
-/
import SecurityGroups.Naming
import SecurityGroups.Rule.Shape

namespace SecurityGroups.Aws

/-- A rule. -/
structure Rule where
  ipv4Cidr : Option String := none
  ipv6Cidr : Option String := none
  memo : Option String := none
  fromPort : Int64 := 0
  toPort : Int64 := 0
  protocol : Option String := none
  targetGroupId : Option String := none
  deriving Repr, DecidableEq

/-- A partial update of a rule. -/
structure Update where
  ipv4Cidr : Option String := none
  ipv6Cidr : Option String := none
  memo : Option String := none
  fromPort : Option Int64 := none
  toPort : Option Int64 := none
  protocol : Option String := none
  targetGroupId : Option String := none
  deriving Repr, DecidableEq

/-! ### Constraints -/

/-- The number that stands for every port. -/
def everyPort : Int64 := -1

/-- The text that stands for every protocol. -/
def everyProtocol : String := "-1"

/-- The protocols that have a name. -/
def protocols : List String := ["tcp", "udp", "icmp", "icmpv6"]

/-- The last port. -/
def maxPort : Int64 := 65535

/-- The most characters of the id of another group. -/
def targetIdMaxLength : Nat := 255

/-- The protocol has a name or a number, or stands for every protocol. -/
def checkProtocol (s : String) : Verdict :=
  if s = everyProtocol then .fine else Check.protocol "protocol" s protocols

/-- The port is a number up to the last port, or stands for every port. -/
def checkPort (field : String) (port : Int64) : Verdict :=
  Check.range field port everyPort maxPort

/-- The id of another group is short enough. -/
def checkTarget (s : String) : Verdict :=
  Check.maxLength "cloud_target_security_group_id" s targetIdMaxLength

/-- The memo is short enough. -/
def checkMemo (s : String) : Verdict := Check.maxLength "memo" s Naming.memoMaxLength

/-- The two ports are in order, unless one of them stands for every port. -/
def Rule.portsInOrder (r : Rule) : Bool :=
  r.fromPort = everyPort || r.toPort = everyPort || r.fromPort ≤ r.toPort

/-- What is wrong with a rule. -/
def Rule.check (r : Rule) : Verdict := .first
  [Check.optional r.ipv4Cidr (Check.ipv4Cidr "ipv4_cidr"),
    Check.optional r.ipv6Cidr (Check.ipv6Cidr "ipv6_cidr"),
    Check.optional r.memo checkMemo,
    checkPort "from_port" r.fromPort,
    checkPort "to_port" r.toPort,
    .provided r.portsInOrder (.invalidFormat "to_port" ("from_port "
      ++ Text.decimalInt r.fromPort.toInt ++ " is greater than to_port "
      ++ Text.decimalInt r.toPort.toInt)),
    Check.optional r.protocol checkProtocol,
    Check.optional r.targetGroupId checkTarget]

/-- What is wrong with an update. -/
def Update.check (u : Update) : Verdict := .first
  [Check.optional u.ipv4Cidr (Check.ipv4Cidr "ipv4_cidr"),
    Check.optional u.ipv6Cidr (Check.ipv6Cidr "ipv6_cidr"),
    Check.optional u.memo checkMemo,
    Check.optional u.fromPort (checkPort "from_port"),
    Check.optional u.toPort (checkPort "to_port"),
    Check.optional u.protocol checkProtocol,
    Check.optional u.targetGroupId checkTarget]

/-- A rule with the fields that the update has. -/
def Update.apply (u : Update) (r : Rule) : Rule where
  ipv4Cidr := u.ipv4Cidr.or r.ipv4Cidr
  ipv6Cidr := u.ipv6Cidr.or r.ipv6Cidr
  memo := u.memo.or r.memo
  fromPort := u.fromPort.getD r.fromPort
  toPort := u.toPort.getD r.toPort
  protocol := u.protocol.or r.protocol
  targetGroupId := u.targetGroupId.or r.targetGroupId

/-! ### Fields -/

/-- The fields of a rule. -/
def Rule.attributes : List (Attribute Rule) :=
  [{ name := "ipv4_cidr", kind := .optText, get := ipv4Cidr,
      set := fun v r => { r with ipv4Cidr := v }, quiet := true },
    { name := "ipv6_cidr", kind := .optText, get := ipv6Cidr,
      set := fun v r => { r with ipv6Cidr := v }, quiet := true },
    { name := "memo", kind := .optText, get := memo,
      set := fun v r => { r with memo := v }, quiet := true },
    { name := "from_port", kind := .number, get := fromPort,
      set := fun v r => { r with fromPort := v } },
    { name := "to_port", kind := .number, get := toPort,
      set := fun v r => { r with toPort := v } },
    { name := "protocol", kind := .optText, get := protocol,
      set := fun v r => { r with protocol := v }, quiet := true },
    { name := "cloud_target_security_group_id", kind := .optText, get := targetGroupId,
      set := fun v r => { r with targetGroupId := v }, quiet := true }]

/-- The fields of an update. -/
def Update.attributes : List (Attribute Update) :=
  [{ name := "ipv4_cidr", kind := .optText, get := ipv4Cidr,
      set := fun v u => { u with ipv4Cidr := v }, quiet := true },
    { name := "ipv6_cidr", kind := .optText, get := ipv6Cidr,
      set := fun v u => { u with ipv6Cidr := v }, quiet := true },
    { name := "memo", kind := .optText, get := memo,
      set := fun v u => { u with memo := v }, quiet := true },
    { name := "from_port", kind := .optNumber, get := fromPort,
      set := fun v u => { u with fromPort := v }, quiet := true },
    { name := "to_port", kind := .optNumber, get := toPort,
      set := fun v u => { u with toPort := v }, quiet := true },
    { name := "protocol", kind := .optText, get := protocol,
      set := fun v u => { u with protocol := v }, quiet := true },
    { name := "cloud_target_security_group_id", kind := .optText, get := targetGroupId,
      set := fun v u => { u with targetGroupId := v }, quiet := true }]

instance : Shape Rule where
  vendor := .aws
  table := .awsRules
  attributes := Rule.attributes
  blank := {}
  check := Rule.check

instance : Change Update Rule where
  attributes := Update.attributes
  blank := {}
  check := Update.check
  apply := Update.apply

end SecurityGroups.Aws
