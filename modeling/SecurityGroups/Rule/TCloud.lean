/-
SecurityGroups/Rule/TCloud.lean

The rules of TCloud.

A rule accepts or drops traffic of a protocol to some ports, from addresses
of either family or from another security group.
-/
import SecurityGroups.Naming
import SecurityGroups.Rule.Shape

namespace SecurityGroups.TCloud

/-- A rule. -/
structure Rule where
  protocol : Option String := none
  port : Option String := none
  ipv4Cidr : Option String := none
  ipv6Cidr : Option String := none
  targetGroupId : Option String := none
  action : String := ""
  memo : Option String := none
  deriving Repr, DecidableEq

/-- A partial update of a rule. -/
structure Update where
  protocol : Option String := none
  port : Option String := none
  ipv4Cidr : Option String := none
  ipv6Cidr : Option String := none
  targetGroupId : Option String := none
  action : Option String := none
  memo : Option String := none
  deriving Repr, DecidableEq

/-! ### Constraints -/

/-- The protocols that have a name. -/
def protocols : List String := ["tcp", "udp", "icmp", "icmpv6", "gre", "all"]

/-- What a rule can do with traffic. -/
def actions : List String := ["ACCEPT", "DROP"]

/-- The most characters of the id of another group. -/
def targetIdMaxLength : Nat := 255

/-- The protocol has a name or a number. -/
def checkProtocol (s : String) : Verdict := Check.protocol "protocol" s protocols

/-- The ports are a list of ranges, or all. -/
def checkPort (s : String) : Verdict := Check.portSpec "port" s true

/-- The id of another group is short enough. -/
def checkTarget (s : String) : Verdict :=
  Check.maxLength "cloud_target_security_group_id" s targetIdMaxLength

/-- The action is known. -/
def checkAction (s : String) : Verdict := Check.oneOfIgnoringCase "action" s actions

/-- The memo is short enough. -/
def checkMemo (s : String) : Verdict := Check.maxLength "memo" s Naming.memoMaxLength

/-- What is wrong with a rule. -/
def Rule.check (r : Rule) : Verdict := .first
  [Check.optional r.protocol checkProtocol,
    Check.optional r.port checkPort,
    Check.optional r.ipv4Cidr (Check.ipv4Cidr "ipv4_cidr"),
    Check.optional r.ipv6Cidr (Check.ipv6Cidr "ipv6_cidr"),
    Check.optional r.targetGroupId checkTarget,
    Check.optional r.memo checkMemo,
    Check.required "action" r.action,
    checkAction r.action]

/-- What is wrong with an update. -/
def Update.check (u : Update) : Verdict := .first
  [Check.optional u.protocol checkProtocol,
    Check.optional u.port checkPort,
    Check.optional u.ipv4Cidr (Check.ipv4Cidr "ipv4_cidr"),
    Check.optional u.ipv6Cidr (Check.ipv6Cidr "ipv6_cidr"),
    Check.optional u.targetGroupId checkTarget,
    Check.optional u.action checkAction,
    Check.optional u.memo checkMemo]

/-- A rule with the fields that the update has. -/
def Update.apply (u : Update) (r : Rule) : Rule where
  protocol := u.protocol.or r.protocol
  port := u.port.or r.port
  ipv4Cidr := u.ipv4Cidr.or r.ipv4Cidr
  ipv6Cidr := u.ipv6Cidr.or r.ipv6Cidr
  targetGroupId := u.targetGroupId.or r.targetGroupId
  action := u.action.getD r.action
  memo := u.memo.or r.memo

/-! ### Fields -/

/-- The fields of a rule. -/
def Rule.attributes : List (Attribute Rule) :=
  [{ name := "protocol", kind := .optText, get := protocol,
      set := fun v r => { r with protocol := v }, quiet := true },
    { name := "port", kind := .optText, get := port,
      set := fun v r => { r with port := v }, quiet := true },
    { name := "ipv4_cidr", kind := .optText, get := ipv4Cidr,
      set := fun v r => { r with ipv4Cidr := v }, quiet := true },
    { name := "ipv6_cidr", kind := .optText, get := ipv6Cidr,
      set := fun v r => { r with ipv6Cidr := v }, quiet := true },
    { name := "cloud_target_security_group_id", kind := .optText, get := targetGroupId,
      set := fun v r => { r with targetGroupId := v }, quiet := true },
    { name := "action", kind := .text, get := action,
      set := fun v r => { r with action := v } },
    { name := "memo", kind := .optText, get := memo,
      set := fun v r => { r with memo := v }, quiet := true }]

/-- The fields of an update. -/
def Update.attributes : List (Attribute Update) :=
  [{ name := "protocol", kind := .optText, get := protocol,
      set := fun v u => { u with protocol := v }, quiet := true },
    { name := "port", kind := .optText, get := port,
      set := fun v u => { u with port := v }, quiet := true },
    { name := "ipv4_cidr", kind := .optText, get := ipv4Cidr,
      set := fun v u => { u with ipv4Cidr := v }, quiet := true },
    { name := "ipv6_cidr", kind := .optText, get := ipv6Cidr,
      set := fun v u => { u with ipv6Cidr := v }, quiet := true },
    { name := "cloud_target_security_group_id", kind := .optText, get := targetGroupId,
      set := fun v u => { u with targetGroupId := v }, quiet := true },
    { name := "action", kind := .optText, get := action,
      set := fun v u => { u with action := v }, quiet := true },
    { name := "memo", kind := .optText, get := memo,
      set := fun v u => { u with memo := v }, quiet := true }]

instance : Shape Rule where
  vendor := .tcloud
  table := .tcloudRules
  attributes := Rule.attributes
  blank := {}
  check := Rule.check

instance : Change Update Rule where
  attributes := Update.attributes
  blank := {}
  check := Update.check
  apply := Update.apply

end SecurityGroups.TCloud
