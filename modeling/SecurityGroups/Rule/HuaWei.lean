/-
SecurityGroups/Rule/HuaWei.lean

The rules of HuaWei Cloud.

A rule allows or denies traffic of a protocol to some ports, from addresses
or from another security group.  A priority of zero leaves the priority to
the cloud; an update has to name a priority that is not zero.
-/
import SecurityGroups.Naming
import SecurityGroups.Rule.Shape

namespace SecurityGroups.HuaWei

/-- A rule. -/
structure Rule where
  memo : Option String := none
  protocol : Option String := none
  ethertype : Option String := none
  remoteGroupId : Option String := none
  remoteIp : Option String := none
  port : Option String := none
  action : Option String := none
  priority : Int64 := 0
  deriving Repr, DecidableEq

/-- A partial update of a rule. -/
structure Update where
  memo : Option String := none
  protocol : Option String := none
  ethertype : Option String := none
  remoteGroupId : Option String := none
  remoteIp : Option String := none
  port : Option String := none
  action : Option String := none
  priority : Option Int64 := none
  deriving Repr, DecidableEq

/-! ### Constraints -/

/-- The families of addresses. -/
def ethertypes : List String := ["IPv4", "IPv6"]

/-- The protocols that have a name. -/
def protocols : List String := ["tcp", "udp", "icmp", "icmpv6"]

/-- What a rule can do with traffic. -/
def actions : List String := ["allow", "deny"]

/-- The most characters of the id of another group. -/
def remoteIdMaxLength : Nat := 255

/-- The memo is short enough. -/
def checkMemo (s : String) : Verdict := Check.maxLength "memo" s Naming.memoMaxLength

/-- The protocol has a name or a number. -/
def checkProtocol (s : String) : Verdict := Check.protocol "protocol" s protocols

/-- The family is known. -/
def checkEthertype (s : String) : Verdict := Check.oneOf "ethertype" s ethertypes

/-- The id of another group is short enough. -/
def checkRemote (s : String) : Verdict :=
  Check.maxLength "cloud_remote_group_id" s remoteIdMaxLength

/-- The ports are a list of ranges. -/
def checkPort (s : String) : Verdict := Check.portSpec "port" s false

/-- The action is known. -/
def checkAction (s : String) : Verdict := Check.oneOfIgnoringCase "action" s actions

/-- The priority is a number from 1 to 100. -/
def checkPriority (n : Int64) : Verdict := Check.range "priority" n 1 100

/-- What is wrong with a rule. -/
def Rule.check (r : Rule) : Verdict := .first
  [Check.optional r.memo checkMemo,
    Check.optional r.protocol checkProtocol,
    Check.optional r.ethertype checkEthertype,
    Check.optional r.remoteGroupId checkRemote,
    Check.optional r.remoteIp (Check.ipCidr "remote_ip_prefix"),
    Check.optional r.port checkPort,
    Check.optional r.action checkAction,
    if r.priority = 0 then .fine else checkPriority r.priority]

/-- What is wrong with an update. -/
def Update.check (u : Update) : Verdict := .first
  [Check.optional u.memo checkMemo,
    Check.optional u.protocol checkProtocol,
    Check.optional u.ethertype checkEthertype,
    Check.optional u.remoteGroupId checkRemote,
    Check.optional u.remoteIp (Check.ipCidr "remote_ip_prefix"),
    Check.optional u.port checkPort,
    Check.optional u.action checkAction,
    Check.optional u.priority checkPriority]

/-- A rule with the fields that the update has. -/
def Update.apply (u : Update) (r : Rule) : Rule where
  memo := u.memo.or r.memo
  protocol := u.protocol.or r.protocol
  ethertype := u.ethertype.or r.ethertype
  remoteGroupId := u.remoteGroupId.or r.remoteGroupId
  remoteIp := u.remoteIp.or r.remoteIp
  port := u.port.or r.port
  action := u.action.or r.action
  priority := u.priority.getD r.priority

/-! ### Fields -/

/-- The fields of a rule. -/
def Rule.attributes : List (Attribute Rule) :=
  [{ name := "memo", kind := .optText, get := memo,
      set := fun v r => { r with memo := v }, quiet := true },
    { name := "protocol", kind := .optText, get := protocol,
      set := fun v r => { r with protocol := v }, quiet := true },
    { name := "ethertype", kind := .optText, get := ethertype,
      set := fun v r => { r with ethertype := v }, quiet := true },
    { name := "cloud_remote_group_id", kind := .optText, get := remoteGroupId,
      set := fun v r => { r with remoteGroupId := v }, quiet := true },
    { name := "remote_ip_prefix", kind := .optText, get := remoteIp,
      set := fun v r => { r with remoteIp := v }, quiet := true },
    { name := "port", kind := .optText, get := port,
      set := fun v r => { r with port := v }, quiet := true },
    { name := "action", kind := .optText, get := action,
      set := fun v r => { r with action := v }, quiet := true },
    { name := "priority", kind := .number, get := priority,
      set := fun v r => { r with priority := v } }]

/-- The fields of an update. -/
def Update.attributes : List (Attribute Update) :=
  [{ name := "memo", kind := .optText, get := memo,
      set := fun v u => { u with memo := v }, quiet := true },
    { name := "protocol", kind := .optText, get := protocol,
      set := fun v u => { u with protocol := v }, quiet := true },
    { name := "ethertype", kind := .optText, get := ethertype,
      set := fun v u => { u with ethertype := v }, quiet := true },
    { name := "cloud_remote_group_id", kind := .optText, get := remoteGroupId,
      set := fun v u => { u with remoteGroupId := v }, quiet := true },
    { name := "remote_ip_prefix", kind := .optText, get := remoteIp,
      set := fun v u => { u with remoteIp := v }, quiet := true },
    { name := "port", kind := .optText, get := port,
      set := fun v u => { u with port := v }, quiet := true },
    { name := "action", kind := .optText, get := action,
      set := fun v u => { u with action := v }, quiet := true },
    { name := "priority", kind := .optNumber, get := priority,
      set := fun v u => { u with priority := v }, quiet := true }]

instance : Shape Rule where
  vendor := .huawei
  table := .huaweiRules
  attributes := Rule.attributes
  blank := {}
  check := Rule.check

instance : Change Update Rule where
  attributes := Update.attributes
  blank := {}
  check := Update.check
  apply := Update.apply

end SecurityGroups.HuaWei
