/-
SecurityGroups/TableName.lean

The tables of the inventory.
-/
import SecurityGroups.Vendor

namespace SecurityGroups

/-- A table. -/
inductive TableName where
  | regions
  | groups
  | tcloudRules
  | awsRules
  | huaweiRules
  | azureRules
  deriving Repr, DecidableEq

namespace TableName

/-- Every table. -/
def all : List TableName := [regions, groups, tcloudRules, awsRules, huaweiRules, azureRules]

/-- The name of a table. -/
def name : TableName → String
  | regions => "gcp_region"
  | groups => "security_group"
  | tcloudRules => "tcloud_security_group_rule"
  | awsRules => "aws_security_group_rule"
  | huaweiRules => "huawei_security_group_rule"
  | azureRules => "azure_security_group_rule"

/-- The name of a table in JSON, where two clouds are written in two words. -/
def jsonName : TableName → String
  | tcloudRules => "t_cloud_security_group_rule"
  | huaweiRules => "hua_wei_security_group_rule"
  | t => t.name

/-- The table of a name. -/
def find? (s : String) : Option TableName := all.find? (·.name == s)

/-- The table of a name in JSON. -/
def findJson? (s : String) : Option TableName := all.find? (·.jsonName == s)

@[simp] theorem find?_name (t : TableName) : find? t.name = some t := by cases t <;> decide

@[simp] theorem findJson?_jsonName (t : TableName) : findJson? t.jsonName = some t := by
  cases t <;> decide

end TableName

end SecurityGroups
