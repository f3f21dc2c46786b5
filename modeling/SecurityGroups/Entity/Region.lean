/-
SecurityGroups/Entity/Region.lean

The regions of GCP.

A region is available or not; zero stands for "unchanged" in an update.
-/
import SecurityGroups.Entity.Basic

namespace SecurityGroups

/-- Whether a region can be used. -/
inductive Availability where
  | available | unavailable
  deriving Repr, DecidableEq

namespace Availability

/-- The number under which availability is stored. -/
def code : Availability → Int64
  | available => 1
  | unavailable => 2

/-- The availability of a number. -/
def ofCode? (n : Int64) : Option Availability :=
  if n = 1 then some available else if n = 2 then some unavailable else none

/-- The name of availability in JSON. -/
def name : Availability → String
  | available => "Available"
  | unavailable => "Unavailable"

/-- The availability of a name. -/
def find? (s : String) : Option Availability := [available, unavailable].find? (·.name == s)

end Availability

/-- A region of GCP. -/
structure Region where
  id : String := ""
  vendor : Option Vendor := none
  regionId : String := ""
  regionName : String := ""
  isAvailable : Int64 := 0
  audit : Audit := {}
  deriving Repr, DecidableEq

namespace Region

/-- A region that is ready to be inserted. -/
def ofParts (regionId regionName : String) (availability : Availability) (creator : String) :
    Region where
  vendor := some .gcp
  regionId := regionId
  regionName := regionName
  isAvailable := availability.code
  audit := { creator := creator }

/-- The availability of a region. -/
def availability? (r : Region) : Option Availability := Availability.ofCode? r.isAvailable

/-! ### Columns -/

/-- The columns of a region. -/
def attributes : List (Attribute Region) :=
  [{ name := "id", kind := .text, get := id,
      set := fun v r => { r with id := v } },
    { name := "vendor", kind := .optVendor, get := vendor,
      set := fun v r => { r with vendor := v } },
    { name := "region_id", kind := .text, get := regionId,
      set := fun v r => { r with regionId := v } },
    { name := "region_name", kind := .text, get := regionName,
      set := fun v r => { r with regionName := v } },
    { name := "is_available", kind := .number, get := isAvailable,
      set := fun v r => { r with isAvailable := v } }]
  ++ Audit.attributes.map (·.lift audit fun v r => { r with audit := v })

/-- The columns that an update may write. -/
def changeable : List (Attribute Region) :=
  attributes.filter fun a => a.name = "region_name" ∨ a.name = "is_available"

/-! ### Checks -/

/-- The most characters of the id of a region. -/
def idMaxLength : Nat := 32

/-- The most characters of the name of a region. -/
def nameMaxLength : Nat := 64

/-- A region belongs to GCP. -/
def checkVendor (r : Region) : Verdict :=
  match r.vendor with
  | none => .error (.invariant "vendor can not be empty")
  | some v => .provided (v = .gcp) (.invariant ("vendor should be gcp, but got " ++ v.name))

/-- What is wrong with the fields one by one. -/
def checks (r : Region) : List Verdict :=
  [Check.mustBeEmpty "id" r.id,
    Check.maxLength "region_id" r.regionId idMaxLength,
    Check.maxLength "region_name" r.regionName nameMaxLength,
    if r.isAvailable = 0 then .fine
    else Check.oneOfNumbers "is_available" r.isAvailable [1, 2]]
  ++ r.audit.checks

/-- What is wrong with a new region. -/
def insertCheck (r : Region) : Verdict := .first
  ([r.checkVendor,
    .provided (r.regionId ≠ "") (.invariant "region id can not be empty"),
    r.audit.hasCreator,
    .provided (r.isAvailable ≠ 0) (.required "is_available")] ++ r.checks)

/-- What is wrong with an update. -/
def updateCheck (r : Region) : Verdict := .first (r.checks ++ r.checkVendor :: r.audit.revises)

/-- The cells that an update writes: the reviser, and what is not zero. -/
def updateRow (r : Region) : Row :=
  Attribute.writeAllPresent changeable r (Row.empty.set "reviser" (.string r.audit.reviser))

instance : Entity Region where
  table := .regions
  attributes := attributes
  schema := .ofColumns (Attribute.columns attributes)
  blank := {}
  ofRow := fun row => Attribute.readAll attributes row {}
  insertCheck := insertCheck
  updateCheck := updateCheck
  updateRow := updateRow
  ofJson? := Attribute.record? attributes {}
  toJson := fun r => .obj (Attribute.dumpAll attributes r)

end Region

end SecurityGroups
