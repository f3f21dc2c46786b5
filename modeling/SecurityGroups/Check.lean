/-
SecurityGroups/Check.lean

Checks of one field.

Each check looks at one value and names the field in its violation.
Lengths count characters, not bytes.
-/
import SecurityGroups.Network.Cidr
import SecurityGroups.Network.Port
import SecurityGroups.Violation

namespace SecurityGroups.Check

/-! ### Presence -/

/-- The text is not empty. -/
def required (field value : String) : Verdict :=
  .provided (value ≠ "") (.required field)

/-- The value is present. -/
def requiredSome {α : Type} (field : String) (value : Option α) : Verdict :=
  .provided value.isSome (.required field)

/-- The list is not empty. -/
def requiredItems {α : Type} (field : String) (values : List α) : Verdict :=
  .provided (!values.isEmpty) (.required field)

/-- The text is empty. -/
def mustBeEmpty (field value : String) : Verdict :=
  .provided (value = "") (.mustBeEmpty field)

/-- The value is absent. -/
def absent {α : Type} (field : String) (value : Option α) : Verdict :=
  .provided value.isNone (.mustBeEmpty field)

/-! ### Size -/

/-- The text has at most `max` characters. -/
def maxLength (field value : String) (max : Nat) : Verdict :=
  .provided (value.length ≤ max) (.tooLong field max value.length)

/-- The list has at most `max` items. -/
def maxItems {α : Type} (field : String) (values : List α) (max : Nat) : Verdict :=
  .provided (values.length ≤ max) (.tooLong field max values.length)

/-- The number lies between two bounds, both included. -/
def range (field : String) (value min max : Int64) : Verdict :=
  .provided (min ≤ value && value ≤ max) (.outOfRange field min max value)

/-! ### Choice -/

/-- Options with a comma and a space between them. -/
def options (allowed : List String) : String := String.intercalate ", " allowed

/-- The text is one of the options. -/
def oneOf (field value : String) (allowed : List String) : Verdict :=
  .provided (allowed.contains value) (.notOneOf field (options allowed) value)

/-- The text is one of the options, up to the case of the letters A to Z. -/
def oneOfIgnoringCase (field value : String) (allowed : List String) : Verdict :=
  .provided (allowed.any fun option => Text.sameIgnoringCase option value)
    (.notOneOf field (options allowed) value)

/-- The number is one of the options. -/
def oneOfNumbers (field : String) (value : Int64) (allowed : List Int64) : Verdict :=
  .provided (allowed.contains value)
    (.notOneOf field (options (allowed.map fun n => Text.decimalInt n.toInt))
      (Text.decimalInt value.toInt))

/-! ### Notation -/

/-- A text that could be read, or why it could not. -/
def readable {α : Type} (field : String) : Except NetworkError α → Verdict
  | .ok _ => .fine
  | .error e => .error (.invalidFormat field e.message)

/-- The text is an IPv4 address, with or without a length. -/
def ipv4Cidr (field value : String) : Verdict := readable field (Cidr.readIn .ipv4 value)

/-- The text is an IPv6 address, with or without a length. -/
def ipv6Cidr (field value : String) : Verdict := readable field (Cidr.readIn .ipv6 value)

/-- The text is an address of either family, with or without a length. -/
def ipCidr (field value : String) : Verdict := readable field (Cidr.read value)

/-- The text is a list of ranges of ports, or the keyword for all ports when `allowAll`. -/
def portSpec (field value : String) (allowAll : Bool) : Verdict :=
  match PortSpec.read value with
  | .error e => .error (.invalidFormat field e.message)
  | .ok spec =>
    .provided (allowAll || spec ≠ .all) (.invalidFormat field (PortSpec.keyword ++ " is not accepted here"))

/-- The text is a star, a port or one range of ports. -/
def wildcardPortRange (field value : String) : Verdict :=
  if value = "*" then .fine else readable field (PortRange.read value)

/-- The text is the number of a protocol, or one of the names in any case. -/
def protocol (field value : String) (names : List String) : Verdict :=
  match Text.int64? value.toList with
  | some n => range field n 0 255
  | none => oneOfIgnoringCase field value names

/-! ### Lifting -/

/-- Checks the value if there is one. -/
def optional {α : Type} (value : Option α) (check : α → Verdict) : Verdict :=
  match value with
  | some x => check x
  | none => .fine

/-- Checks every item. -/
def each {α : Type} (values : List α) (check : α → Verdict) : Verdict :=
  .first (values.map check)

theorem optional_eq_ok {α : Type} {value : Option α} {check : α → Verdict} :
    optional value check = .ok () ↔ ∀ x ∈ value, check x = .ok () := by
  cases value <;> simp [optional]

theorem each_eq_ok {α : Type} {values : List α} {check : α → Verdict} :
    each values check = .ok () ↔ ∀ x ∈ values, check x = .ok () := by
  simp [each, Verdict.first_eq_ok]

end SecurityGroups.Check
