/-
SecurityGroups/Settings.lean

The settings of the inventory, taken from named texts such as those of an
environment.
-/
import SecurityGroups.Json.Members
import SecurityGroups.Query.Page
import SecurityGroups.Text.Blank
import SecurityGroups.Text.Numeral
import SecurityGroups.Text.Quoted

namespace SecurityGroups

/-- The settings of the inventory. -/
structure Settings where
  /-- The most rows of a page. -/
  maxPageLimit : UInt32 := defaultPageLimit
  /-- What is logged. -/
  logFilter : String := "info"
  deriving Repr, DecidableEq

/-- Why settings can not be used. -/
inductive SettingsError where
  | limitNotNumeric (text : String)
  | limitZero
  deriving Repr, DecidableEq

namespace Settings

/-- The name of the text that holds the most rows of a page. -/
def limitName : String := "INVENTORY_MAX_PAGE_LIMIT"

/-- The name of the text that says what is logged. -/
def logName : String := "INVENTORY_LOG"

end Settings

/-- The wording of a settings error. -/
def SettingsError.message : SettingsError → String
  | limitNotNumeric text => "Configuration error: " ++ Settings.limitName
      ++ " should be a positive integer, but got " ++ Text.quoted text
  | limitZero => "Configuration error: " ++ Settings.limitName ++ " should be > 0"

namespace Settings

/-- Reads the most rows of a page, with blanks around it. -/
def readLimit (text : String) : Except SettingsError UInt32 :=
  match Text.unsigned? (UInt32.size - 1) (Text.trim text.toList) with
  | none => .error (.limitNotNumeric text)
  | some 0 => .error .limitZero
  | some n => .ok (UInt32.ofNat n)

/-- Whether a text holds nothing but blanks. -/
def isBlankText (text : String) : Bool := (Text.trim text.toList).isEmpty

/-- Takes the settings from named texts; what is missing keeps its default. -/
def ofLookup (lookup : String → Option String) : Except SettingsError Settings := do
  let maxPageLimit ← match lookup limitName with
    | some text => readLimit text
    | none => .ok defaultPageLimit
  let logFilter := ((lookup logName).filter (!isBlankText ·)).getD "info"
  return { maxPageLimit, logFilter }

/-- Reads settings. -/
def ofJson? (json : Json) : Option Settings := do
  let ms ← json.record? ["max_page_limit", "log_filter"]
  let maxPageLimit ← ms.readOr "max_page_limit" defaultPageLimit Json.uint32?
  let logFilter ← ms.readOr "log_filter" "info" Json.text?
  return { maxPageLimit, logFilter }

/-- Writes settings. -/
def toJson (s : Settings) : Json :=
  .obj [("max_page_limit", Json.ofNat s.maxPageLimit.toNat), ("log_filter", .str s.logFilter)]

end Settings

end SecurityGroups
