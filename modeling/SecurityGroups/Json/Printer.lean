/-
SecurityGroups/Json/Printer.lean

Writing JSON text, on one line and without blanks.

Control characters, quotes and backslashes are escaped; every other
character stands for itself.  Doubles are written with the fewest digits
that read back, so a double never looks like an integer.
-/
import SecurityGroups.Decimal.Shortest
import SecurityGroups.Json.Basic

namespace SecurityGroups.Json

/-- A hexadecimal digit. -/
def hexChar (n : Nat) : Char := if n < 10 then Char.ofNat (48 + n) else Char.ofNat (87 + n)

/-- A character inside a string. -/
def escapeChar (c : Char) : List Char :=
  if c = '"' then ['\\', '"']
  else if c = '\\' then ['\\', '\\']
  else if c = '\n' then ['\\', 'n']
  else if c = '\r' then ['\\', 'r']
  else if c = '\t' then ['\\', 't']
  else if c < ' ' then ['\\', 'u', '0', '0', hexChar (c.toNat / 16), hexChar (c.toNat % 16)]
  else [c]

/-- A string in quotes. -/
def quoteText (s : String) : String :=
  String.ofList ('"' :: s.toList.flatMap escapeChar ++ ['"'])

/-- Texts with a comma between them. -/
def commaJoined (parts : List String) : String := String.intercalate "," parts

mutual
/-- The text of a value. -/
def print : Json → String
  | .null => "null"
  | .bool b => if b then "true" else "false"
  | .int n => toString n
  | .double bits => Decimal.textOfBits bits
  | .str s => quoteText s
  | .arr items => "[" ++ commaJoined (printItems items) ++ "]"
  | .obj members => "\x7b" ++ commaJoined (printMembers members) ++ "\x7d"

/-- The texts of the items of an array. -/
def printItems : List Json → List String
  | [] => []
  | v :: rest => print v :: printItems rest

/-- The texts of the members of an object. -/
def printMembers : List (String × Json) → List String
  | [] => []
  | (k, v) :: rest => (quoteText k ++ ":" ++ print v) :: printMembers rest
end

end SecurityGroups.Json
