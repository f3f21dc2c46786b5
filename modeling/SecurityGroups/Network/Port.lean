/-
SecurityGroups/Network/Port.lean

Ports, ranges of ports and lists of ranges.

A port is a number from 1 to 65535; blanks around it and a plus sign before
it are skipped.  A range is one port, or two with a dash between them, the
smaller one first.  A list of ranges has commas between them; the keyword
`ALL` stands for every port.
-/
import SecurityGroups.Network.Error
import SecurityGroups.Text.AsciiCase
import SecurityGroups.Text.Blank
import SecurityGroups.Text.Numeral
import SecurityGroups.Text.Split

namespace SecurityGroups

/-- The ports from `first` to `last`, both included. -/
structure PortRange where
  first : UInt16
  last : UInt16
  deriving Repr, DecidableEq

namespace PortRange

/-- A range of ports that starts above zero and is not empty. -/
def Proper (r : PortRange) : Prop := 0 < r.first ∧ r.first ≤ r.last

instance (r : PortRange) : Decidable r.Proper := inferInstanceAs (Decidable (_ ∧ _))

/-- The decimal text of a port. -/
def portText (n : UInt16) : String := String.ofList (Text.decimal n.toNat)

/-- The range between two ports. -/
def between (first last : UInt16) : Except NetworkError PortRange :=
  if first = 0 ∨ last = 0 then .error (.invalidPort "0")
  else if last < first then .error (.invalidPortRange (portText first ++ "-" ++ portText last))
  else .ok ⟨first, last⟩

/-- The range of one port. -/
def single (port : UInt16) : Except NetworkError PortRange := between port port

/-- Reads one number of a range. -/
def readPort (cs : List Char) : Except NetworkError UInt16 :=
  match Text.unsigned? 65535 (Text.trim cs) with
  | some n => .ok (UInt16.ofNat n)
  | none => .error (.invalidPort (String.ofList cs))

/-- Reads a range. -/
def readChars (cs : List Char) : Except NetworkError PortRange :=
  match Text.splitFirst? '-' cs with
  | some (before, after) =>
    match readPort before, readPort after with
    | .error e, _ => .error e
    | _, .error e => .error e
    | .ok first, .ok last =>
      match between first last with
      | .error _ => .error (.invalidPortRange (String.ofList cs))
      | .ok r => .ok r
  | none =>
    match readPort cs with
    | .error e => .error e
    | .ok port => single port

/-- Reads a range. -/
def read (s : String) : Except NetworkError PortRange := readChars s.toList

/-- The text of a range; a single port is written once. -/
def chars (r : PortRange) : List Char :=
  if r.first = r.last then Text.decimal r.first.toNat
  else Text.decimal r.first.toNat ++ '-' :: Text.decimal r.last.toNat

/-- The text of a range. -/
def text (r : PortRange) : String := String.ofList r.chars

end PortRange

/-- Every port, or the ports of some ranges. -/
inductive PortSpec where
  | all
  | ranges (rs : List PortRange)
  deriving Repr, DecidableEq

namespace PortSpec

/-- The keyword for every port. -/
def keyword : String := "ALL"

/-- Reads the ranges between commas, up to the first one that is wrong. -/
def readPieces : List (List Char) → Except NetworkError (List PortRange)
  | [] => .ok []
  | piece :: rest =>
    match PortRange.readChars piece with
    | .error e => .error e
    | .ok r =>
      match readPieces rest with
      | .error e => .error e
      | .ok rs => .ok (r :: rs)

/-- Reads the keyword, in any case, or a list of ranges. -/
def read (s : String) : Except NetworkError PortSpec :=
  if Text.sameIgnoringCase s keyword then .ok all
  else if Text.trim s.toList = [] then .error (.invalidPort s)
  else
    match readPieces (Text.split ',' s.toList) with
    | .error e => .error e
    | .ok rs => .ok (ranges rs)

/-- The text of a port specification. -/
def text : PortSpec → String
  | all => keyword
  | ranges rs => String.ofList (Text.join ',' (rs.map PortRange.chars))

end PortSpec

end SecurityGroups
