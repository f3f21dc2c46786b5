/-
SecurityGroups/Naming.lean

Names, memos and users.

The name of a security group starts with a letter or a digit of any script
and goes on with letters, digits, dashes, underscores and dots.
-/
import SecurityGroups.Check
import SecurityGroups.Text.Alphanumeric
import SecurityGroups.Text.Quoted

namespace SecurityGroups.Naming

/-- The most characters of the name of a security group. -/
def nameMaxLength : Nat := 60

/-- The most characters of a memo. -/
def memoMaxLength : Nat := 255

/-- The most characters of the name of a user. -/
def userMaxLength : Nat := 64

/-- Whether a character may stand in the name of a security group. -/
def isNameChar (c : Char) : Bool := Text.isAlphanumeric c || c = '-' || c = '_' || c = '.'

/-- The name of a security group is well formed. -/
def groupName (name : String) : Verdict :=
  match name.toList with
  | [] => .error (.required "name")
  | first :: _ => .first
    [Check.maxLength "name" name nameMaxLength,
      .provided (Text.isAlphanumeric first)
        (.invalidFormat "name" "should start with a letter or digit"),
      match name.toList.find? (!isNameChar ·) with
      | some c => .error (.invalidFormat "name" ("invalid character " ++ Text.quotedChar c))
      | none => .fine]

/-- The memo of a security group is short enough; an empty one is fine. -/
def groupMemo (memo : String) : Verdict := Check.maxLength "memo" memo memoMaxLength

end SecurityGroups.Naming
