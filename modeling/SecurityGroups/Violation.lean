/-
SecurityGroups/Violation.lean

What is wrong with a request or a record.

A `Verdict` is fine or the first violation that was found.  `Verdict.first`
puts verdicts in a row: it is fine exactly when all of them are
(`Verdict.first_eq_ok`), and otherwise it is the first that is not
(`Verdict.first_append_error`).
-/
namespace SecurityGroups

/-- What is wrong with a value. -/
inductive Violation where
  | required (field : String)
  | tooLong (field : String) (max actual : Nat)
  | outOfRange (field : String) (min max value : Int64)
  | notOneOf (field allowed value : String)
  | invalidFormat (field reason : String)
  | mustBeEmpty (field : String)
  /-- A rule about several fields, or about what is stored already. -/
  | business (message : String)
  /-- A rule about what may be stored. -/
  | invariant (message : String)
  deriving Repr, DecidableEq

namespace Violation

/-- The three kinds of violations. -/
inductive Kind where
  | structural | businessRule | entityInvariant
  deriving Repr, DecidableEq

/-- The name of a kind. -/
def Kind.name : Kind → String
  | structural => "structural"
  | businessRule => "business_rule"
  | entityInvariant => "entity_invariant"

/-- Every kind. -/
def Kind.all : List Kind := [.structural, .businessRule, .entityInvariant]

/-- The kind of a name. -/
def Kind.find? (s : String) : Option Kind := all.find? (·.name == s)

/-- The kind of a violation. -/
def kind : Violation → Kind
  | business _ => .businessRule
  | invariant _ => .entityInvariant
  | _ => .structural

/-- The wording of a violation. -/
def message : Violation → String
  | required field => field ++ " is required"
  | tooLong field max actual =>
    field ++ " length should <= " ++ toString max ++ ", but got " ++ toString actual
  | outOfRange field min max value =>
    field ++ " should be in [" ++ toString min.toInt ++ ", " ++ toString max.toInt ++ "], but got "
      ++ toString value.toInt
  | notOneOf field allowed value =>
    field ++ " should be one of [" ++ allowed ++ "], but got " ++ value
  | invalidFormat field reason => field ++ " is invalid: " ++ reason
  | mustBeEmpty field => field ++ " should be empty"
  | business message => message
  | invariant message => message

end Violation

/-- Fine, or the first violation. -/
abbrev Verdict := Except Violation Unit

namespace Verdict

/-- Fine. -/
abbrev fine : Verdict := .ok ()

/-- Fine when the condition holds. -/
def provided (ok : Bool) (v : Violation) : Verdict := if ok then fine else .error v

/-- The first of some verdicts that is not fine. -/
def first : List Verdict → Verdict
  | [] => fine
  | .ok () :: rest => first rest
  | .error v :: _ => .error v

/-! ### Laws -/

theorem provided_eq_ok {ok : Bool} {v : Violation} : provided ok v = .ok () ↔ ok = true := by
  cases ok <;> simp [provided]

@[simp] theorem first_nil : first [] = .ok () := rfl

@[simp] theorem first_cons_error (v : Violation) (rest : List Verdict) :
    first (.error v :: rest) = .error v := rfl

theorem first_cons_eq_ok {v : Verdict} {rest : List Verdict} :
    first (v :: rest) = .ok () ↔ v = .ok () ∧ first rest = .ok () := by
  cases v <;> simp [first]

/-- A row of verdicts is fine exactly when each of them is. -/
theorem first_eq_ok {vs : List Verdict} : first vs = .ok () ↔ ∀ v ∈ vs, v = .ok () := by
  induction vs with
  | nil => simp
  | cons v vs ih => simp [first_cons_eq_ok, ih]

/-- What comes after the first violation is not looked at. -/
theorem first_append_error {vs : List Verdict} (h : first vs = .ok ()) (v : Violation)
    (rest : List Verdict) : first (vs ++ .error v :: rest) = .error v := by
  induction vs with
  | nil => rfl
  | cons w vs ih =>
    obtain ⟨rfl, h⟩ := first_cons_eq_ok.1 h
    exact ih h

end Verdict

end SecurityGroups
