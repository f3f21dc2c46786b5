/-
SecurityGroups/Service/Script.lean

Scripts: programs that make calls to a store.

A script is either done or makes one call and goes on with its answer.  A
call is carried out at once, so a script can be run to its end, or step by
step with the steps of other scripts in between.  `run_bind` says that a
script in two parts runs the one and then the other.
-/
import SecurityGroups.Store.Basic

namespace SecurityGroups

/-! ### Calls -/

/-- A call to a store. -/
inductive Call where
  | insert (table : TableName) (schema : Schema) (rows : List Row)
  | update (table : TableName) (schema : Schema) (filter : Filter) (values : Row)
  | delete (table : TableName) (schema : Schema) (filter : Filter)
  | list (table : TableName) (schema : Schema) (filter : Filter) (page : Page)

/-- What a call answers when it is not refused. -/
@[reducible] def Call.Answer : Call → Type
  | insert .. => List String
  | update .. => Nat
  | delete .. => Nat
  | list .. => Listing

/-- What a store needs beside its rows. -/
structure Store.Config where
  supply : Supply
  maxLimit : UInt32

/-- A call that answers with a store keeps it; a refused one leaves the store as it was. -/
def Store.keep {α : Type} (s : Store) : Except StoreError (α × Store) → Except StoreError α × Store
  | .ok (a, after) => (.ok a, after)
  | .error e => (.error e, s)

/-- Carries out a call. -/
def Store.perform (config : Store.Config) (s : Store) :
    (c : Call) → Except StoreError c.Answer × Store
  | .insert table schema rows => s.keep (s.insert config.supply table schema rows)
  | .update table schema filter values =>
    s.keep (s.update config.supply table schema filter values)
  | .delete table schema filter => s.keep (s.delete table schema filter)
  | .list table schema filter page => (s.list config.maxLimit table schema filter page, s)

/-! ### Scripts -/

/-- A program that makes calls to a store. -/
inductive Script (α : Type) where
  | done (a : α)
  | call (c : Call) (next : Except StoreError c.Answer → Script α)

namespace Script

variable {α β σ : Type}

/-- One script and then another. -/
def bind : Script α → (α → Script β) → Script β
  | done a, f => f a
  | call c next, f => call c fun answer => (next answer).bind f

instance : Monad Script where
  pure := done
  bind := bind

theorem bind_done (p : Script α) : p.bind done = p := by
  induction p with
  | done a => rfl
  | call c next ih => exact congrArg (call c) (funext ih)

theorem bind_assoc {γ : Type} (p : Script α) (f : α → Script β) (g : β → Script γ) :
    (p.bind f).bind g = p.bind fun a => (f a).bind g := by
  induction p with
  | done a => rfl
  | call c next ih => exact congrArg (call c) (funext ih)

instance : LawfulMonad Script := .mk' Script
  bind_done (fun _ _ => rfl) (fun p f g => bind_assoc p f g)

/-- Runs a script to its end, given how calls are carried out. -/
def run (perform : σ → (c : Call) → Except StoreError c.Answer × σ) : Script α → σ → α × σ
  | done a, s => (a, s)
  | call c next, s => (next (perform s c).1).run perform (perform s c).2

theorem run_bind (perform : σ → (c : Call) → Except StoreError c.Answer × σ) (p : Script α)
    (f : α → Script β) (s : σ) :
    (p.bind f).run perform s = (f (p.run perform s).1).run perform (p.run perform s).2 := by
  induction p generalizing s with
  | done a => rfl
  | call c next ih => exact ih _ _

end Script

end SecurityGroups
