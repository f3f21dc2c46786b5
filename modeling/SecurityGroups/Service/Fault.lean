/-
SecurityGroups/Service/Fault.lean

A store in which faults are prepared.

Two things can go wrong while an action runs: another user writes between
two of its calls, or the store keeps the rows that it is given but does not
say under which ids.  Either is prepared beforehand and happens once.
-/
import SecurityGroups.Entity.Group
import SecurityGroups.Service.Script

namespace SecurityGroups

/-- A store with the faults that are prepared in it. -/
structure FaultyStore where
  store : Store
  /-- The business that a rival writes into every group just before the next update of groups. -/
  rival : Option Int64 := none
  /-- Whether the next insertion that is not refused answers no ids. -/
  losesIds : Bool := false

namespace FaultyStore

/-- The rival's update, if one is prepared. -/
def giveWay (config : Store.Config) (f : FaultyStore) : FaultyStore :=
  match f.rival with
  | none => f
  | some business =>
    let update := Call.update .groups (Entity.schema Group) .everything
      (Row.empty.set "bk_biz_id" (.numeric business))
    { f with store := (f.store.perform config update).2, rival := none }

/-- Carries out a call on the store itself. -/
def pass (config : Store.Config) (f : FaultyStore) (c : Call) :
    Except StoreError c.Answer × FaultyStore :=
  let (answer, store) := f.store.perform config c
  (answer, { f with store })

/-- Carries out a call, together with the fault that is prepared for it. -/
def perform (config : Store.Config) (f : FaultyStore) :
    (c : Call) → Except StoreError c.Answer × FaultyStore
  | .update table schema filter values =>
    (if table = .groups then f.giveWay config else f).pass config
      (.update table schema filter values)
  | .insert table schema rows =>
    match f.losesIds, f.pass config (.insert table schema rows) with
    | true, (.ok _, after) => (.ok [], { after with losesIds := false })
    | _, outcome => outcome
  | .delete table schema filter => f.pass config (.delete table schema filter)
  | .list table schema filter page => f.pass config (.list table schema filter page)

end FaultyStore

end SecurityGroups
