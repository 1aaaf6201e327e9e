import Courtship.Store.Work

/-! Storages: what each of them makes of the calls of a unit, and running work on any of them. -/

namespace Courtship

/-- States `υ` of a storage while a unit is open. -/
class OpenUnit (υ : Type) where
  /-- A new identifier. -/
  mint : υ → Uuid × υ
  perform : υ → (c : Call) → Except (Failure StorageError) c.Reply × υ

/-- A storage with states `σ` between units and `υ` within one. -/
class Storage (σ : Type) (υ : outParam Type) extends OpenUnit υ where
  name : σ → String
  checkHealth : σ → Except StorageError Bool × σ
  start : σ → Except (StorageError × σ) υ
  /-- Keeps the writes of the unit, or takes them back and says why. -/
  commit : υ → Except StorageError Unit × σ
  /-- Takes the writes of the unit back. -/
  discard : υ → σ

namespace Failure

/-- How a failure inside a unit looks from outside. -/
def ofStorage : Failure StorageError → Failure EngineError
  | error e => error (.ofStorage e)
  | overflow => overflow

end Failure

namespace Work

variable {σ υ α : Type}

/-- The first call that fails ends the work. -/
def perform [OpenUnit υ] : Work α → υ → Except (Failure EngineError) α × υ
  | done a, u => (.ok a, u)
  | fail why, u => (.error why, u)
  | newId next, u =>
    let (id, u) := OpenUnit.mint u
    (next id).perform u
  | call c next, u =>
    match OpenUnit.perform u c with
    | (.ok reply, u) => (next reply).perform u
    | (.error why, u) => (.error why.ofStorage, u)

/-- Runs the work in a unit of its own. The unit is dropped if anything fails. -/
def inUnit [Storage σ υ] (w : Work (Ending α)) (s : σ) : Except (Failure EngineError) α × σ :=
  match Storage.start s with
  | .error (e, s) => (.error (.error (.ofStorage e)), s)
  | .ok u =>
    match w.perform u with
    | (.error why, u) => (.error why, Storage.discard u)
    | (.ok (.drop a), u) => (.ok a, Storage.discard u)
    | (.ok (.commit a), u) =>
      match Storage.commit u with
      | (.error e, s) => (.error (.error (.ofStorage e)), s)
      | (.ok _, s) => (.ok a, s)

/-- Runs work that only reads. -/
def look [Storage σ υ] (w : Work α) (s : σ) : Except (Failure EngineError) α × σ :=
  (w.bind fun a => done (.drop a)).inUnit s

end Work

end Courtship
