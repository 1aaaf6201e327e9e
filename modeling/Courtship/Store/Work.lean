import Courtship.Error
import Courtship.Store.Call

/-! Work inside one unit: calls on the storage, new identifiers in between, and an answer or a
failure. What the calls mean is left to the storage. -/

namespace Courtship

inductive Work (α : Type) : Type where
  | done (a : α)
  | fail (why : Failure EngineError)
  | newId (next : Uuid → Work α)
  | call (c : Call) (next : c.Reply → Work α)

/-- How a unit ends: its writes are kept, or it is dropped and they are taken back. -/
inductive Ending (α : Type) where
  | commit (answer : α)
  | drop (answer : α)

namespace Work

variable {α β : Type}

def bind : Work α → (α → Work β) → Work β
  | done a, f => f a
  | fail why, _ => fail why
  | newId next, f => newId fun id => (next id).bind f
  | call c next, f => call c fun r => (next r).bind f

instance : Monad Work where
  pure := done
  bind := bind

theorem pure_eq (a : α) : (pure a : Work α) = done a := rfl

theorem bind_eq (w : Work α) (f : α → Work β) : w >>= f = w.bind f := rfl

@[simp] theorem done_bind (a : α) (f : α → Work β) : (done a).bind f = f a := rfl

@[simp] theorem fail_bind (why : Failure EngineError) (f : α → Work β) :
    (fail why).bind f = fail why := rfl

@[simp] theorem newId_bind (next : Uuid → Work α) (f : α → Work β) :
    (newId next).bind f = newId fun id => (next id).bind f := rfl

@[simp] theorem call_bind (c : Call) (next : c.Reply → Work α) (f : α → Work β) :
    (call c next).bind f = call c fun r => (next r).bind f := rfl

theorem bind_assoc {γ : Type} (w : Work α) (f : α → Work β) (g : β → Work γ) :
    (w.bind f).bind g = w.bind fun a => (f a).bind g := by
  induction w with
  | done _ => rfl
  | fail _ => rfl
  | newId next ih => simp [ih]
  | call c next ih => simp [ih]

/-! ## Steps -/

/-- Ends the work with an error. -/
def reject (e : EngineError) : Work α := fail (.error e)

def fresh : Work Uuid := newId done

def run (c : Call) : Work c.Reply := call c done

/-- The value, or `e` where there is none. -/
def orReject (e : EngineError) : Option α → Work α
  | some a => done a
  | none => reject e

def ofExcept : Except (Failure EngineError) α → Work α
  | .ok a => done a
  | .error why => fail why

end Work

end Courtship
