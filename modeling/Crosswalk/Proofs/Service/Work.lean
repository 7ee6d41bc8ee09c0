import Crosswalk.Proofs.Fallible
import Crosswalk.Service.Environment

/-!
How work on the store runs.

Work goes on with what it has left so far, and what it has written stays, also where it fails later.
The operations that keep an entity are of one shape: they make it, write it to the store, and record
an event. `keeping` says in one place what comes of that.
-/

namespace Crosswalk.Service

variable {α β : Type}

namespace Work

lemma run_bind (x : Work α) (k : α → Work β) (s : Store) : (x >>= k).run s =
    match x.run s with
    | (.ok a, u) => (k a).run u
    | (.error f, u) => (.error f, u) := by
  simp only [ExceptT.run, bind, ExceptT.bind, ExceptT.mk, StateT.bind, ExceptT.bindCont]
  rcases x s with ⟨_ | _, u⟩ <;> rfl

@[simp] lemma run_get_bind (k : Store → Work α) (s : Store) :
    ((get : Work Store) >>= k).run s = (k s).run s := rfl

lemma run_lift_bind (x : Except Failure α) (k : α → Work β) (s : Store) :
    ((liftM x : Work α) >>= k).run s =
      match x with
      | .ok a => (k a).run s
      | .error f => (.error f, s) := by
  rw [run_bind]
  cases x <;> rfl

lemma run_write_bind (f : Store → Except Fault Store) (k : Unit → Work α) (s : Store) :
    (write f >>= k).run s =
      match f s with
      | .ok u => (k ()).run u
      | .error g => (.error (.fault g), s) := by
  rw [run_bind, write, run_get_bind, run_lift_bind]
  cases f s <;> rfl

end Work

variable (e : Environment) (s : Store)

def eventOf (tenant user : Option String) (action : Audit.Action) (entityType entity : String)
    (before after : Except Failure (Option (Table Value))) : Except Failure Audit.Event := do
  return e.event tenant user action entityType entity (← before) (← after)

def ending (a : Answer) : Except Failure Audit.Event → Except Failure Answer × Store
  | .ok x => (.ok a, e.audit s x)
  | .error f => (.error f, s)

lemma run_record (tenant user : Option String) (action : Audit.Action) (entityType entity : String)
    (before after : Except Failure (Option (Table Value))) (a : Answer) :
    (do record e tenant user action entityType entity before after; return a : Work Answer).run s =
      ending e s a (eventOf e tenant user action entityType entity before after) := by
  rw [Work.run_bind, record, Work.run_lift_bind]
  rcases before with f | b
  · rfl
  · dsimp only
    rw [Work.run_lift_bind]
    rcases after with f | c <;> rfl

/-- What comes of keeping an entity: it is made, written, and an event of it is recorded. -/
def keeping (entity : Except Failure α) (write : α → Store → Except Fault Store)
    (event : α → Except Failure Audit.Event) (answer : α → Answer) :
    Except Failure Answer × Store :=
  match entity with
  | .error f => (.error f, s)
  | .ok x =>
    match write x s with
    | .error g => (.error (.fault g), s)
    | .ok u => ending e u (answer x) (event x)

lemma run_keeping (entity : Except Failure α) (write : α → Store → Except Fault Store)
    (tenant user : Option String) (action : Audit.Action) (entityType : String) (id : α → String)
    (before after : α → Except Failure (Option (Table Value))) (answer : α → Answer) :
    (do let x ← entity
        Work.write (write x)
        record e tenant user action entityType (id x) (before x) (after x)
        return answer x : Work Answer).run s =
      keeping e s entity write
        (fun x => eventOf e tenant user action entityType (id x) (before x) (after x)) answer := by
  rw [Work.run_lift_bind]
  rcases entity with f | x
  · rfl
  · dsimp only [keeping]
    rw [Work.run_write_bind]
    rcases write x s with g | u
    · rfl
    · exact run_record e u _ _ _ _ _ _ _ _

end Crosswalk.Service
