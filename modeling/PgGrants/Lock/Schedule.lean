/-
Actors at work on a lock. Each actor does what it is told, one thing after the other; while it waits
for the lock it cannot do anything else, and comes to its later orders when the wait is over.
-/
import PgGrants.Lock

set_option autoImplicit false

namespace PgGrants

/-- What an actor can do to a lock. -/
inductive LockAction where
  | acquire (access : Access)
  | release (access : Access)
deriving DecidableEq, Repr

/-- Something that an actor shall do. -/
structure LockOrder where
  actor : String
  action : LockAction
deriving DecidableEq, Repr

/-- A lock, and the orders to which its actors have not come yet. -/
structure Schedule where
  lock : Lock
  /-- The orders, those that were given first standing first. -/
  pending : List LockOrder
deriving DecidableEq, Repr

namespace Lock

/-- The actor waits for the lock. -/
def waits (lock : Lock) (actor : String) : Bool := lock.waiters.any fun w => w.actor == actor

/-- An actor does what it shall, and everyone who was woken by that looks again. -/
def follow (lock : Lock) (order : LockOrder) : Lock :=
  match order.action with
  | .acquire access => (lock.acquire order.actor access).settle
  | .release access => (lock.release access).settle

end Lock

namespace Schedule

/-- Nobody has the lock and nobody has anything to do. -/
def start : Schedule := ⟨.free, []⟩

instance : Inhabited Schedule := ⟨start⟩

/-- Actors that do not wait any more come to their orders, at most `count` of them. -/
def advance : Nat → Schedule → Schedule
  | 0, s => s
  | count + 1, s =>
    match s.pending.find? fun order => !s.lock.waits order.actor with
    | none => s
    | some order => advance count ⟨s.lock.follow order, s.pending.erase order⟩

/-- An order is given to an actor, which follows it at once unless it waits. -/
def give (s : Schedule) (order : LockOrder) : Schedule :=
  advance (s.pending.length + 1) { s with pending := s.pending ++ [order] }

end Schedule

end PgGrants
