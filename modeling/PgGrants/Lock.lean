/-
A lock for many readers or one writer, at the grain of its critical sections. An actor that cannot
have the lock waits asleep; when the lock may have become free all who wait are woken, and each
looks again in its turn. A writer that waits keeps new readers out.
-/
import PgGrants.Event

set_option autoImplicit false

namespace PgGrants

/-- An actor that waits for the lock. -/
structure Waiter where
  actor : String
  access : Access
  /-- The actor was woken and will look again. -/
  awake : Bool
deriving DecidableEq, Repr

/-- The state of a lock. -/
structure Lock where
  /-- The number of readers; whoever gives back what it does not hold brings it below zero. -/
  readers : Int
  /-- A writer has the lock. -/
  writer : Bool
  /-- The writers that asked for the lock and do not have it yet. -/
  writersWaiting : Nat
  /-- Who waits, those who came first standing first. -/
  waiters : List Waiter
deriving DecidableEq, Repr

namespace Lock

/-- Nobody has the lock and nobody waits. -/
def free : Lock := ⟨0, false, 0, []⟩

instance : Inhabited Lock := ⟨free⟩

/-- Who asks now for this access has to wait. -/
def mustWait (lock : Lock) : Access → Bool
  | .read => lock.writer || lock.writersWaiting != 0
  | .write => lock.writer || lock.readers != 0

/-- Asking for the lock is noted for writers. -/
def announce (lock : Lock) : Access → Lock
  | .read => lock
  | .write => { lock with writersWaiting := lock.writersWaiting + 1 }

/-- The lock goes to someone who asked for it. -/
def obtain (lock : Lock) : Access → Lock
  | .read => { lock with readers := lock.readers + 1 }
  | .write => { lock with writer := true, writersWaiting := lock.writersWaiting - 1 }

/-- An actor asks for the lock, and gets it or starts to wait. -/
def acquire (lock : Lock) (actor : String) (access : Access) : Lock :=
  -- A writer counts as waiting from here on, whether or not it has to wait.
  let asked := lock.announce access
  if asked.mustWait access then { asked with waiters := asked.waiters ++ [⟨actor, access, false⟩] }
  else asked.obtain access

/-- Wakes everyone who waits. -/
def wakeAll (lock : Lock) : Lock :=
  { lock with waiters := lock.waiters.map fun w => { w with awake := true } }

/-- The lock is given back. Those who wait are woken by the last reader and by every writer. -/
def release (lock : Lock) : Access → Lock
  | .read =>
    let left := { lock with readers := lock.readers - 1 }
    if left.readers = 0 then left.wakeAll else left
  | .write => { lock with writer := false }.wakeAll

/-- A waiter looks again if it was woken: it gets the lock, or goes back to sleep. -/
def recheck (lock : Lock) (waiter : Waiter) : Lock :=
  if lock.waiters.contains waiter && waiter.awake then
    if lock.mustWait waiter.access then
      { lock with waiters := lock.waiters.replace waiter { waiter with awake := false } }
    else { lock with waiters := lock.waiters.erase waiter }.obtain waiter.access
  else lock

/-- Everyone who was woken looks again, those who came first being first. -/
def settle (lock : Lock) : Lock := lock.waiters.foldl recheck lock

/-- Who waits, in ascending order. -/
def waiting (lock : Lock) : List String := (TextSet.ofList (lock.waiters.map Waiter.actor)).toList

end Lock

end PgGrants
