/-
Running work on a connection. Work on a connection is a function from the connection to an outcome
and the connection afterwards; here every way of putting work together gets its equation, so that
later proofs follow a run from one connection to the next and never open the monad.

The equations of the primitives say all that a primitive does: a boundary and a command are logged,
the server answers them, and the answer is the outcome.
-/
import PgGrants.Session

set_option autoImplicit false

namespace PgGrants

variable {σ α β : Type}

/-! ## Work that cannot fail -/

/-- The result of the work, and the connection after it. -/
def Talk.exec (work : Talk σ β) (c : Connection σ) : β × Connection σ := StateT.run work c

namespace Talk

theorem exec_pure (b : β) (c : Connection σ) : exec (pure b) c = (b, c) := rfl

theorem exec_bind (work : Talk σ α) (next : α → Talk σ β) (c : Connection σ) :
    exec (work >>= next) c = exec (next (exec work c).1) (exec work c).2 := rfl

/-- The second half of a run starts where the first half ended. -/
theorem exec_bind_of {work : Talk σ α} {next : α → Talk σ β} {c c' : Connection σ} {a : α}
    (h : exec work c = (a, c')) : exec (work >>= next) c = exec (next a) c' := by
  rw [exec_bind, h]

theorem exec_map (f : α → β) (work : Talk σ α) (c : Connection σ) :
    exec (f <$> work) c = (f (exec work c).1, (exec work c).2) := rfl

end Talk

/-! ## Work that can fail -/

/-- The outcome of the work, and the connection after it. -/
def Session.exec (work : Session σ α) (c : Connection σ) : Except Error α × Connection σ :=
  Talk.exec work.run c

namespace Session

theorem exec_eq (work : Session σ α) (c : Connection σ) : exec work c = Talk.exec work.run c := rfl

theorem exec_pure (a : α) (c : Connection σ) : exec (pure a) c = (.ok a, c) := rfl

theorem exec_throw (error : Error) (c : Connection σ) :
    exec (throw error : Session σ α) c = (.error error, c) := rfl

theorem exec_ofOutcome (outcome : Except Error α) (c : Connection σ) :
    exec (ofOutcome outcome) c = (outcome, c) := rfl

/-- What follows starts from a success, and a failure is handed on. -/
theorem exec_bind (work : Session σ α) (next : α → Session σ β) (c : Connection σ) :
    exec (work >>= next) c =
      match exec work c with
      | (.ok a, c') => exec (next a) c'
      | (.error error, c') => (.error error, c') := by
  unfold exec
  rw [ExceptT.run_bind, Talk.exec_bind]
  rcases Talk.exec work.run c with ⟨_ | _, c'⟩ <;> rfl

theorem exec_bind_ok {work : Session σ α} {next : α → Session σ β} {c c' : Connection σ} {a : α}
    (h : exec work c = (.ok a, c')) : exec (work >>= next) c = exec (next a) c' := by
  rw [exec_bind, h]

theorem exec_bind_error {work : Session σ α} {next : α → Session σ β} {c c' : Connection σ}
    {error : Error} (h : exec work c = (.error error, c')) :
    exec (work >>= next) c = (.error error, c') := by
  rw [exec_bind, h]

/-- A run of two halves that succeeds has a first half that does. -/
theorem exec_bind_eq_ok {work : Session σ α} {next : α → Session σ β}
    {c c' : Connection σ} {b : β} (hrun : exec (work >>= next) c = (.ok b, c')) :
    ∃ a c₁, exec work c = (.ok a, c₁) ∧ exec (next a) c₁ = (.ok b, c') := by
  rw [exec_bind] at hrun
  rcases hwork : exec work c with ⟨_ | a, c₁⟩
  · simp [hwork] at hrun
  · rw [hwork] at hrun
    exact ⟨a, c₁, rfl, hrun⟩

theorem exec_attempt (work : Session σ α) (c : Connection σ) :
    exec (attempt work) c = (.ok (exec work c).1, (exec work c).2) := rfl

theorem exec_lift (work : Talk σ α) (c : Connection σ) :
    exec (ExceptT.lift work) c = (.ok (Talk.exec work c).1, (Talk.exec work c).2) := rfl

theorem exec_get (c : Connection σ) : exec (get : Session σ (Connection σ)) c = (.ok c, c) := rfl

theorem exec_set (c c' : Connection σ) : exec (set c' : Session σ PUnit) c = (.ok (), c') := rfl

theorem exec_record (event : Event) (c : Connection σ) :
    exec (record event) c = (.ok (), { c with log := c.log ++ [event] }) := rfl

/-! ## Boundaries and commands -/

/-- The connection after an event that left the server in the given state. -/
def logged (c : Connection σ) (event : Event) (server : σ) : Connection σ :=
  { c with log := c.log ++ [event], server := server }

/-- A failure of the server as an outcome. -/
def outcomeOf (failure : Option Failure) : Except Error Unit :=
  match failure with
  | some failure => .error failure.error
  | none => .ok ()

theorem exec_isInTransaction (c : Connection σ) :
    exec (isInTransaction : Session σ Bool) c = (.ok c.inTransaction, c) := rfl

theorem exec_setInTransaction (b : Bool) (c : Connection σ) :
    exec (setInTransaction b) c = (.ok (), { c with inTransaction := b }) := rfl

/-- The rows of a reply, or its failure as an error. -/
def rowsOf (reply : Reply) : Except Error (List (List Value)) :=
  match reply with
  | .rows rows => .ok rows
  | .failed failure => .error failure.error

variable [Server σ]

theorem exec_boundary (mark : Boundary) (c : Connection σ) :
    exec (boundary mark) c =
      (outcomeOf (Server.bound mark c.server).1,
        logged c (.boundary mark) (Server.bound mark c.server).2) := by
  unfold boundary
  rw [exec_bind_ok (exec_record _ _), exec_bind_ok (exec_get _)]
  dsimp only
  rw [exec_bind_ok (exec_set _ _)]
  rcases Server.bound mark c.server with ⟨_ | failure, server⟩ <;> rfl

/-- Nothing is to be opened inside a transaction. -/
theorem exec_ensureTransaction {c : Connection σ} (hc : c.inTransaction = true) :
    exec ensureTransaction c = (.ok (), c) := by
  unfold ensureTransaction
  rw [exec_bind_ok (exec_isInTransaction c), hc]
  rfl

theorem exec_send {command : Command} {sql : String} (hsql : command.sql = .ok sql)
    {c : Connection σ} (hc : c.inTransaction = true) :
    exec (send command) c =
      (rowsOf (Server.answer command c.server).1,
        logged c (.sent command sql) (Server.answer command c.server).2) := by
  unfold send
  rw [hsql]
  dsimp only
  rw [exec_bind_ok (exec_ensureTransaction hc), exec_bind_ok (exec_record _ _),
    exec_bind_ok (exec_get _)]
  dsimp only
  rw [exec_bind_ok (exec_set _ _)]
  rcases Server.answer command c.server with ⟨_ | failure, server⟩ <;> rfl

/-- A command that cannot be written is not sent. -/
theorem exec_send_unwritable {command : Command} {fault : Unwritable}
    (hsql : command.sql = .error fault) (c : Connection σ) :
    exec (send command) c = (.error (.unwritable fault), c) := by
  unfold send
  rw [hsql]
  rfl

end Session

end PgGrants
