/-
Work with memberships, taken apart. `asMemberOf` hides how it ended: an error may come from joining
the roles, from the work, or from handing the memberships back. A stay keeps these apart. It records
how far the work got, which memberships had been changed by then, and how undoing the changes went.

Nothing is lost that way: the outcome of `asMemberOf` is computed from the stay, on every
connection.
-/
import PgGrants.Impersonation
import PgGrants.Proofs.Run

set_option autoImplicit false

namespace PgGrants

/-- How far work with memberships got. -/
inductive Attempt (α : Type) where
  /-- Some role could not be joined, and the work was not started. -/
  | notJoined (error : Error)
  /-- The work failed, or the savepoint around it did. -/
  | failed (error : Error)
  | done (result : α)

/-- The end of work with memberships. -/
structure Stay (α : Type) where
  /-- The connecting role, when it had to be asked for. -/
  user : Option String
  /-- The memberships that were changed. -/
  scope : Scope
  attempt : Attempt α
  /-- How undoing the changes went. -/
  released : Except Error Unit

namespace Stay

variable {α : Type}

/-- The outcome that the caller meets. -/
def outcome (names : List String) (stay : Stay α) : Except Error α :=
  match stay.attempt, stay.released with
  | .notJoined error, .ok _ =>
    .error (if error.isNotFound then error else .notJoined names stay.user error)
  | .failed error, .ok _ => .error error
  | .done result, .ok _ => .ok result
  | .notJoined error, .error cause =>
    .error (.notUndoneAfter stay.scope.granted stay.user error cause)
  | .failed error, .error cause =>
    .error (.notUndoneAfter stay.scope.granted stay.user error cause)
  | .done _, .error cause => .error (.notUndone stay.scope.granted stay.user cause)

/-- Memberships that cannot be handed back are never passed over. -/
theorem outcome_of_not_released {names : List String} {stay : Stay α} {cause : Error}
    (h : stay.released = .error cause) : ∃ error, stay.outcome names = .error error := by
  unfold outcome
  rw [h]
  cases stay.attempt with
  | notJoined error => exact ⟨_, rfl⟩
  | failed error => exact ⟨_, rfl⟩
  | done result => exact ⟨_, rfl⟩

/-- There is a result only when the work had one and the memberships were handed back. -/
theorem outcome_eq_ok {names : List String} {stay : Stay α} {result : α}
    (h : stay.outcome names = .ok result) :
    stay.attempt = .done result ∧ stay.released = .ok () := by
  unfold outcome at h
  cases hattempt : stay.attempt <;> cases hreleased : stay.released <;>
    rw [hattempt, hreleased] at h <;> cases h
  exact ⟨rfl, rfl⟩

end Stay

namespace Session

variable {σ α : Type} [Server σ]

/-! ## The parts -/

/-- The work alone, no membership being changed for it. -/
def alone (scope : Scope) (work : Session σ α) : Talk σ (Stay α) := do
  match ← (start scope work).run with
  | .ok result => return ⟨scope.user, scope, .done result, .ok ()⟩
  | .error error => return ⟨scope.user, scope, .failed error, .ok ()⟩

/-- Joins the roles and does the work in a savepoint, when all of them could be joined. -/
def tryAsMember (user : Option String) (names : List String) (work : Session σ α) :
    Talk σ (Attempt α × Scope) := do
  let (joined, scope) ← joinInSavepoint user names
  match joined with
  | .error error => return (.notJoined error, scope)
  | .ok _ =>
    match ← (savepoint (start scope work)).run with
    | .ok result => return (.done result, scope)
    | .error error => return (.failed error, scope)

/-- Does the work as a member of the roles, and undoes the changes however far that got. -/
def stayAs (user : Option String) (names : List String) (work : Session σ α) :
    Talk σ (Stay α) := do
  let (attempt, scope) ← tryAsMember user names work
  return ⟨user, scope, attempt, ← (undo user scope).run⟩

/-- The work as a member of the roles as a stay. What is to be found out beforehand can fail too,
and then there is none. -/
def stayOf (roles : List (Option String)) (work : Session σ α) : Session σ (Stay α) := do
  let names := candidates roles
  if names.isEmpty then ExceptT.lift (alone .untouched work)
  else
    let user ← connectingRole
    match ← lookUpRole user with
    | some identity =>
      if identity.isSuperuser then ExceptT.lift (alone (.ofUser user) work)
      else ExceptT.lift (stayAs user names work)
    | none => ExceptT.lift (stayAs user names work)

/-! ## Runs of the parts -/

section Parts

variable {user : Option String} {names : List String} {work : Session σ α} {scope : Scope}
  {error : Error} {c c₁ c₂ : Connection σ}

theorem exec_tryAsMember_of_notJoined
    (hjoin : (joinInSavepoint user names).exec c = ((.error error, scope), c₁)) :
    (tryAsMember user names work).exec c = ((.notJoined error, scope), c₁) := by
  unfold tryAsMember
  rw [Talk.exec_bind_of hjoin]
  rfl

theorem exec_tryAsMember_of_failed
    (hjoin : (joinInSavepoint user names).exec c = ((.ok (), scope), c₁))
    (hwork : exec (savepoint (start scope work)) c₁ = (.error error, c₂)) :
    (tryAsMember user names work).exec c = ((.failed error, scope), c₂) := by
  unfold tryAsMember
  rw [Talk.exec_bind_of hjoin]
  dsimp only
  rw [Talk.exec_bind_of hwork]
  rfl

theorem exec_tryAsMember_of_done {result : α}
    (hjoin : (joinInSavepoint user names).exec c = ((.ok (), scope), c₁))
    (hwork : exec (savepoint (start scope work)) c₁ = (.ok result, c₂)) :
    (tryAsMember user names work).exec c = ((.done result, scope), c₂) := by
  unfold tryAsMember
  rw [Talk.exec_bind_of hjoin]
  dsimp only
  rw [Talk.exec_bind_of hwork]
  rfl

theorem exec_stayAs {attempt : Attempt α}
    (htry : (tryAsMember user names work).exec c = ((attempt, scope), c₁)) :
    (stayAs user names work).exec c =
      (⟨user, scope, attempt, (exec (undo user scope) c₁).1⟩, (exec (undo user scope) c₁).2) := by
  unfold stayAs
  rw [Talk.exec_bind_of htry]
  rfl

end Parts

/-! ## Nothing is lost -/

omit [Server σ] in
theorem exec_alone (names : List String) (scope : Scope) (work : Session σ α)
    (c : Connection σ) :
    exec (start scope work) c =
      (((alone scope work).exec c).1.outcome names, ((alone scope work).exec c).2) := by
  unfold alone exec
  rw [Talk.exec_bind]
  rcases Talk.exec (start scope work).run c with ⟨_ | _, _⟩ <;> rfl

/-- After a failure, undoing the changes ends with both failures or with none. -/
theorem exec_undoAfter (user : Option String) (scope : Scope) (earlier : Error)
    (c : Connection σ) :
    exec (undoAfter user scope earlier) c =
      ((exec (undo user scope) c).1.mapError
        (.notUndoneAfter scope.granted user earlier), (exec (undo user scope) c).2) := by
  unfold undoAfter
  rw [exec_bind_ok (exec_attempt _ _)]
  rcases exec (undo user scope) c with ⟨_ | _, _⟩ <;> rfl

theorem exec_asMember (user : Option String) (names : List String) (work : Session σ α)
    (c : Connection σ) :
    exec (asMember user names work) c =
      (((stayAs user names work).exec c).1.outcome names, ((stayAs user names work).exec c).2) := by
  unfold asMember
  rw [exec_bind_ok (exec_lift _ _)]
  -- along the attempt: not joined, failed, done; undoing follows in all three
  rcases hjoin : (joinInSavepoint user names).exec c with ⟨⟨error | _, scope⟩, c₁⟩
  · rw [exec_stayAs (exec_tryAsMember_of_notJoined hjoin)]
    dsimp only
    rw [exec_bind, exec_undoAfter]
    rcases exec (undo user scope) c₁ with ⟨_ | _, _⟩ <;> rfl
  · dsimp only
    rw [exec_bind_ok (exec_attempt _ _)]
    rcases hwork : exec (savepoint (start scope work)) c₁ with ⟨error | result, c₂⟩
    · rw [exec_stayAs (exec_tryAsMember_of_failed hjoin hwork)]
      dsimp only
      rw [exec_bind, exec_undoAfter]
      rcases exec (undo user scope) c₂ with ⟨_ | _, _⟩ <;> rfl
    · rw [exec_stayAs (exec_tryAsMember_of_done hjoin hwork)]
      dsimp only
      rw [exec_bind_ok (exec_attempt _ _)]
      rcases exec (undo user scope) c₂ with ⟨_ | _, _⟩ <;> rfl

/-- Work as a member of the roles goes exactly as its stay, and its outcome is read off from it. -/
theorem exec_asMemberOf (roles : List (Option String)) (work : Session σ α) (c : Connection σ) :
    exec (asMemberOf roles work) c =
      exec (do ofOutcome ((← stayOf roles work).outcome (candidates roles))) c := by
  -- once the look-ups agree, both sides end in one of the two parts
  have hlift {talk : Talk σ (Stay α)} {work' : Session σ α} {c : Connection σ}
      (h : exec work' c = ((talk.exec c).1.outcome (candidates roles), (talk.exec c).2)) :
      exec work' c =
        exec (do ofOutcome ((← ExceptT.lift talk).outcome (candidates roles))) c := by
    rw [exec_bind_ok (exec_lift _ _), exec_ofOutcome, h]
  unfold asMemberOf stayOf
  dsimp only
  split
  · exact hlift (exec_alone _ _ _ _)
  · rw [bind_assoc, exec_bind, exec_bind]
    rcases exec connectingRole c with ⟨error | user, c₁⟩
    · rfl
    · dsimp only
      rw [bind_assoc, exec_bind, exec_bind]
      rcases exec (lookUpRole user) c₁ with ⟨error | _ | identity, c₂⟩
      · rfl
      · exact hlift (exec_asMember user _ work c₂)
      · dsimp only
        split
        · exact hlift (exec_alone _ _ work c₂)
        · exact hlift (exec_asMember user _ work c₂)

end Session

end PgGrants
