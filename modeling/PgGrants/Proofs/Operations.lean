/-
The operations on grants, default privileges and schema policies under one head. Each of them checks
its declaration, asks for features, and then does its work; what it asks for is a list of gates, and
the work after them is the same whatever the version is.

The gates are passed on what is known of the server, and it may have to be asked for its version
first. So a run that is refused has sent nothing, or the one question for the version; and a run
that passes knows from then on that the server has what was asked for.
-/
import PgGrants.Proofs.AtomicCommit
import PgGrants.Proofs.Entry
import PgGrants.Proofs.MatchedCalls

set_option autoImplicit false

namespace PgGrants

/-! ## 1. Requests and declarations -/

/-- What is done about rights. -/
inductive Verb where
  | sync
  | read
  | revoke

/-- A request about rights. A schema policy is brought about from the previous one, by default the
one that is there. -/
inductive RightsRequest where
  | grant (r : GrantRequest)
  | defaults (r : DefaultsRequest)
  | policy (r : PolicyRequest) (previous : Option Policy)

/-- A declaration of rights, by a request that keeps the rules. -/
inductive DeclaredRights where
  | grant (declared : DeclaredGrant)
  | defaults (declared : DeclaredDefaults)
  | policy (declared : DeclaredPolicy) (previous : Option Policy)

/-- What an operation reports. -/
inductive Report where
  /-- It is done, and there is nothing to report. -/
  | done
  | grant (found : Option GrantReport)
  | defaults (found : Option DefaultsReport)
  | policy (found : Option PolicyReport)

/-- What the request declares, when it keeps the rules. -/
def RightsRequest.check : RightsRequest → Except Invalid DeclaredRights
  | .grant r => r.check.map .grant
  | .defaults r => r.check.map .defaults
  | .policy r previous => r.check.map fun declared => .policy declared previous

/-! ## 2. Gates -/

/-- A feature that an operation asks for, and what it complains about without it. -/
structure Gate where
  feature : Feature
  operation : String

/-- What privileges on objects of the kind ask for. -/
def Gate.ofPrivileges (kind : ObjectKind) (privileges : TextSet) (operation : String) : List Gate :=
  [⟨.privileges, operation⟩] ++
    (if kind == .procedure || kind == .routine then
      [⟨.procedure, "Granting privileges on " ++ kind.name ++ "s"⟩] else []) ++
    if privileges.contains "MAINTAIN" then [⟨.maintainPrivilege, "The MAINTAIN privilege"⟩] else []

/-- What an operation asks for before it does anything. -/
def DeclaredRights.gates : Verb → DeclaredRights → List Gate
  | .sync, .grant declared =>
    Gate.ofPrivileges declared.kind declared.privileges GrantRequest.operation
  | _, .grant _ => [⟨.privileges, GrantRequest.operation⟩]
  | _, .defaults declared =>
    Gate.ofPrivileges declared.kind declared.privileges "Managing default privileges" ++
      if declared.kind == .schema then
        [⟨.privilegesOnSchemas, "Default privileges on schemas"⟩] else []
  | _, .policy _ _ => [⟨.privileges, "Managing schema policies"⟩]

theorem DeclaredRights.gates_ne_nil (verb : Verb) (declared : DeclaredRights) :
    declared.gates verb ≠ [] := by
  cases declared <;> cases verb <;> exact List.cons_ne_nil _ _

/-- What is read back asks for nothing that was not asked for before. -/
theorem DeclaredRights.gates_read_subset (verb : Verb) (declared : DeclaredRights) :
    declared.gates .read ⊆ declared.gates verb := by
  cases declared with
  | grant declared =>
    cases verb with
    | sync =>
      intro gate hgate
      rw [List.mem_singleton.1 hgate]
      exact List.mem_cons_self
    | _ => exact List.Subset.refl _
  | defaults declared => cases verb <;> exact List.Subset.refl _
  | policy declared previous => cases verb <;> exact List.Subset.refl _

variable {σ : Type} [Server σ]

/-- Complains about the first gate whose feature the server does not have. -/
def Call.needAll : List Gate → Call σ Unit
  | [] => return
  | gate :: rest => do
    needFeature gate.feature gate.operation
    needAll rest

theorem Call.needAll_append (first second : List Gate) :
    (needAll (first ++ second) : Call σ Unit) = (do needAll first; needAll second) := by
  induction first with
  | nil =>
    rw [List.nil_append, needAll, pure_bind]
  | cons gate rest ih =>
    rw [List.cons_append, needAll, needAll, ih, bind_assoc]

theorem Call.needAll_singleton (gate : Gate) :
    (needAll [gate] : Call σ Unit) = needFeature gate.feature gate.operation := by
  rw [needAll, needAll]
  exact bind_pure _

theorem Call.needPrivileges_eq (kind : ObjectKind) (privileges : TextSet) (operation : String) :
    (needPrivileges kind privileges operation : Call σ Unit) =
      needAll (Gate.ofPrivileges kind privileges operation) := by
  unfold needPrivileges Gate.ofPrivileges
  cases kind == .procedure || kind == .routine <;> cases privileges.contains "MAINTAIN" <;>
    simp [needAll]

theorem DeclaredDefaults.needFeatures_eq (declared : DeclaredDefaults) :
    (declared.needFeatures : Call σ Unit) =
      Call.needAll ((DeclaredRights.defaults declared).gates .read) := by
  unfold DeclaredDefaults.needFeatures DeclaredRights.gates
  rw [Call.needPrivileges_eq, Call.needAll_append]
  cases declared.kind == .schema with
  | true =>
    rw [if_pos rfl, if_pos rfl, Call.needAll_singleton]
  | false => rfl

/-! ## 3. What follows the gates

Once a request is accepted, each verb is its gates followed by its work. The three kinds of
declarations share this shape, and differ in what they are checked for and in who holds the lock. -/

open Session

/-- Looks in a database, when it is there. -/
def Call.whenThere {α : Type} (database : String) (look : Call σ (Option α)) :
    Call σ (Option α) := do
  if ← hasDatabase database then look else return none

/-- What the role holds on the targets, when the role and all of them exist. -/
def DeclaredGrant.find (declared : DeclaredGrant) : Session σ (Option GrantReport) := do
  match ← declared.targetRows? with
  | none => return none
  | some rows => return some (declared.state (← Session.capabilities) rows)

/-- What the role gets on future objects, when all that it is about exists. -/
def DeclaredDefaults.find (declared : DeclaredDefaults) : Session σ (Option DefaultsReport) := do
  match ← unlessMissing declared.needTarget with
  | none => return none
  | some _ => return some (declared.state (← declared.readHolding))

namespace DeclaredRights

/-- The statements to send in order to bring it about, if there are any. -/
def syncJob : DeclaredRights → Session σ (Option Job)
  | .grant declared => declared.syncJob
  | .defaults declared => declared.syncJob
  | .policy declared previous => declared.syncJob previous

/-- The statements to send in order to take it away, if there are any. -/
def revokeJob : DeclaredRights → Session σ (Option Job)
  | .grant declared => declared.revokeJob
  | .defaults declared => declared.revokeJob
  | .policy declared _ => declared.revokeJob

/-- The database with the objects. -/
def database : DeclaredRights → String
  | .grant declared => declared.database
  | .defaults declared => declared.database
  | .policy declared _ => declared.database

/-- The objects are shared by all databases. -/
def isShared : DeclaredRights → Bool
  | .grant declared => declared.isShared
  | _ => false

/-- Reads back. -/
def readBack : DeclaredRights → Call σ Report
  | .grant declared => return .grant (← Call.holding declared.isShared .read
      (Call.whenThere declared.database
        (Call.inDatabase (some declared.database) declared.find)))
  | .defaults declared => return .defaults (← Call.whenThere declared.database
      (Call.inDatabase (some declared.database) declared.find))
  | .policy declared _ => return .policy (← Call.whenThere declared.database do
      let row ← Call.inDatabase (some declared.database) declared.readRow?
      return row.map declared.state)

/-- Brings it about. -/
def bringAbout (declared : DeclaredRights) : Call σ Unit :=
  Call.holding declared.isShared .write do
    Call.needDatabase declared.database
    Call.inDatabase (some declared.database) do carryOut (← declared.syncJob)

/-- Takes it away, when the database is there. -/
def takeAway (declared : DeclaredRights) : Call σ Unit :=
  Call.holding declared.isShared .write do
    if ← Call.hasDatabase declared.database then
      Call.inDatabase (some declared.database) do carryOut (← declared.revokeJob)

/-- Without anything shared there is no lock around the work. -/
theorem bringAbout_of_not_shared {declared : DeclaredRights} (h : declared.isShared = false) :
    declared.bringAbout (σ := σ) = (do
      Call.needDatabase declared.database
      Call.inDatabase (some declared.database) do carryOut (← declared.syncJob)) := by
  unfold bringAbout Call.holding
  rw [h]
  rfl

theorem takeAway_of_not_shared {declared : DeclaredRights} (h : declared.isShared = false) :
    declared.takeAway (σ := σ) = (do
      if ← Call.hasDatabase declared.database then
        Call.inDatabase (some declared.database) do carryOut (← declared.revokeJob)) := by
  unfold takeAway Call.holding
  rw [h]
  rfl

/-- What an operation does once the gates are passed. -/
def body : Verb → DeclaredRights → Call σ Report
  | .sync, declared => do
    declared.bringAbout
    Call.needAll (declared.gates .read)
    declared.readBack
  | .read, declared => declared.readBack
  | .revoke, declared => do
    declared.takeAway
    return .done

end DeclaredRights

namespace RightsRequest

/-- Does what is asked for. -/
def run : Verb → RightsRequest → Call σ Report
  | .sync, .grant r => return .grant (← r.sync)
  | .sync, .defaults r => return .defaults (← r.sync)
  | .sync, .policy r previous => return .policy (← r.sync previous)
  | .read, .grant r => return .grant (← r.read)
  | .read, .defaults r => return .defaults (← r.read)
  | .read, .policy r _ => return .policy (← r.read)
  | .revoke, .grant r => do r.revoke; return .done
  | .revoke, .defaults r => do r.revoke; return .done
  | .revoke, .policy r _ => do r.revoke; return .done

variable {request : RightsRequest} {declared : DeclaredRights}

theorem read_eq (h : request.check = .ok declared) :
    request.run (σ := σ) .read = (do
      Call.needAll (declared.gates .read)
      declared.readBack) := by
  cases request with
  | grant r =>
    obtain ⟨checked, hcheck, rfl⟩ := exists_of_map_eq_ok h
    unfold run GrantRequest.read DeclaredRights.gates
    dsimp only
    rw [hcheck, Call.needAll_singleton]
    simp only [bind_assoc]
    rfl
  | defaults r =>
    obtain ⟨checked, hcheck, rfl⟩ := exists_of_map_eq_ok h
    unfold run DefaultsRequest.read DefaultsRequest.accept DeclaredRights.readBack Call.whenThere
    dsimp only
    rw [hcheck, ← checked.needFeatures_eq]
    simp only [bind_assoc, pure_bind]
    rfl
  | policy r previous =>
    obtain ⟨checked, hcheck, rfl⟩ := exists_of_map_eq_ok h
    unfold run PolicyRequest.read PolicyRequest.accept DeclaredRights.gates DeclaredRights.readBack
      Call.whenThere
    dsimp only
    rw [hcheck, Call.needAll_singleton]
    simp only [bind_assoc, pure_bind]
    rfl

theorem sync_eq (h : request.check = .ok declared) :
    request.run (σ := σ) .sync = (do
      Call.needAll (declared.gates .sync)
      declared.bringAbout
      request.run .read) := by
  cases request with
  | grant r =>
    obtain ⟨checked, hcheck, rfl⟩ := exists_of_map_eq_ok h
    unfold run DeclaredRights.gates
    dsimp only
    rw [r.sync_eq, hcheck, ← Call.needPrivileges_eq]
    simp only [bind_assoc]
    rfl
  | defaults r =>
    obtain ⟨checked, hcheck, rfl⟩ := exists_of_map_eq_ok h
    -- for default privileges all verbs have the same gates
    have hgates : (DeclaredRights.defaults checked).gates .sync =
        (DeclaredRights.defaults checked).gates .read := rfl
    unfold run
    dsimp only
    rw [r.sync_eq, DefaultsRequest.accept, hcheck, hgates, ← checked.needFeatures_eq,
      DeclaredRights.bringAbout_of_not_shared rfl]
    simp only [bind_assoc, pure_bind]
    rfl
  | policy r previous =>
    obtain ⟨checked, hcheck, rfl⟩ := exists_of_map_eq_ok h
    unfold run DeclaredRights.gates
    dsimp only
    rw [r.sync_eq, PolicyRequest.accept, hcheck, Call.needAll_singleton,
      DeclaredRights.bringAbout_of_not_shared rfl]
    simp only [bind_assoc, pure_bind]
    rfl

theorem revoke_eq (h : request.check = .ok declared) :
    request.run (σ := σ) .revoke = (do
      Call.needAll (declared.gates .revoke)
      declared.takeAway
      return .done) := by
  cases request with
  | grant r =>
    obtain ⟨checked, hcheck, rfl⟩ := exists_of_map_eq_ok h
    unfold run DeclaredRights.gates
    dsimp only
    rw [r.revoke_eq, hcheck, Call.needAll_singleton]
    simp only [bind_assoc]
    rfl
  | defaults r =>
    obtain ⟨checked, hcheck, rfl⟩ := exists_of_map_eq_ok h
    have hgates : (DeclaredRights.defaults checked).gates .revoke =
        (DeclaredRights.defaults checked).gates .read := rfl
    unfold run
    dsimp only
    rw [r.revoke_eq, DefaultsRequest.accept, hcheck, hgates, ← checked.needFeatures_eq,
      DeclaredRights.takeAway_of_not_shared rfl]
    simp only [bind_assoc, pure_bind]
    rfl
  | policy r previous =>
    obtain ⟨checked, hcheck, rfl⟩ := exists_of_map_eq_ok h
    unfold run DeclaredRights.gates
    dsimp only
    rw [r.revoke_eq, PolicyRequest.accept, hcheck, Call.needAll_singleton,
      DeclaredRights.takeAway_of_not_shared rfl]
    simp only [bind_assoc, pure_bind]
    rfl

/-- Every operation asks for what is at its gates, and then does its work. -/
theorem run_eq (h : request.check = .ok declared) (verb : Verb) :
    request.run (σ := σ) verb = (do
      Call.needAll (declared.gates verb)
      declared.body verb) := by
  cases verb with
  | sync =>
    rw [sync_eq h, read_eq h]
    rfl
  | read => exact read_eq h
  | revoke => exact revoke_eq h

end RightsRequest

end PgGrants
