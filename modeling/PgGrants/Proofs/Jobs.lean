/-
What a write operation does in its transaction. It looks around first, and what it finds out is a
job: the statements to send, and the roles whose rights that takes. Then it carries the job out, if
there is one. The two halves are written as one in the operations; here they are taken apart, and
every operation is shown to be its look-up followed by carrying the job out.
-/
import PgGrants.Converge.DefaultPrivileges
import PgGrants.Converge.Membership
import PgGrants.Converge.SchemaPolicy
import PgGrants.Proofs.Lending

set_option autoImplicit false

namespace PgGrants

/-- Statements to send. -/
structure Job where
  /-- The roles whose rights it takes; none when the connecting role's own are to do. -/
  owners : Option TextSet
  statements : List Statement

section Jobs

variable {σ : Type} [Server σ]

open Session

/-- Sends the statements with the rights they take. -/
def Job.perform (job : Job) : Session σ Unit :=
  match job.owners with
  | some owners => performAs owners job.statements
  | none => performAll job.statements

/-- Carries the job out, if there is one. -/
def Session.carryOut : Option Job → Session σ Unit
  | some job => job.perform
  | none => return

/-! ## Grants -/

namespace DeclaredGrant

/-- The statements that bring the grant about; none when every target is as declared. -/
def syncJob (declared : DeclaredGrant) : Session σ (Option Job) := do
  needRole declared.role
  let rows ← declared.targetRows
  let caps ← Session.capabilities
  if rows.all (declared.isMet caps) then return none
  else return some ⟨some (← declared.owners rows), declared.plan⟩

/-- The statements that take the grant away; none when the role or a target does not exist. -/
def revokeJob (declared : DeclaredGrant) : Session σ (Option Job) := do
  match ← declared.targetRows? with
  | none => return none
  | some rows => return some ⟨some (← declared.owners rows), declared.revokePlan⟩

end DeclaredGrant

/-! ## Default privileges -/

namespace DeclaredDefaults

/-- The statements that bring the default privileges about; none when they are as declared. -/
def syncJob (declared : DeclaredDefaults) : Session σ (Option Job) := do
  declared.needTarget
  let h ← declared.readHolding
  let caps ← Session.capabilities
  if h.isAsDeclared declared.kind declared.privileges declared.grantOption (some caps) then
    return none
  else return some ⟨some (← namedOwners [declared.owner]), declared.plan⟩

/-- The statements that take the default privileges away; none when something does not exist. -/
def revokeJob (declared : DeclaredDefaults) : Session σ (Option Job) := do
  match ← unlessMissing declared.needTarget with
  | none => return none
  | some _ => return some ⟨some (← namedOwners [declared.owner]), declared.revokePlan⟩

end DeclaredDefaults

/-! ## Schema policies -/

namespace DeclaredPolicy

/-- The statements with the rights of the owners, when there is any statement. -/
def jobAsOwners (owners : List (Option String)) (statements : List Statement) :
    Session σ (Option Job) := do
  if statements.isEmpty then return none
  else return some ⟨some (← namedOwners owners), statements⟩

/-- The statements that hand the schema over and bring its policy about. -/
def syncJob (declared : DeclaredPolicy) (previous : Option Policy) : Session σ (Option Job) := do
  match ← declared.readRow? with
  | none => throw (.notFound "schema" declared.schema)
  | some row =>
    unless (declared.ownerPlan row).isEmpty do needRole (declared.owner.getD "")
    let changes ← (declared.diff row previous).plan .schema declared.schema hasRole
    jobAsOwners (declared.owners row) (declared.ownerPlan row ++ changes)

/-- The statements that take the declared policy away; none when the schema does not exist. -/
def revokeJob (declared : DeclaredPolicy) : Session σ (Option Job) := do
  match ← declared.readRow? with
  | none => return none
  | some row =>
    let changes ← (declared.revokeDiff row).plan .schema declared.schema hasRole
    jobAsOwners [row.owner] changes

end DeclaredPolicy

/-! ## Memberships -/

namespace DeclaredMembership

/-- The statements that bring the membership about; none when it is as declared. -/
def syncJob (declared : DeclaredMembership) : Session σ (Option Job) := do
  needRole declared.role
  needRole declared.grantRole
  let observed ← standing declared.role declared.grantRole
  if declared.isMet observed then return none
  else return some ⟨none, declared.plan (some observed)⟩

/-- The statement that ends the membership, when there is one. -/
def revokeJob (declared : DeclaredMembership) : Session σ (Option Job) := do
  let observed ← declared.observe
  if observed.any Standing.isMember then return some ⟨none, [declared.revokeStatement]⟩
  else return none

end DeclaredMembership

/-! ## To find the job is to ask -/

theorem DeclaredGrant.asks_syncJob (declared : DeclaredGrant) :
    Asks (declared.syncJob (σ := σ)) := by
  refine (asks_needRole declared.role).bind fun _ => (asks_targetRows declared).bind fun rows => ?_
  refine (asks_capabilities trivial).bind fun caps => ?_
  exact .ite (.pure none) ((asks_owners declared rows).bind fun _ => .pure _)

theorem DeclaredGrant.asks_revokeJob (declared : DeclaredGrant) :
    Asks (declared.revokeJob (σ := σ)) := by
  refine (asks_targetRows? declared).bind fun rows? => ?_
  cases rows? with
  | none => exact .pure none
  | some rows => exact (asks_owners declared rows).bind fun _ => .pure _

theorem asks_needTarget (declared : DeclaredDefaults) :
    Asks (declared.needTarget (σ := σ)) := by
  refine (asks_needRole declared.role).bind fun _ => (asks_needRole declared.owner).bind fun _ => ?_
  cases declared.schema with
  | none => exact .pure ()
  | some schema => exact asks_needSchema schema

theorem DeclaredDefaults.asks_syncJob (declared : DeclaredDefaults) :
    Asks (declared.syncJob (σ := σ)) := by
  refine (asks_needTarget declared).bind fun _ => ?_
  refine ((asks_defaultPolicy _ _ _).bind fun _ => .pure _).bind fun h => ?_
  refine (asks_capabilities trivial).bind fun caps => ?_
  exact .ite (.pure none) ((asks_namedOwners _).bind fun _ => .pure _)

theorem DeclaredDefaults.asks_revokeJob (declared : DeclaredDefaults) :
    Asks (declared.revokeJob (σ := σ)) := by
  refine (asks_unlessMissing (asks_needTarget declared)).bind fun found => ?_
  cases found with
  | none => exact .pure none
  | some _ => exact (asks_namedOwners _).bind fun _ => .pure _

theorem asks_jobAsOwners (owners : List (Option String)) (statements : List Statement) :
    Asks (DeclaredPolicy.jobAsOwners (σ := σ) owners statements) :=
  .ite (.pure none) ((asks_namedOwners owners).bind fun _ => .pure _)

theorem asks_readRow? (declared : DeclaredPolicy) : Asks (declared.readRow? (σ := σ)) :=
  (asks_aclRows _ _ _).bind fun _ => .pure _

theorem DeclaredPolicy.asks_syncJob (declared : DeclaredPolicy) (previous : Option Policy) :
    Asks (declared.syncJob (σ := σ) previous) := by
  refine (asks_readRow? declared).bind fun row? => ?_
  cases row? with
  | none => exact .throw _
  | some row =>
    -- with or without the question for the new owner, the same follows
    have hrest : Asks (σ := σ) (do
        let changes ← (declared.diff row previous).plan .schema declared.schema hasRole
        DeclaredPolicy.jobAsOwners (declared.owners row) (declared.ownerPlan row ++ changes)) :=
      (asks_plan asks_hasRole _ _ _).bind fun _ => asks_jobAsOwners _ _
    dsimp only
    exact .ite hrest ((asks_needRole _).bind fun _ => hrest)

theorem DeclaredPolicy.asks_revokeJob (declared : DeclaredPolicy) :
    Asks (declared.revokeJob (σ := σ)) := by
  refine (asks_readRow? declared).bind fun row? => ?_
  cases row? with
  | none => exact .pure none
  | some row => exact (asks_plan asks_hasRole _ _ _).bind fun _ => asks_jobAsOwners _ _

theorem asks_observe (declared : DeclaredMembership) : Asks (declared.observe (σ := σ)) :=
  (asks_bothExist _ _).bind fun _ => .ite ((asks_standing _ _).bind fun _ => .pure _) (.pure none)

theorem DeclaredMembership.asks_syncJob (declared : DeclaredMembership) :
    Asks (declared.syncJob (σ := σ)) := by
  refine (asks_needRole _).bind fun _ => (asks_needRole _).bind fun _ => ?_
  exact (asks_standing _ _).bind fun _ => .ite (.pure none) (.pure _)

theorem DeclaredMembership.asks_revokeJob (declared : DeclaredMembership) :
    Asks (declared.revokeJob (σ := σ)) :=
  (asks_observe declared).bind fun _ => .ite (.pure _) (.pure none)

/-! ## To carry a job out -/

/-- To perform a job is to send its statements, perhaps with memberships lent. -/
theorem does_perform_job (job : Job) :
    Does (job.perform (σ := σ)).run fun outcome steps => ∃ lent,
      Lends lent lent.reverse (Sends job.statements) outcome steps := by
  unfold Job.perform
  -- without owners nothing is lent, and the statements stand alone
  cases job.owners with
  | some owners => exact does_asMemberOf (does_performAll job.statements) _
  | none => exact (does_performAll job.statements).mono fun _ _ h => ⟨[], .alone h⟩

/-! ## Every operation carries its job out -/

theorem GrantRequest.sync_eq (r : GrantRequest) :
    r.sync (σ := σ) = (do
      let declared ← Call.ofOutcome (r.check.mapError .invalid)
      Call.needPrivileges declared.kind declared.privileges operation
      Call.holding declared.isShared .write do
        Call.needDatabase declared.database
        Call.inDatabase (some declared.database) do carryOut (← declared.syncJob)
      r.read) := by
  unfold sync
  refine bind_congr fun declared => bind_congr fun _ => ?_
  -- both sides differ only in the work inside the transaction
  refine congrArg (fun work => Call.holding declared.isShared .write (do
    Call.needDatabase declared.database
    Call.inDatabase (some declared.database) work) >>= fun _ => r.read) ?_
  unfold DeclaredGrant.syncJob
  simp only [bind_assoc]
  refine bind_congr fun _ => bind_congr fun rows => bind_congr fun caps => ?_
  cases rows.all (declared.isMet caps) <;> simp [carryOut, Job.perform]

theorem GrantRequest.revoke_eq (r : GrantRequest) :
    r.revoke (σ := σ) = (do
      let declared ← Call.ofOutcome (r.check.mapError .invalid)
      Call.needFeature .privileges operation
      Call.holding declared.isShared .write do
        if ← Call.hasDatabase declared.database then
          Call.inDatabase (some declared.database) do carryOut (← declared.revokeJob)) := by
  unfold revoke
  refine bind_congr fun declared => bind_congr fun _ => ?_
  refine congrArg (fun work => Call.holding declared.isShared .write (do
    if ← Call.hasDatabase declared.database then
      Call.inDatabase (some declared.database) work)) ?_
  unfold DeclaredGrant.revokeJob
  rw [bind_assoc]
  refine bind_congr fun rows? => ?_
  -- nothing found means no job, and to carry out no job does nothing
  cases rows? with
  | none => rfl
  | some rows => rw [bind_assoc]; rfl

theorem DefaultsRequest.sync_eq (r : DefaultsRequest) :
    r.sync (σ := σ) = (do
      let declared ← r.accept
      Call.needDatabase declared.database
      Call.inDatabase (some declared.database) do carryOut (← declared.syncJob)
      r.read) := by
  unfold sync
  refine bind_congr fun declared => bind_congr fun _ => ?_
  refine congrArg (fun work => Call.inDatabase (some declared.database) work >>= fun _ =>
    r.read) ?_
  unfold DeclaredDefaults.syncJob
  -- both sides ask the same questions first; they differ in whether the plan is named or sent
  simp only [bind_assoc]
  refine bind_congr fun _ => bind_congr fun h => bind_congr fun caps => ?_
  cases h.isAsDeclared declared.kind declared.privileges declared.grantOption (some caps) <;>
    simp [carryOut, Job.perform, DeclaredDefaults.performAsOwner]

theorem DefaultsRequest.revoke_eq (r : DefaultsRequest) :
    r.revoke (σ := σ) = (do
      let declared ← r.accept
      if ← Call.hasDatabase declared.database then
        Call.inDatabase (some declared.database) do carryOut (← declared.revokeJob)) := by
  unfold revoke
  refine bind_congr fun declared => ?_
  refine congrArg (fun work : Session σ Unit => (do
    if ← Call.hasDatabase declared.database then
      Call.inDatabase (some declared.database) work)) ?_
  unfold DeclaredDefaults.revokeJob
  rw [bind_assoc]
  refine bind_congr fun found => ?_
  cases found with
  | none => rfl
  | some _ =>
    rw [bind_assoc]
    rfl

/-- To send statements as the owners is to carry out the job that they are. -/
theorem performAsOwners_eq (owners : List (Option String)) (statements : List Statement) :
    DeclaredPolicy.performAsOwners (σ := σ) owners statements =
      (do carryOut (← DeclaredPolicy.jobAsOwners owners statements)) := by
  unfold DeclaredPolicy.performAsOwners DeclaredPolicy.jobAsOwners
  cases statements.isEmpty <;> simp [carryOut, Job.perform]

theorem PolicyRequest.sync_eq (r : PolicyRequest) (previous : Option Policy) :
    r.sync (σ := σ) previous = (do
      let declared ← r.accept
      Call.needDatabase declared.database
      Call.inDatabase (some declared.database) do carryOut (← declared.syncJob previous)
      r.read) := by
  unfold sync
  refine bind_congr fun declared => bind_congr fun _ => ?_
  refine congrArg (fun work => Call.inDatabase (some declared.database) work >>= fun _ =>
    r.read) ?_
  unfold DeclaredPolicy.syncJob
  rw [bind_assoc]
  refine bind_congr fun row? => ?_
  cases row? with
  | none => rfl
  | some row =>
    dsimp only
    simp only [performAsOwners_eq]
    -- the question for the new owner stands in front of the plan, or not
    cases (declared.ownerPlan row).isEmpty <;> simp

theorem PolicyRequest.revoke_eq (r : PolicyRequest) :
    r.revoke (σ := σ) = (do
      let declared ← r.accept
      if ← Call.hasDatabase declared.database then
        Call.inDatabase (some declared.database) do carryOut (← declared.revokeJob)) := by
  unfold revoke
  refine bind_congr fun declared => ?_
  refine congrArg (fun work : Session σ Unit => (do
    if ← Call.hasDatabase declared.database then
      Call.inDatabase (some declared.database) work)) ?_
  unfold DeclaredPolicy.revokeJob
  rw [bind_assoc]
  refine bind_congr fun row? => ?_
  cases row? with
  | none => rfl
  | some row =>
    dsimp only
    rw [bind_assoc]
    exact bind_congr fun changes => performAsOwners_eq _ _

theorem MembershipRequest.sync_eq (r : MembershipRequest) :
    r.sync (σ := σ) = (do
      let declared ← Call.ofOutcome (r.check.mapError .invalid)
      Call.holding true .write do
        Call.inDatabase none do carryOut (← declared.syncJob)
      r.read) := by
  unfold sync
  refine bind_congr fun declared => ?_
  refine congrArg (fun work => Call.holding true .write (Call.inDatabase none work) >>= fun _ =>
    r.read) ?_
  unfold DeclaredMembership.syncJob
  simp only [bind_assoc]
  refine bind_congr fun _ => bind_congr fun _ => bind_congr fun observed => ?_
  -- nothing is sent when the standing is as declared
  cases declared.isMet observed <;> simp [carryOut, Job.perform]

theorem MembershipRequest.revoke_eq (r : MembershipRequest) :
    r.revoke (σ := σ) = (do
      let declared ← Call.ofOutcome (r.check.mapError .invalid)
      Call.holding true .write do
        Call.inDatabase none do carryOut (← declared.revokeJob)) := by
  unfold revoke
  refine bind_congr fun declared => ?_
  refine congrArg (fun work => Call.holding true .write (Call.inDatabase none work)) ?_
  unfold DeclaredMembership.revokeJob
  rw [bind_assoc]
  refine bind_congr fun observed => ?_
  cases observed.any Standing.isMember with
  | false => rfl
  | true => exact (bind_pure_unit).symm

end Jobs

end PgGrants
