/-
Memberships: bringing one about, reading it back, and ending it. All databases share memberships, so
each operation holds the lock.
-/
import PgGrants.Converge.Requirement

set_option autoImplicit false

namespace PgGrants

/-- A membership that was found. -/
structure MembershipReport where
  role : String
  grantRole : String
  adminOption : Bool

/-- The identifier of the membership. -/
def MembershipReport.id (state : MembershipReport) : String :=
  Identifier.membership state.role state.grantRole state.adminOption

namespace DeclaredMembership

variable {σ : Type} [Server σ]

/-- The membership is there, with the admin option as declared. -/
def isMet (declared : DeclaredMembership) (observed : Standing) : Bool :=
  observed.isMember && declared.adminOption.given.equalsBool observed.adminOption

/-- The membership as it is, when both roles exist. -/
def observe (declared : DeclaredMembership) : Session σ (Option Standing) := do
  if ← Session.bothExist declared.role declared.grantRole then
    return some (← Session.standing declared.role declared.grantRole)
  else return none

/-- The state to report; nothing when there is no membership. -/
def state (declared : DeclaredMembership) (observed : Option Standing) : Option MembershipReport :=
  match observed with
  | some ⟨true, adminOption⟩ => some ⟨declared.role, declared.grantRole, adminOption⟩
  | _ => none

end DeclaredMembership

namespace MembershipRequest

variable {σ : Type} [Server σ]

/-- Reads the membership; nothing when there is none or a role does not exist. -/
def read (r : MembershipRequest) : Call σ (Option MembershipReport) := do
  let declared ← Call.ofOutcome (r.check.mapError .invalid)
  let observed ← Call.holding true .read (Call.inDatabase none declared.observe)
  return declared.state observed

/-- Brings the membership about and reads it back. Nothing is sent when it is as declared. -/
def sync (r : MembershipRequest) : Call σ (Option MembershipReport) := do
  let declared ← Call.ofOutcome (r.check.mapError .invalid)
  Call.holding true .write do
    Call.inDatabase none do
      Session.needRole declared.role
      Session.needRole declared.grantRole
      let observed ← Session.standing declared.role declared.grantRole
      unless declared.isMet observed do Session.performAll (declared.plan (some observed))
  r.read

/-- Ends the membership, if there is one. -/
def revoke (r : MembershipRequest) : Call σ Unit := do
  let declared ← Call.ofOutcome (r.check.mapError .invalid)
  Call.holding true .write do
    Call.inDatabase none do
      let observed ← declared.observe
      if observed.any Standing.isMember then Session.perform declared.revokeStatement

end MembershipRequest

end PgGrants
