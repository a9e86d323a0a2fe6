/-
What grants and default privileges have in common when they are brought about. Both ask for the
features they need, read one entry for each target, compare every entry with what is wanted, and
carry out a plan when one of them differs. Here the two are put under one head, their job is read
off from the entries, and a run is taken apart: it fails before it has read the entries, or it has
read them in its transaction, and then the entries alone decide what is to be sent.
-/
import PgGrants.Proofs.AtomicCommit
import PgGrants.Proofs.Observed

set_option autoImplicit false

namespace PgGrants

/-! ## 1. Grants and default privileges under one head -/

/-- A request for privileges that a role shall have. -/
inductive PrivilegeRequest where
  | grant (r : GrantRequest)
  | defaults (r : DefaultsRequest)

/-- Privileges that a role shall have, by a request that keeps the rules. -/
inductive DeclaredPrivileges where
  | grant (declared : DeclaredGrant)
  | defaults (declared : DeclaredDefaults)

/-- The role's entry on each target, by the access control lists of the targets. -/
def DeclaredGrant.entriesOf (declared : DeclaredGrant) (rows : List AclRow) :
    List (Place × Holding) :=
  rows.map fun row =>
    (.object declared.kind declared.targetSchema row.name, row.policy.holdingOf declared.role)

section Reading

variable {σ : Type} [Server σ]

/-- Reads the targets of a grant to a role that exists. -/
def DeclaredGrant.readTargets (declared : DeclaredGrant) : Session σ (List AclRow) := do
  Session.needRole declared.role
  declared.targetRows

/-- Reads what the role has by default privileges, once all that they are about exists. -/
def DeclaredDefaults.readTarget (declared : DeclaredDefaults) : Session σ Holding := do
  declared.needTarget
  declared.readHolding

end Reading

namespace DeclaredPrivileges

/-- What is wanted of each entry. -/
def wanted : DeclaredPrivileges → Wanted
  | .grant declared => declared.wanted
  | .defaults declared => declared.wanted

/-- The places that the declaration is about. -/
def IsTarget (place : Place) : DeclaredPrivileges → Prop
  | .grant declared => declared.IsTarget place
  | .defaults declared => place = declared.place

/-- The statements that bring it about. -/
def plan : DeclaredPrivileges → List Statement
  | .grant declared => declared.plan
  | .defaults declared => declared.plan

/-- The database with the targets. -/
def database : DeclaredPrivileges → String
  | .grant declared => declared.database
  | .defaults declared => declared.database

/-- The targets are shared by all databases. -/
def isShared : DeclaredPrivileges → Bool
  | .grant declared => declared.isShared
  | .defaults _ => false

/-- The rights of an entry after the plan. -/
def after (declared : DeclaredPrivileges) (caps : Capabilities) (place : Place) (r : Rights) :
    Rights :=
  r.entryAfter caps place declared.wanted.key declared.plan

section Run

variable {σ : Type} [Server σ]

open Session

/-- Complains when the server cannot have such privileges. -/
def needs : DeclaredPrivileges → Call σ Unit
  | .grant declared =>
    Call.needPrivileges declared.kind declared.privileges GrantRequest.operation
  | .defaults declared => declared.needFeatures

/-- Reads the entry of the role on every target. -/
def entries : DeclaredPrivileges → Session σ (List (Place × Holding))
  | .grant declared => do return declared.entriesOf (← declared.readTargets)
  | .defaults declared => do return [(declared.place, ← declared.readTarget)]

/-- The statements to send, if there are any. -/
def syncJob : DeclaredPrivileges → Session σ (Option Job)
  | .grant declared => declared.syncJob
  | .defaults declared => declared.syncJob

theorem asks_syncJob (declared : DeclaredPrivileges) : Asks (declared.syncJob (σ := σ)) := by
  cases declared with
  | grant declared => exact declared.asks_syncJob
  | defaults declared => exact declared.asks_syncJob

end Run

/-- The plan leaves on every target what is wanted, whatever was held before. -/
theorem after_eq (declared : DeclaredPrivileges) {caps : Capabilities} {place : Place}
    (hvalid : declared.wanted.IsValid) (hknown : declared.wanted.IsKnown caps)
    (htarget : declared.IsTarget place) (r : Rights) :
    declared.after caps place r = declared.wanted.rights caps := by
  cases declared with
  | grant declared =>
    exact Wanted.entryAfter_replace hvalid hknown (declared.isChangedBy_statement htarget) r
  | defaults declared =>
    cases htarget
    exact Wanted.entryAfter_replace hvalid hknown declared.isChangedBy_statement r

end DeclaredPrivileges

namespace PrivilegeRequest

/-- What the request declares, when it keeps the rules. -/
def check : PrivilegeRequest → Except Invalid DeclaredPrivileges
  | .grant r => r.check.map .grant
  | .defaults r => r.check.map .defaults

theorem isValid_of_check {request : PrivilegeRequest} {declared : DeclaredPrivileges}
    (h : request.check = .ok declared) : declared.wanted.IsValid := by
  cases request with
  | grant r =>
    obtain ⟨checked, hcheck, rfl⟩ := exists_of_map_eq_ok h
    obtain ⟨_, _, _, -, -, -, -, -, hprivileges, rfl⟩ := GrantRequest.exists_of_check hcheck
    exact Wanted.isValid_of_check hprivileges
  | defaults r =>
    obtain ⟨checked, hcheck, rfl⟩ := exists_of_map_eq_ok h
    obtain ⟨_, _, _, _, -, -, -, -, -, hprivileges, rfl⟩ := DefaultsRequest.exists_of_check hcheck
    exact Wanted.isValid_of_check hprivileges

section Run

variable {σ : Type} [Server σ]

/-- Reads back; what is read is of no matter here. -/
def readBack : PrivilegeRequest → Call σ Unit
  | .grant r => do let _ ← r.read
  | .defaults r => do let _ ← r.read

/-- Brings about what the request asks for; what is read back is of no matter here. -/
def sync : PrivilegeRequest → Call σ Unit
  | .grant r => do let _ ← r.sync
  | .defaults r => do let _ ← r.sync

theorem inquires_readBack (request : PrivilegeRequest) :
    Inquires (fun _ => True) (request.readBack (σ := σ)) := by
  cases request with
  | grant r => exact (inquires_grant_read r).bind fun _ => .pure ()
  | defaults r => exact (inquires_defaults_read r).bind fun _ => .pure ()

/-- Both kinds of request are brought about in the same way. -/
theorem sync_eq {request : PrivilegeRequest} {declared : DeclaredPrivileges}
    (h : request.check = .ok declared) :
    request.sync (σ := σ) = (do
      declared.needs
      Call.holding declared.isShared .write do
        Call.needDatabase declared.database
        Call.inDatabase (some declared.database) do Session.carryOut (← declared.syncJob)
      request.readBack) := by
  cases request with
  | grant r =>
    obtain ⟨checked, hcheck, rfl⟩ := exists_of_map_eq_ok h
    rw [sync, r.sync_eq, hcheck]
    simp only [bind_assoc]
    rfl
  | defaults r =>
    obtain ⟨checked, hcheck, rfl⟩ := exists_of_map_eq_ok h
    rw [sync, r.sync_eq, DefaultsRequest.accept, hcheck]
    -- default privileges are not shared, so no lock stands around the work
    have hunshared (work : Call σ Unit) : Call.holding false .write work = work := rfl
    simp only [DeclaredPrivileges.isShared, hunshared, bind_assoc, pure_bind]
    rfl

end Run

end PrivilegeRequest

/-! ## 2. The entries decide

A call reads entries and tests them. `Decides` says that this test is all there is: the job is
nothing exactly when every entry holds what is wanted. It is proved once for any reading, and grants
and default privileges only name what they read. -/

section Decides

variable {σ : Type} [Server σ]

open Session

/-- The job follows from the entries. There is none when every entry is as wanted, and otherwise it
is the plan; who has to be asked for it is found out then. -/
@[mk_iff]
structure Decides (wanted : Wanted) (plan : List Statement) (caps : Capabilities)
    (entries : Session σ (List (Place × Holding))) (lookUp : Session σ (Option Job))
    (start : Connection σ) : Prop where
  fails : ∀ error, (entries.exec start).1 = .error error → (lookUp.exec start).1 = .error error
  concrete : ∀ found, (entries.exec start).1 = .ok found → ∀ entry ∈ found, entry.2.IsConcrete
  nothing : ∀ found, (entries.exec start).1 = .ok found →
    (∀ entry ∈ found, wanted.isMetBy caps entry.2 = true) → (lookUp.exec start).1 = .ok none
  something : ∀ found, (entries.exec start).1 = .ok found →
    (¬∀ entry ∈ found, wanted.isMetBy caps entry.2 = true) → ∀ job?,
      (lookUp.exec start).1 = .ok job? → ∃ owners, job? = some ⟨owners, plan⟩

/-- Something is read that has one entry for each target, and the entries are compared. -/
theorem decides_of_read {ρ : Type} {wanted : Wanted} {plan : List Statement} {caps : Capabilities}
    {read : Session σ ρ} {view : ρ → List (Place × Holding)} (owners : ρ → Session σ TextSet)
    (hread : Observes caps read fun r => ∀ entry ∈ view r, entry.2.IsConcrete)
    {start : Connection σ} (hstart : start.Knows caps) :
    Decides wanted plan caps (do return view (← read)) (do
      let r ← read
      let known ← Session.capabilities
      if (view r).all fun entry => wanted.isMetBy known entry.2 then return none
      else return some ⟨some (← owners r), plan⟩) start := by
  obtain ⟨hknows, hconcrete⟩ := hread start hstart
  cases hexec : read.exec start with
  | mk outcome c =>
    rw [hexec] at hknows hconcrete
    -- a reading that fails lets both sides fail, with the same error
    cases outcome with
    | error cause =>
      rw [decides_iff, exec_bind_error hexec, exec_bind_error hexec]
      refine ⟨fun error h => ?_, ?_, ?_, ?_⟩
      · rw [Except.error.inj h]
      all_goals
        intro found h
        cases h
    | ok r =>
      rw [decides_iff, exec_bind_ok hexec, exec_bind_ok hexec, exec_pure,
        exec_bind_ok (exec_capabilities_of_knows hknows)]
      refine ⟨fun _ h => (nomatch h), fun found h => ?_, fun found h hmet => ?_,
        fun found h hunmet job? hjob => ?_⟩
      · cases h
        exact hconcrete r rfl
      · cases h
        rw [if_pos (List.all_eq_true.2 hmet), exec_pure]
      · cases h
        rw [if_neg fun hall => hunmet (List.all_eq_true.1 hall)] at hjob
        -- an unmet entry leads to the question for the owners, which may fail, and else to a job
        cases howners : (owners r).exec c with
        | mk outcome c' =>
          cases outcome with
          | error cause =>
            rw [exec_bind_error howners] at hjob
            cases hjob
          | ok names =>
            rw [exec_bind_ok howners, exec_pure] at hjob
            cases hjob
            exact ⟨_, rfl⟩

theorem DeclaredPrivileges.decides (declared : DeclaredPrivileges) {caps : Capabilities}
    {start : Connection σ} (hstart : start.Knows caps) :
    Decides declared.wanted declared.plan caps declared.entries declared.syncJob start := by
  cases declared with
  | grant declared =>
    have hread : Observes caps (declared.readTargets (σ := σ)) fun rows =>
        ∀ entry ∈ declared.entriesOf rows, entry.2.IsConcrete := by
      refine (observes_needRole _).bind fun _ _ => (observes_targetRows declared).mono ?_
      intro rows hrows entry hentry
      obtain ⟨row, hrow, rfl⟩ := List.mem_map.1 hentry
      exact Policy.isConcrete_holdingOf (hrows row hrow) _
    -- the job, with the test written over the entries
    have hjob : declared.syncJob (σ := σ) = (do
        let rows ← declared.readTargets
        let known ← Session.capabilities
        if (declared.entriesOf rows).all fun entry => declared.wanted.isMetBy known entry.2 then
          return none
        else return some ⟨some (← declared.owners rows), declared.plan⟩) := by
      unfold DeclaredGrant.syncJob DeclaredGrant.readTargets
      rw [bind_assoc]
      refine bind_congr fun _ => bind_congr fun rows => bind_congr fun known => ?_
      rw [DeclaredGrant.entriesOf, List.all_map]
      rfl
    unfold syncJob
    dsimp only
    rw [hjob]
    exact decides_of_read declared.owners hread hstart
  | defaults declared =>
    have hread : Observes caps (declared.readTarget (σ := σ)) fun h =>
        ∀ entry ∈ [(declared.place, h)], entry.2.IsConcrete := by
      refine (observes_needTarget _).bind fun _ _ => (observes_readHolding declared).mono ?_
      intro h hconcrete
      exact List.forall_mem_singleton.2 hconcrete
    have hjob : declared.syncJob (σ := σ) = (do
        let h ← declared.readTarget
        let known ← Session.capabilities
        if [(declared.place, h)].all fun entry => declared.wanted.isMetBy known entry.2 then
          return none
        else return some ⟨some (← namedOwners [declared.owner]), declared.plan⟩) := by
      unfold DeclaredDefaults.syncJob DeclaredDefaults.readTarget
      rw [bind_assoc]
      refine bind_congr fun _ => bind_congr fun h => bind_congr fun known => ?_
      rw [List.all_cons, List.all_nil, Bool.and_true]
      rfl
    unfold syncJob
    dsimp only
    rw [hjob]
    exact decides_of_read (fun _ => namedOwners [declared.owner]) hread hstart

end Decides

/-! ## 3. What the server must know

Only MAINTAIN came with a version. A call that is accepted has passed the gate for it, so whatever
is wanted is a privilege that the server knows. -/

section Needs

variable {σ α β : Type}

/-- A call that succeeds leaves known that the server can do something. -/
def Secures (good : Capabilities → Prop) (call : Call σ α) : Prop :=
  ∀ c a c', call.exec c = (.ok a, c') → ∃ caps, c'.capabilities = some caps ∧ good caps

section Secures

variable {good : Capabilities → Prop}

theorem Secures.mono {good' : Capabilities → Prop} {call : Call σ α} (h : Secures good call)
    (himp : ∀ caps, good caps → good' caps) : Secures good' call := by
  intro c a c' hexec
  obtain ⟨caps, hcaps, hgood⟩ := h c a c' hexec
  exact ⟨caps, hcaps, himp caps hgood⟩

/-- What was made sure of at the end holds. -/
theorem Secures.bind {call : Call σ α} {next : α → Call σ β} (hnext : ∀ a, Secures good (next a)) :
    Secures good (call >>= next) := by
  intro c b c' hexec
  rw [Call.exec_bind] at hexec
  split at hexec
  · exact hnext _ _ _ _ hexec
  · cases hexec

/-- What was made sure of at the beginning is not forgotten. -/
theorem Secures.before [Server σ] {call : Call σ α} {next : α → Call σ β}
    (hcall : Secures good call) (hnext : ∀ a, Inquires Query.IsPreliminary (next a)) :
    Secures good (call >>= next) := by
  intro c b c' hexec
  rw [Call.exec_bind] at hexec
  -- what follows only inquires, and keeps what is known
  split at hexec
  · rename_i a c₁ hfirst
    obtain ⟨caps, hcaps, hgood⟩ := hcall c a c₁ hfirst
    obtain ⟨outcome, steps, c₂, hrun, -⟩ := hnext a c₁
    rw [hrun.exec] at hexec
    cases hexec
    exact ⟨caps, hrun.known caps hcaps, hgood⟩
  · cases hexec

end Secures

variable [Server σ]

open Call

theorem secures_needFeature (feature : Feature) (operation : String) :
    Secures (fun caps => caps.supports feature = true)
      (needFeature feature operation : Call σ Unit) := by
  intro c a c' hexec
  unfold needFeature at hexec
  obtain ⟨outcome, steps, c₁, hrun, -, hknown⟩ := runs_capabilities c
  -- to pass the gate is to have found the capabilities, and the feature among them
  cases outcome with
  | error error =>
    rw [exec_bind_error hrun.exec] at hexec
    cases hexec
  | ok caps =>
    rw [exec_bind_ok hrun.exec, (Runs.ofOutcome _ c₁).exec] at hexec
    obtain ⟨hneed, rfl⟩ := Prod.mk.inj hexec
    refine ⟨caps, hknown caps rfl, ?_⟩
    by_contra hunsupported
    rw [Capabilities.need, if_neg hunsupported] at hneed
    cases hneed

/-- Privileges that were not complained about are known to the server. -/
theorem secures_needPrivileges (kind : ObjectKind) (privileges : TextSet) (operation : String) :
    Secures (fun caps => "MAINTAIN" ∈ privileges → caps.supports .maintainPrivilege = true)
      (needPrivileges kind privileges operation : Call σ Unit) := by
  unfold needPrivileges
  -- the gate for MAINTAIN comes last
  by_cases hmaintain : privileges.contains "MAINTAIN" = true
  · have hlast := (secures_needFeature (σ := σ) .maintainPrivilege "The MAINTAIN privilege").mono
      fun _ h (_ : "MAINTAIN" ∈ privileges) => h
    refine .bind fun _ => ?_
    rw [if_pos hmaintain]
    dsimp only
    split
    · exact .bind fun _ => hlast
    · exact hlast
  · have hnone : "MAINTAIN" ∉ privileges := fun h => hmaintain (TextSet.contains_iff.2 h)
    rw [if_neg hmaintain]
    refine ((secures_needFeature .privileges operation).mono fun _ _ h => absurd h hnone).before
      (fun _ => ?_)
    dsimp only
    exact .ite ((inquires_needFeature _ _).bind fun _ => .pure ()) (.pure ())

namespace DeclaredPrivileges

theorem inquires_needs (declared : DeclaredPrivileges) :
    Inquires Query.IsPreliminary (declared.needs (σ := σ)) := by
  cases declared with
  | grant declared => exact inquires_needPrivileges _ _ _
  | defaults declared => exact inquires_needFeatures declared

theorem secures_needs (declared : DeclaredPrivileges) :
    Secures declared.wanted.IsKnown (declared.needs (σ := σ)) := by
  cases declared with
  | grant declared => exact secures_needPrivileges _ _ _
  | defaults declared =>
    exact (secures_needPrivileges _ _ _).before fun _ =>
      Inquires.ite (inquires_needFeature _ _) (.pure ())

/-- On a client that knows the server, what is needed is what this server knows. -/
theorem isKnown_of_needs (declared : DeclaredPrivileges) {caps : Capabilities} {c : Client σ}
    (hc : c.capabilities = some caps) (h : (declared.needs.exec c).1 = .ok ()) :
    declared.wanted.IsKnown caps := by
  obtain ⟨outcome, steps, c', hrun, -⟩ := declared.inquires_needs c
  rw [hrun.exec] at h
  cases h
  obtain ⟨known, hknown, hgood⟩ := declared.secures_needs c () c' hrun.exec
  rw [hrun.known caps hc] at hknown
  cases hknown
  exact hgood

end DeclaredPrivileges

end Needs

end PgGrants
