/-
What is sent was planned. Every statement that an operation on rights sends comes from the plan that
its look-up made, on the connection on which it was made. For grants and default privileges the plan
is the one that the declaration has; for a schema policy it takes away what the schema, or the
previous policy, had before, and gives what is declared.
-/
import PgGrants.Proofs.Operations

set_option autoImplicit false

namespace PgGrants

/-! ## 1. What work gives -/

section Gives

variable {σ α β : Type} {good : α → Prop}

/-- From whatever connection it starts, the work gives nothing but what has the property. -/
def Gives (work : Session σ α) (good : α → Prop) : Prop :=
  ∀ c a, (work.exec c).1 = .ok a → good a

namespace Gives

theorem pure {a : α} (h : good a) : Gives (Pure.pure a : Session σ α) good := by
  intro c b hb
  rw [← Except.ok.inj hb]
  exact h

theorem bind {first : β → Prop} {work : Session σ β} {next : β → Session σ α}
    (h : Gives work first) (hnext : ∀ b, first b → Gives (next b) good) :
    Gives (work >>= next) good := by
  intro c a ha
  obtain ⟨b, c₁, hwork, hrest⟩ := Session.exec_bind_eq_ok (Prod.ext ha rfl)
  exact hnext b (h c b (congrArg Prod.fst hwork)) c₁ a (congrArg Prod.fst hrest)

/-- What comes first is of no matter. -/
theorem after {work : Session σ β} {next : β → Session σ α} (hnext : ∀ b, Gives (next b) good) :
    Gives (work >>= next) good := by
  have hwork : Gives work fun _ => True := fun _ _ _ => trivial
  exact hwork.bind fun b _ => hnext b

theorem ite {p : Prop} [Decidable p] {work other : Session σ α} (h : Gives work good)
    (h' : Gives other good) : Gives (if p then work else other) good := by
  split
  · exact h
  · exact h'

end Gives

end Gives

/-! ## 2. Plans -/

variable {σ : Type} [Server σ]

/-- The statements of the job, when there is one, are these. -/
def Job.Has (statements : List Statement) (job? : Option Job) : Prop :=
  ∀ job ∈ job?, job.statements = statements

omit [Server σ] in
theorem Job.Has.none (statements : List Statement) : Job.Has statements none :=
  fun _ h => nomatch h

theorem Job.Has.some (owners : Option TextSet) (statements : List Statement) :
    Job.Has statements (some ⟨owners, statements⟩) := by
  intro job hjob
  cases hjob
  rfl

theorem DeclaredGrant.gives_syncJob (declared : DeclaredGrant) :
    Gives (declared.syncJob (σ := σ)) (Job.Has declared.plan) :=
  .after fun _ => .after fun _ => .after fun _ =>
    .ite (.pure (.none _)) (.after fun _ => .pure (.some _ _))

theorem DeclaredGrant.gives_revokeJob (declared : DeclaredGrant) :
    Gives (declared.revokeJob (σ := σ)) (Job.Has declared.revokePlan) := by
  refine .after fun rows? => ?_
  cases rows? with
  | none => exact .pure (.none _)
  | some rows => exact .after fun _ => .pure (.some _ _)

theorem DeclaredDefaults.gives_syncJob (declared : DeclaredDefaults) :
    Gives (declared.syncJob (σ := σ)) (Job.Has declared.plan) :=
  .after fun _ => .after fun _ => .after fun _ =>
    .ite (.pure (.none _)) (.after fun _ => .pure (.some _ _))

theorem DeclaredDefaults.gives_revokeJob (declared : DeclaredDefaults) :
    Gives (declared.revokeJob (σ := σ)) (Job.Has declared.revokePlan) := by
  refine .after fun found => ?_
  cases found with
  | none => exact .pure (.none _)
  | some _ => exact .after fun _ => .pure (.some _ _)

/-- Of the dropped holdings some are still there. -/
theorem gives_stillThere (l : List Holding) :
    Gives (PolicyDelta.stillThere (Session.hasRole (σ := σ)) l) (· ⊆ l) := by
  induction l with
  | nil => exact .pure (List.Subset.refl [])
  | cons h rest ih =>
    -- roles are only left out, never added
    have hrest (kept : Bool) : Gives (do
        let others ← PolicyDelta.stillThere (Session.hasRole (σ := σ)) rest
        return if kept then h :: others else others) (· ⊆ h :: rest) := by
      refine ih.bind fun others hothers => .pure ?_
      cases kept with
      | true => exact List.cons_subset_cons h hothers
      | false => exact List.Subset.trans hothers (List.subset_cons_self h rest)
    unfold PolicyDelta.stillThere
    exact .ite (.after hrest) (.after hrest)

/-- The statements lead from the one policy to the other, but may leave out what is taken away from
roles that are no longer there. -/
def PolicyDelta.Leads (delta : PolicyDelta) (name : Option String) (statements : List Statement) :
    Prop :=
  ∃ dropped, dropped ⊆ delta.dropped ∧
    statements = { delta with dropped := dropped }.statements .schema name

theorem PolicyDelta.gives_plan (delta : PolicyDelta) (name : Option String) :
    Gives (delta.plan .schema name (Session.hasRole (σ := σ))) (delta.Leads name) :=
  (gives_stillThere delta.dropped).bind fun dropped hdropped => .pure ⟨dropped, hdropped, rfl⟩

/-- Without a statement there is no job, and otherwise it has just these. -/
theorem gives_jobAsOwners (owners : List (Option String)) (statements : List Statement) :
    Gives (DeclaredPolicy.jobAsOwners (σ := σ) owners statements)
      (·.elim [] Job.statements = statements) := by
  unfold DeclaredPolicy.jobAsOwners
  by_cases hempty : statements.isEmpty = true
  · rw [if_pos hempty]
    exact .pure (List.isEmpty_iff.1 hempty).symm
  · rw [if_neg hempty]
    exact .after fun _ => .pure rfl

namespace DeclaredPolicy

/-- The look-up of the schema on this connection finds the row. -/
def FindsRow (declared : DeclaredPolicy) (start : Connection σ) (row : AclRow) : Prop :=
  (declared.readRow?.exec start).1 = .ok (some row)

theorem exists_changes_of_syncJob (declared : DeclaredPolicy) {previous : Option Policy}
    {start : Connection σ} {job? : Option Job}
    (h : ((declared.syncJob previous).exec start).1 = .ok job?) :
    ∃ row changes, declared.FindsRow start row ∧
      (declared.diff row previous).Leads declared.schema changes ∧
      job?.elim [] Job.statements = declared.ownerPlan row ++ changes := by
  obtain ⟨row?, c₁, hread, hrest⟩ := Session.exec_bind_eq_ok (Prod.ext h rfl)
  cases row? with
  | none => cases hrest
  | some row =>
    -- the plan is made of the delta of the row, less the roles that are gone
    have hgives : Gives (σ := σ) (do
        let changes ← (declared.diff row previous).plan .schema declared.schema Session.hasRole
        jobAsOwners (declared.owners row) (declared.ownerPlan row ++ changes)) fun job? =>
          ∃ changes, (declared.diff row previous).Leads declared.schema changes ∧
            job?.elim [] Job.statements = declared.ownerPlan row ++ changes :=
      ((declared.diff row previous).gives_plan declared.schema).bind
        fun changes hchanges c job? h => ⟨changes, hchanges, gives_jobAsOwners _ _ c job? h⟩
    -- a declared owner is looked up first, which changes nothing about the plan
    have hall : Gives (σ := σ) (do
        unless (declared.ownerPlan row).isEmpty do Session.needRole (declared.owner.getD "")
        let changes ← (declared.diff row previous).plan .schema declared.schema Session.hasRole
        jobAsOwners (declared.owners row) (declared.ownerPlan row ++ changes)) fun job? =>
          ∃ changes, (declared.diff row previous).Leads declared.schema changes ∧
            job?.elim [] Job.statements = declared.ownerPlan row ++ changes := by
      dsimp only
      exact .ite hgives (.after fun _ => hgives)
    obtain ⟨changes, hchanges, hjob⟩ := hall c₁ _ (congrArg Prod.fst hrest)
    exact ⟨row, changes, congrArg Prod.fst hread, hchanges, hjob⟩

theorem exists_row_of_syncJob (declared : DeclaredPolicy) {previous : Option Policy}
    {start : Connection σ} {job : Job}
    (h : ((declared.syncJob previous).exec start).1 = .ok (some job)) :
    ∃ row changes, declared.FindsRow start row ∧
      (declared.diff row previous).Leads declared.schema changes ∧
      job.statements = declared.ownerPlan row ++ changes :=
  declared.exists_changes_of_syncJob h

theorem exists_row_of_revokeJob (declared : DeclaredPolicy) {start : Connection σ} {job : Job}
    (h : (declared.revokeJob.exec start).1 = .ok (some job)) :
    ∃ row, declared.FindsRow start row ∧
      (declared.revokeDiff row).Leads declared.schema job.statements := by
  obtain ⟨row?, c₁, hread, hrest⟩ := Session.exec_bind_eq_ok (Prod.ext h rfl)
  cases row? with
  | none => cases hrest
  | some row =>
    have hgives : Gives (σ := σ) (do
        let changes ← (declared.revokeDiff row).plan .schema declared.schema Session.hasRole
        jobAsOwners [row.owner] changes) fun job? =>
          ∃ changes, (declared.revokeDiff row).Leads declared.schema changes ∧
            job?.elim [] Job.statements = changes :=
      ((declared.revokeDiff row).gives_plan declared.schema).bind fun changes hchanges c job? h =>
        ⟨changes, hchanges, gives_jobAsOwners _ _ c job? h⟩
    obtain ⟨changes, hchanges, rfl⟩ := hgives c₁ _ (congrArg Prod.fst hrest)
    exact ⟨row, congrArg Prod.fst hread, hchanges⟩

end DeclaredPolicy

/-! ## 3. What is sent

Every statement that an operation sends is one of the plan that its look-up has come to. All other
steps carry no statement: the ways to the server and back, questions, and joining the owners. -/

theorem DeclaredGrant.asks_find (declared : DeclaredGrant) : Asks (declared.find (σ := σ)) := by
  refine (asks_targetRows? declared).bind fun rows? => ?_
  cases rows? with
  | none => exact .pure none
  | some rows => exact (asks_capabilities trivial).bind fun _ => .pure _

theorem DeclaredDefaults.asks_find (declared : DeclaredDefaults) :
    Asks (declared.find (σ := σ)) := by
  refine (asks_unlessMissing (asks_needTarget declared)).bind fun found => ?_
  cases found with
  | none => exact .pure none
  | some _ => exact ((asks_defaultPolicy _ _ _).bind fun _ => .pure _).bind fun _ => .pure _

namespace DeclaredRights

/-- The statements of the plan. For a schema policy they depend on what there is, and none is told
beforehand. -/
def statements : Verb → DeclaredRights → List Statement
  | .sync, .grant declared => declared.plan
  | .revoke, .grant declared => declared.revokePlan
  | .sync, .defaults declared => declared.plan
  | .revoke, .defaults declared => declared.revokePlan
  | _, _ => []

/-- The look-up of the statements to send; to read sends none. -/
def job : Verb → DeclaredRights → Session σ (Option Job)
  | .sync, declared => declared.syncJob
  | .revoke, declared => declared.revokeJob
  | .read, _ => return none

theorem asks_syncJob (declared : DeclaredRights) : Asks (declared.syncJob (σ := σ)) := by
  cases declared with
  | grant declared => exact declared.asks_syncJob
  | defaults declared => exact declared.asks_syncJob
  | policy declared previous => exact declared.asks_syncJob previous

theorem asks_revokeJob (declared : DeclaredRights) : Asks (declared.revokeJob (σ := σ)) := by
  cases declared with
  | grant declared => exact declared.asks_revokeJob
  | defaults declared => exact declared.asks_revokeJob
  | policy declared => exact declared.asks_revokeJob

open Call

theorem writesTo_bringAbout (declared : DeclaredRights) :
    WritesTo ⟨some declared.database, declared.syncJob⟩ (declared.bringAbout (σ := σ)) :=
  .holding _ _ (.bind (inquires_needDatabase _) fun _ => .inDatabase declared.asks_syncJob _)

theorem writesTo_takeAway (declared : DeclaredRights) :
    WritesTo ⟨some declared.database, declared.revokeJob⟩ (declared.takeAway (σ := σ)) :=
  .holding _ _ (.bind (inquires_hasDatabase _) fun _ =>
    .ite (.inDatabase declared.asks_revokeJob _))

theorem inquires_readBack (declared : DeclaredRights) :
    Inquires (fun _ => True) (declared.readBack (σ := σ)) := by
  -- a database that is not there is not read
  have hthere {α : Type} {look : Call σ (Option α)} (database : String)
      (h : Inquires (fun _ => True) look) :
      Inquires (fun _ => True) (Call.whenThere database look) :=
    (inquires_hasDatabase database).anything.bind fun _ => .ite h (.pure none)
  cases declared with
  | grant declared =>
    exact (Inquires.holding _ _ (hthere _ (inquires_lookUp declared.asks_find _))).bind
      fun _ => .pure _
  | defaults declared =>
    exact (hthere _ (inquires_lookUp declared.asks_find _)).bind fun _ => .pure _
  | policy declared previous =>
    exact (hthere _ ((inquires_lookUp (asks_readRow? declared) _).bind fun _ => .pure _)).bind
      fun _ => .pure _

theorem inquires_needAll (gates : List Gate) :
    Inquires Query.IsPreliminary (needAll gates : Call σ Unit) := by
  induction gates with
  | nil => exact .pure ()
  | cons gate rest ih => exact (inquires_needFeature _ _).bind fun _ => ih

end DeclaredRights

/-- A call that only asks writes nothing, wherever that would be. -/
theorem WritesThenReads.ofInquires {α : Type} {call : Call σ α} {target : Target σ}
    (h : Inquires (fun _ => True) call) : WritesThenReads target call := by
  intro c
  obtain ⟨outcome, steps, c', hrun, hmute⟩ := h c
  exact ⟨outcome, .ok (), [], steps, c', hrun, .notConnected .nil, hmute.idle, fun _ h => nomatch h⟩

open Call in
/-- An operation writes what its look-up has planned. -/
theorem DeclaredRights.writesThenReads (declared : DeclaredRights) (verb : Verb) :
    WritesThenReads ⟨some declared.database, declared.job verb⟩
      (do needAll (declared.gates verb); declared.body (σ := σ) verb) := by
  refine .bind (inquires_needAll _) fun _ => ?_
  cases verb with
  | sync =>
    exact .read declared.writesTo_bringAbout
      ((inquires_needAll _).anything.bind fun _ => declared.inquires_readBack)
  | read => exact .ofInquires declared.inquires_readBack
  | revoke => exact .read declared.writesTo_takeAway (.pure _)

omit [Server σ] in
/-- However a transaction is ended, what was sent in it was planned. -/
theorem Concludes.mem_planned {lookUp : Session σ (Option Job)} {start : Connection σ}
    {work : List Step} {mark : Boundary} (h : Concludes lookUp start work mark) {step : Step}
    (hstep : step ∈ work) {statement : Statement} (hsent : step.statement? = some statement) :
    statement ∈ planned lookUp start := by
  cases h with
  | nothing _ hidle _ =>
    rw [hidle.silent step hstep] at hsent
    cases hsent
  | interrupted hprefix _ =>
    exact hprefix.subset (List.mem_filterMap.2 ⟨step, hstep, hsent⟩)
  | complete hjob hidle hbefore hall hafter _ _ =>
    unfold planned
    rw [hjob]
    -- before the statements, among them, or after them
    rcases List.mem_append.1 hstep with hstep | hstep
    · rw [hidle.silent step hstep] at hsent
      cases hsent
    rcases List.mem_append.1 hstep with hstep | hstep
    · rcases List.mem_append.1 hstep with hstep | hstep
      · rw [hbefore step hstep] at hsent
        cases hsent
      · have hmem : some statement ∈ _ := List.mem_map.2 ⟨step, hstep, hsent⟩
        rw [hall] at hmem
        obtain ⟨planned, hplanned, heq⟩ := List.mem_map.1 hmem
        cases heq
        exact hplanned
    · rw [hafter step hstep] at hsent
      cases hsent

/-- What was sent in the one transaction was planned where its work started. -/
theorem OneTransaction.mem_planned {target : Target σ} {c c' : Client σ}
    {written : Except Error Unit} {steps : List Step} (h : OneTransaction target c c' written steps)
    {step : Step} (hstep : step ∈ steps) {statement : Statement}
    (hsent : step.statement? = some statement) :
    ∃ before rest start, steps = before ++ rest ∧ Follows c.server before start.server ∧
      statement ∈ planned target.lookUp start := by
  -- a step with a statement is none of those that carry nothing
  have hother {others : List Step} (hsilent : Silent others) (hmem : step ∈ others) : False := by
    rw [hsilent step hmem] at hsent
    cases hsent
  cases h with
  | unreached hmute => exact (hother hmute.idle.silent hstep).elim
  | @reached _ before work after start mark failure hopens _ _ hconcludes _ hafter =>
    have hwork : step ∈ work := by
      rcases List.mem_append.1 hstep with hstep | hstep
      · rcases List.mem_append.1 hstep with hstep | hstep
        · rcases List.mem_append.1 hstep with hstep | hstep
          · refine (hother (hopens.mute.idle.silent.append ?_) hstep).elim
            exact List.forall_mem_cons.2 ⟨rfl, List.forall_mem_singleton.2 rfl⟩
          · exact hstep
        · refine (hother ?_ hstep).elim
          exact List.forall_mem_cons.2 ⟨rfl, List.forall_mem_singleton.2 rfl⟩
      · refine (hother (fun step hstep => ?_) hstep).elim
        rw [Step.statement?, hafter step hstep]
        rfl
    refine ⟨_, work ++ ([⟨.boundary mark, failure⟩, ⟨.close, none⟩] ++ after), start, ?_,
      hopens.server, hconcludes.mem_planned hwork hsent⟩
    simp only [List.append_assoc]

/-- What an operation sends was planned on the connection on which it looked things up. -/
theorem RightsRequest.runs_planned {request : RightsRequest} {declared : DeclaredRights}
    (h : request.check = .ok declared) (verb : Verb) (c : Client σ) :
    ∃ outcome steps c', Runs (request.run verb) c outcome steps c' ∧
      ∀ step ∈ steps, ∀ statement, step.statement? = some statement →
        ∃ before rest start, steps = before ++ rest ∧ Follows c.server before start.server ∧
          statement ∈ planned (declared.job verb) start := by
  rw [request.run_eq h verb]
  obtain ⟨outcome, written, first, rest, c', hrun, hconnects, hidle, -⟩ :=
    declared.writesThenReads verb c
  refine ⟨outcome, first ++ rest, c', hrun, fun step hstep statement hsent => ?_⟩
  -- reading back sends nothing, so the statement is from the part before
  rcases List.mem_append.1 hstep with hstep | hstep
  · obtain ⟨before, others, start, heq, hserver, hplanned⟩ :=
      hconnects.oneTransaction.mem_planned hstep hsent
    refine ⟨before, others ++ rest, start, ?_, hserver, hplanned⟩
    rw [heq, List.append_assoc]
  · rw [hidle.silent step hstep] at hsent
    cases hsent

end PgGrants
