/-
Atomic commit. Everything that a write operation sends to change who may do what lies in one
transaction on one connection. The transaction is committed only when there was nothing to do, or
when the whole plan was sent in its order and accepted and every membership lent for it was taken
back. In every other case it is rolled back, nothing of the plan is sent after a failure, and the
operation fails.
-/
import PgGrants.Proofs.Connecting
import PgGrants.Proofs.Jobs

set_option autoImplicit false

namespace PgGrants

variable {σ α : Type} [Server σ]

/-! ## Nothing is sent after a failure -/

/-- After something failed no planned statement is sent. -/
abbrev Stops (steps : List Step) : Prop :=
  steps.Pairwise fun step later => step.failure ≠ none → later.statement? = none

theorem Stops.of_silent {steps : List Step} (h : Silent steps) : Stops steps :=
  List.pairwise_of_forall_mem_list fun _ _ later hlater _ => h later hlater

/-- What follows may stop as it likes when everything before it was done. -/
theorem Stops.after_accepted {first second : List Step} (hfirst : Accepted first)
    (hsecond : Stops second) : Stops (first ++ second) := by
  refine List.pairwise_append.2 ⟨?_, hsecond, fun step hstep _ _ h => absurd (hfirst step hstep) h⟩
  exact List.pairwise_of_forall_mem_list fun step hstep _ _ h => absurd (hfirst step hstep) h

theorem Stops.before_silent {first second : List Step} (hfirst : Stops first)
    (hsecond : Silent second) : Stops (first ++ second) :=
  List.pairwise_append.2 ⟨hfirst, Stops.of_silent hsecond,
    fun _ _ later hlater _ => hsecond later hlater⟩

theorem Sends.stops {plan : List Statement} {outcome : Except Error Unit} {steps : List Step}
    (h : Sends plan outcome steps) : Stops steps :=
  h.onlyLastFails.imp fun hnone hfailed => absurd hnone hfailed

/-- Around the work nothing is sent, so it stops when the work does. -/
theorem Lends.stops {lent takenBack : List Movement} {kind : Except Error α → List Step → Prop}
    {outcome : Except Error α} {steps : List Step}
    (hkind : ∀ outcome worked, kind outcome worked → Stops worked)
    (h : Lends lent takenBack kind outcome steps) : Stops steps := by
  cases h with
  | notStarted haside => exact .of_silent haside.silent
  -- everything before the work was accepted, and nothing after it is planned
  | failed _ haccepted hworked hafter =>
    exact (Stops.after_accepted haccepted (hkind _ _ hworked)).before_silent hafter.silent
  | done _ haccepted _ hworked hafter _ _ =>
    exact (Stops.after_accepted haccepted (hkind _ _ hworked)).before_silent hafter.silent

/-- Around the work nothing is sent, so what is sent is what the work sends. -/
theorem Lends.statements {lent takenBack : List Movement} {plan : List Statement}
    {outcome : Except Error Unit} {steps : List Step}
    (h : Lends lent takenBack (Sends plan) outcome steps) :
    steps.filterMap Step.statement? <+: plan := by
  have hmiddle {before worked after : List Step} {sent : Except Error Unit} (hbefore : Aside before)
      (hworked : Sends plan sent worked) (hafter : Aside after) :
      (before ++ worked ++ after).filterMap Step.statement? <+: plan := by
    rw [List.filterMap_append, List.filterMap_append, hbefore.silent.statements,
      hafter.silent.statements, List.nil_append, List.append_nil]
    exact hworked.statements
  -- what is lent and taken back is no statement of a plan, so only what lies between counts
  cases h with
  | notStarted haside =>
    rw [haside.silent.statements]
    exact List.nil_prefix
  | failed hbefore _ hworked hafter => exact hmiddle hbefore hworked hafter
  | done hbefore _ _ hworked hafter _ _ => exact hmiddle hbefore hworked hafter

/-! ## Inside the transaction

The look-up ends in one of three ways, with an error, with nothing to do or with a job, and a job is
sent statement by statement. `Concludes` tells for each way which boundary the transaction ends at.
-/

/-- How the look-up of a job and carrying it out go, from the given connection. -/
inductive Carries (lookUp : Session σ (Option Job)) (start : Connection σ) :
    Except Error Unit → List Step → Prop where
  | unknown {error : Error} {looked : List Step}
      (hjob : (lookUp.exec start).1 = .error error)
      (hasked : Asked (fun _ => True) (.error error : Except Error (Option Job)) looked) :
      Carries lookUp start (.error error) looked
  | nothing {looked : List Step} (hjob : (lookUp.exec start).1 = .ok none)
      (hasked : Asked (fun _ => True) (.ok none : Except Error (Option Job)) looked) :
      Carries lookUp start (.ok ()) looked
  | performed {job : Job} {looked rest : List Step} {outcome : Except Error Unit}
      {lent : List Movement} (hjob : (lookUp.exec start).1 = .ok (some job))
      (hasked : Asked (fun _ => True) (.ok (some job)) looked)
      (hlends : Lends lent lent.reverse (Sends job.statements) outcome rest) :
      Carries lookUp start outcome (looked ++ rest)

theorem leads_carryOut {lookUp : Session σ (Option Job)} (hasks : Asks lookUp)
    {start : Connection σ} (hstart : start.inTransaction = true) :
    ∃ outcome steps c', Leads (do Session.carryOut (← lookUp)).run start outcome steps c' ∧
      c'.inTransaction = true ∧ Carries lookUp start outcome steps := by
  obtain ⟨found, looked, c₁, hleads, hc₁, hasked⟩ := hasks start hstart
  have hjob : (lookUp.exec start).1 = found := congrArg Prod.fst hleads.exec
  -- the look-up fails, or finds nothing to do, or finds a job
  rcases found with error | _ | job
  · exact ⟨_, _, _, hleads.bind_error, hc₁, .unknown hjob hasked⟩
  · refine ⟨_, _, _, hleads.bind_ok (.pure _ c₁), hc₁, ?_⟩
    rw [List.append_nil]
    exact .nothing hjob hasked
  · obtain ⟨outcome, rest, c₂, hleads', hc₂, lent, hlends⟩ := does_perform_job job c₁ hc₁
    exact ⟨_, _, _, hleads.bind_ok hleads', hc₂, .performed hjob hasked hlends⟩

omit [Server σ] in
theorem Carries.inner {lookUp : Session σ (Option Job)} {start : Connection σ}
    {outcome : Except Error Unit} {steps : List Step} (h : Carries lookUp start outcome steps) :
    Inner steps := by
  cases h with
  | unknown _ hasked => exact hasked.aside.inner
  | nothing _ hasked => exact hasked.aside.inner
  | performed _ hasked hlends =>
    exact hasked.aside.inner.append (hlends.inner fun _ _ hsends => hsends.inner)

/-- The statements that the look-up finds are to be sent. -/
def planned (lookUp : Session σ (Option Job)) (start : Connection σ) : List Statement :=
  match (lookUp.exec start).1 with
  | .ok (some job) => job.statements
  | _ => []

/-- What happens inside the transaction of a write operation, and how it is ended. -/
inductive Concludes (lookUp : Session σ (Option Job)) (start : Connection σ) :
    List Step → Boundary → Prop where
  /-- There is nothing to do. -/
  | nothing {looked : List Step} (hjob : (lookUp.exec start).1 = .ok none) (hidle : Idle looked)
      (haccepted : Accepted looked) : Concludes lookUp start looked .commit
  /-- The whole plan was sent, everything was accepted, and the memberships that were lent for it
  were taken back, newest first. -/
  | complete {job : Job} {looked before sent after : List Step}
      (hjob : (lookUp.exec start).1 = .ok (some job)) (hidle : Idle looked)
      (hbefore : Silent before) (hsent : sent.map Step.statement? = job.statements.map some)
      (hafter : Silent after)
      (hhandedBack : after.filterMap Step.takenBack? = (before.filterMap Step.lent?).reverse)
      (haccepted : Accepted (looked ++ (before ++ sent ++ after))) :
      Concludes lookUp start (looked ++ (before ++ sent ++ after)) .commit
  /-- At most a beginning of the plan was sent, and none of it after a failure. -/
  | interrupted {work : List Step}
      (hsent : work.filterMap Step.statement? <+: planned lookUp start) (hstops : Stops work) :
      Concludes lookUp start work .rollback

omit [Server σ] in
theorem Carries.concludes_of_ok {lookUp : Session σ (Option Job)} {start : Connection σ}
    {steps : List Step} (h : Carries lookUp start (.ok ()) steps) :
    Concludes lookUp start steps .commit := by
  cases h with
  | nothing hjob hasked => exact .nothing hjob hasked.idle hasked.accepted
  | performed hjob hasked hlends =>
    -- a success leaves only the case that everything was done and taken back
    cases hlends with
    | done hbefore haccepted hlent hworked hafter haccepted' htakenBack =>
      refine .complete hjob hasked.idle hbefore.silent hworked.complete hafter.silent ?_ ?_
      · rw [htakenBack, hlent]
      · exact hasked.accepted.append ((haccepted.append hworked.accepted).append haccepted')

omit [Server σ] in
theorem Carries.concludes_of_error {lookUp : Session σ (Option Job)} {start : Connection σ}
    {error : Error} {steps : List Step} (h : Carries lookUp start (.error error) steps) :
    Concludes lookUp start steps .rollback := by
  cases h with
  | unknown hjob hasked =>
    refine .interrupted ?_ (.of_silent hasked.silent)
    rw [hasked.silent.statements]
    exact List.nil_prefix
  | performed hjob hasked hlends =>
    -- the questions before it were all answered, or there would be no job
    refine .interrupted ?_ (.after_accepted hasked.accepted (hlends.stops fun _ _ h => h.stops))
    unfold planned
    rw [hjob, List.filterMap_append, hasked.silent.statements]
    exact hlends.statements

/-! ## Around the transaction

Outside of its one transaction a write operation only asks. So the steps of the whole call are those
of the transaction with idle ones on both sides. -/

/-- Where a write operation writes, and how it finds out what. -/
structure Target (σ : Type) where
  /-- The database, the client's own when none is named. -/
  database : Option String
  lookUp : Session σ (Option Job)

/-- What a write operation does until it reads back: preliminary questions, one connection to its
database with one transaction on it, and nothing more that is sent. -/
inductive OneTransaction (target : Target σ) (c c' : Client σ) :
    Except Error Unit → List Step → Prop where
  /-- The transaction was not opened. -/
  | unreached {written : Except Error Unit} {steps : List Step}
      (hmute : Mute Query.IsPreliminary steps) : OneTransaction target c c' written steps
  | reached {written : Except Error Unit} {caps : Capabilities} {before work after : List Step}
      {start : Connection σ} {mark : Boundary} {failure : Option Failure}
      -- the work starts where the opening of the connection and of the transaction has led
      (hopens : c.Opens c' caps before
        [⟨.connect (target.database.getD c.config.database), none⟩, ⟨.boundary .begin, none⟩] start)
      (hopened : start.inTransaction = true) (hinner : Inner work)
      (hconcludes : Concludes target.lookUp start work mark)
      (hwritten : written = .ok () ↔ mark = .commit ∧ failure = none)
      (hafter : ∀ step ∈ after, step.command? = none) :
      OneTransaction target c c' written
        (before ++ [⟨.connect (target.database.getD c.config.database), none⟩,
            ⟨.boundary .begin, none⟩] ++ work ++
          [⟨.boundary mark, failure⟩, ⟨.close, none⟩] ++ after)

/-- One transaction in which the job is carried out, on a connection without one. -/
abbrev Carried (lookUp : Session σ (Option Job)) (start : Connection σ) :
    Except Error Unit → List Step → Prop :=
  Transacts start (Carries lookUp start.opened)

theorem Reaches.oneTransaction {target : Target σ} {c c' : Client σ} {written : Except Error Unit}
    {steps : List Step}
    (h : Reaches (target.database.getD c.config.database) (Carried target.lookUp) c c' written
      steps) : OneTransaction target c c' written steps := by
  cases h with
  | @intro caps before worked after start hopens _ hkind hafter =>
    have hreached {work : List Step} {mark : Boundary} {failure : Option Failure}
        (hbegin : (Server.bound .begin start.server).1 = none) (hinner : Inner work)
        (hconcludes : Concludes target.lookUp start.opened work mark)
        (hwritten : written = .ok () ↔ mark = .commit ∧ failure = none) :
        OneTransaction target c c' written
          (before ++ [⟨.connect (target.database.getD c.config.database), none⟩] ++
            (⟨.boundary .begin, none⟩ :: work ++ [⟨.boundary mark, failure⟩]) ++
            [⟨.close, none⟩] ++ after) := by
      have h := OneTransaction.reached (hopens.begin hbegin) rfl hinner hconcludes hwritten hafter
      simp only [List.append_assoc, List.cons_append, List.nil_append] at h ⊢
      exact h
    -- the outcome of the work alone has chosen the mark; what the server says to it comes after
    cases hkind with
    | refused _ =>
      refine .unreached (.append (.append (.append (.append hopens.mute ?_) ?_) ?_) ?_)
      · exact .single rfl
      · exact .single rfl
      · exact .single rfl
      · exact .of_command hafter
    | committed failure hbegin h =>
      refine hreached hbegin h.inner h.concludes_of_ok ?_
      cases failure with
      | none => exact ⟨fun _ => ⟨rfl, rfl⟩, fun _ => rfl⟩
      | some failure => exact ⟨fun h => (nomatch h), fun h => (nomatch h.2)⟩
    | rolledBack failure hbegin h =>
      refine hreached hbegin h.inner h.concludes_of_error ?_
      exact ⟨fun h => (nomatch h), fun h => (nomatch h.1)⟩

theorem Connects.oneTransaction {target : Target σ} {c c' : Client σ}
    {written : Except Error Unit} {steps : List Step}
    (h : Connects (target.database.getD c.config.database) (Carried target.lookUp) c c' written
      steps) : OneTransaction target c c' written steps := by
  cases h with
  | notConnected hmute => exact .unreached hmute
  | connected hreaches => exact hreaches.oneTransaction

/-! ## Operations that write -/

/-- Whatever comes of the call, it is one transaction on its target. -/
def WritesTo (target : Target σ) (call : Call σ Unit) : Prop :=
  ∀ c, ∃ written steps c', Runs call c written steps c' ∧
    Connects (target.database.getD c.config.database) (Carried target.lookUp) c c' written steps

namespace WritesTo

variable {target : Target σ}

/-- To carry out a job in a transaction. -/
theorem inDatabase {lookUp : Session σ (Option Job)} (hasks : Asks lookUp)
    (database : Option String) :
    WritesTo ⟨database, lookUp⟩
      (Call.inDatabase database do Session.carryOut (← lookUp)) :=
  runs_connect (fun _ hstart => leads_transaction hstart (leads_carryOut hasks rfl)) database

theorem bind {β : Type} {call : Call σ β} {next : β → Call σ Unit}
    (hcall : Inquires Query.IsPreliminary call) (hnext : ∀ b, WritesTo target (next b)) :
    WritesTo target (call >>= next) := by
  intro c
  obtain ⟨outcome, first, c₁, hrun, hfirst⟩ := hcall c
  cases outcome with
  | error error => exact ⟨_, _, _, hrun.bind_error, .notConnected hfirst⟩
  | ok b =>
    obtain ⟨written, steps, c₂, hrun', hconnects⟩ := hnext b c₁
    rw [hrun.config] at hconnects
    exact ⟨_, _, _, hrun.bind hrun', .before hrun hfirst hconnects⟩

/-- Nothing is written when the database is not there. -/
theorem ite {p : Prop} [Decidable p] {call : Call σ Unit} (hcall : WritesTo target call) :
    WritesTo target (if p then call else Pure.pure ()) := by
  split
  · exact hcall
  · exact fun c => ⟨_, _, _, .pure () c, .notConnected .nil⟩

theorem holding {call : Call σ Unit} (shared : Bool) (access : Access)
    (hcall : WritesTo target call) : WritesTo target (Call.holding shared access call) := by
  unfold Call.holding
  split
  · intro c
    obtain ⟨written, steps, c', hrun, hconnects⟩ := hcall (c.noted (.locked access))
    have hlocked : Runs (Call.record (.locked access)) c (.ok ()) [⟨.locked access, none⟩]
      (c.noted (.locked access)) := .record c fun _ => rfl
    refine ⟨_, _, _, hrun.between (fun _ => rfl) (fun _ => rfl), ?_⟩
    refine .before hlocked (.single rfl) (hconnects.after ?_ fun _ h => h)
    exact List.forall_mem_singleton.2 rfl
  · exact hcall

end WritesTo

/-- The call writes to its target, and then, when that succeeded, it may read back. -/
def WritesThenReads (target : Target σ) (call : Call σ α) : Prop :=
  ∀ c, ∃ outcome written first rest c', Runs call c outcome (first ++ rest) c' ∧
    Connects (target.database.getD c.config.database) (Carried target.lookUp) c c' written first ∧
    Idle rest ∧ ∀ error, written = .error error → outcome = .error error ∧ rest = []

/-- Reading changes nothing. -/
theorem Mute.idle {allowed : Query → Prop} {steps : List Step} (h : Mute allowed steps) :
    Idle steps := by
  intro step hstep
  rcases h step hstep with hnone | hputs
  · unfold Step.isWrite
    rw [hnone]
    rfl
  · exact Step.isWrite_of_puts hputs

namespace WritesThenReads

variable {β : Type} {target : Target σ}

theorem ofWritesTo {call : Call σ Unit} (h : WritesTo target call) :
    WritesThenReads target call := by
  intro c
  obtain ⟨written, steps, c', hrun, hconnects⟩ := h c
  refine ⟨written, written, steps, [], c', ?_, hconnects, .nil, fun _ h => ⟨h, rfl⟩⟩
  rw [List.append_nil]
  exact hrun

/-- Preliminary questions come first. -/
theorem bind {call : Call σ β} {next : β → Call σ α}
    (hcall : Inquires Query.IsPreliminary call) (hnext : ∀ b, WritesThenReads target (next b)) :
    WritesThenReads target (call >>= next) := by
  intro c
  obtain ⟨outcome, steps, c₁, hrun, hsteps⟩ := hcall c
  -- a question that fails is all that happens, and nothing is written
  cases outcome with
  | error error =>
    refine ⟨.error error, .error error, steps, [], c₁, ?_, .notConnected hsteps, .nil,
      fun _ h => ⟨?_, rfl⟩⟩
    rotate_left
    · rw [Except.error.inj h]
    rw [List.append_nil]
    exact hrun.bind_error
  | ok b =>
    obtain ⟨outcome, written, first, rest, c₂, hrun', hconnects, hidle, herror⟩ := hnext b c₁
    rw [hrun.config] at hconnects
    refine ⟨outcome, written, steps ++ first, rest, c₂, ?_, .before hrun hsteps hconnects, hidle,
      herror⟩
    rw [List.append_assoc]
    exact hrun.bind hrun'

/-- Only what was written is read back. -/
theorem read {call : Call σ Unit} {next : Call σ α} (hcall : WritesTo target call)
    (hnext : Inquires (fun _ => True) next) :
    WritesThenReads target (call >>= fun _ => next) := by
  intro c
  obtain ⟨written, first, c₁, hrun, hconnects⟩ := hcall c
  cases written with
  | error error =>
    refine ⟨.error error, .error error, first, [], c₁, ?_, hconnects, .nil, fun _ h => ⟨?_, rfl⟩⟩
    · rw [List.append_nil]
      exact hrun.bind_error
    · rw [Except.error.inj h]
  | ok _ =>
    obtain ⟨outcome, rest, c₂, hrun', hmute⟩ := hnext c₁
    refine ⟨outcome, .ok (), first, rest, c₂, hrun.bind hrun', ?_, hmute.idle, fun _ h => nomatch h⟩
    -- reading back may have found out more about the server, and knows no less
    have hafter : Connects (target.database.getD c.config.database) (Carried target.lookUp) c c₂
        (.ok ()) (first ++ []) := hconnects.after (fun _ h => absurd h List.not_mem_nil) hrun'.known
    rw [List.append_nil] at hafter
    exact hafter

/-- What was read is of no matter. -/
theorem ignore {call : Call σ α} (h : WritesThenReads target call) :
    WritesThenReads target (do let _ ← call) := by
  intro c
  obtain ⟨outcome, written, first, rest, c', hrun, hconnects, hidle, herror⟩ := h c
  -- to drop the report changes the outcome's type only; an error stays the error it was
  cases outcome with
  | error error =>
    refine ⟨.error error, written, first, rest, c', hrun.bind_error, hconnects, hidle,
      fun _ h => ⟨?_, (herror _ h).2⟩⟩
    rw [Except.error.inj (herror _ h).1]
  | ok a =>
    refine ⟨.ok (), written, first, rest, c', ?_, hconnects, hidle,
      fun _ h => nomatch (herror _ h).1⟩
    have hrun' : Runs (do let _ ← call) c (.ok ()) (first ++ rest ++ []) c' :=
      hrun.bind (.pure () c')
    rw [List.append_nil] at hrun'
    exact hrun'

end WritesThenReads

/-! ## Reading back -/

section Reading

open Call

theorem Inquires.anything {call : Call σ α} (h : Inquires Query.IsPreliminary call) :
    Inquires (fun _ => True) call := by
  intro c
  obtain ⟨outcome, steps, c', hrun, hmute⟩ := h c
  refine ⟨outcome, steps, c', hrun, fun step hstep => ?_⟩
  exact (hmute step hstep).imp_right fun ⟨query, _, hquery⟩ => ⟨query, trivial, hquery⟩

theorem inquires_lookUp {work : Session σ α} (hasks : Asks work) (database : Option String) :
    Inquires (fun _ => True) (inDatabase database work) :=
  inquires_inDatabase (fun _ _ => trivial) hasks database

theorem inquires_grant_read (r : GrantRequest) :
    Inquires (fun _ => True) (r.read (σ := σ)) := by
  refine (Inquires.ofOutcome _).bind fun declared => ?_
  refine (inquires_needFeature _ _).anything.bind fun _ => .holding _ _ ?_
  refine (inquires_hasDatabase _).anything.bind fun _ => .ite (inquires_lookUp ?_ _) (.pure none)
  refine (asks_targetRows? declared).bind fun rows? => ?_
  cases rows? with
  | none => exact .pure none
  | some rows => exact (asks_capabilities trivial).bind fun _ => .pure _

theorem inquires_needFeatures (declared : DeclaredDefaults) :
    Inquires Query.IsPreliminary (declared.needFeatures (σ := σ)) :=
  (inquires_needPrivileges _ _ _).bind fun _ => .ite (inquires_needFeature _ _) (.pure ())

theorem inquires_defaults_read (r : DefaultsRequest) :
    Inquires (fun _ => True) (r.read (σ := σ)) := by
  refine Inquires.bind ?_ fun declared => ?_
  · exact (Inquires.ofOutcome _).bind fun declared =>
      (inquires_needFeatures declared).anything.bind fun _ => .pure _
  refine (inquires_hasDatabase _).anything.bind fun _ => .ite (inquires_lookUp ?_ _) (.pure none)
  refine (asks_unlessMissing (asks_needTarget declared)).bind fun found => ?_
  cases found with
  | none => exact .pure none
  | some _ => exact ((asks_defaultPolicy _ _ _).bind fun _ => .pure _).bind fun _ => .pure _

theorem inquires_policy_read (r : PolicyRequest) :
    Inquires (fun _ => True) (r.read (σ := σ)) := by
  refine Inquires.bind ?_ fun declared => ?_
  · exact (Inquires.ofOutcome _).bind fun _ =>
      (inquires_needFeature _ _).anything.bind fun _ => .pure _
  · refine (inquires_hasDatabase _).anything.bind fun _ => .ite ?_ (.pure none)
    exact (inquires_lookUp (asks_readRow? declared) _).bind fun _ => .pure _

theorem inquires_membership_read (r : MembershipRequest) :
    Inquires (fun _ => True) (r.read (σ := σ)) := by
  refine (Inquires.ofOutcome _).bind fun declared => ?_
  exact (Inquires.holding _ _ (inquires_lookUp (asks_observe declared) _)).bind fun _ => .pure _

end Reading

/-! ## Every write operation

The eight operations differ in their checks and gates and in where they write. What they share is
stated for a call with a check and a target, and each of them is such a call. -/

/-- An operation that writes. -/
inductive WriteCall where
  | syncGrant (r : GrantRequest)
  | revokeGrant (r : GrantRequest)
  | syncDefaults (r : DefaultsRequest)
  | revokeDefaults (r : DefaultsRequest)
  | syncPolicy (r : PolicyRequest) (previous : Option Policy)
  | revokePolicy (r : PolicyRequest)
  | syncMembership (r : MembershipRequest)
  | revokeMembership (r : MembershipRequest)

namespace WriteCall

/-- Does the operation; what it reads back is of no matter here. -/
def run : WriteCall → Call σ Unit
  | .syncGrant r => do let _ ← r.sync
  | .revokeGrant r => r.revoke
  | .syncDefaults r => do let _ ← r.sync
  | .revokeDefaults r => r.revoke
  | .syncPolicy r previous => do let _ ← r.sync previous
  | .revokePolicy r => r.revoke
  | .syncMembership r => do let _ ← r.sync
  | .revokeMembership r => r.revoke

/-- Where the operation writes and how it finds out what, when its declaration is valid. -/
def target : WriteCall → Except Invalid (Target σ)
  | .syncGrant r => r.check.map fun declared => ⟨some declared.database, declared.syncJob⟩
  | .revokeGrant r => r.check.map fun declared => ⟨some declared.database, declared.revokeJob⟩
  | .syncDefaults r => r.check.map fun declared => ⟨some declared.database, declared.syncJob⟩
  | .revokeDefaults r => r.check.map fun declared => ⟨some declared.database, declared.revokeJob⟩
  | .syncPolicy r previous =>
    r.check.map fun declared => ⟨some declared.database, declared.syncJob previous⟩
  | .revokePolicy r => r.check.map fun declared => ⟨some declared.database, declared.revokeJob⟩
  | .syncMembership r => r.check.map fun declared => ⟨none, declared.syncJob⟩
  | .revokeMembership r => r.check.map fun declared => ⟨none, declared.revokeJob⟩

end WriteCall

/-- The call commits atomically. A declaration that breaks the rules is refused before anything
happens; otherwise there is one transaction on the target, and what follows it writes nothing and
happens only when the transaction was committed or not needed. -/
def CommitsAtomically (target : Except Invalid (Target σ)) (call : Call σ α) : Prop :=
  ∀ c, ∃ outcome steps c', Runs call c outcome steps c' ∧
    match target with
    | .error cause => outcome = .error (.invalid cause) ∧ steps = []
    | .ok target => ∃ written first rest, steps = first ++ rest ∧
      OneTransaction target c c' written first ∧ Idle rest ∧
      ∀ error, written = .error error → outcome = .error error ∧ rest = []

theorem CommitsAtomically.of_check {δ : Type} {check : Except Invalid δ} {target : δ → Target σ}
    {call : δ → Call σ α} (h : ∀ declared, WritesThenReads (target declared) (call declared)) :
    CommitsAtomically (check.map target)
      (do call (← Call.ofOutcome (check.mapError .invalid))) := by
  intro c
  cases check with
  | error cause =>
    -- a declaration that is not accepted stops the call before its first step
    exact ⟨_, [], c, (Runs.ofOutcome (.error (.invalid cause) : Except Error δ) c).bind_error, rfl,
      rfl⟩
  | ok declared =>
    obtain ⟨outcome, written, first, rest, c', hrun, hconnects, hidle, herror⟩ := h declared c
    have hdeclared := (Runs.ofOutcome (.ok declared : Except Error δ) c).bind hrun
    exact ⟨outcome, _, c', hdeclared, written, first, rest, rfl, hconnects.oneTransaction, hidle,
      herror⟩

/-- What the server must be able to do is asked for once the declaration is known. -/
theorem CommitsAtomically.of_accept {δ : Type} {check : Except Invalid δ} {target : δ → Target σ}
    {needs : δ → Call σ Unit} {call : δ → Call σ α}
    (hneeds : ∀ declared, Inquires Query.IsPreliminary (needs declared))
    (h : ∀ declared, WritesThenReads (target declared) (call declared)) :
    CommitsAtomically (check.map target)
      ((do
        let declared ← Call.ofOutcome (check.mapError .invalid)
        needs declared
        return declared) >>= call) := by
  rw [bind_assoc]
  refine .of_check fun declared => ?_
  rw [bind_assoc]
  refine .bind (hneeds declared) fun _ => ?_
  rw [pure_bind]
  exact h declared

/-- Every write operation commits atomically, whatever the server answers. -/
theorem WriteCall.commitsAtomically (call : WriteCall) :
    CommitsAtomically call.target (call.run (σ := σ)) := by
  -- each operation checks its declaration, asks beforehand, writes, and perhaps reads back
  cases call with
  | syncGrant r =>
    unfold run target
    dsimp only
    rw [r.sync_eq, bind_assoc]
    refine .of_check fun declared => .ignore ?_
    refine .bind (inquires_needPrivileges _ _ _) fun _ => .read ?_ (inquires_grant_read r)
    refine .holding _ _ (.bind (inquires_needDatabase _) fun _ => ?_)
    exact .inDatabase declared.asks_syncJob _
  | revokeGrant r =>
    unfold run target
    dsimp only
    rw [r.revoke_eq]
    refine .of_check fun declared => .bind (inquires_needFeature _ _) fun _ => .ofWritesTo ?_
    refine .holding _ _ (.bind (inquires_hasDatabase _) fun _ => .ite ?_)
    exact .inDatabase declared.asks_revokeJob _
  | syncDefaults r =>
    unfold run target
    dsimp only
    rw [r.sync_eq, bind_assoc]
    refine .of_accept inquires_needFeatures fun declared => .ignore ?_
    refine .bind (inquires_needDatabase _) fun _ => .read ?_ (inquires_defaults_read r)
    exact .inDatabase declared.asks_syncJob _
  | revokeDefaults r =>
    unfold run target
    dsimp only
    rw [r.revoke_eq]
    refine .of_accept inquires_needFeatures fun declared => .ofWritesTo ?_
    refine .bind (inquires_hasDatabase _) fun _ => .ite ?_
    exact .inDatabase declared.asks_revokeJob _
  | syncPolicy r previous =>
    unfold run target
    dsimp only
    rw [r.sync_eq, bind_assoc]
    refine .of_accept (fun _ => inquires_needFeature _ _) fun declared => .ignore ?_
    refine .bind (inquires_needDatabase _) fun _ => .read ?_ (inquires_policy_read r)
    exact .inDatabase (declared.asks_syncJob previous) _
  | revokePolicy r =>
    unfold run target
    dsimp only
    rw [r.revoke_eq]
    refine .of_accept (fun _ => inquires_needFeature _ _) fun declared => .ofWritesTo ?_
    refine .bind (inquires_hasDatabase _) fun _ => .ite ?_
    exact .inDatabase declared.asks_revokeJob _
  | syncMembership r =>
    unfold run target
    dsimp only
    rw [r.sync_eq, bind_assoc]
    refine .of_check fun declared => .ignore (.read (.holding _ _ ?_) (inquires_membership_read r))
    exact .inDatabase declared.asks_syncJob _
  | revokeMembership r =>
    unfold run target
    dsimp only
    rw [r.revoke_eq]
    refine .of_check fun declared => .ofWritesTo (.holding _ _ ?_)
    exact .inDatabase declared.asks_revokeJob _

end PgGrants
