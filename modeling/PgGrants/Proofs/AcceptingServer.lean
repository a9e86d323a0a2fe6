/-
Runs on a server that refuses nothing. Such a server keeps refusing nothing, so the memberships
before some work determine how the work goes: `Yields` says what its result is and which memberships
it leaves, exactly, and that no other work is started on the way. The rules follow the ways in which
work is put together.

Only one thing can still go wrong: a text with a null character cannot be written into a question,
and then the question is not put.
-/
import PgGrants.Proofs.Restoring

set_option autoImplicit false

namespace PgGrants

variable {roles : Roles} {α β : Type}

/-! ## 1. Servers that refuse nothing -/

/-- Nothing that is asked of it will ever be refused. -/
def RoleServer.Accepts (s : RoleServer roles) : Prop := ∀ number, s.refusal? number = none

namespace RoleServer

/-- What is refused was chosen beforehand. -/
theorem refusal?_served (event : Event) (s : RoleServer roles) :
    (event.served s).2.refusal? = s.refusal? := by
  cases event with
  | sent command sql =>
    show (RoleServer.answer command s).2.refusal? = _
    unfold RoleServer.answer
    split <;> rfl
  | boundary mark =>
    show (RoleServer.bound mark s).2.refusal? = _
    unfold RoleServer.bound
    split <;> cases mark <;> rfl
  | _ => rfl

theorem refusal?_replay (events : List Event) (s : RoleServer roles) :
    (replay events s).2.refusal? = s.refusal? := by
  induction events generalizing s with
  | nil => rfl
  | cons event rest ih =>
    rw [replay_cons]
    exact (ih _).trans (refusal?_served event s)

end RoleServer

theorem Leads.accepts {work : Talk (RoleServer roles) β} {c c' : Connection (RoleServer roles)}
    {b : β} {steps : List Step} (h : Leads work c b steps c') (haccepts : c.server.Accepts) :
    c'.server.Accepts := by
  have hserver : (replay (steps.map Step.event) c.server).2 = c'.server :=
    congrArg Prod.snd h.server
  intro number
  rw [← hserver, RoleServer.refusal?_replay]
  exact haccepts number

/-! ## 2. Exact runs

`Yields` names the outcome of the work and the memberships behind it, so two pieces of work are put
together by the memberships in between. Nothing is said of a server that might refuse something. -/

/-- No work with memberships is started. -/
abbrev Unstarted (steps : List Step) : Prop := ∀ step ∈ steps, step.event.scope? = none

theorem Unstarted.nil : Unstarted [] := fun _ h => absurd h List.not_mem_nil

theorem Unstarted.append {first second : List Step} (hfirst : Unstarted first)
    (hsecond : Unstarted second) : Unstarted (first ++ second) :=
  List.forall_mem_append.2 ⟨hfirst, hsecond⟩

/-- Inside a transaction, on a server that refuses nothing and has the memberships `now`, the work
has this result and leaves the memberships `now'`. -/
def Yields (work : Talk (RoleServer roles) β) (now : Memberships) (b : β) (now' : Memberships) :
    Prop :=
  ∀ c, c.inTransaction = true → c.server.Accepts → c.server.members = now →
    ∃ steps c', Leads work c b steps c' ∧ Steady c c' ∧ c'.server.members = now' ∧ Unstarted steps

namespace Yields

variable {now middle now' : Memberships}

theorem pure (b : β) (now : Memberships) :
    Yields (Pure.pure b : Talk (RoleServer roles) β) now b now :=
  fun c hc _ hmembers => ⟨[], c, .pure b c, ⟨hc, rfl, rfl⟩, hmembers, .nil⟩

theorem bind {work : Talk (RoleServer roles) α} {next : α → Talk (RoleServer roles) β} {a : α}
    {b : β} (hwork : Yields work now a middle) (hnext : Yields (next a) middle b now') :
    Yields (work >>= next) now b now' := by
  intro c hc haccepts hmembers
  obtain ⟨first, c₁, hrun, hsteady, hmiddle, hfirst⟩ := hwork c hc haccepts hmembers
  obtain ⟨second, c₂, hrun', hsteady', hmembers', hsecond⟩ :=
    hnext c₁ hsteady.inTransaction (hrun.accepts haccepts) hmiddle
  exact ⟨_, c₂, hrun.bind hrun', hsteady.trans hsteady', hmembers', hfirst.append hsecond⟩

theorem bind_ok {work : Session (RoleServer roles) α} {next : α → Session (RoleServer roles) β}
    {a : α} {outcome : Except Error β} (hwork : Yields work.run now (.ok a) middle)
    (hnext : Yields (next a).run middle outcome now') :
    Yields (work >>= next).run now outcome now' := by
  rw [ExceptT.run_bind]
  exact hwork.bind hnext

theorem bind_error {work : Session (RoleServer roles) α} {next : α → Session (RoleServer roles) β}
    {error : Error} (hwork : Yields work.run now (.error error) now') :
    Yields (work >>= next).run now (.error error) now' := by
  rw [ExceptT.run_bind]
  exact hwork.bind (.pure _ _)

/-- What is made of a result without asking anything. -/
theorem bind_outcome {work : Session (RoleServer roles) α}
    {next : α → Session (RoleServer roles) β} {read : α → Except Error β}
    {outcome : Except Error α} (hwork : Yields work.run now outcome now')
    (hnext : ∀ a, next a = Session.ofOutcome (read a)) :
    Yields (work >>= next).run now (outcome.bind read) now' := by
  cases outcome with
  | error error => exact hwork.bind_error
  | ok a =>
    refine hwork.bind_ok ?_
    rw [hnext]
    exact .pure (read a) now'

theorem lift {work : Talk (RoleServer roles) β} {b : β} (h : Yields work now b now') :
    Yields (ExceptT.lift work : Session (RoleServer roles) β).run now (.ok b) now' := by
  intro c hc haccepts hmembers
  obtain ⟨steps, c', hrun, hrest⟩ := h c hc haccepts hmembers
  refine ⟨steps, c', ⟨?_, hrun.log, hrun.server⟩, hrest⟩
  rw [← Session.exec_eq, Session.exec_lift, hrun.exec]

theorem attempt {work : Session (RoleServer roles) α} {outcome : Except Error α}
    (h : Yields work.run now outcome now') :
    Yields (Session.attempt work).run now (.ok outcome) now' := h.lift

end Yields

/-! ## 3. Commands and look-ups -/

open Session Catalog

section Commands

variable {now : Memberships}

theorem yields_send {command : Command} {sql : String} (hsql : command.sql = .ok sql) :
    Yields (send command : Session (RoleServer roles) _).run now
      (.ok (roles.reply now command)) (command.change now) := by
  intro c hc haccepts hmembers
  have hanswer := RoleServer.answer_of_pass command (haccepts c.server.count)
  have hrun := exec_send hsql hc
  rw [hanswer, hmembers] at hrun
  refine ⟨[⟨.sent command sql, none⟩], _, ⟨hrun, rfl, .single ?_⟩, ⟨hc, rfl, rfl⟩, rfl, ?_⟩
  · show ((Server.answer command c.server).1.failure?, (Server.answer command c.server).2) = _
    rw [hanswer, hmembers]
    rfl
  · exact List.forall_mem_singleton.2 rfl

theorem yields_send_unwritable {command : Command} {fault : Unwritable}
    (hsql : command.sql = .error fault) :
    Yields (send command : Session (RoleServer roles) _).run now (.error (.unwritable fault)) now :=
  fun c hc _ hmembers => ⟨[], c,
    ⟨exec_send_unwritable hsql c, (List.append_nil _).symm, .nil _⟩, ⟨hc, rfl, rfl⟩, hmembers, .nil⟩

/-- A question that can be written is answered as the roles and the memberships are. -/
theorem yields_ask {query : Query} {sql : String} (hsql : query.sql = .ok sql) :
    Yields (ask query : Session (RoleServer roles) _).run now (.ok (roles.answer now query)) now :=
  yields_send hsql

theorem yields_ask_unwritable {query : Query} {fault : Unwritable}
    (hsql : query.sql = .error fault) :
    Yields (ask query : Session (RoleServer roles) _).run now (.error (.unwritable fault)) now :=
  yields_send_unwritable hsql

theorem yields_grantRole (role member : String) :
    Yields (grantRole role member : Session (RoleServer roles) Unit).run now (.ok ())
      (now.insert role member) :=
  (yields_send rfl).bind_ok (.pure _ _)

theorem yields_revokeRole (role member : String) :
    Yields (revokeRole role member : Session (RoleServer roles) Unit).run now (.ok ())
      (now.erase role member) :=
  (yields_send rfl).bind_ok (.pure _ _)

theorem yields_connectingRole :
    Yields (connectingRole : Session (RoleServer roles) _).run now (.ok (some roles.user)) now :=
  (yields_ask rfl).bind_ok (.pure _ _)

/-- What the server can do is found out, and nothing else happens. -/
theorem yields_capabilities_bind {next : Capabilities → Session (RoleServer roles) β}
    {outcome : Except Error β} {now' : Memberships}
    (hnext : ∀ caps, Yields (next caps).run now outcome now') :
    Yields (capabilities >>= next).run now outcome now' := by
  intro c hc haccepts hmembers
  -- the version is asked for only when it is not known yet; the rest is good for either, so it does
  -- not matter which of the two is the case
  have hfound : ∃ caps steps c₁, Leads (capabilities : Session (RoleServer roles) _).run c
      (.ok caps) steps c₁ ∧ Steady c c₁ ∧ c₁.server.members = now ∧ Unstarted steps := by
    cases hknown : c.capabilities with
    | some caps =>
      refine ⟨caps, [], c, ⟨?_, (List.append_nil _).symm, .nil _⟩, ⟨hc, rfl, rfl⟩, hmembers, .nil⟩
      show exec capabilities c = _
      unfold capabilities
      rw [exec_bind_ok (exec_get c), hknown]
      rfl
    | none =>
      have hversion : Yields (fingerprint : Session (RoleServer roles) _).run now
          (.ok ⟨.ofNumber roles.version⟩) now :=
        ((yields_ask rfl).bind_ok (.pure _ _)).bind_ok (.pure _ _)
      obtain ⟨steps, c₁, hrun, hsteady, hmembers', hsteps⟩ := hversion c hc haccepts hmembers
      refine ⟨⟨.ofNumber roles.version⟩, steps,
        { c₁ with capabilities := some ⟨.ofNumber roles.version⟩ }, ⟨?_, hrun.log, hrun.server⟩,
        ⟨hsteady.inTransaction, hsteady.saved, hsteady.begun⟩, hmembers', hsteps⟩
      show exec capabilities c = _
      unfold capabilities
      rw [exec_bind_ok (exec_get c), hknown]
      dsimp only
      rw [exec_bind_ok hrun.exec]
      rfl
  obtain ⟨caps, first, c₁, hrun, hsteady, hmembers', hfirst⟩ := hfound
  obtain ⟨second, c₂, hrun', hsteady', hlast, hsecond⟩ :=
    hnext caps c₁ hsteady.inTransaction (hrun.accepts haccepts) hmembers'
  exact ⟨_, c₂, hrun.bind_ok hrun', hsteady.trans hsteady', hlast, hfirst.append hsecond⟩

end Commands

/-! ### Roles and memberships -/

/-- A question cannot be put with a text like this in it. -/
abbrev nulError : Error := .unwritable .nulCharacter

/-- What looking a role up comes to. -/
def Roles.lookUp (roles : Roles) (name : String) : Except Error (Option ServerRole) :=
  if Role.isPublic name then .ok (some .publicRole)
  else if Sql.hasNul name then .error nulError
  else .ok (roles.identity? name)

section LookUps

variable {now : Memberships}

theorem literal_of_hasNul {text : String} (h : Sql.hasNul text = true) :
    Sql.literal (some text) = .error .nulCharacter := if_pos h

theorem literal_of_not_hasNul {text : String} (h : Sql.hasNul text = false) :
    Sql.literal (some text) = .ok (Sql.quotedText text) := if_neg (Bool.eq_false_iff.1 h)

theorem yields_findRole {name : String} (h : Sql.hasNul name = false) :
    Yields (findRole name : Session (RoleServer roles) _).run now
      (.ok (roles.identity? name)) now := by
  have hsql : (Query.role (some name)).sql =
      .ok ("SELECT rolname, oid, rolsuper FROM pg_roles WHERE rolname = " ++
        Sql.quotedText name) := by
    simp only [Query.sql, literal_of_not_hasNul h]
    rfl
  refine (yields_ask hsql).bind_ok ?_
  rw [Roles.answer_role]
  -- a name that is stored is read back as it is, also when there is none
  cases roles.identity? name with
  | none => exact .pure _ _
  | some identity =>
    obtain ⟨_ | stored, oid, isSuperuser⟩ := identity
    · exact .pure (Except.ok (some (ServerRole.mk none oid isSuperuser))) now
    · exact .pure (Except.ok (some (ServerRole.mk (some stored) oid isSuperuser))) now

theorem yields_lookUpRole (roles : Roles) (now : Memberships) (name : String) :
    Yields (lookUpRole name : Session (RoleServer roles) _).run now (roles.lookUp name) now := by
  unfold lookUpRole Roles.lookUp
  by_cases hpublic : Role.isPublic name = true
  · rw [if_pos hpublic, if_pos (show Role.isPublic (Role.orPublic name) = true from hpublic)]
    exact .pure _ _
  · rw [if_neg hpublic, if_neg (show ¬ Role.isPublic (Role.orPublic name) = true from hpublic)]
    cases hnul : Sql.hasNul name with
    | false => exact yields_findRole hnul
    | true =>
      -- a name with a NUL character cannot stand in the question, which is then not put
      have hsql : (Query.role (some name)).sql = .error .nulCharacter := by
        simp only [Query.sql, literal_of_hasNul hnul]
        rfl
      exact (yields_ask_unwritable hsql).bind_error

/-- A membership is found as the server has it. -/
theorem yields_isMember (roles : Roles) (now : Memberships) {role member : String}
    (hrole : Sql.hasNul role = false)
    (hmember : Sql.hasNul member = false) :
    ∃ flag : Flag, flag.isSet = now role member ∧
      Yields (isMember role member : Session (RoleServer roles) _).run now (.ok flag) now := by
  refine ⟨⟨.bool (now role member)⟩, rfl, yields_capabilities_bind fun caps => ?_⟩
  have hsql : ∃ sql, (Query.isMember (some role) (some member)
      (caps.supports .membershipSetOption)).sql = .ok sql := by
    simp only [Query.sql, literal_of_not_hasNul hrole, literal_of_not_hasNul hmember]
    exact ⟨_, rfl⟩
  obtain ⟨sql, hsql⟩ := hsql
  exact (yields_ask hsql).bind_ok (.pure _ _)

theorem yields_isMember_unwritable {role member : String}
    (h : (Sql.hasNul role || Sql.hasNul member) = true) :
    Yields (isMember role member : Session (RoleServer roles) _).run now (.error nulError) now := by
  refine yields_capabilities_bind fun caps => ?_
  have hsql : (Query.isMember (some role) (some member)
      (caps.supports .membershipSetOption)).sql = .error .nulCharacter := by
    -- one of the two names has a NUL character; the role's is written first
    cases hrole : Sql.hasNul role with
    | true =>
      simp only [Query.sql, literal_of_hasNul hrole]
      rfl
    | false =>
      rw [hrole, Bool.false_or] at h
      simp only [Query.sql, literal_of_not_hasNul hrole, literal_of_hasNul h]
      rfl
  exact (yields_ask_unwritable hsql).bind_error

end LookUps

/-! ## 4. Savepoints -/

section Savepoints

variable {c : Connection (RoleServer roles)}

theorem leads_boundary (mark : Boundary) (haccepts : c.server.Accepts) :
    Leads (boundary mark : Session (RoleServer roles) Unit).run c (.ok ())
      [⟨.boundary mark, none⟩]
      (logged c (.boundary mark) (RoleServer.pass mark c.server.next)) := by
  have hbound := RoleServer.bound_of_pass mark (haccepts c.server.count)
  refine ⟨?_, rfl, .single hbound⟩
  show exec (boundary mark) c = _
  rw [exec_boundary, hbound]
  rfl

theorem leads_enterSavepoint (hc : c.inTransaction = true) (haccepts : c.server.Accepts) :
    Leads (enterSavepoint : Session (RoleServer roles) Unit).run c (.ok ())
      [⟨.boundary .savepoint, none⟩]
      (logged c (.boundary .savepoint) (RoleServer.pass .savepoint c.server.next)) := by
  have hrun := leads_boundary .savepoint haccepts
  refine ⟨?_, hrun.log, hrun.server⟩
  show exec enterSavepoint c = _
  unfold enterSavepoint
  rw [exec_bind_ok (exec_ensureTransaction hc)]
  exact hrun.exec

/-- The memberships that a savepoint leaves: those inside are kept after a success, and given up for
those at the savepoint after a failure. -/
def Memberships.kept (entered : Except Error α) (inside atSavepoint : Memberships) : Memberships :=
  match entered with
  | .ok _ => inside
  | .error _ => atSavepoint

/-- A savepoint is left with the outcome of the work in it. -/
theorem leads_leaveSavepoint (entered : Except Error α) (hc : c.inTransaction = true)
    (haccepts : c.server.Accepts) {atSavepoint : Memberships} {rest : List Memberships}
    (hsaved : c.server.saved = atSavepoint :: rest) :
    ∃ steps c', Leads (leaveSavepoint entered : Session (RoleServer roles) α).run c entered steps
        c' ∧ c'.inTransaction = true ∧ c'.server.begun = c.server.begun ∧ c'.server.saved = rest ∧
      c'.server.members = .kept entered c.server.members atSavepoint ∧ Unstarted steps := by
  unfold leaveSavepoint
  -- a failure inside rolls back to the savepoint and a success releases it; either takes it off the
  -- list
  cases entered with
  | error error =>
    have hrun := leads_boundary .rollbackTo haccepts
    refine ⟨_, _, hrun.bind_ok (.pure (Except.error error) _), hc, rfl, ?_, ?_, ?_⟩
    · show c.server.saved.tail = rest
      rw [hsaved]
      rfl
    · show c.server.saved.headD c.server.members = atSavepoint
      rw [hsaved]
      rfl
    · exact List.forall_mem_singleton.2 rfl
  | ok result =>
    have hrun := leads_boundary .release haccepts
    refine ⟨_, _, hrun.bind_ok (.pure (Except.ok result) _), hc, rfl, ?_, rfl, ?_⟩
    · show c.server.saved.tail = rest
      rw [hsaved]
      rfl
    · exact List.forall_mem_singleton.2 rfl

end Savepoints

/-! ## 5. Work that is started

The work that is done as a member may be any work, of which only the memberships behind it are
known. `Settles` says so of the work, and `Starts` says with which memberships it is begun. -/

section Starting

variable {now middle now' members : Memberships} {scope : Scope}

/-- Inside a transaction, on a server that refuses nothing, work takes the memberships `now` to
`now'`, whatever its result. -/
def Settles (work : Talk (RoleServer roles) β) (now now' : Memberships) : Prop :=
  ∀ c, c.inTransaction = true → c.server.Accepts → c.server.members = now →
    ∃ b steps c', Leads work c b steps c' ∧ Steady c c' ∧ c'.server.members = now'

theorem Yields.settles {work : Talk (RoleServer roles) β} {b : β} (h : Yields work now b now') :
    Settles work now now' := by
  intro c hc haccepts hmembers
  obtain ⟨steps, c', hrun, hsteady, hmembers', -⟩ := h c hc haccepts hmembers
  exact ⟨b, steps, c', hrun, hsteady, hmembers'⟩

/-- Work that leaves the memberships alone settles at them, when it takes steps at all. -/
theorem settles_of_leavesMemberships {work : Session (RoleServer roles) α}
    (hwork : LeavesMemberships work) (hdoes : Does work.run fun _ _ => True) (now : Memberships) :
    Settles work.run now now := by
  intro c hc haccepts hmembers
  obtain ⟨b, steps, c', hrun, -, -⟩ := hdoes c hc
  obtain ⟨b', c'', hrun', hsteady, hmembers'⟩ := hwork c hc
  obtain ⟨rfl, rfl⟩ := Prod.mk.inj (hrun.exec.symm.trans hrun')
  exact ⟨b, steps, c', hrun, hsteady, hmembers'.trans hmembers⟩

/-- In every run from the memberships `now` the first work that is started has this scope and these
memberships, and the memberships in the end are `now'`. -/
def Starts (work : Talk (RoleServer roles) β) (now : Memberships) (scope : Scope)
    (members now' : Memberships) : Prop :=
  ∀ c, c.inTransaction = true → c.server.Accepts → c.server.members = now →
    ∃ before after b c', Leads work c b (before ++ ⟨.started scope, none⟩ :: after) c' ∧
      Unstarted before ∧ (replay (before.map Step.event) c.server).2.members = members ∧
      Steady c c' ∧ c'.server.members = now'

namespace Starts

/-- Nothing is started before. -/
theorem after {work : Talk (RoleServer roles) α} {next : α → Talk (RoleServer roles) β} {a : α}
    (hwork : Yields work now a middle) (hnext : Starts (next a) middle scope members now') :
    Starts (work >>= next) now scope members now' := by
  intro c hc haccepts hmembers
  obtain ⟨first, c₁, hrun, hsteady, hmiddle, hfirst⟩ := hwork c hc haccepts hmembers
  obtain ⟨before, after, b, c₂, hrun', hbefore, hstarted, hsteady', hlast⟩ :=
    hnext c₁ hsteady.inTransaction (hrun.accepts haccepts) hmiddle
  have hboth := hrun.bind hrun'
  rw [← List.append_assoc] at hboth
  refine ⟨_, after, b, c₂, hboth, hfirst.append hbefore, ?_, hsteady.trans hsteady', hlast⟩
  -- what the second half starts from is the server after the first
  have hserver : (replay (first.map Step.event) c.server).2 = c₁.server :=
    congrArg Prod.snd hrun.server
  rw [List.map_append, replay_append, hserver]
  exact hstarted

theorem after_ok {work : Session (RoleServer roles) α} {next : α → Session (RoleServer roles) β}
    {a : α} (hwork : Yields work.run now (.ok a) middle)
    (hnext : Starts (next a).run middle scope members now') :
    Starts (work >>= next).run now scope members now' := by
  rw [ExceptT.run_bind]
  exact .after hwork hnext

/-- What follows does not matter, but for the memberships that it leaves. -/
theorem bind {work : Talk (RoleServer roles) α} {next : α → Talk (RoleServer roles) β}
    (hwork : Starts work now scope members middle) (hnext : ∀ a, Settles (next a) middle now') :
    Starts (work >>= next) now scope members now' := by
  intro c hc haccepts hmembers
  obtain ⟨before, after, a, c₁, hrun, hbefore, hstarted, hsteady, hmiddle⟩ :=
    hwork c hc haccepts hmembers
  obtain ⟨b, rest, c₂, hrun', hsteady', hlast⟩ :=
    hnext a c₁ hsteady.inTransaction (hrun.accepts haccepts) hmiddle
  have hboth := hrun.bind hrun'
  rw [List.append_assoc, List.cons_append] at hboth
  exact ⟨before, after ++ rest, b, c₂, hboth, hbefore, hstarted, hsteady.trans hsteady', hlast⟩

/-- The same of work whose outcome is looked at afterwards. -/
theorem attempt_bind {work : Session (RoleServer roles) α}
    {next : Except Error α → Session (RoleServer roles) β}
    (hwork : Starts work.run now scope members middle)
    (hnext : ∀ tried, Settles (next tried).run middle now') :
    Starts (attempt work >>= next).run now scope members now' := by
  have hsame : (attempt work >>= next).run = work.run >>= fun tried => (next tried).run := by
    unfold attempt
    rw [ExceptT.run_bind_lift]
  rw [hsame]
  exact hwork.bind hnext

end Starts

variable {work : Session (RoleServer roles) α} (hwork : LeavesMemberships work)
  (hdoes : Does work.run fun _ _ => True)

include hwork hdoes

theorem starts_start (scope : Scope) (now : Memberships) :
    Starts (start scope work).run now scope now now := by
  intro c hc haccepts hmembers
  have hrecord : Leads (record (.started scope) : Session (RoleServer roles) Unit).run c (.ok ())
      [⟨.started scope, none⟩] { c with log := c.log ++ [.started scope] } :=
    ⟨rfl, rfl, .single rfl⟩
  obtain ⟨b, steps, c', hrun, hsteady, hmembers'⟩ :=
    settles_of_leavesMemberships hwork hdoes now { c with log := c.log ++ [.started scope] } hc
      haccepts hmembers
  refine ⟨[], steps, b, c', hrecord.bind_ok hrun, .nil, hmembers, ?_, hmembers'⟩
  exact ⟨hsteady.inTransaction, hsteady.saved, hsteady.begun⟩

/-- The savepoint around the work is set before the work is started. -/
theorem starts_savepoint (scope : Scope) (now : Memberships) :
    Starts (savepoint (start scope work)).run now scope now now := by
  intro c hc haccepts hmembers
  have henter := leads_enterSavepoint hc haccepts
  obtain ⟨before, after, b, c₂, hrun, hbefore, hstarted, hsteady, hmembers'⟩ :=
    starts_start hwork hdoes scope now _ (by exact hc) (henter.accepts haccepts) hmembers
  have hsaved : c₂.server.saved = c.server.members :: c.server.saved := hsteady.saved
  obtain ⟨steps, c₃, hleave, hc₃, hbegun, hsaved', hlast, -⟩ :=
    leads_leaveSavepoint b hsteady.inTransaction (hrun.accepts (henter.accepts haccepts)) hsaved
  have hall : Leads (savepoint (start scope work)).run c b
      ([⟨.boundary .savepoint, none⟩] ++ ((before ++ ⟨.started scope, none⟩ :: after) ++ steps))
      c₃ := by
    unfold savepoint
    exact henter.bind_ok (hrun.attempt.bind_ok hleave)
  refine ⟨⟨.boundary .savepoint, none⟩ :: before, after ++ steps, b, c₃, ?_, ?_, ?_,
    ⟨hc₃, hsaved', hbegun.trans hsteady.begun⟩, ?_⟩
  · simpa using hall
  · exact List.forall_mem_cons.2 ⟨rfl, hbefore⟩
  · rw [List.map_cons, replay_cons]
    have hserver : ((Event.boundary .savepoint).served c.server).2 =
        RoleServer.pass .savepoint c.server.next :=
      congrArg Prod.snd (RoleServer.bound_of_pass .savepoint (haccepts c.server.count))
    rw [hserver]
    exact hstarted
  · -- released or rolled back, the memberships are those at the savepoint
    rw [hlast]
    cases b with
    | ok result => exact hmembers'
    | error error => exact hmembers

end Starting

end PgGrants
