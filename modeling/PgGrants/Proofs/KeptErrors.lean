/-
No failure is lost. Work as a member of roles has three parts: joining the roles, the work in its
savepoint, and undoing what joining has changed. Each of them can fail, at any of its commands, and
the outcome is one error in which every failure can be found: the error of the part that failed, or
both errors when undoing fails as well. There is a result only when nothing failed.

For a plan that is the work, the error names the first statement that the server rejects.
-/
import PgGrants.Proofs.Borrowing

set_option autoImplicit false

namespace PgGrants

/-! ## 1. What comes out

The table of outcomes, as a relation: joining, the work and undoing may each fail, and for each
combination it says which error comes out and which others are told in it. -/

section Outcomes

variable {α : Type}

/-- What comes out of work as a member of the roles `names`, of which the user had joined `granted`,
by how joining went, how the work went if it was begun, and how undoing went. -/
inductive ComesOut (names granted : List String) (user : Option String) :
    Except Error Unit → Option (Except Error α) → Except Error Unit → Except Error α → Prop where
  /-- A role is not there. -/
  | missing {error : Error} (h : error.isNotFound = true) :
      ComesOut names granted user (.error error) none (.ok ()) (.error error)
  | notJoined {error : Error} (h : error.isNotFound = false) :
      ComesOut names granted user (.error error) none (.ok ())
        (.error (.notJoined names user error))
  | neitherJoinedNorUndone {error cause : Error} :
      ComesOut names granted user (.error error) none (.error cause)
        (.error (.notUndoneAfter granted user error cause))
  | failed {error : Error} :
      ComesOut names granted user (.ok ()) (some (.error error)) (.ok ()) (.error error)
  | failedNorUndone {error cause : Error} :
      ComesOut names granted user (.ok ()) (some (.error error)) (.error cause)
        (.error (.notUndoneAfter granted user error cause))
  | notUndone {result : α} {cause : Error} :
      ComesOut names granted user (.ok ()) (some (.ok result)) (.error cause)
        (.error (.notUndone granted user cause))
  | done {result : α} :
      ComesOut names granted user (.ok ()) (some (.ok result)) (.ok ()) (.ok result)

/-- There is a result exactly when no part failed. -/
theorem ComesOut.ok_iff {names granted : List String} {user : Option String}
    {joined released : Except Error Unit} {worked : Option (Except Error α)}
    {outcome : Except Error α} (h : ComesOut names granted user joined worked released outcome) :
    (∃ result, outcome = .ok result) ↔
      joined = .ok () ∧ (∃ result, worked = some (.ok result)) ∧ released = .ok () := by
  constructor
  · rintro ⟨result, rfl⟩
    cases h
    exact ⟨rfl, ⟨result, rfl⟩, rfl⟩
  · rintro ⟨rfl, ⟨result, rfl⟩, rfl⟩
    cases h
    exact ⟨result, rfl⟩

/-- How joining went, by how far the work got. -/
def Attempt.joined : Attempt α → Except Error Unit
  | .notJoined error => .error error
  | _ => .ok ()

/-- How the work went, if it was begun. -/
def Attempt.worked : Attempt α → Option (Except Error α)
  | .notJoined _ => none
  | .failed error => some (.error error)
  | .done result => some (.ok result)

/-- What comes out of a stay is made of its parts. -/
theorem Stay.comesOut (names : List String) (stay : Stay α) :
    ComesOut names stay.scope.granted stay.user stay.attempt.joined stay.attempt.worked
      stay.released (stay.outcome names) := by
  obtain ⟨user, scope, attempt, released⟩ := stay
  cases attempt with
  | notJoined error =>
    cases released with
    | ok _ =>
      by_cases hmissing : error.isNotFound = true
      · have houtcome : (Stay.mk user scope (.notJoined error) (.ok ())).outcome names =
            (.error error : Except Error α) := congrArg Except.error (if_pos hmissing)
        rw [houtcome]
        exact .missing hmissing
      · have houtcome : (Stay.mk user scope (.notJoined error) (.ok ())).outcome names =
            (.error (.notJoined names user error) : Except Error α) :=
          congrArg Except.error (if_neg hmissing)
        rw [houtcome]
        exact .notJoined (Bool.eq_false_iff.2 hmissing)
    | error cause => exact .neitherJoinedNorUndone
  | failed error =>
    cases released with
    | ok _ => exact .failed
    | error cause => exact .failedNorUndone
  | done result =>
    cases released with
    | ok _ => exact .done
    | error cause => exact .notUndone

end Outcomes

/-! ## 2. The parts of a run -/

namespace Session

variable {σ α : Type} [Server σ]

/-- The work in its savepoint, as far as it was begun: not at all when joining failed. -/
inductive Attempts (scope : Scope) (work : Session σ α) (c : Connection σ) :
    Except Error Unit → Option (Except Error α) → Connection σ → Prop where
  | notBegun {error : Error} : Attempts scope work c (.error error) none c
  | begun {worked : Except Error α} {c' : Connection σ}
      (h : exec (savepoint (start scope work)) c = (worked, c')) :
      Attempts scope work c (.ok ()) (some worked) c'

/-- Whatever the parts come to, the outcome is made of it. -/
theorem exec_asMember_of_joined {user : Option String} {names : List String} {c c₁ : Connection σ}
    {joined : Except Error Unit} {scope : Scope}
    (hjoin : (joinInSavepoint user names).exec c = ((joined, scope), c₁)) (work : Session σ α) :
    ∃ worked c₂ released c₃ outcome, Attempts scope work c₁ joined worked c₂ ∧
      exec (undo user scope) c₂ = (released, c₃) ∧
      exec (asMember user names work) c = (outcome, c₃) ∧
      ComesOut names scope.granted user joined worked released outcome := by
  -- undoing follows in any case, and the attempt before it says how far the work got
  obtain ⟨attempt, c₂, htry, hjoined, hattempts⟩ : ∃ attempt c₂,
      (tryAsMember user names work).exec c = ((attempt, scope), c₂) ∧ attempt.joined = joined ∧
        Attempts scope work c₁ joined attempt.worked c₂ := by
    cases joined with
    | error error => exact ⟨_, c₁, exec_tryAsMember_of_notJoined hjoin, rfl, .notBegun⟩
    | ok _ =>
      rcases hwork : exec (savepoint (start scope work)) c₁ with ⟨error | result, c₂⟩
      · exact ⟨_, c₂, exec_tryAsMember_of_failed hjoin hwork, rfl, .begun hwork⟩
      · exact ⟨_, c₂, exec_tryAsMember_of_done hjoin hwork, rfl, .begun hwork⟩
  subst hjoined
  rcases hundo : exec (undo user scope) c₂ with ⟨released, c₃⟩
  refine ⟨attempt.worked, c₂, released, c₃, _, hattempts, hundo, ?_,
    Stay.comesOut names ⟨user, scope, attempt, released⟩⟩
  rw [exec_asMember, exec_stayAs htry, hundo]

/-- Work for roles that the connecting role needs is done as a member of them, once it is known who
that is and that it is no superuser. -/
theorem exec_asMemberOf_of_needed {roles : List (Option String)} {c c₁ c₂ : Connection σ}
    {user : Option String} {found : Option ServerRole} (hneeded : candidates roles ≠ [])
    (huser : exec connectingRole c = (.ok user, c₁))
    (hfound : exec (lookUpRole user) c₁ = (.ok found, c₂))
    (hmodest : ∀ identity, found = some identity → identity.isSuperuser = false)
    (work : Session σ α) :
    exec (asMemberOf roles work) c = exec (asMember user (candidates roles) work) c₂ := by
  unfold asMemberOf
  dsimp only
  rw [if_neg fun h => hneeded (List.isEmpty_iff.1 h), exec_bind_ok huser, exec_bind_ok hfound]
  -- no superuser gets by without the memberships, known to the server or not
  cases found with
  | none => rfl
  | some identity =>
    dsimp only
    rw [if_neg (Bool.eq_false_iff.1 (hmodest identity rfl))]

/-- Work that keeps transactions open leaves this one open. -/
theorem inTransaction_of_does {work : Session σ α} {kind : Except Error α → List Step → Prop}
    (h : Does work.run kind) {c c' : Connection σ} {outcome : Except Error α}
    (hc : c.inTransaction = true) (hrun : exec work c = (outcome, c')) :
    c'.inTransaction = true := by
  obtain ⟨result, steps, c'', hleads, hc'', -⟩ := h c hc
  have hsame : (outcome, c') = (result, c'') := hrun.symm.trans hleads.exec
  cases hsame
  exact hc''

/-! ## 3. Plans as work

When the work is a plan, its failure is that of one statement. The savepoint around it hands the
error on once it was rolled back. -/

/-- Of the plan, this is the first statement that the server rejects, for this reason; what comes
after it is not sent. -/
inductive RejectsFirst (statement : Statement) (reason : String) :
    List Statement → Connection σ → Connection σ → Prop where
  | here {rest : List Statement} {c : Connection σ} {sql : String} {server : σ}
      (hsql : statement.sql = .ok sql)
      (hanswer : Server.answer (.statement statement) c.server =
        (.failed (.refused reason), server)) :
      RejectsFirst statement reason (statement :: rest) c
        (logged c (.sent (.statement statement) sql) server)
  | later {first : Statement} {rest : List Statement} {c c₁ c' : Connection σ}
      (hfirst : exec (perform first) c = (.ok (), c₁))
      (hrest : RejectsFirst statement reason rest c₁ c') :
      RejectsFirst statement reason (first :: rest) c c'

/-- The plan fails with the statement that is rejected first. -/
theorem RejectsFirst.exec_performAll {statement : Statement} {reason description target : String}
    {plan : List Statement} {c c' : Connection σ} (h : RejectsFirst statement reason plan c c')
    (hc : c.inTransaction = true) (hdescription : statement.describe = .ok description)
    (htarget : statement.subject = .ok target) :
    exec (performAll plan) c =
      (.error (.rejected statement description target reason), c') := by
  induction h with
  | @here rest c sql server hsql hanswer =>
    have hsend : exec (send (.statement statement)) c =
        (.error (.refused reason), logged c (.sent (.statement statement) sql) server) := by
      have hwritten : (Command.statement statement).sql = .ok sql := hsql
      rw [exec_send hwritten hc, hanswer]
      rfl
    -- the refusal is told together with what the statement was meant to do
    have hperform : exec (perform statement) c =
        (.error (.rejected statement description target reason),
          logged c (.sent (.statement statement) sql) server) := by
      unfold perform
      rw [hdescription, htarget]
      show exec (attempt (send (.statement statement)) >>= _) c = _
      rw [exec_bind_ok (exec_attempt _ c), hsend]
      rfl
    unfold performAll
    rw [exec_bind_error hperform]
  | @later first rest c c₁ c' hfirst _ ih =>
    unfold performAll
    rw [exec_bind_ok hfirst]
    exact ih (inTransaction_of_does (does_perform first) hc hfirst)

/-- A savepoint that can be rolled back to hands the failure of its work on. -/
theorem exec_savepoint_of_error {work : Session σ α} {error : Error} {c c₁ c₂ : Connection σ}
    {server : σ} (henter : exec enterSavepoint c = (.ok (), c₁))
    (hwork : exec work c₁ = (.error error, c₂))
    (hback : Server.bound .rollbackTo c₂.server = (none, server)) :
    exec (savepoint work) c = (.error error, logged c₂ (.boundary .rollbackTo) server) := by
  unfold savepoint leaveSavepoint
  rw [exec_bind_ok henter, exec_bind_ok (exec_attempt work c₁), hwork]
  -- the server goes back to the savepoint, so the error is still the work's own
  have hboundary : exec (boundary .rollbackTo) c₂ =
      (.ok (), logged c₂ (.boundary .rollbackTo) server) := by
    rw [exec_boundary, hback]
    rfl
  dsimp only
  rw [exec_bind_ok hboundary]
  rfl

/-! ## 4. No failure is lost -/

/-- When roles have to be joined, joining them, the work and undoing account for the outcome: it is
a result only when all three succeed, and otherwise an error that holds the error of every part that
failed, with the roles whose memberships the server had accepted if those could not be undone. If
joining fails the work is not begun. And if the work is a plan of which the server rejects a
statement, the error of that statement comes out, unless the savepoint cannot be rolled back to or
undoing fails. -/
theorem asMemberOf_loses_no_error {roles : List (Option String)} {c c₁ c₂ : Connection σ}
    {user : Option String} {found : Option ServerRole} (hc : c.inTransaction = true)
    (hneeded : candidates roles ≠ []) (huser : exec connectingRole c = (.ok user, c₁))
    (hfound : exec (lookUpRole user) c₁ = (.ok found, c₂))
    (hmodest : ∀ identity, found = some identity → identity.isSuperuser = false) :
    ∃ joined scope joining c₃,
      Leads (joinInSavepoint user (candidates roles)) c₂ (joined, scope) joining c₃ ∧
      (joined = .ok () → Accepted joining) ∧
      scope.granted =
        (converse (joining.map Step.event) c₂.server).filterMap (Exchange.granted? user) ∧
      (∀ {α : Type} (work : Session σ α), ∃ worked c₄ released c₅ outcome,
        Attempts scope work c₃ joined worked c₄ ∧ exec (undo user scope) c₄ = (released, c₅) ∧
        exec (asMemberOf roles work) c = (outcome, c₅) ∧
        ComesOut (candidates roles) scope.granted user joined worked released outcome ∧
        ((∃ result, outcome = .ok result) ↔
          joined = .ok () ∧ (∃ result, worked = some (.ok result)) ∧ released = .ok ())) ∧
      ∀ {plan : List Statement} {statement : Statement} {reason description target : String}
        {c₄ c₅ : Connection σ} {server : σ}, joined = .ok () →
        exec enterSavepoint c₃ = (.ok (), c₄) →
        RejectsFirst statement reason plan { c₄ with log := c₄.log ++ [.started scope] } c₅ →
        statement.describe = .ok description → statement.subject = .ok target →
        Server.bound .rollbackTo c₅.server = (none, server) →
        (exec (undo user scope) (logged c₅ (.boundary .rollbackTo) server)).1 = .ok () →
        (exec (asMemberOf roles (performAll plan)) c).1 =
          .error (.rejected statement description target reason) := by
  have hc₁ : c₁.inTransaction = true := inTransaction_of_does asks_connectingRole hc huser
  have hc₂ : c₂.inTransaction = true := inTransaction_of_does (asks_lookUpRole user) hc₁ hfound
  have hpublic : ∀ name ∈ candidates roles, Role.isPublic name = false :=
    fun _ hname => (mem_candidates hname).2
  obtain ⟨⟨joined, scope⟩, joining, c₃, hleads, hc₃, hjoining⟩ :=
    hears_joinInSavepoint hpublic user [] c₂ hc₂
  have haccepted : joined = .ok () → Accepted joining := by
    obtain ⟨result, steps, c', hleads', -, hjoins⟩ :=
      does_joinInSavepoint (σ := σ) user (candidates roles) c₂ hc₂
    obtain ⟨rfl, rfl⟩ := hleads.unique hleads'
    exact hjoins.accepted
  -- whatever the work is, what becomes of it is told by how joining and undoing went
  have hparts : ∀ {α : Type} (work : Session σ α), ∃ worked c₄ released c₅ outcome,
      Attempts scope work c₃ joined worked c₄ ∧ exec (undo user scope) c₄ = (released, c₅) ∧
      exec (asMemberOf roles work) c = (outcome, c₅) ∧
      ComesOut (candidates roles) scope.granted user joined worked released outcome := by
    intro α work
    rw [exec_asMemberOf_of_needed hneeded huser hfound hmodest]
    exact exec_asMember_of_joined hleads.exec work
  refine ⟨joined, scope, joining, c₃, hleads, haccepted, hjoining.granted, fun work => ?_, ?_⟩
  · obtain ⟨worked, c₄, released, c₅, outcome, hattempts, hundo, hrun, hout⟩ := hparts work
    exact ⟨worked, c₄, released, c₅, outcome, hattempts, hundo, hrun, hout, hout.ok_iff⟩
  · intro plan statement reason description target c₄ c₅ server hjoined henter hrejects
      hdescription htarget hback hundone
    obtain ⟨worked, c₆, released, c₇, outcome, hattempts, hundo, hrun, hout⟩ :=
      hparts (performAll plan)
    have hc₄ : c₄.inTransaction = true :=
      inTransaction_of_does (movesOnly_enterSavepoint counts_lent) hc₃ henter
    have hstart : exec (start scope (performAll plan)) c₄ =
        (.error (.rejected statement description target reason), c₅) := by
      unfold start
      rw [exec_bind_ok (exec_record _ c₄)]
      exact hrejects.exec_performAll hc₄ hdescription htarget
    have hwork := exec_savepoint_of_error henter hstart hback
    rw [hrun]
    -- joining succeeded, so the work was begun, and it ended with this error
    cases hattempts with
    | notBegun => cases hjoined
    | begun hsavepoint =>
      rw [hwork] at hsavepoint
      cases hsavepoint
      rw [hundo] at hundone
      cases hundone
      cases hout
      rfl

end Session

/-- The server of `ownerScript` now rejects the statement that is the work; so many of its replies
were given already. -/
def rejecting (given : Nat) (log : List Event) : Connection Script where
  server := ⟨(ownerScript.replies.set 7 (.failed (.refused "must be owner of schema sales"))).drop
    given⟩
  log := log
  inTransaction := true
  capabilities := some ⟨⟨[16]⟩⟩

/-- The schema is not handed over, and the reason comes out, although the membership was handed back
after it. -/
theorem Session.hand_over_keeps_rejection :
    (handOver.exec (rejecting 0 [])).1 =
      .error (.rejected (.schemaOwner ⟨some "sales", some "owner", some "app"⟩)
        "change owner of schema sales from app to owner" "schema sales"
        "must be owner of schema sales") := by
  -- the run is cut where the script gets to its next reply
  obtain ⟨asked, huser⟩ : ∃ log, exec connectingRole (rejecting 0 []) =
      (.ok (some "app"), rejecting 1 log) := ⟨_, rfl⟩
  obtain ⟨looked, hfound⟩ : ∃ log, exec (lookUpRole (some "app")) (rejecting 1 asked) =
      (.ok (some ⟨some "app", 10, false⟩), rejecting 2 log) := ⟨_, rfl⟩
  obtain ⟨moved, hjoin⟩ : ∃ log,
      (joinInSavepoint (some "app") ["owner"]).exec (rejecting 2 looked) =
        ((.ok (), ⟨some "app", ["owner"], ["owner"]⟩), rejecting 7 log) := ⟨_, rfl⟩
  have hneeded : candidates [some "owner", some "public", some "app"] ≠ [] := by decide +kernel
  have hmodest : ∀ identity, some (⟨some "app", 10, false⟩ : ServerRole) = some identity →
      identity.isSuperuser = false := by
    intro identity hidentity
    rw [← Option.some.inj hidentity]
  obtain ⟨joined, scope, joining, c₃, hleads, -, -, -, hplan⟩ :=
    asMemberOf_loses_no_error rfl hneeded huser hfound hmodest
  obtain ⟨hjoined, rfl⟩ := Prod.mk.inj (hleads.exec.symm.trans hjoin)
  obtain ⟨rfl, rfl⟩ := Prod.mk.inj hjoined
  exact hplan rfl rfl (.here rfl rfl) rfl rfl rfl rfl

end PgGrants
