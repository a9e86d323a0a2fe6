/-
What the server reports about roles. A report is an exchange: the question and what the reply to it
says. Each look-up is shown to have put its own questions only, and what it finds to be what was
reported to it.
-/
import PgGrants.Proofs.Entry
import PgGrants.Proofs.Lending
import PgGrants.Proofs.Transcript

set_option autoImplicit false

namespace PgGrants

/-! ## 1. Reports -/

namespace Exchange

/-- The command that was sent, when one was. -/
def command? (x : Exchange) : Option Command := x.step.command?

/-- The server did what it was asked to do. -/
def isAccepted (x : Exchange) : Bool :=
  match x.reply with
  | .rows _ => true
  | .failed _ => false

/-- The command moves a membership. -/
def Moves (x : Exchange) : Prop :=
  ∃ role member, x.command? = some (.grantRole role member) ∨
    x.command? = some (.revokeRole role member)

/-- The connecting role is reported to be this one. -/
def ReportsUser (user : Option String) (x : Exchange) : Prop :=
  x.command? = some (.query .connectingRole) ∧ ∃ rows cell, x.reply = .rows rows ∧
    Catalog.firstCell rows = .ok cell ∧ cell.name? = user

/-- The role is reported to exist, and what it is. -/
def ReportsRole (name : Option String) (identity : ServerRole) (x : Exchange) : Prop :=
  x.command? = some (.query (.role name)) ∧ ∃ row rows, x.reply = .rows (row :: rows) ∧
    Catalog.rowRole row = .ok identity

/-- It is reported whether one role is a member of the other. -/
def ReportsMember (role member : Option String) (isMember : Bool) (x : Exchange) : Prop :=
  ∃ settable, x.command? = some (.query (.isMember role member settable)) ∧
    ∃ rows cell, x.reply = .rows rows ∧ Catalog.firstCell rows = .ok cell ∧ cell.isTrue = isMember

/-- The exchange is one of the questions. -/
def Asks (allowed : Query → Prop) (x : Exchange) : Prop :=
  ∃ query, allowed query ∧ x.command? = some (.query query)

theorem Asks.mono {allowed allowed' : Query → Prop} {x : Exchange} (h : x.Asks allowed)
    (himp : ∀ query, allowed query → allowed' query) : x.Asks allowed' := by
  obtain ⟨query, hquery, hcommand⟩ := h
  exact ⟨query, himp query hquery, hcommand⟩

theorem not_moves_of_query {x : Exchange} {query : Query} (h : x.command? = some (.query query)) :
    ¬x.Moves := by
  rintro ⟨role, member, hmoves | hmoves⟩
  · rw [h] at hmoves
    cases hmoves
  · rw [h] at hmoves
    cases hmoves

theorem Asks.not_moves {allowed : Query → Prop} {x : Exchange} (h : x.Asks allowed) : ¬x.Moves := by
  obtain ⟨query, -, hquery⟩ := h
  exact not_moves_of_query hquery

theorem not_moves_of_none {x : Exchange} (h : x.command? = none) : ¬x.Moves := by
  rintro ⟨role, member, hmoves | hmoves⟩
  · rw [h] at hmoves
    cases hmoves
  · rw [h] at hmoves
    cases hmoves

end Exchange

/-! ## 2. Look-ups

What a look-up returns is what the server said in it. A reply without rows reports that nothing is
there; otherwise the first row is read. -/

section LookUps

open Session

variable {σ α β : Type} [Server σ]

/-- Questions that some work puts are exchanges with the server. -/
theorem AsksOnly.hears {allowed : Query → Prop} {work : Session σ α} (h : AsksOnly allowed work) :
    Hears work.run fun _ exchanges => ∀ x ∈ exchanges, x.Asks allowed :=
  (Does.hears h).mono fun _ _ hasked _ hx => hasked.questions _ (List.mem_map_of_mem hx)

/-- A question is put and answered, and what is made of the rows is the outcome. -/
theorem hears_ask_bind {query : Query} {next : List (List Value) → Session σ α}
    (outcome : List (List Value) → Except Error α)
    (hnext : ∀ rows, next rows = ofOutcome (outcome rows)) :
    Hears (ask query >>= next).run fun result exchanges =>
      (∀ x ∈ exchanges, x.command? = some (.query query)) ∧
        ∀ a, result = .ok a → ∃ x rows, exchanges = [x] ∧ x.reply = .rows rows ∧
          outcome rows = .ok a := by
  have hone : ∀ sql reply, ∀ x ∈ [Exchange.mk (.sent (.query query) sql) reply],
      x.command? = some (.query query) := by
    intro sql reply x hx
    rw [List.mem_singleton.1 hx]
    rfl
  -- rows come back only as the reply to that question
  have hask : Hears (ask query : Session σ (List (List Value))).run fun result exchanges =>
      (∀ x ∈ exchanges, x.command? = some (.query query)) ∧
        ∀ rows, result = .ok rows → ∃ x, exchanges = [x] ∧ x.reply = .rows rows := by
    refine .send (fun sql reply _ => ⟨hone sql reply, fun rows hrows => ?_⟩) fun fault _ => ?_
    · cases reply with
      | rows given => exact ⟨_, rfl, by rw [Except.ok.inj hrows]⟩
      | failed failure => cases hrows
    · exact ⟨List.forall_mem_nil _, fun _ h => nomatch h⟩
  refine .bind_run hask (fun rows exchanges hasked => ?_) fun error exchanges hasked =>
    ⟨hasked.1, fun _ h => nomatch h⟩
  obtain ⟨x, rfl, hreply⟩ := hasked.2 rows rfl
  rw [hnext]
  refine .pure ⟨by rw [List.append_nil]; exact hasked.1, fun a ha => ?_⟩
  exact ⟨x, rows, List.append_nil _, hreply, ha⟩

theorem hears_connectingRole :
    Hears (connectingRole : Session σ (Option String)).run fun result exchanges =>
      (∀ x ∈ exchanges, x.command? = some (.query .connectingRole)) ∧
        ∀ user, result = .ok user → ∃ x, exchanges = [x] ∧ x.ReportsUser user := by
  refine (hears_ask_bind (fun rows => (Catalog.firstCell rows).map Value.name?)
    fun rows => ?_).mono fun result exchanges hasked => ⟨hasked.1, fun user huser => ?_⟩
  · cases hcell : Catalog.firstCell rows <;> rfl
  · obtain ⟨x, rows, rfl, hreply, hname⟩ := hasked.2 user huser
    obtain ⟨cell, hcell, hcellName⟩ := exists_of_map_eq_ok hname
    exact ⟨x, rfl, hasked.1 x List.mem_cons_self, rows, cell, hreply, hcell, hcellName⟩

/-- A role is found as it is reported. -/
theorem hears_findRole (name : Option String) :
    Hears (findRole (σ := σ) name).run fun result exchanges =>
      (∀ x ∈ exchanges, x.command? = some (.query (.role name))) ∧
        ∀ found, result = .ok found → ∃ x, exchanges = [x] ∧
          ∀ identity, x.ReportsRole name identity ↔ found = some identity := by
  refine (hears_ask_bind (fun rows => rows.head?.elim (.ok none) fun row =>
    (Catalog.rowRole row).map some) fun rows => ?_).mono
      fun result exchanges hasked => ⟨hasked.1, fun found hfound => ?_⟩
  -- reading the first row is the only thing that can fail here
  · cases rows with
    | nil => rfl
    | cons row rows =>
      show _ = ofOutcome ((Catalog.rowRole row).map some)
      cases hrow : Catalog.rowRole row <;> simp [hrow] <;> rfl
  · obtain ⟨x, rows, rfl, hreply, hmade⟩ := hasked.2 found hfound
    refine ⟨x, rfl, fun identity => ?_⟩
    have hcommand := hasked.1 x List.mem_cons_self
    cases rows with
    | nil =>
      cases hmade
      constructor
      · rintro ⟨-, row, rows, hrows, -⟩
        rw [hreply] at hrows
        cases hrows
      · intro h
        cases h
    | cons row rows =>
      obtain ⟨made, hrow, rfl⟩ := exists_of_map_eq_ok hmade
      constructor
      · rintro ⟨-, row', rows', hrows, hidentity⟩
        rw [hreply] at hrows
        cases hrows
        rw [hrow] at hidentity
        rw [Except.ok.inj hidentity]
      · intro h
        rw [← Option.some.inj h]
        exact ⟨hcommand, row, rows, hreply, hrow⟩

/-- What is looked up agrees with every report on the role, and there is one unless the role is
PUBLIC. -/
theorem hears_lookUpRole (name : Option String) :
    Hears (lookUpRole (σ := σ) name).run fun result exchanges =>
      (∀ x ∈ exchanges, x.command? = some (.query (.role name))) ∧
        ∀ found, result = .ok found →
          (∀ x ∈ exchanges, ∀ identity, x.ReportsRole name identity → found = some identity) ∧
            (Role.isPublic (Role.orPublic name) = false →
              ∃ x, exchanges = [x] ∧ ∀ identity, found = some identity →
                x.ReportsRole name identity) := by
  unfold lookUpRole
  -- PUBLIC is looked up without an exchange
  by_cases hpublic : Role.isPublic (Role.orPublic name) = true
  · rw [if_pos hpublic]
    refine .pure ⟨List.forall_mem_nil _, fun found _ =>
      ⟨List.forall_mem_nil _, fun hnot => ?_⟩⟩
    rw [hpublic] at hnot
    cases hnot
  · rw [if_neg hpublic]
    refine (hears_findRole name).mono fun result exchanges hasked =>
      ⟨hasked.1, fun found hfound => ?_⟩
    obtain ⟨x, rfl, hreports⟩ := hasked.2 found hfound
    refine ⟨fun y hy identity hidentity => ?_, fun _ => ⟨x, rfl, fun identity hidentity => ?_⟩⟩
    · rw [List.mem_singleton.1 hy] at hidentity
      exact (hreports identity).1 hidentity
    · exact (hreports identity).2 hidentity

/-- A role that is found to exist was reported to. -/
theorem hears_hasRole {name : Option String}
    (hpublic : Role.isPublic (Role.orPublic name) = false) :
    Hears (hasRole (σ := σ) name).run fun result exchanges =>
      (∀ x ∈ exchanges, x.command? = some (.query (.role name))) ∧
        (result = .ok true → ∃ x identity, exchanges = [x] ∧ x.ReportsRole name identity) := by
  refine .bind_run (hears_lookUpRole name) (fun found exchanges hlooked => ?_)
    fun error exchanges hlooked => ⟨hlooked.1, fun h => nomatch h⟩
  refine .pure ⟨by rw [List.append_nil]; exact hlooked.1, fun hexists => ?_⟩
  obtain ⟨x, rfl, hreports⟩ := (hlooked.2 found rfl).2 hpublic
  obtain ⟨identity, rfl⟩ := Option.isSome_iff_exists.1 (Except.ok.inj hexists)
  exact ⟨x, identity, List.append_nil _, hreports identity rfl⟩

/-- The questions for a membership: the version, if it is not known, and the membership. -/
def OnMember (role member : Option String) (query : Query) : Prop :=
  query = .reportedVersion ∨ ∃ settable, query = .isMember role member settable

/-- A membership is found as it is reported, after the version if that is not known. -/
theorem hears_isMember (role member : Option String) :
    Hears (isMember (σ := σ) role member).run fun result exchanges =>
      (∀ x ∈ exchanges, x.Asks (OnMember role member)) ∧
        ∀ flag, result = .ok flag → ∃ versions x, exchanges = versions ++ [x] ∧
          (∀ y ∈ versions, y.Asks (· = .reportedVersion)) ∧
          x.ReportsMember role member flag.isSet := by
  -- the version may have to be asked for first
  have hversion : AsksOnly (· = .reportedVersion) (Session.capabilities : Session σ Capabilities) :=
    asks_capabilities rfl
  have hboth : ∀ {versions : List Exchange}, (∀ y ∈ versions, y.Asks (· = .reportedVersion)) →
      ∀ y ∈ versions, y.Asks (OnMember role member) :=
    fun h y hy => (h y hy).mono fun _ => .inl
  refine .bind_run hversion.hears (fun caps exchanges hasked => ?_) fun error exchanges hasked =>
    ⟨hboth hasked, fun _ h => nomatch h⟩
  refine (hears_ask_bind (fun rows => (Catalog.firstCell rows).map Flag.mk)
    fun rows => ?_).mono fun result rest hrest => ⟨?_, fun flag hflag => ?_⟩
  · cases hcell : Catalog.firstCell rows <;> rfl
  · exact List.forall_mem_append.2
      ⟨hboth hasked, fun x hx => ⟨_, .inr ⟨_, rfl⟩, hrest.1 x hx⟩⟩
  · obtain ⟨x, rows, rfl, hreply, hmade⟩ := hrest.2 flag hflag
    obtain ⟨cell, hcell, rfl⟩ := exists_of_map_eq_ok hmade
    have hcommand := hrest.1 x List.mem_cons_self
    exact ⟨exchanges, x, rfl, hasked, _, hcommand, rows, cell, hreply, hcell, rfl⟩

end LookUps

/-! ## 3. Moving memberships -/

/-- How a command that moves a membership goes: it cannot be written, it is accepted, or it is
rejected. -/
inductive Answered (command : Command) : Except Error Unit → List Exchange → Prop where
  | unsent {fault : Unwritable} (h : command.sql = .error fault) :
      Answered command (.error (.unwritable fault)) []
  | accepted {sql : String} (h : command.sql = .ok sql) (rows : List (List Value)) :
      Answered command (.ok ()) [⟨.sent command sql, .rows rows⟩]
  | rejected {sql : String} (h : command.sql = .ok sql) (failure : Failure) :
      Answered command (.error failure.error) [⟨.sent command sql, .failed failure⟩]

section Moving

open Session

variable {σ : Type} [Server σ]

theorem hears_move (command : Command) :
    Hears (do let _ ← send command : Session σ Unit).run (Answered command) := by
  have hsent : Hears (send command : Session σ (List (List Value))).run fun result exchanges =>
      Answered command (result.map fun _ => ()) exchanges := by
    refine .send (fun sql reply hsql => ?_) fun fault hsql => .unsent hsql
    cases reply with
    | rows rows => exact .accepted hsql rows
    | failed failure => exact .rejected hsql failure
  refine .bind_run hsent (fun rows exchanges h => .pure ?_) fun error exchanges h => h
  rw [List.append_nil]
  exact h

theorem hears_grantRole (role member : Option String) :
    Hears (grantRole role member : Session σ Unit).run (Answered (.grantRole role member)) :=
  hears_move _

theorem hears_revokeRole (role member : Option String) :
    Hears (revokeRole role member : Session σ Unit).run (Answered (.revokeRole role member)) :=
  hears_move _

end Moving

end PgGrants
