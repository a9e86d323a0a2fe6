/-
Work that matches. Every look-up matches itself, and look-ups about a role match by whatever
spelling of PUBLIC they name it; so do joining roles and handing them back around matching work,
and the sending of plans that are alike. From these each operation's look-up for its job is put
together, and carrying out what was found.

A look-up of PUBLIC puts no question, so nothing is to be compared there; and decoding what the
server says may fail, but never with a refusal.
-/
import PgGrants.Proofs.Jobs
import PgGrants.Proofs.Misreadings
import PgGrants.Proofs.TwoRuns

set_option autoImplicit false

namespace PgGrants

variable {spelling : Spelling} {caps : Capabilities} {σ α β : Type} [Server σ]

open Session

/-! ## 1. Transactions and savepoints

Where matching work is put into a transaction or a savepoint, the boundary behind it goes by how the
work ended. Outcomes that are alike end at the same boundary. -/

section Around

variable {work : Session σ α} {other : Session σ β} {related : α → β → Prop}

theorem matches_endTransaction (mark : Boundary) :
    Matches spelling caps (endTransaction mark : Session σ Unit) (endTransaction mark) Eq := by
  refine Matches.isInTransaction.bind_eq fun opened => .ite ?_ (.pure rfl)
  exact (Matches.setInTransaction false).bind_eq fun _ => .boundary mark

theorem Matches.transaction (h : Matches spelling caps work other related) :
    Matches spelling caps (Session.transaction work) (Session.transaction other) related := by
  refine (Matches.attempt (Matches.ensureTransaction.bind_eq fun _ => h)).bind ?_
  intro outcome outcome' hends
  -- both commit, or both roll back
  cases hends with
  | ok hab => exact (matches_endTransaction .commit).bind_eq fun _ => .pure hab
  | error hef hrefusal =>
    exact (matches_endTransaction .rollback).bind_eq fun _ => .throw hef hrefusal

theorem matches_enterSavepoint :
    Matches spelling caps (enterSavepoint : Session σ Unit) enterSavepoint Eq :=
  Matches.ensureTransaction.bind_eq fun _ => .boundary .savepoint

theorem matches_leaveSavepoint {outcome : Except Error α} {outcome' : Except Error β}
    (h : Ends spelling related outcome outcome') :
    Matches spelling caps (leaveSavepoint outcome : Session σ α) (leaveSavepoint outcome')
      related := by
  cases h with
  | ok hab => exact (Matches.boundary .release).bind_eq fun _ => .pure hab
  | error hef hrefusal => exact (Matches.boundary .rollbackTo).bind_eq fun _ => .throw hef hrefusal

theorem Matches.savepoint (h : Matches spelling caps work other related) :
    Matches spelling caps (Session.savepoint work) (Session.savepoint other) related :=
  matches_enterSavepoint.bind_eq fun _ => h.attempt.bind fun _ _ hends =>
    matches_leaveSavepoint hends

theorem Matches.unlessMissing (h : Matches spelling caps work other related) :
    Matches spelling caps (Session.unlessMissing work) (Session.unlessMissing other)
      (Option.Rel related) := by
  refine h.attempt.bind fun outcome outcome' hends => ?_
  cases hends with
  | ok hab => exact .pure (.some hab)
  | error hef hrefusal =>
    dsimp only
    rw [hef.isNotFound_eq]
    exact .ite (.pure .none) (.throw hef hrefusal)

end Around

/-! ## 2. What the server says -/

theorem OnlyMisreads.isPlain {outcome : Except Error α} (h : OnlyMisreads outcome) :
    IsPlain outcome := by
  intro error herror
  have hmisreading := h error herror
  cases error with
  | invalid => cases hmisreading
  | unsupported => cases hmisreading
  | _ => rfl

/-! ## 3. Look-ups

A question is put by one side exactly as by the other, so the answers are the same list of rows, and
what is left is that decoding a row fails alike. Only a look-up of a role depends on the spelling.
-/

theorem Matches.ask (query : Query) (h : query.IsProper caps) :
    Matches spelling caps (Session.ask query : Session σ (List (List Value))) (Session.ask query)
      Eq :=
  .send (.query h) fun _ => rfl

theorem Matches.decoded {outcome : Except Error α} (h : OnlyMisreads outcome) :
    Matches spelling caps (Session.ofOutcome outcome : Session σ α) (Session.ofOutcome outcome)
      Eq :=
  .ofOutcome h.isPlain.ends

theorem matches_connectingRole :
    Matches spelling caps (connectingRole : Session σ (Option String)) connectingRole Eq :=
  (Matches.ask .connectingRole trivial).bind_eq fun rows =>
    (Matches.decoded (onlyMisreads_firstCell rows)).bind_eq fun _ => .pure rfl

theorem matches_findRole {name : Option String} (h : Role.isPublic (Role.orPublic name) = false) :
    Matches spelling caps (findRole name : Session σ (Option ServerRole)) (findRole name) Eq := by
  refine (Matches.ask (.role name) h).bind_eq fun rows => ?_
  cases rows.head? with
  | none => exact .pure rfl
  | some row => exact (Matches.decoded (onlyMisreads_rowRole row)).bind_eq fun _ => .pure rfl

/-- PUBLIC is found by every spelling, and it is not asked for. -/
theorem matches_lookUpRole {a b : Option String} (h : spelling.Same a b) :
    Matches spelling caps (lookUpRole a : Session σ (Option ServerRole)) (lookUpRole b) Eq := by
  unfold lookUpRole
  -- equal names put the same question, and two spellings of PUBLIC put none
  rcases h with rfl | ⟨-, ha, hb⟩
  · by_cases hpublic : Role.isPublic (Role.orPublic a) = true
    · rw [if_pos hpublic]
      exact .pure rfl
    · rw [if_neg hpublic]
      exact matches_findRole (Bool.eq_false_iff.2 hpublic)
  · rw [if_pos ha, if_pos hb]
    exact .pure rfl

theorem matches_hasRole {a b : Option String} (h : spelling.Same a b) :
    Matches spelling caps (hasRole a : Session σ Bool) (hasRole b) Eq :=
  (matches_lookUpRole h).bind_eq fun _ => .pure rfl

/-- The question uses the column that came with a version only when it is there. -/
theorem matches_isMember (role member : Option String) :
    Matches spelling caps (isMember role member : Session σ Flag) (isMember role member) Eq := by
  -- both sides know the same capabilities, so they choose the same form of the question
  refine Matches.capabilities.bind fun known known' ⟨hknown, hknown'⟩ => ?_
  subst hknown hknown'
  exact (Matches.ask (.isMember _ _ _) fun h => h).bind_eq fun rows =>
    (Matches.decoded (onlyMisreads_firstCell rows)).bind_eq fun _ => .pure rfl

theorem matches_standing (role grantRole : Option String) :
    Matches spelling caps (standing role grantRole : Session σ Standing) (standing role grantRole)
      Eq :=
  (Matches.ask (.membership _ _) trivial).bind_eq fun rows =>
    (Matches.decoded (onlyMisreads_firstCell rows)).bind_eq fun _ => .pure rfl

theorem matches_ownerOfDatabase (database : Option String) :
    Matches spelling caps (ownerOfDatabase database : Session σ (Option String))
      (ownerOfDatabase database) Eq :=
  (Matches.ask (.ownerOfDatabase _) trivial).bind_eq fun rows =>
    .ite (.pure rfl) ((Matches.decoded (onlyMisreads_firstCell rows)).bind_eq fun _ => .pure rfl)

/-- The column that tells kinds of routines apart is used only when it is there. -/
theorem matches_limitsKind (kind : ObjectKind) :
    Matches spelling caps (limitsKind kind : Session σ Bool) (limitsKind kind)
      fun limited limited' => limited = limited' ∧
        (limited = true → kind.catalog.kindColumn = some "prokind" →
          caps.supports .prokind = true) := by
  unfold limitsKind
  cases kind.catalog.kindColumn with
  | none => exact .pure ⟨rfl, fun h => nomatch h⟩
  | some column =>
    dsimp only
    -- the one column that a version can lack
    by_cases hcolumn : column = "prokind"
    · rw [if_pos hcolumn]
      refine Matches.capabilities.bind fun known known' ⟨hknown, hknown'⟩ => .pure ?_
      subst hknown hknown'
      exact ⟨rfl, fun h _ => h⟩
    · rw [if_neg hcolumn]
      exact .pure ⟨rfl, fun _ h => absurd (Option.some.inj h) hcolumn⟩

theorem matches_askObjects (kind : ObjectKind) (schema : Option String)
    (names : List (Option String)) :
    Matches spelling caps (askObjects kind schema names : Session σ (List (List Value)))
      (askObjects kind schema names) Eq :=
  (matches_limitsKind kind).bind fun limited limited' ⟨heq, hproper⟩ => by
    subst heq
    exact .ask _ hproper

theorem matches_hasObject (kind : ObjectKind) (name schema : Option String) :
    Matches spelling caps (hasObject kind name schema : Session σ Bool) (hasObject kind name schema)
      Eq :=
  (matches_askObjects kind schema [name]).bind_eq fun _ => .pure rfl

theorem matches_aclRows (kind : ObjectKind) (schema : Option String)
    (names : List (Option String)) :
    Matches spelling caps (aclRows kind schema names : Session σ (List AclRow))
      (aclRows kind schema names) Eq :=
  (matches_askObjects kind schema names).bind_eq fun rows =>
    .decoded (.mapM onlyMisreads_rowObject rows)

theorem matches_ownersOf (kind : ObjectKind) (schema : Option String)
    (names : List (Option String)) :
    Matches spelling caps (ownersOf kind schema names : Session σ (List (Option String)))
      (ownersOf kind schema names) Eq :=
  (matches_aclRows kind schema names).bind_eq fun _ => .pure rfl

theorem matches_defaultPolicy (owner : Option String) (kind : ObjectKind)
    (schema : Option String) :
    Matches spelling caps (defaultPolicy owner kind schema : Session σ Policy)
      (defaultPolicy owner kind schema) Eq :=
  (Matches.ask (.defaultAcl _ _ _) trivial).bind_eq fun rows =>
    .ite (.pure rfl) (.decoded ((onlyMisreads_firstCell rows).bind onlyMisreads_cellPolicy))

theorem matches_namedOwners (owners : List (Option String)) :
    Matches spelling caps (namedOwners owners : Session σ TextSet) (namedOwners owners) Eq := by
  induction owners with
  | nil => exact .pure rfl
  | cons owner rest ih =>
    unfold namedOwners
    dsimp only
    exact .ite ((matches_ownerOfDatabase none).bind_eq fun _ => ih.bind_eq fun _ => .pure rfl)
      ((Matches.pure rfl).bind_eq fun _ => ih.bind_eq fun _ => .pure rfl)

/-! ### What has to be there

A role that is named by a spelling of PUBLIC is never found missing. So an error that names a
missing role names it alike on both sides. -/

/-- PUBLIC is there without being asked about. -/
theorem hasRole_of_isPublic {name : Option String}
    (h : Role.isPublic (Role.orPublic name) = true) :
    (hasRole name : Session σ Bool) = Pure.pure true := by
  unfold hasRole lookUpRole
  rw [if_pos h, pure_bind]
  rfl

/-- Only a role that is not PUBLIC can be missing. -/
theorem matches_needRole {a b : String} (h : spelling.Same a b) :
    Matches spelling caps (needRole a : Session σ Unit) (needRole b) Eq := by
  unfold needRole
  have hsame := h
  -- a missing role is told by its name, and where it can be missing the names are equal
  rcases h with h | ⟨-, ha, hb⟩
  · cases h
    exact (matches_hasRole hsame).bind_eq fun _ => .ite (.pure rfl) (.throw (.refl _) rfl)
  · rw [hasRole_of_isPublic ha, hasRole_of_isPublic hb, pure_bind, pure_bind]
    exact .pure rfl

theorem matches_needSchema (schema : String) :
    Matches spelling caps (needSchema schema : Session σ Unit) (needSchema schema) Eq :=
  (matches_hasObject _ _ _).bind_eq fun _ => .ite (.pure rfl) (.throw (.refl _) rfl)

theorem matches_bothExist (first second : String) :
    Matches spelling caps (bothExist first second : Session σ Bool) (bothExist first second) Eq :=
  (matches_hasRole (.refl _)).bind_eq fun _ => .ite (matches_hasRole (.refl _)) (.pure rfl)

/-! ## 4. Joining roles and handing them back

These loops ask about owners and the connecting role, which the spelling does not change. What can
differ is the error of the work in between, and whatever is raised in its place carries it along. -/

section Roles

theorem matches_grantRole (role member : Option String) :
    Matches spelling caps (grantRole role member : Session σ Unit) (grantRole role member) Eq :=
  (Matches.send (.grantRole role member) fun _ => rfl).bind_eq fun _ => .pure rfl

theorem matches_revokeRole (role member : Option String) :
    Matches spelling caps (revokeRole role member : Session σ Unit) (revokeRole role member) Eq :=
  (Matches.send (.revokeRole role member) fun _ => rfl).bind_eq fun _ => .pure rfl

theorem matches_mustJoin (user : Option String) (role : String) :
    Matches spelling caps (mustJoin user role : Session σ Bool) (mustJoin user role) Eq := by
  refine .ite (.pure rfl) ((matches_lookUpRole (.refl _)).bind_eq fun found => ?_)
  cases found with
  | none => exact .throw (.refl _) rfl
  | some identity =>
    exact .ite (.pure rfl) ((matches_isMember _ _).bind_eq fun _ => .pure rfl)

theorem matches_leave (user : Option String) (role : String) :
    Matches spelling caps (leave user role : Session σ Bool) (leave user role) Eq :=
  (matches_isMember _ _).bind_eq fun _ =>
    .ite ((matches_revokeRole _ _).bind_eq fun _ => .pure rfl) (.pure rfl)

/-- Outcomes that are alike, with the same scope. -/
abbrev EndsWithin (spelling : Spelling) (a b : Except Error Unit × Scope) : Prop :=
  Ends spelling Eq a.1 b.1 ∧ a.2 = b.2

theorem likens_join (user : Option String) (roles : List String) (scope : Scope) :
    Likens spelling caps (join user roles scope : Talk σ (Except Error Unit × Scope))
      (join user roles scope) (EndsWithin spelling) := by
  -- role by role; the scope grows by the roles that were joined on both sides
  induction roles generalizing scope with
  | nil => exact .pure ⟨.ok rfl, rfl⟩
  | cons role rest ih =>
    unfold join
    refine Likens.bind (matches_mustJoin user role) fun needed needed' hneeded => ?_
    cases hneeded with
    | error hef hrefusal => exact .pure ⟨.error hef hrefusal, rfl⟩
    | ok heq =>
      rename_i needed needed'
      cases heq
      cases needed with
      -- neither side has to join this role
      | false => exact ih scope
      | true =>
        refine Likens.bind (matches_leave user role) fun left left' hleft => ?_
        cases hleft with
        | error hef hrefusal => exact .pure ⟨.error hef hrefusal, rfl⟩
        | ok heq =>
          cases heq
          refine Likens.bind (matches_grantRole role user) fun granted granted' hgranted => ?_
          cases hgranted with
          | error hef hrefusal => exact .pure ⟨.error hef hrefusal, rfl⟩
          | ok heq => exact ih _

theorem likens_joinInSavepoint (user : Option String) (names : List String) :
    Likens spelling caps (joinInSavepoint user names : Talk σ (Except Error Unit × Scope))
      (joinInSavepoint user names) (EndsWithin spelling) := by
  refine Likens.bind matches_enterSavepoint fun entered entered' hentered => ?_
  cases hentered with
  | error hef hrefusal => exact .pure ⟨.error hef hrefusal, rfl⟩
  | ok heq =>
    refine Likens.bind (likens_join user names _) ?_
    -- the scope comes out equal, also where joining has failed
    rintro ⟨joined, scope⟩ ⟨joined', scope'⟩ ⟨hjoined, heq⟩
    cases heq
    exact Likens.bind (matches_leaveSavepoint hjoined) fun _ _ hleft => .pure ⟨hleft, rfl⟩

theorem matches_handBack (user : Option String) (roles : List String) :
    Matches spelling caps (handBack user roles : Session σ Unit) (handBack user roles) Eq := by
  induction roles with
  | nil => exact .pure rfl
  | cons role rest ih => exact (matches_revokeRole role user).bind_eq fun _ => ih

theorem matches_restore (user : Option String) (roles : List String) :
    Matches spelling caps (restore user roles : Session σ Unit) (restore user roles) Eq := by
  induction roles with
  | nil => exact .pure rfl
  | cons role rest ih =>
    refine (matches_hasRole (.refl _)).bind_eq fun found => ?_
    dsimp only
    exact .ite ((matches_grantRole user role).bind_eq fun _ => ih) ih

theorem matches_undo (user : Option String) (scope : Scope) :
    Matches spelling caps (undo user scope : Session σ Unit) (undo user scope) Eq :=
  (matches_handBack user _).bind_eq fun _ => matches_restore user _

theorem matches_undoAfter (user : Option String) (scope : Scope) {e f : Error}
    (h : Error.Alike spelling e f) :
    Matches spelling caps (undoAfter user scope e : Session σ Unit)
      (undoAfter user scope f) Eq := by
  refine (matches_undo user scope).attempt.bind fun tried tried' htried => ?_
  -- undone, the first error stays; otherwise both errors are told, the first as the context
  cases htried with
  | ok _ => exact .pure rfl
  | error hcause _ => exact .throw (.notUndoneAfter _ _ h hcause) rfl

variable {work : Session σ α} {other : Session σ β} {related : α → β → Prop}

theorem Matches.start (h : Matches spelling caps work other related) (scope : Scope) :
    Matches spelling caps (Session.start scope work) (Session.start scope other) related :=
  (Matches.record (fun _ => rfl) rfl).bind fun _ _ _ => h

theorem Matches.asMember (h : Matches spelling caps work other related) (user : Option String)
    (names : List String) :
    Matches spelling caps (Session.asMember user names work) (Session.asMember user names other)
      related := by
  refine (Matches.lift (likens_joinInSavepoint user names)).bind ?_
  rintro ⟨joined, scope⟩ ⟨joined', scope'⟩ ⟨hjoined, heq⟩
  cases heq
  dsimp only at hjoined ⊢
  cases hjoined with
  | error hef hrefusal =>
    refine (matches_undoAfter user scope hef).bind_eq fun _ => ?_
    -- a missing role is raised as it is, on both sides or on neither
    rw [hef.isNotFound_eq]
    split
    · exact .throw hef hrefusal
    · exact .throw (.notJoined names user hef) rfl
  | ok _ =>
    -- the roles are joined, and the work runs in a savepoint of its own
    refine (h.start scope).savepoint.attempt.bind fun tried tried' htried => ?_
    cases htried with
    | error hef hrefusal =>
      exact (matches_undoAfter user scope hef).bind_eq fun _ => .throw hef hrefusal
    | ok hab =>
      refine (matches_undo user scope).attempt.bind fun undone undone' hundone => ?_
      cases hundone with
      | ok _ => exact .pure hab
      | error hcause _ => exact .throw (.notUndone _ _ hcause) rfl

theorem Matches.asMemberOf (h : Matches spelling caps work other related)
    (roles : List (Option String)) :
    Matches spelling caps (Session.asMemberOf roles work) (Session.asMemberOf roles other)
      related := by
  refine .ite (h.start _) (matches_connectingRole.bind_eq fun user => ?_)
  refine (matches_lookUpRole (.refl _)).bind_eq fun found => ?_
  -- a superuser joins nobody
  cases found with
  | none => exact h.asMember user _
  | some identity => exact .ite (h.start _) (h.asMember user _)

end Roles

/-! ## 5. Statements and jobs

Here the spelling reaches the server: the statements of the two sides differ in how PUBLIC is named.
From here on the server has to answer such statements alike, as one that reads their SQL does. -/

/-- The server does not tell apart what the spelling does not: it answers statements that are alike
in the same way. -/
def Spelling.IsIgnored (spelling : Spelling) (σ : Type) [Server σ] : Prop :=
  ∀ s t, Statement.Alike spelling s t → ∀ server : σ,
    Server.answer (.statement s) server = Server.answer (.statement t) server

omit [Server σ] in
theorem Spelling.isIgnored_exact [Server σ] : Spelling.exact.IsIgnored σ := by
  intro s t h server
  rw [h.eq_of_exact]

/-- The server answers by the text of a command alone. -/
def ReadsText (σ : Type) [Server σ] : Prop :=
  ∀ a b : Command, a.sql = b.sql → ∀ server : σ, Server.answer a server = Server.answer b server

theorem ReadsText.isIgnored (h : ReadsText σ) : spelling.IsIgnored σ :=
  fun _ _ halike => h _ _ halike.sql_eq

section Statements

variable {s t : Statement} {plan plan' : List Statement}

theorem Matches.perform (hignored : spelling.IsIgnored σ) (h : Statement.Alike spelling s t) :
    Matches spelling caps (Session.perform s : Session σ Unit) (Session.perform t) Eq := by
  unfold Session.perform
  -- what cannot be sent is refused before, for a text that both statements share
  rw [h.describe_eq, h.subject_eq]
  dsimp only
  split
  · exact .throw (.refl _) rfl
  · refine (Matches.attempt (.send (.statement h) (hignored s t h))).bind ?_
    intro outcome outcome' hends
    cases hends with
    | ok _ => exact .pure rfl
    | error hef hrefusal =>
      rename_i e f
      -- a refusal by the server is told with the statement, any other failure as it is
      cases hef with
      | refl =>
        cases e with
        | refused reason => exact .throw (.rejected h _ _ reason) rfl
        | _ => exact .throw (.refl _) hrefusal
      | rejected h => exact .throw (.rejected h _ _ _) rfl
      | notJoined roles user h => exact .throw (.notJoined roles user h) rfl
      | notUndone granted user h => exact .throw (.notUndone granted user h) rfl
      | notUndoneAfter granted user h h' => exact .throw (.notUndoneAfter granted user h h') rfl

theorem Matches.performAll (hignored : spelling.IsIgnored σ)
    (h : List.Forall₂ (Statement.Alike spelling) plan plan') :
    Matches spelling caps (Session.performAll plan : Session σ Unit) (Session.performAll plan')
      Eq := by
  induction h with
  | nil => exact .pure rfl
  | cons hfirst _ ih => exact (Matches.perform hignored hfirst).bind_eq fun _ => ih

end Statements

/-- The same rights are taken, and the statements are alike. -/
structure Job.Alike (spelling : Spelling) (job job' : Job) : Prop where
  owners : job.owners = job'.owners
  statements : List.Forall₂ (Statement.Alike spelling) job.statements job'.statements

theorem Job.Alike.perform {job job' : Job} (hignored : spelling.IsIgnored σ)
    (h : Job.Alike spelling job job') :
    Matches spelling caps (job.perform : Session σ Unit) job'.perform Eq := by
  unfold Job.perform
  -- the owners are the same, so the same roles are joined
  rw [h.owners]
  cases job'.owners with
  | some owners => exact (Matches.performAll hignored h.statements).asMemberOf _
  | none => exact .performAll hignored h.statements

/-- Look-ups for jobs that are alike are carried out alike. -/
theorem Matches.carryOut {lookUp lookUp' : Session σ (Option Job)}
    (hignored : spelling.IsIgnored σ)
    (h : Matches spelling caps lookUp lookUp' (Option.Rel (Job.Alike spelling))) :
    Matches spelling caps (do Session.carryOut (← lookUp))
      (do Session.carryOut (← lookUp')) Eq := by
  refine h.bind fun job? job?' hjob => ?_
  cases hjob with
  | none => exact .pure rfl
  | some halike => exact halike.perform hignored

/-! ## 6. Grants

What is read to find the job names the targets and not the role, except for the question whether the
role is there. -/

namespace DeclaredGrant.Alike

variable {declared other : DeclaredGrant}

theorem matches_targetRows (h : Alike spelling declared other) :
    Matches spelling caps (declared.targetRows : Session σ (List AclRow)) other.targetRows Eq := by
  obtain ⟨-⟩ := h
  -- the role is no part of the question
  show Matches spelling caps declared.targetRows declared.targetRows Eq
  -- a missing target is told by its name, which the spelling leaves alone
  have hmissing (name : String) : Matches spelling caps
      (throw (.notFound declared.kind.phrase name) : Session σ Unit)
      (throw (.notFound declared.kind.phrase name)) Eq := .throw (.refl _) rfl
  have hrows : Matches spelling caps (do
      let rows ← aclRows (σ := σ) declared.kind declared.targetSchema (declared.targets.map some)
      let missing := (TextSet.ofList declared.targets).filter fun name =>
        !rows.any fun row => row.name == some name
      unless missing.isEmpty do throw (.notFound declared.kind.phrase (Invalid.commaList missing))
      return rows) (do
      let rows ← aclRows (σ := σ) declared.kind declared.targetSchema (declared.targets.map some)
      let missing := (TextSet.ofList declared.targets).filter fun name =>
        !rows.any fun row => row.name == some name
      unless missing.isEmpty do throw (.notFound declared.kind.phrase (Invalid.commaList missing))
      return rows) Eq :=
    (matches_aclRows _ _ _).bind_eq fun rows =>
      .ite (.pure rfl) ((hmissing _).bind_eq fun _ => .pure rfl)
  unfold targetRows
  exact .ite ((matches_needSchema _).bind_eq fun _ => hrows) hrows

theorem matches_owners (h : Alike spelling declared other) (rows : List AclRow) :
    Matches spelling caps (declared.owners rows : Session σ TextSet) (other.owners rows) Eq := by
  obtain ⟨-⟩ := h
  exact .ite ((matches_ownersOf _ _ _).bind_eq fun _ => matches_namedOwners _)
    (matches_namedOwners _)

theorem matches_targetRows? (h : Alike spelling declared other) :
    Matches spelling caps (declared.targetRows? : Session σ (Option (List AclRow)))
      other.targetRows? Eq := by
  have hrows : Matches spelling caps (unlessMissing (declared.targetRows (σ := σ)))
      (unlessMissing other.targetRows) Eq :=
    (h.matches_targetRows).unlessMissing.mono fun _ _ hrel => by
      cases hrel with
      | none => rfl
      | some heq => rw [heq]
  unfold targetRows?
  obtain ⟨hrole⟩ := h
  exact (matches_hasRole hrole).bind_eq fun _ => .ite hrows (.pure rfl)

theorem matches_syncJob (h : Alike spelling declared other) :
    Matches spelling caps (declared.syncJob : Session σ (Option Job)) other.syncJob
      (Option.Rel (Job.Alike spelling)) := by
  unfold syncJob
  have hneed : Matches spelling caps (needRole declared.role : Session σ Unit)
      (needRole other.role) Eq := by
    obtain ⟨hrole⟩ := h
    exact matches_needRole hrole
  refine hneed.bind_eq fun _ => h.matches_targetRows.bind_eq fun rows => ?_
  refine Matches.capabilities.bind fun known known' ⟨hknown, hknown'⟩ => ?_
  subst hknown hknown'
  -- rows that hold the declared privileges under one spelling hold them under the other
  rw [h.isMet_eq]
  exact .ite (.pure .none)
    ((h.matches_owners rows).bind_eq fun _ => .pure (.some ⟨rfl, h.plan⟩))

theorem matches_revokeJob (h : Alike spelling declared other) :
    Matches spelling caps (declared.revokeJob : Session σ (Option Job)) other.revokeJob
      (Option.Rel (Job.Alike spelling)) := by
  refine h.matches_targetRows?.bind_eq fun rows? => ?_
  cases rows? with
  | none => exact .pure .none
  | some rows => exact (h.matches_owners rows).bind_eq fun _ => .pure (.some ⟨rfl, h.revokePlan⟩)

end DeclaredGrant.Alike

/-! ## 7. Default privileges

The policy that is read is the same for both sides. What they find in it are the holdings of one
key. -/

namespace DeclaredDefaults.Alike

variable {declared other : DeclaredDefaults}

theorem matches_needTarget (h : Alike spelling declared other) :
    Matches spelling caps (declared.needTarget : Session σ Unit) other.needTarget Eq := by
  obtain ⟨hrole⟩ := h
  refine (matches_needRole hrole).bind_eq fun _ => (matches_needRole (.refl _)).bind_eq fun _ => ?_
  dsimp only
  -- the schema is looked up only where one is declared
  cases declared.schema with
  | none => exact .pure rfl
  | some schema => exact matches_needSchema schema

/-- What is found is found in one policy, under either spelling. -/
theorem matches_readHolding (h : Alike spelling declared other) :
    Matches spelling caps (declared.readHolding : Session σ Holding) other.readHolding
      fun held held' => Holding.Alike spelling held held' ∧
        DefaultsReport.Alike spelling (declared.state held) (other.state held') := by
  have hreport := h.state
  obtain ⟨hrole⟩ := h
  exact (matches_defaultPolicy _ _ _).bind_eq fun p => .pure ⟨p.alike_holdingOf hrole, hreport p⟩

theorem matches_syncJob (h : Alike spelling declared other) :
    Matches spelling caps (declared.syncJob : Session σ (Option Job)) other.syncJob
      (Option.Rel (Job.Alike spelling)) := by
  refine h.matches_needTarget.bind_eq fun _ => h.matches_readHolding.bind fun held held' hheld => ?_
  refine Matches.capabilities.bind fun known known' ⟨hknown, hknown'⟩ => ?_
  subst hknown hknown'
  have hplan := h.plan
  obtain ⟨hrole⟩ := h
  rw [hheld.1.isAsDeclared_eq]
  exact .ite (.pure .none) ((matches_namedOwners _).bind_eq fun _ => .pure (.some ⟨rfl, hplan⟩))

theorem matches_revokeJob (h : Alike spelling declared other) :
    Matches spelling caps (declared.revokeJob : Session σ (Option Job)) other.revokeJob
      (Option.Rel (Job.Alike spelling)) := by
  refine h.matches_needTarget.unlessMissing.bind fun found found' hfound => ?_
  have hplan := h.revokePlan
  obtain ⟨hrole⟩ := h
  cases hfound with
  | none => exact .pure .none
  | some _ => exact (matches_namedOwners _).bind_eq fun _ => .pure (.some ⟨rfl, hplan⟩)

end DeclaredDefaults.Alike

/-! ## 8. Schema policies

A diff goes by role keys, so the deltas of the two sides name the same roles by different spellings.
Of the roles that are dropped only those are left that still exist, and these are asked about one by
one. -/

/-- The roles of holdings that are alike exist alike. -/
theorem matches_stillThere {l m : List Holding}
    (h : List.Forall₂ (Holding.Alike spelling) l m) :
    Matches spelling caps (PolicyDelta.stillThere (hasRole (σ := σ)) l)
      (PolicyDelta.stillThere hasRole m) (List.Forall₂ (Holding.Alike spelling)) := by
  induction h with
  | nil => exact .pure .nil
  | cons hfirst hrest ih =>
    unfold PolicyDelta.stillThere
    -- whether a role is kept or not, the rest of the list is asked about next
    have hkept (kept : Bool) : Matches spelling caps
        (do
          let others ← PolicyDelta.stillThere (hasRole (σ := σ)) _
          return if kept then _ :: others else others)
        (do
          let others ← PolicyDelta.stillThere (hasRole (σ := σ)) _
          return if kept then _ :: others else others) (List.Forall₂ (Holding.Alike spelling)) :=
      ih.bind fun others others' hothers => .pure (by
        cases kept with
        | false => exact hothers
        | true => exact .cons hfirst hothers)
    dsimp only
    -- PUBLIC is kept without being asked about
    rw [hfirst.isPublic_eq]
    exact .ite ((Matches.pure rfl).bind_eq hkept) ((matches_hasRole hfirst.role).bind_eq hkept)

theorem PolicyDelta.Alike.matches_plan {d e : PolicyDelta} (h : PolicyDelta.Alike spelling d e)
    (kind : ObjectKind) (name : Option String) :
    Matches spelling caps (d.plan kind name (hasRole (σ := σ))) (e.plan kind name hasRole)
      (List.Forall₂ (Statement.Alike spelling)) :=
  (matches_stillThere h.dropped).bind fun dropped dropped' hdropped => by
    -- only the dropped roles are thinned out, and these are still alike
    have hdelta : PolicyDelta.Alike spelling { d with dropped := dropped }
        { e with dropped := dropped' } := ⟨hdropped, h.added, h.updated⟩
    exact .pure (hdelta.statements kind name)

theorem matches_jobAsOwners (owners : List (Option String)) {plan plan' : List Statement}
    (h : List.Forall₂ (Statement.Alike spelling) plan plan') :
    Matches spelling caps (DeclaredPolicy.jobAsOwners owners plan : Session σ (Option Job))
      (DeclaredPolicy.jobAsOwners owners plan') (Option.Rel (Job.Alike spelling)) := by
  cases h with
  | nil => exact .pure .none
  | cons hfirst hrest =>
    exact (matches_namedOwners owners).bind_eq fun _ => .pure (.some ⟨rfl, .cons hfirst hrest⟩)

namespace DeclaredPolicy.Alike

variable {declared other : DeclaredPolicy}

theorem matches_readRow? (h : Alike spelling declared other) :
    Matches spelling caps (declared.readRow? : Session σ (Option AclRow)) other.readRow? Eq := by
  obtain ⟨-⟩ := h
  exact (matches_aclRows _ _ _).bind_eq fun _ => .pure rfl

theorem matches_syncJob (h : Alike spelling declared other) (previous : Option Policy) :
    Matches spelling caps (declared.syncJob previous : Session σ (Option Job))
      (other.syncJob previous) (Option.Rel (Job.Alike spelling)) := by
  refine h.matches_readRow?.bind_eq fun row? => ?_
  cases row? with
  | none =>
    obtain ⟨-⟩ := h
    exact .throw (.refl _) rfl
  | some row =>
    have hdiff := h.diff row previous
    obtain ⟨-⟩ := h
    -- with or without the question for the new owner, the same follows
    have hrest : Matches (σ := σ) spelling caps (do
        let changes ← (declared.diff row previous).plan .schema declared.schema hasRole
        DeclaredPolicy.jobAsOwners (declared.owners row) (declared.ownerPlan row ++ changes)) (do
        let changes ← (DeclaredPolicy.diff { declared with rules := _ } row previous).plan .schema
          declared.schema hasRole
        DeclaredPolicy.jobAsOwners (declared.owners row) (declared.ownerPlan row ++ changes))
        (Option.Rel (Job.Alike spelling)) :=
      (hdiff.matches_plan _ _).bind fun changes changes' hchanges =>
        matches_jobAsOwners _ (List.rel_append (List.forall₂_same.2 fun _ _ => .refl _) hchanges)
    exact .ite hrest ((matches_needRole (.refl _)).bind_eq fun _ => hrest)

theorem matches_revokeJob (h : Alike spelling declared other) :
    Matches spelling caps (declared.revokeJob : Session σ (Option Job)) other.revokeJob
      (Option.Rel (Job.Alike spelling)) := by
  refine h.matches_readRow?.bind_eq fun row? => ?_
  cases row? with
  | none => exact .pure .none
  | some row =>
    have hdiff := h.revokeDiff row
    obtain ⟨-⟩ := h
    exact (hdiff.matches_plan _ _).bind fun changes changes' hchanges =>
      matches_jobAsOwners _ hchanges

end DeclaredPolicy.Alike

/-! ## 9. Memberships -/

namespace DeclaredMembership

theorem matches_observe (declared : DeclaredMembership) :
    Matches spelling caps (declared.observe : Session σ (Option Standing)) declared.observe Eq :=
  (matches_bothExist _ _).bind_eq fun _ =>
    .ite ((matches_standing _ _).bind_eq fun _ => .pure rfl) (.pure rfl)

/-- What is planned for a membership names it exactly. -/
theorem alike_job (job? : Option Job) : Option.Rel (Job.Alike spelling) job? job? := by
  cases job? with
  | none => exact .none
  | some job => exact .some ⟨rfl, List.forall₂_same.2 fun _ _ => .refl _⟩

theorem matches_syncJob (declared : DeclaredMembership) :
    Matches spelling caps (declared.syncJob : Session σ (Option Job)) declared.syncJob
      (Option.Rel (Job.Alike spelling)) := by
  refine (matches_needRole (.refl _)).bind_eq fun _ => ?_
  refine (matches_needRole (.refl _)).bind_eq fun _ => ?_
  exact (matches_standing _ _).bind_eq fun _ => .ite (.pure .none) (.pure (alike_job _))

theorem matches_revokeJob (declared : DeclaredMembership) :
    Matches spelling caps (declared.revokeJob : Session σ (Option Job)) declared.revokeJob
      (Option.Rel (Job.Alike spelling)) :=
  (matches_observe declared).bind_eq fun _ => .ite (.pure (alike_job _)) (.pure .none)

end DeclaredMembership

end PgGrants
