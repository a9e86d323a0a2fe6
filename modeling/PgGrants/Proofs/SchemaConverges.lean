/-
What one call does to the policy of a schema, and what is left to do for the next call.

A call reads the owner and the access control list, hands the schema over when another owner is
declared, and then plans from the list that it read. The entries of both owners are left out of the
plan, since an owner holds every privilege anyway; but the old owner is no owner any more once the
plan is carried out. So after one call everything is as declared except for the old owner, who is
left with nothing, whatever is declared for it. The next call finds that out and makes up for it.

`OwnedAcl` is the schema as the server keeps it. It knows nothing of policies; the proof goes back
and forth by `OwnedAcl.ofRow`, which is how the list is read.
-/
import PgGrants.Proofs.Jobs
import PgGrants.Proofs.PolicyPlan

set_option autoImplicit false

namespace PgGrants

/-! ## 1. A schema on the server -/

/-- The owner of a schema, and what every role holds on it. -/
@[ext] structure OwnedAcl where
  owner : Option String
  acl : Acl

namespace OwnedAcl

/-- What a statement does to the schema with the name. What the old owner held goes over to the new
one. -/
def step (schema : String) (s : OwnedAcl) : Statement → OwnedAcl
  | .schemaOwner change =>
    if change.schema = some schema then {
      owner := change.owner
      acl := s.acl.handOver (Role.key (Role.orPublic s.owner))
        (Role.key (Role.orPublic change.owner)) }
    else s
  | statement => { s with acl := statement.changeAcl .schema (some schema) s.acl }

/-- The schema after some statements. -/
def run (schema : String) (s : OwnedAcl) (statements : List Statement) : OwnedAcl :=
  statements.foldl (step schema) s

/-- The schema that a row of the catalog shows. -/
def ofRow (row : AclRow) : OwnedAcl := ⟨row.owner, row.policy.acl⟩

theorem run_cons (schema : String) (s : OwnedAcl) (t : Statement) (rest : List Statement) :
    s.run schema (t :: rest) = (s.step schema t).run schema rest := rfl

theorem run_append (schema : String) (s : OwnedAcl) (l m : List Statement) :
    s.run schema (l ++ m) = (s.run schema l).run schema m :=
  List.foldl_append

/-- Statements that give or take do not touch the owner. -/
theorem run_of_direction (schema : String) (s : OwnedAcl) {statements : List Statement}
    (hdirection : ∀ t ∈ statements, t.direction = .revoke ∨ t.direction = .grant) :
    s.run schema statements =
      { s with acl := s.acl.run .schema (some schema) statements } := by
  induction statements generalizing s with
  | nil => rfl
  | cons t rest ih =>
    have hstep : s.step schema t = { s with acl := t.changeAcl .schema (some schema) s.acl } := by
      cases t with
      -- handing over is neither giving nor taking
      | schemaOwner _ =>
        have halter := hdirection _ List.mem_cons_self
        simp [Statement.direction, Direction.alter, Direction.revoke, Direction.grant] at halter
      | privilege _ => rfl
      | defaultPrivilege _ => rfl
      | membership _ => rfl
    rw [run_cons, hstep, ih _ fun u hu => hdirection u (List.mem_cons_of_mem _ hu)]
    rfl

/-- What statements make of a list that can be read can be read again. -/
theorem isHeld_run (schema : String) {s : OwnedAcl} (hs : s.acl.IsHeld)
    (statements : List Statement) : (s.run schema statements).acl.IsHeld := by
  induction statements generalizing s with
  | nil => exact hs
  | cons t rest ih =>
    refine ih (s := s.step schema t) ?_
    cases t with
    -- two roles change, and each may be any role of a policy
    | schemaOwner change =>
      rw [step]
      by_cases hname : change.schema = some schema
      · rw [if_pos hname]
        dsimp only
        exact hs.handOver s.owner change.owner
      · rw [if_neg hname]
        exact hs
    | privilege change =>
      dsimp only [step]
      exact hs.changeAcl .schema (some schema) (.privilege change)
    | defaultPrivilege _ => exact hs
    | membership _ => exact hs

/-- There is a row that shows the schema after some statements. -/
theorem exists_ofRow_eq_run (schema : String) (row : AclRow) (statements : List Statement) :
    ∃ found, ofRow found = (ofRow row).run schema statements := by
  obtain ⟨p, hp⟩ := isHeld_run schema (s := ofRow row) ⟨row.policy, rfl⟩ statements
  exact ⟨⟨row.name, ((ofRow row).run schema statements).owner, p⟩, OwnedAcl.ext rfl hp⟩

end OwnedAcl

/-- Erased roles hold nothing. -/
theorem Policy.acl_eraseAll (p : Policy) (roles : List String) (key : String) :
    (p.eraseAll roles).acl key = if key ∈ roles.map Role.key then .none else p.acl key := by
  rw [acl_apply, find?_eraseAll]
  by_cases hkey : key ∈ roles.map Role.key
  · rw [if_pos hkey, if_pos hkey]
    rfl
  · rw [if_neg hkey, if_neg hkey, acl_apply]

theorem Policy.acl_eraseAll_singleton (p : Policy) (role key : String) :
    (p.eraseAll [role]).acl key = if key = Role.key role then .none else p.acl key := by
  rw [acl_eraseAll]
  simp

/-! ## 2. What a call plans -/

namespace DeclaredPolicy

variable (declared : DeclaredPolicy) (row : AclRow)

/-- The statements of a call that finds the row, when it is known which roles exist. -/
def statements (exists? : Option String → Bool) : List Statement :=
  declared.ownerPlan row ++
    Id.run ((declared.diff row none).plan .schema declared.schema fun role => pure (exists? role))

/-- The names of the owners, as policies leave them out. -/
def ownerNames : List String := (declared.owners row).map Role.orPublic

/-- The call plans from the policy that it found to the declared one, both without the owners. -/
theorem statements_eq (exists? : Option String → Bool) :
    declared.statements row exists? =
      declared.ownerPlan row ++
        (row.policy.eraseAll (declared.ownerNames row)).planTo
          (declared.policy.eraseAll (declared.ownerNames row)) .schema declared.schema exists? :=
  rfl

/-- What is declared for an owner that gives the schema away to another role. -/
def leftOver : List Statement :=
  if (declared.ownerPlan row).isEmpty ||
      Role.key (Role.orPublic row.owner) == Role.key (Role.orPublic declared.owner) then []
  else (declared.policy.find? (Role.key (Role.orPublic row.owner))).elim []
    (·.grants .schema declared.schema)

/-- Either the schema stays with its owner, or it goes to another, who is declared. -/
theorem ownerPlan_cases :
    (declared.ownerPlan row = [] ∧ declared.owners row = [row.owner] ∧
      (declared.owner = none ∨ declared.owner = row.owner)) ∨
    (declared.ownerPlan row = [.schemaOwner {
        schema := declared.schema, owner := declared.owner, previousOwner := row.owner }] ∧
      declared.owners row = [row.owner, declared.owner]) := by
  unfold owners ownerPlan OwnerChange.plan
  -- no owner is declared, or the one that the schema has
  by_cases hstays : (declared.owner.isNone || declared.owner == row.owner) = true
  · refine Or.inl ?_
    rw [if_pos hstays]
    rw [Bool.or_eq_true, Option.isNone_iff_eq_none, beq_iff_eq] at hstays
    exact ⟨rfl, rfl, hstays⟩
  · refine Or.inr ?_
    rw [if_neg hstays]
    exact ⟨rfl, rfl⟩

/-- A row with the declared owner, or with any when none is declared, is not handed over. -/
theorem ownerPlan_eq_nil {row : AclRow}
    (howner : declared.owner = none ∨ declared.owner = row.owner) :
    declared.ownerPlan row = [] ∧ declared.owners row = [row.owner] := by
  have hplan : declared.ownerPlan row = [] := by
    unfold ownerPlan OwnerChange.plan
    rw [if_pos]
    rwa [Bool.or_eq_true, Option.isNone_iff_eq_none, beq_iff_eq]
  unfold owners
  rw [hplan]
  exact ⟨rfl, rfl⟩

end DeclaredPolicy

/-! ## 3. The plan in a run

The same statements come out of a run on a server: the row is read, the plan is made from it, and
the roles that are dropped are looked up one by one. -/

section Planning

variable {σ : Type}

/-- Whenever the question whether a role exists is answered, the answer is that of the predicate. -/
def AnswersAs (ask : Option String → Session σ Bool) (exists? : Option String → Bool) : Prop :=
  ∀ role c there c', Session.exec (ask role) c = (.ok there, c') → there = exists? role

theorem PolicyDelta.exec_stillThere {ask : Option String → Session σ Bool}
    {exists? : Option String → Bool} (hask : AnswersAs ask exists?) {l kept : List Holding}
    {c c' : Connection σ} (hrun : Session.exec (stillThere ask l) c = (.ok kept, c')) :
    kept = Id.run (stillThere (fun role => pure (exists? role)) l) := by
  induction l generalizing kept c c' with
  | nil =>
    rw [stillThere, Session.exec_pure] at hrun
    simp only [Prod.mk.injEq, Except.ok.injEq] at hrun
    exact hrun.1.symm
  | cons h rest ih =>
    unfold stillThere at hrun
    dsimp only at hrun
    -- PUBLIC is not asked about, so the connection may or may not move on here
    have hhead : ∃ there c₁, there = (h.isPublic || exists? h.role) ∧
        Session.exec (do
          let others ← stillThere ask rest
          return if there then h :: others else others) c₁ = (.ok kept, c') := by
      by_cases hpublic : h.isPublic = true
      · rw [if_pos hpublic] at hrun
        exact ⟨true, c, by simp [hpublic], hrun⟩
      · rw [if_neg hpublic] at hrun
        obtain ⟨there, c₁, hthere, hrun⟩ := Session.exec_bind_eq_ok hrun
        exact ⟨there, c₁, by simp [hpublic, hask _ _ _ _ hthere], hrun⟩
    obtain ⟨there, c₁, hthere, hrun⟩ := hhead
    obtain ⟨others, c₂, hothers, hrun⟩ := Session.exec_bind_eq_ok hrun
    rw [Session.exec_pure] at hrun
    simp only [Prod.mk.injEq, Except.ok.injEq] at hrun
    rw [← hrun.1, ih hothers, hthere]
    cases hpublic : h.isPublic <;> simp [stillThere, hpublic]

/-- **What a call plans** is what the row says that it reads, whatever server it talks to. -/
theorem DeclaredPolicy.exec_syncJob [Server σ] {declared : DeclaredPolicy}
    {exists? : Option String → Bool} (hask : AnswersAs (σ := σ) Session.hasRole exists?)
    {job? : Option Job} {c c' : Connection σ}
    (hrun : Session.exec (declared.syncJob none) c = (.ok job?, c')) :
    ∃ row c₁, Session.exec declared.readRow? c = (.ok (some row), c₁) ∧
      job?.elim [] Job.statements = declared.statements row exists? := by
  unfold syncJob at hrun
  obtain ⟨row?, c₁, hread, hrun⟩ := Session.exec_bind_eq_ok hrun
  cases row? with
  | none =>
    dsimp only at hrun
    rw [Session.exec_throw] at hrun
    cases hrun
  | some row =>
    refine ⟨row, c₁, hread, ?_⟩
    dsimp only at hrun
    -- the new owner is looked up only when there is one, and that does not enter the plan
    have hrest : ∃ c₂, Session.exec (do
        let changes ← (declared.diff row none).plan .schema declared.schema Session.hasRole
        jobAsOwners (declared.owners row) (declared.ownerPlan row ++ changes)) c₂ =
          (.ok job?, c') := by
      by_cases hstays : (declared.ownerPlan row).isEmpty = true
      · rw [if_pos hstays] at hrun
        exact ⟨c₁, hrun⟩
      · rw [if_neg hstays] at hrun
        obtain ⟨-, c₂, -, hrun⟩ := Session.exec_bind_eq_ok hrun
        exact ⟨c₂, hrun⟩
    obtain ⟨c₂, hrun⟩ := hrest
    obtain ⟨changes, c₃, hchanges, hrun⟩ := Session.exec_bind_eq_ok hrun
    unfold PolicyDelta.plan at hchanges
    obtain ⟨kept, c₄, hkept, hchanges⟩ := Session.exec_bind_eq_ok hchanges
    rw [Session.exec_pure] at hchanges
    simp only [Prod.mk.injEq, Except.ok.injEq] at hchanges
    rw [PolicyDelta.exec_stillThere hask hkept] at hchanges
    have hstatements : declared.ownerPlan row ++ changes = declared.statements row exists? := by
      rw [← hchanges.1]
      rfl
    rw [hstatements] at hrun
    -- an empty plan is no job at all
    unfold jobAsOwners at hrun
    by_cases hnothing : (declared.statements row exists?).isEmpty = true
    · rw [if_pos hnothing, Session.exec_pure] at hrun
      simp only [Prod.mk.injEq, Except.ok.injEq] at hrun
      rw [← hrun.1, List.isEmpty_iff.1 hnothing]
      rfl
    · rw [if_neg hnothing] at hrun
      obtain ⟨owners, c₅, -, hrun⟩ := Session.exec_bind_eq_ok hrun
      rw [Session.exec_pure] at hrun
      simp only [Prod.mk.injEq, Except.ok.injEq] at hrun
      rw [← hrun.1]
      rfl

end Planning

/-! ## 4. One call -/

section Call

variable {declared : DeclaredPolicy} {row found : AclRow} {exists? : Option String → Bool}

/-- Handing over comes first and the plan for the policy second, which leaves the owner alone. -/
theorem OwnedAcl.run_statements (declared : DeclaredPolicy) (row : AclRow)
    (exists? : Option String → Bool) :
    (ofRow row).run declared.schema (declared.statements row exists?) = {
      owner := ((ofRow row).run declared.schema (declared.ownerPlan row)).owner
      acl := ((ofRow row).run declared.schema (declared.ownerPlan row)).acl.run .schema
        declared.schema
        ((row.policy.eraseAll (declared.ownerNames row)).planTo
          (declared.policy.eraseAll (declared.ownerNames row)) .schema declared.schema exists?) }
    := by
  obtain ⟨revokes, grants, hplan, hrevokes, hgrants⟩ :=
    (row.policy.eraseAll (declared.ownerNames row)).planTo_eq_append .schema declared.schema
      (declared.policy.eraseAll (declared.ownerNames row)) exists?
  -- what follows the owner's statement only gives and takes
  rw [declared.statements_eq, run_append, run_of_direction]
  intro t ht
  rw [hplan, List.mem_append] at ht
  exact ht.imp (hrevokes t) (hgrants t)

/-- The schema with the owner that it shall have, before anything is planned for its policy. -/
theorem OwnedAcl.run_ownerPlan (declared : DeclaredPolicy) (row : AclRow) :
    (declared.owners row = [row.owner] ∧
      (declared.owner = none ∨ declared.owner = row.owner) ∧ declared.ownerPlan row = [] ∧
      (ofRow row).run declared.schema (declared.ownerPlan row) = ofRow row) ∨
    (declared.owners row = [row.owner, declared.owner] ∧
      (declared.ownerPlan row).isEmpty = false ∧
      (ofRow row).run declared.schema (declared.ownerPlan row) = {
        owner := declared.owner
        acl := row.policy.acl.handOver (Role.key (Role.orPublic row.owner))
          (Role.key (Role.orPublic declared.owner)) }) := by
  rcases declared.ownerPlan_cases row with ⟨hplan, howners, howner⟩ | ⟨hplan, howners⟩
  · refine Or.inl ⟨howners, howner, hplan, ?_⟩
    rw [hplan]
    rfl
  · refine Or.inr ⟨howners, ?_, ?_⟩
    · rw [hplan]
      rfl
    · rw [hplan, run_cons, step, if_pos rfl]
      rfl

/-- No owner's name is among the names that are left out, so its rights are as before. -/
theorem OwnedAcl.run_ownerPlan_apply {key : String}
    (hkey : key ∉ (declared.ownerNames row).map Role.key) :
    ((ofRow row).run declared.schema (declared.ownerPlan row)).acl key = row.policy.acl key := by
  unfold DeclaredPolicy.ownerNames at hkey
  rcases run_ownerPlan declared row with ⟨-, -, -, hrun⟩ | ⟨howners, -, hrun⟩
  · rw [hrun]
    rfl
  · rw [howners] at hkey
    simp only [List.map_cons, List.map_nil, List.mem_cons, List.not_mem_nil, or_false,
      not_or] at hkey
    rw [hrun]
    dsimp only
    -- a hand-over moves the rights of two keys, and this is neither
    rw [Acl.handOver_apply, if_neg hkey.2, if_neg hkey.1]

/-- After a call every role but the owners has what is declared for it. -/
theorem OwnedAcl.acl_run_statements
    (hthere : ∀ key o, row.policy.find? key = some o → (o.isPublic || exists? o.role) = true)
    {key : String} (hkey : key ∉ (declared.ownerNames row).map Role.key) :
    ((ofRow row).run declared.schema (declared.statements row exists?)).acl key =
      declared.policy.acl key := by
  rw [run_statements]
  dsimp only
  rw [Acl.run_apply, Policy.after_planTo, run_ownerPlan_apply hkey, Policy.find?_eraseAll,
    Policy.find?_eraseAll, if_neg hkey, if_neg hkey, Policy.acl_apply, Policy.acl_apply]
  -- this role is left out of neither policy, so it is led from the one to the other
  exact Rights.led_of_held fun o ho _ => hthere key o ho

/-- What the owners hold is changed by the handing over only. -/
theorem OwnedAcl.acl_run_statements_owner {key : String}
    (hkey : key ∈ (declared.ownerNames row).map Role.key) :
    ((ofRow row).run declared.schema (declared.statements row exists?)).acl key =
      ((ofRow row).run declared.schema (declared.ownerPlan row)).acl key := by
  -- without an entry in either policy the plan leaves a role as it is
  rw [run_statements]
  dsimp only
  rw [Acl.run_apply, Policy.after_planTo, Policy.find?_eraseAll, Policy.find?_eraseAll,
    if_pos hkey, if_pos hkey]
  rfl

/-- What is found after a call is the declared policy, both without the owners of then. -/
theorem DeclaredPolicy.state_of_found
    (hthere : ∀ key o, row.policy.find? key = some o → (o.isPublic || exists? o.role) = true)
    (hfound : OwnedAcl.ofRow found =
      (OwnedAcl.ofRow row).run declared.schema (declared.statements row exists?)) :
    (declared.state found).policy.acl =
      (declared.policy.eraseAll (declared.ownerNames row)).acl := by
  have howner : found.owner =
      ((OwnedAcl.ofRow row).run declared.schema (declared.ownerPlan row)).owner := by
    rw [OwnedAcl.run_statements] at hfound
    exact congrArg OwnedAcl.owner hfound
  have hacl : found.policy.acl = ((OwnedAcl.ofRow row).run declared.schema
      (declared.statements row exists?)).acl := congrArg OwnedAcl.acl hfound
  -- whoever owns the schema afterwards was left out of the plan
  have hnew : Role.key (Role.orPublic found.owner) ∈ (declared.ownerNames row).map Role.key := by
    unfold ownerNames
    rcases OwnedAcl.run_ownerPlan declared row with ⟨howners, -, -, hrun⟩ | ⟨howners, -, hrun⟩
    · rw [howner, hrun, howners]
      exact List.mem_singleton_self _
    · rw [howner, hrun, howners]
      simp
  unfold state
  funext key
  rw [Policy.acl_eraseAll_singleton, Policy.acl_eraseAll, hacl]
  -- the owners of the call first, then everybody else
  by_cases hkey : key ∈ (declared.ownerNames row).map Role.key
  · rw [if_pos hkey, OwnedAcl.acl_run_statements_owner hkey]
    by_cases howned : key = Role.key (Role.orPublic found.owner)
    · rw [if_pos howned]
    · -- an owner of before, who has handed everything over
      rw [if_neg howned]
      rw [howner] at howned
      unfold ownerNames at hkey
      rcases OwnedAcl.run_ownerPlan declared row with ⟨howners, -, -, hrun⟩ | ⟨howners, -, hrun⟩
      · rw [howners] at hkey
        rw [hrun] at howned
        exact absurd (List.mem_singleton.1 hkey) howned
      · rw [howners] at hkey
        rw [hrun] at howned ⊢
        simp only [List.map_cons, List.map_nil, List.mem_cons, List.not_mem_nil, or_false] at hkey
        dsimp only at howned ⊢
        rw [Acl.handOver_apply, if_neg howned, if_pos (hkey.resolve_right howned)]
  · have hother : ¬ key = Role.key (Role.orPublic found.owner) := by
      intro heq
      rw [heq] at hkey
      exact hkey hnew
    rw [if_neg hkey, if_neg hother, OwnedAcl.acl_run_statements hthere hkey]

/-- What the next call plans: what is declared for the old owner, if the schema was handed over. -/
theorem DeclaredPolicy.statements_of_found
    (hthere : ∀ key o, row.policy.find? key = some o → (o.isPublic || exists? o.role) = true)
    (hfound : OwnedAcl.ofRow found =
      (OwnedAcl.ofRow row).run declared.schema (declared.statements row exists?))
    (exists?' : Option String → Bool) :
    declared.statements found exists?' = declared.leftOver row := by
  have howner : found.owner =
      ((OwnedAcl.ofRow row).run declared.schema (declared.ownerPlan row)).owner := by
    rw [OwnedAcl.run_statements] at hfound
    exact congrArg OwnedAcl.owner hfound
  have hstate := state_of_found hthere hfound
  -- the next call finds the owner that is declared, so it does not hand over again
  have hkept : declared.owner = none ∨ declared.owner = found.owner := by
    rcases OwnedAcl.run_ownerPlan declared row with ⟨-, hstays, -, hrun⟩ | ⟨-, -, hrun⟩
    · rw [howner, hrun]
      exact hstays
    · rw [howner, hrun]
      exact Or.inr rfl
  obtain ⟨hplan, howners⟩ := declared.ownerPlan_eq_nil hkept
  have hnames : declared.ownerNames found = [Role.orPublic found.owner] := by
    rw [ownerNames, howners]
    rfl
  rw [declared.statements_eq, hplan, List.nil_append, hnames]
  unfold leftOver
  rcases OwnedAcl.run_ownerPlan declared row with ⟨hrow, -, hnil, hrun⟩ | ⟨hrow, hhanded, hrun⟩
  · -- the schema stayed with its owner
    have hsame : found.owner = row.owner := by
      rw [howner, hrun]
      rfl
    have hrowNames : declared.ownerNames row = [Role.orPublic found.owner] := by
      rw [ownerNames, hrow, hsame]
      rfl
    rw [hrowNames] at hstate
    rw [hnil]
    exact Policy.planTo_eq_nil _ _ hstate exists?'
  · have hnew : found.owner = declared.owner := by
      rw [howner, hrun]
    have hrowNames : declared.ownerNames row =
        [Role.orPublic row.owner, Role.orPublic found.owner] := by
      rw [ownerNames, hrow, hnew]
      rfl
    rw [hrowNames] at hstate
    rw [hhanded, Bool.false_or, ← hnew]
    -- two spellings of one role may be two owners, but they are one entry
    by_cases hkey : Role.key (Role.orPublic row.owner) = Role.key (Role.orPublic found.owner)
    · rw [if_pos (beq_iff_eq.2 hkey)]
      refine Policy.planTo_eq_nil _ _ (hstate.trans ?_) exists?'
      funext key
      rw [Policy.acl_eraseAll, Policy.acl_eraseAll]
      simp [hkey]
    · rw [if_neg (fun h => hkey (beq_iff_eq.1 h))]
      -- only the replaced owner is different now, and it is left with nothing
      have hothers : ∀ key, key ≠ Role.key (Role.orPublic row.owner) →
          (declared.state found).policy.acl key =
            (declared.policy.eraseAll [Role.orPublic found.owner]).acl key := by
        intro key hne
        rw [hstate, Policy.acl_eraseAll, Policy.acl_eraseAll]
        simp [hne]
      have hnothing : (declared.state found).policy.acl
          (Role.key (Role.orPublic row.owner)) = .none := by
        rw [hstate, Policy.acl_eraseAll]
        simp
      refine (Policy.planTo_eq_grants _ _ hothers hnothing exists?').trans ?_
      rw [Policy.find?_eraseAll, if_neg]
      simpa using hkey

end Call

/-- **One call brings about what is declared, except for an owner that it replaces**, and the next
call has nothing to do, except to give that owner what is declared for it. -/
theorem DeclaredPolicy.converges_but_for_replaced_owner (declared : DeclaredPolicy) (row : AclRow)
    (exists? : Option String → Bool)
    (hthere : ∀ key o, row.policy.find? key = some o → (o.isPublic || exists? o.role) = true) :
    (∃ found, OwnedAcl.ofRow found =
      (OwnedAcl.ofRow row).run declared.schema (declared.statements row exists?)) ∧
    ∀ found, OwnedAcl.ofRow found =
        (OwnedAcl.ofRow row).run declared.schema (declared.statements row exists?) →
      (declared.state found).policy.acl =
        (declared.policy.eraseAll (declared.ownerNames row)).acl ∧
      ∀ exists? : Option String → Bool,
        declared.statements found exists? = declared.leftOver row := by
  refine ⟨OwnedAcl.exists_ofRow_eq_run declared.schema row _, ?_⟩
  intro found hfound
  exact ⟨state_of_found hthere hfound, statements_of_found hthere hfound⟩

/-! ## 5. A schema that changes hands -/

/-- A schema policy that takes the schema from an owner who shall go on using it. -/
def takeover : DeclaredPolicy where
  database := "app"
  schema := "s"
  owner := some "new_owner"
  rules := [⟨"owner_role", ⟨.off, .off, .ofBool true, .off⟩⟩]

/-- The schema before it is taken over. -/
def rowBefore : AclRow := ⟨some "s", some "owner_role", ∅⟩

/-- The schema after it was taken over. -/
def rowAfter : AclRow := ⟨some "s", some "new_owner", ∅⟩

/-- Of the declared policy nothing is left without the two owners. -/
theorem statements_takeover : takeover.statements rowBefore (fun _ => true) =
    [.schemaOwner ⟨some "s", some "new_owner", some "owner_role"⟩] := by
  have hempty : (takeover.policy.eraseAll (takeover.ownerNames rowBefore)).holdings = [] := by
    decide +kernel
  have hsame : (rowBefore.policy.eraseAll (takeover.ownerNames rowBefore)).acl =
      (takeover.policy.eraseAll (takeover.ownerNames rowBefore)).acl := by
    funext key
    rw [Policy.acl_apply, Policy.acl_apply, Policy.find?, Policy.find?, hempty]
    rfl
  rw [takeover.statements_eq, Policy.planTo_eq_nil _ _ hsame]
  rfl

/-- Taking the schema over is all that the first call does. -/
theorem ofRow_rowAfter : OwnedAcl.ofRow rowAfter =
    (OwnedAcl.ofRow rowBefore).run "s" (takeover.statements rowBefore fun _ => true) := by
  rw [statements_takeover, OwnedAcl.run_cons, OwnedAcl.step, if_pos rfl]
  refine OwnedAcl.ext rfl (funext fun key => ?_)
  show Rights.none = Acl.handOver (fun _ => .none) _ _ key
  rw [Acl.handOver_apply]
  simp

/-- The old owner may not use the schema after the first call, though it is declared so, and the
second call has a statement to send. -/
theorem DeclaredPolicy.takeover_takes_two_calls :
    OwnedAcl.ofRow rowAfter =
      (OwnedAcl.ofRow rowBefore).run "s" (takeover.statements rowBefore fun _ => true) ∧
    (takeover.state rowAfter).policy.acl ≠ (takeover.policy.eraseAll ["new_owner"]).acl ∧
    (takeover.statements rowAfter fun _ => true) ≠ [] := by
  refine ⟨ofRow_rowAfter, ?_, ?_⟩
  -- at the old owner they differ: nothing is held, and something is declared
  · intro heq
    have hrole : (takeover.state rowAfter).policy.acl "owner_role" =
        (takeover.policy.eraseAll ["new_owner"]).acl "owner_role" := congrFun heq _
    revert hrole
    decide +kernel
  · intro hnil
    have hone : ((takeover.statements rowAfter fun _ => true).map Statement.direction) =
        [.grant] := by decide +kernel
    rw [hnil] at hone
    exact absurd hone (by decide)

/-- What the second call does is to let the old owner use the schema again. -/
theorem DeclaredPolicy.takeover_leaves_over :
    takeover.statements rowAfter (fun _ => true) = takeover.leftOver rowBefore :=
  ((converges_but_for_replaced_owner takeover rowBefore (fun _ => true)
    fun _ o _ => Bool.or_true o.isPublic).2 rowAfter ofRow_rowAfter).2 _

end PgGrants
