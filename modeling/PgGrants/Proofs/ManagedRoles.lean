/-
Whom the plan for a schema policy touches. Between two policies a plan says something only about
roles whose rights differ, takes from a role only what the old policy gives it, and gives it only
what the new one says. Both policies are freed of the owners before they are compared, so an owner
is none of these roles, by any of its spellings: neither the owner that the schema has nor the one
that it shall have. The schema is handed over first, when another owner is declared, and whether it
is another is a matter of the name itself, not of its key.

When a policy is taken away nothing is handed over, and only the owner that the schema has is left
out. A declared owner that does not own the schema is a role like any other then.
-/
import PgGrants.Proofs.PolicyPartition
import PgGrants.Proofs.SchemaConverges
import PgGrants.Proofs.WritablePlans

set_option autoImplicit false

namespace PgGrants

/-! ## 1. What is said about one holding -/

theorem TextSet.eq_empty_of_subset {s : TextSet} (h : s ⊆ ∅) : s = ∅ := by
  ext x
  exact iff_of_false (fun hmem => not_mem_empty x (h x hmem)) (not_mem_empty x)

/-- The key of the role that the statement addresses. -/
def PrivilegeChange.roleKey (change : PrivilegeChange) : String :=
  Role.key (Role.orPublic change.role)

/-- The statement takes some of the old rights on the schema away from a role, or gives it some of
the new ones. -/
structure PrivilegeChange.MovesTo (change : PrivilegeChange) (schema : String) (old new : Rights) :
    Prop where
  kind : change.kind = .schema
  inside : change.schema = none
  objects : change.objects = [some schema]
  something : change.tokens ≠ ∅
  effect :
    change.direction = .revoke ∧ change.tokens ⊆ old.privileges ∨
      change.direction = .grant ∧ change.tokens ⊆ new.privileges ∧
        (change.grantOption.isSet = true → change.tokens ⊆ new.grantOptions)

namespace Holding

variable {h : Holding} {schema : String} {s : Statement}

/-- A statement that names privileges is about these. -/
theorem exists_change_statement (h : Holding) (direction : Direction) (schema : String)
    {tokens : TextSet} (htokens : tokens.isEmpty = false) (grantOption : Bool) : ∃ change,
      h.statement direction .schema schema tokens grantOption = .privilege change ∧
        change.kind = .schema ∧ change.schema = Option.none ∧ change.objects = [some schema] ∧
        change.roleKey = h.key ∧ change.direction = direction ∧ change.tokens = tokens ∧
        change.grantOption.isSet = grantOption := by
  refine ⟨_, rfl, rfl, rfl, rfl, rfl, rfl, ?_, rfl⟩
  have hsome : (tokens.toList.map some).isEmpty = false := by
    rw [List.isEmpty_map]
    exact htokens
  unfold PrivilegeChange.tokens
  simp only [hsome]
  simp

theorem exists_change_of_mem_revokes (hs : s ∈ h.revokes .schema schema) (new : Rights) :
    ∃ change, s = .privilege change ∧ change.roleKey = h.key ∧ change.direction = .revoke ∧
      change.MovesTo schema h.rights new ∧ h.rights ≠ .none := by
  unfold revokes at hs
  -- a holding without privileges is revoked by no statement
  by_cases hempty : h.privileges.isEmpty = true
  · simp [hempty] at hs
  · rw [if_neg hempty, List.mem_singleton] at hs
    obtain ⟨change, hchange, hkind, hschema, hobjects, hkey, hdirection, htokens, -⟩ :=
      h.exists_change_statement .revoke schema (by simpa using hempty) false
    have hsome : h.privileges ≠ ∅ := fun hnothing => hempty (TextSet.isEmpty_iff.2 hnothing)
    refine ⟨change, hs.trans hchange, hkey, hdirection, ⟨hkind, hschema, hobjects, ?_, ?_⟩, ?_⟩
    · rwa [htokens]
    · refine .inl ⟨hdirection, ?_⟩
      rw [htokens]
      exact fun _ hx => hx
    · exact fun hnone => hsome (congrArg Rights.privileges hnone)

theorem exists_change_of_mem_grants (hs : s ∈ h.grants .schema schema) (old : Rights) :
    ∃ change, s = .privilege change ∧ change.roleKey = h.key ∧
      change.MovesTo schema old h.rights ∧ h.rights ≠ .none := by
  -- of either kind of statement the privileges are some of the role's
  have hgives : ∀ (tokens : TextSet) (grantOption : Bool), tokens.isEmpty = false →
      tokens ⊆ h.privileges → (grantOption = true → tokens ⊆ h.grantOptions) →
      s = h.statement .grant .schema schema tokens grantOption →
      ∃ change, s = .privilege change ∧ change.roleKey = h.key ∧
        change.MovesTo schema old h.rights ∧ h.rights ≠ .none := by
    intro tokens grantOption hsome hheld hoption heq
    obtain ⟨change, hchange, hkind, hschema, hobjects, hkey, hdirection, htokens, hflag⟩ :=
      h.exists_change_statement .grant schema hsome grantOption
    have hnonempty : tokens ≠ ∅ := by
      rw [Ne, ← TextSet.isEmpty_iff, hsome]
      exact Bool.false_ne_true
    refine ⟨change, heq.trans hchange, hkey, ⟨hkind, hschema, hobjects, ?_, ?_⟩, fun hnone => ?_⟩
    · rwa [htokens]
    · rw [htokens, hflag]
      exact .inr ⟨hdirection, hheld, hoption⟩
    · have hnothing : h.privileges = ∅ := congrArg Rights.privileges hnone
      rw [hnothing] at hheld
      exact hnonempty (TextSet.eq_empty_of_subset hheld)
  rw [grants, List.mem_append, List.mem_ite_nil_left, List.mem_ite_nil_left, List.mem_singleton,
    List.mem_singleton] at hs
  rcases hs with ⟨hsome, heq⟩ | ⟨hsome, heq⟩
  · exact hgives h.plain false (by simpa using hsome) (fun _ hx => (TextSet.mem_diff.1 hx).1)
      (fun hoption => absurd hoption Bool.false_ne_true) heq
  · exact hgives h.grantOptions true (by simpa using hsome) h.options_subset (fun _ _ hx => hx) heq

end Holding

/-! ## 2. What is said between two policies

A delta is said in four parts: roles that are dropped, rights that shrink, roles that are new,
rights that grow. In each part a statement is about one holding, and its role had other rights in
the old policy than in the new one. -/

/-- The statement is about a role of either policy, whose rights are not the same in both; it takes
some of the old ones or gives some of the new ones. -/
structure PrivilegeChange.IsBetween (change : PrivilegeChange) (schema : String)
    (old new : Policy) : Prop where
  mem_keys : change.roleKey ∈ old.keys ∪ new.keys
  differs : old.acl change.roleKey ≠ new.acl change.roleKey
  moves : change.MovesTo schema (old.acl change.roleKey) (new.acl change.roleKey)

theorem Policy.acl_of_find? {p : Policy} {key : String} {h : Holding}
    (hfound : p.find? key = some h) : p.acl key = h.rights := by
  rw [acl_apply, hfound]
  rfl

theorem Policy.acl_of_not_found {p : Policy} {key : String} (hfound : p.find? key = none) :
    p.acl key = .none := by
  rw [acl_apply, hfound]
  rfl

theorem Policy.mem_keys_of_find? {p : Policy} {key : String} {h : Holding}
    (hfound : p.find? key = some h) : key ∈ p.keys := by
  rw [← find?_isSome_iff, hfound]
  rfl

namespace PolicyDelta

variable {old new : Policy} {schema : String} {s : Statement}

/-- What is taken from a role whose rights change. -/
theorem exists_isBetween_of_mem_revokes {h : Holding} (hold : old.find? h.key = some h)
    (hdiffer : h.rights ≠ .none → old.acl h.key ≠ new.acl h.key)
    (hs : s ∈ h.revokes .schema schema) :
    ∃ change, s = .privilege change ∧ change.direction = .revoke ∧
      change.IsBetween schema old new := by
  obtain ⟨change, hchange, hkey, hdirection, hmoves, hsome⟩ :=
    Holding.exists_change_of_mem_revokes hs (new.acl h.key)
  rw [← Policy.acl_of_find? hold] at hmoves
  rw [← hkey] at hold hdiffer hmoves
  exact ⟨change, hchange, hdirection, TextSet.mem_union.2 (.inl (Policy.mem_keys_of_find? hold)),
    hdiffer hsome, hmoves⟩

/-- What is given to a role whose rights change. -/
theorem exists_isBetween_of_mem_grants {h : Holding} (hnew : new.find? h.key = some h)
    (hdiffer : h.rights ≠ .none → old.acl h.key ≠ new.acl h.key)
    (hs : s ∈ h.grants .schema schema) :
    ∃ change, s = .privilege change ∧ change.IsBetween schema old new := by
  obtain ⟨change, hchange, hkey, hmoves, hsome⟩ :=
    Holding.exists_change_of_mem_grants hs (old.acl h.key)
  rw [← Policy.acl_of_find? hnew] at hmoves
  rw [← hkey] at hnew hdiffer hmoves
  exact ⟨change, hchange, TextSet.mem_union.2 (.inr (Policy.mem_keys_of_find? hnew)),
    hdiffer hsome, hmoves⟩

/-- An updated role is found in both policies, with rights that are not the same. -/
theorem of_mem_updated {pair : Holding × Holding} (h : pair ∈ (ofPolicies old new).updated) :
    pair.1.key = pair.2.key ∧ old.find? pair.2.key = some pair.1 ∧
      new.find? pair.2.key = some pair.2 ∧ pair.1.rights ≠ pair.2.rights := by
  obtain ⟨o, n⟩ := pair
  rw [mem_updated, mem_changes_iff] at h
  obtain ⟨hold, hnew, hdiffer⟩ := h
  rw [RoleChange.key, Policy.lookup_key] at hold hnew
  rw [Holding.sameRights_iff] at hdiffer
  exact ⟨Policy.key_of_find? hold, hold, hnew, hdiffer⟩

/-- Every statement that leads from the one policy to the other is between the two, and without a
new holding there is none that gives. -/
theorem Leads.exists_isBetween_of_mem {statements : List Statement}
    (h : (ofPolicies old new).Leads schema statements) (hs : s ∈ statements) :
    ∃ change, s = .privilege change ∧ change.IsBetween schema old new := by
  obtain ⟨dropped, hdropped, rfl⟩ := h
  -- dropped roles and roles that shrink are revoked in the same way
  have htaken : ∀ {held : Holding}, old.find? held.key = some held →
      (held.rights ≠ .none → old.acl held.key ≠ new.acl held.key) →
      s ∈ held.revokes .schema schema →
      ∃ change, s = .privilege change ∧ change.IsBetween schema old new := by
    intro held hold hdiffer hs
    obtain ⟨change, hchange, -, hbetween⟩ := exists_isBetween_of_mem_revokes hold hdiffer hs
    exact ⟨change, hchange, hbetween⟩
  rcases List.mem_append.1 hs with hs | hs
  · rcases List.mem_append.1 hs with hs | hs
    · -- a dropped role had something, and has nothing now
      obtain ⟨o, ho, hs⟩ := List.mem_flatMap.1 hs
      have hchange := mem_dropped.1 (hdropped ho)
      obtain ⟨hold, hnew⟩ := mem_changes_iff.1 hchange
      rw [RoleChange.key, Policy.lookup_key] at hold hnew
      refine htaken hold (fun hsome => ?_) hs
      rwa [Policy.acl_of_find? hold, Policy.acl_of_not_found hnew]
    · obtain ⟨pair, hpair, hs⟩ := List.mem_flatMap.1 hs
      obtain ⟨hkey, hold, hnew, hdiffer⟩ := of_mem_updated hpair
      rw [← hkey] at hold hnew
      refine htaken hold (fun _ => ?_) hs
      rwa [Policy.acl_of_find? hold, Policy.acl_of_find? hnew]
  · rcases List.mem_append.1 hs with hs | hs
    · -- a new role had nothing, and has something now
      obtain ⟨n, hn, hs⟩ := List.mem_flatMap.1 hs
      obtain ⟨hold, hnew⟩ := mem_changes_iff.1 (mem_added.1 hn)
      rw [RoleChange.key, Policy.lookup_key] at hold hnew
      refine exists_isBetween_of_mem_grants hnew (fun hsome => ?_) hs
      rw [Policy.acl_of_not_found hold, Policy.acl_of_find? hnew]
      exact hsome.symm
    · obtain ⟨pair, hpair, hs⟩ := List.mem_flatMap.1 hs
      obtain ⟨-, hold, hnew, hdiffer⟩ := of_mem_updated hpair
      refine exists_isBetween_of_mem_grants hnew (fun _ => ?_) hs
      rwa [Policy.acl_of_find? hold, Policy.acl_of_find? hnew]

end PolicyDelta

/-! ## 3. Owners are left out -/

/-- The statement is between the two policies, and about none of the owners. -/
structure PrivilegeChange.IsManaged (change : PrivilegeChange) (schema : String)
    (owners : List String) (old new : Policy) : Prop where
  between : change.IsBetween schema old new
  not_owner : ∀ owner ∈ owners, change.roleKey ≠ Role.key owner

/-- Between two policies without some roles nothing is said about these. -/
theorem PrivilegeChange.IsBetween.isManaged {change : PrivilegeChange} {schema : String}
    {owners : List String} {old new : Policy}
    (h : change.IsBetween schema (old.eraseAll owners) (new.eraseAll owners)) :
    change.IsManaged schema owners old new := by
  have hother : change.roleKey ∉ owners.map Role.key := by
    intro howner
    refine h.differs ?_
    rw [Policy.acl_eraseAll, Policy.acl_eraseAll, if_pos howner, if_pos howner]
  -- what is said about the others is the same with the owners and without them
  have hacl : ∀ p : Policy, (p.eraseAll owners).acl change.roleKey = p.acl change.roleKey :=
    fun p => by rw [Policy.acl_eraseAll, if_neg hother]
  have hkeys : ∀ p : Policy,
      change.roleKey ∈ (p.eraseAll owners).keys → change.roleKey ∈ p.keys := by
    intro p hmem
    rw [← Policy.find?_isSome_iff, Policy.find?_eraseAll, if_neg hother] at hmem
    exact Policy.find?_isSome_iff.1 hmem
  obtain ⟨hmem, hdiffers, hmoves⟩ := h
  rw [hacl, hacl] at hdiffers hmoves
  rw [TextSet.mem_union] at hmem
  refine ⟨⟨TextSet.mem_union.2 (hmem.imp (hkeys old) (hkeys new)), hdiffers, hmoves⟩, ?_⟩
  intro owner howner heq
  exact hother (heq ▸ List.mem_map_of_mem howner)

namespace DeclaredPolicy

variable {declared : DeclaredPolicy} {row : AclRow}

/-- Another owner is declared than the one that the schema has. -/
def GivesAway (declared : DeclaredPolicy) (row : AclRow) : Prop :=
  ∃ owner, declared.owner = some owner ∧ row.owner ≠ some owner

/-- The statement that hands the schema over. -/
def handOver (declared : DeclaredPolicy) (row : AclRow) : Statement :=
  .schemaOwner {
    schema := declared.schema, owner := declared.owner, previousOwner := row.owner }

/-- The owner that the schema has, and the one that is declared. -/
def bothOwners (declared : DeclaredPolicy) (row : AclRow) : List String :=
  Role.orPublic row.owner :: declared.owner.toList

/-- The statements hand the schema over first, exactly if it is given away, and what follows is
about managed roles. -/
def IsManagedPlan (declared : DeclaredPolicy) (row : AclRow) (old : Policy)
    (statements : List Statement) : Prop :=
  ∃ changes, (declared.GivesAway row ∧ statements = declared.handOver row :: changes ∨
      ¬declared.GivesAway row ∧ statements = changes) ∧
    ∀ s ∈ changes, ∃ change, s = .privilege change ∧
      change.IsManaged declared.schema (declared.bothOwners row) old declared.policy

/-- Whether it is given away is a matter of the names. -/
theorem ownerPlan_eq (declared : DeclaredPolicy) (row : AclRow) :
    declared.GivesAway row ∧ declared.ownerPlan row = [declared.handOver row] ∧
        declared.owners row = [row.owner, declared.owner] ∨
      ¬declared.GivesAway row ∧ declared.ownerPlan row = [] ∧
        declared.owners row = [row.owner] := by
  -- the object changes hands only where another owner is declared
  by_cases hgives : declared.GivesAway row
  · refine .inl ⟨hgives, ?_⟩
    obtain ⟨owner, howner, hother⟩ := hgives
    rcases declared.ownerPlan_cases row with ⟨-, -, hnone | hsame⟩ | ⟨hplan, howners⟩
    · rw [hnone] at howner
      cases howner
    · exact absurd (hsame.symm.trans howner) hother
    · exact ⟨hplan, howners⟩
  · refine .inr ⟨hgives, declared.ownerPlan_eq_nil ?_⟩
    cases howner : declared.owner with
    | none => exact .inl rfl
    | some owner =>
      by_contra hother
      rw [or_iff_right (Option.some_ne_none owner)] at hother
      exact hgives ⟨owner, howner, fun heq => hother heq.symm⟩

/-- The roles that are left out are the owner and the declared one, whether or not they differ. -/
theorem mem_ownerNames {name : String} (h : name ∈ declared.bothOwners row) :
    name ∈ declared.ownerNames row := by
  unfold ownerNames
  unfold bothOwners at h
  rcases declared.ownerPlan_eq row with ⟨-, -, howners⟩ | ⟨hstays, -, howners⟩
  · rw [howners]
    rcases List.mem_cons.1 h with rfl | h
    · exact List.mem_cons_self
    · rw [Option.mem_toList] at h
      rw [h]
      exact List.mem_cons_of_mem _ List.mem_cons_self
  · rw [howners]
    rcases List.mem_cons.1 h with rfl | h
    · exact List.mem_cons_self
    · -- a declared owner that is not another is the owner
      rw [Option.mem_toList] at h
      have hsame : row.owner = some name := by
        by_contra hother
        exact hstays ⟨name, h, hother⟩
      rw [hsame]
      exact List.mem_cons_self

/-- Whatever leads from the policy before to the declared one is a managed plan. -/
theorem isManagedPlan_of_leads {previous : Option Policy} {changes : List Statement}
    (h : (declared.diff row previous).Leads declared.schema changes) :
    declared.IsManagedPlan row (previous.getD row.policy) (declared.ownerPlan row ++ changes) := by
  refine ⟨changes, ?_, fun s hs => ?_⟩
  · rcases declared.ownerPlan_eq row with ⟨hgives, hplan, -⟩ | ⟨hstays, hplan, -⟩
    · exact .inl ⟨hgives, by rw [hplan, List.singleton_append]⟩
    · exact .inr ⟨hstays, by rw [hplan, List.nil_append]⟩
  · obtain ⟨change, hchange, hbetween⟩ := PolicyDelta.Leads.exists_isBetween_of_mem h hs
    obtain ⟨hmanaged, hothers⟩ := hbetween.isManaged
    exact ⟨change, hchange, hmanaged, fun owner howner => hothers owner (mem_ownerNames howner)⟩

/-- The statements take the declared policy away from managed roles. -/
def IsManagedRevocation (declared : DeclaredPolicy) (row : AclRow) (statements : List Statement) :
    Prop :=
  ∀ s ∈ statements, ∃ change, s = .privilege change ∧ change.direction = .revoke ∧
    change.IsManaged declared.schema [Role.orPublic row.owner] declared.policy ∅

/-- Whatever leads from the declared policy to nothing takes away. -/
theorem isManagedRevocation_of_leads {changes : List Statement}
    (h : (declared.revokeDiff row).Leads declared.schema changes) :
    declared.IsManagedRevocation row changes := by
  intro s hs
  -- to revoke everything is to go to the empty policy
  have hnothing : (∅ : Policy).eraseAll [Role.orPublic row.owner] = ∅ := rfl
  unfold revokeDiff at h
  rw [← hnothing] at h
  obtain ⟨change, hchange, hbetween⟩ := PolicyDelta.Leads.exists_isBetween_of_mem h hs
  obtain ⟨hmanaged, hothers⟩ := hbetween.isManaged
  refine ⟨change, hchange, ?_, hmanaged, hothers⟩
  rcases hmanaged.moves.effect with ⟨hrevoke, -⟩ | ⟨-, hgiven, -⟩
  · exact hrevoke
  -- nothing can be granted on the way there
  · exact absurd (TextSet.eq_empty_of_subset hgiven) hmanaged.moves.something

/-! ## 4. All plans -/

/-- A plan for a schema policy touches only managed roles, whoever owns the schema, whatever is
granted on it and whichever roles exist: roles of the declared policy or of the one before, whose
rights in the two differ, and neither of the owners. What it takes away the policy before gives,
what it gives is declared, and the schema is handed over first, exactly when a declared owner is not
the owner by name. To take the declared policy away is to take declared privileges from roles other
than the owner, and nothing else. And this is what an operation plans, whatever server it asks. -/
theorem plans_touch_managed_roles (declared : DeclaredPolicy) :
    (∀ (row : AclRow) (previous : Option Policy) (exists? : Option String → Bool),
      declared.IsManagedPlan row (previous.getD row.policy)
        (declared.ownerPlan row ++ declared.changes row previous exists?)) ∧
    (∀ (row : AclRow) (exists? : Option String → Bool),
      declared.IsManagedRevocation row (declared.revokeChanges row exists?)) ∧
    ∀ (σ : Type) [Server σ] (start : Connection σ),
      (∀ (previous : Option Policy) (job? : Option Job),
        ((declared.syncJob previous).exec start).1 = .ok job? →
          ∃ row, declared.FindsRow start row ∧
            declared.IsManagedPlan row (previous.getD row.policy)
              (job?.elim [] Job.statements)) ∧
      ∀ job : Job, (declared.revokeJob.exec start).1 = .ok (some job) →
        ∃ row, declared.FindsRow start row ∧ declared.IsManagedRevocation row job.statements := by
  refine ⟨fun row previous exists? => ?_, fun row exists? => ?_, fun σ _ start => ⟨?_, ?_⟩⟩
  · exact isManagedPlan_of_leads (PolicyDelta.leads_plan _ _ exists?)
  · exact isManagedRevocation_of_leads (PolicyDelta.leads_plan _ _ exists?)
  · intro previous job? hjob
    obtain ⟨row, changes, hrow, hchanges, hstatements⟩ := declared.exists_changes_of_syncJob hjob
    rw [hstatements]
    exact ⟨row, hrow, isManagedPlan_of_leads hchanges⟩
  · intro job hjob
    obtain ⟨row, hrow, hchanges⟩ := declared.exists_row_of_revokeJob hjob
    exact ⟨row, hrow, isManagedRevocation_of_leads hchanges⟩

/-- A connection on which a schema is found that somebody else shall own. -/
def sampleConnection : Connection Script where
  server := ⟨[
    .rows [[.text "s", .text "alice", .list [.text "bob=U/alice"]]],
    .rows [[.text "bob", .int 16390, .bool false]],
    .rows [[.text "postgres"]]]⟩
  log := []
  inTransaction := true
  capabilities := none

/-- What bob may do, who shall own the schema. -/
def bobsRequest : PolicyRequest where
  database := .text "app"
  schema := .text "s"
  owner := .text "bob"
  rules := [⟨.text "bob", ⟨.off, .off, .ofBool true, .off⟩⟩]

/-- The same when it was accepted. -/
def bobsPolicy : DeclaredPolicy where
  database := "app"
  schema := "s"
  owner := some "bob"
  rules := [⟨"bob", ⟨.off, .off, .ofBool true, .off⟩⟩]

/-- The schema while it is still somebody else's. -/
def alicesRow : AclRow :=
  ⟨some "s", some "alice", .ofAcl [.ofMarks "bob" "alice" [("USAGE", false)]]⟩

/-- Bob's schema goes over to bob, and what bob holds on it is left alone. -/
theorem bobs_plan_is_managed :
    ((∃ job?, ((bobsPolicy.syncJob none).exec sampleConnection).1 = .ok job?) ∧
      ∃ row statements, bobsPolicy.FindsRow sampleConnection row ∧
        bobsPolicy.IsManagedPlan row row.policy statements) ∧
    (∃ job, (bobsPolicy.revokeJob.exec sampleConnection).1 = .ok (some job)) ∧
      ∃ row statements, bobsPolicy.FindsRow sampleConnection row ∧
        bobsPolicy.IsManagedRevocation row statements := by
  -- both jobs come to a plan on the scripted server
  have hplans : ((bobsPolicy.syncJob none).exec sampleConnection).1.toOption.isSome = true := by
    decide +kernel
  have hrevokes : (bobsPolicy.revokeJob.exec sampleConnection).1.toOption.join.isSome = true := by
    decide +kernel
  obtain ⟨-, -, hruns⟩ := plans_touch_managed_roles bobsPolicy
  obtain ⟨hsync, hrevoke⟩ := hruns Script sampleConnection
  constructor
  · rcases hrun : ((bobsPolicy.syncJob none).exec sampleConnection).1 with error | job?
    · rw [hrun] at hplans
      cases hplans
    · obtain ⟨row, hrow, hmanaged⟩ := hsync none job? hrun
      exact ⟨⟨job?, rfl⟩, row, _, hrow, hmanaged⟩
  · rcases hrun : (bobsPolicy.revokeJob.exec sampleConnection).1 with error | _ | job
    · rw [hrun] at hrevokes
      cases hrevokes
    · rw [hrun] at hrevokes
      cases hrevokes
    · obtain ⟨row, hrow, hmanaged⟩ := hrevoke job hrun
      exact ⟨⟨job, rfl⟩, row, _, hrow, hmanaged⟩

/-- To take bob's policy away while the schema is alice's is to take from bob, who is the declared
owner. -/
theorem revocation_reaches_declared_owner :
    bobsRequest.check = .ok bobsPolicy ∧
      ¬∀ s ∈ bobsPolicy.revokeChanges alicesRow fun _ => true, ∃ change,
        s = .privilege change ∧ change.IsManaged bobsPolicy.schema
          (bobsPolicy.bothOwners alicesRow) bobsPolicy.policy ∅ := by
  refine ⟨rfl, fun hall => ?_⟩
  -- the only statement revokes from the declared owner
  have hroles : (bobsPolicy.revokeChanges alicesRow fun _ => true).map Statement.role =
      [some "bob"] := by
    decide +kernel
  have hmem : some "bob" ∈
      (bobsPolicy.revokeChanges alicesRow fun _ => true).map Statement.role := by
    rw [hroles]
    exact List.mem_cons_self
  obtain ⟨s, hs, hrole⟩ := List.mem_map.1 hmem
  obtain ⟨change, rfl, hmanaged⟩ := hall s hs
  have hbob : change.role = some "bob" := hrole
  refine hmanaged.not_owner "bob" (List.mem_cons_of_mem _ List.mem_cons_self) ?_
  rw [PrivilegeChange.roleKey, hbob]
  rfl

end DeclaredPolicy

end PgGrants
