/-
Everything that is planned can be written. A declaration that keeps the rules says enough for every
statement of its plans: a schema where the kind has one, at least one object unless all are meant
and there is a word for all, a verb, and privileges that have a letter. So each statement has a text
for the server and a description for people, and no list of objects in it is empty.
-/
import PgGrants.Proofs.PolicyUnion
import PgGrants.Proofs.PublicGrantee
import PgGrants.Proofs.VersionGates

set_option autoImplicit false

namespace PgGrants

/-! ## 1. Statements that say enough -/

/-- How the objects of a privilege statement are written: all of a kind in a schema, or a list of
names that is not empty. -/
inductive PrivilegeChange.WritesTargets (change : PrivilegeChange) : String → Prop where
  | all {word schema : String} (hword : change.kind.catalog.plural = some word)
      (hschema : change.schema = some schema) :
      WritesTargets change ("ALL " ++ word ++ " IN SCHEMA " ++ Sql.identifier schema)
  | listed {names : List String} (hnames : names ≠ []) (hname : ∀ name ∈ names, name ≠ "") :
      WritesTargets change (change.kind.catalog.keyword ++ " " ++ String.intercalate ", " names)

/-- The statement has a text for the server, in which something is named, and words for people. -/
structure Statement.IsWritable (s : Statement) : Prop where
  sql : ∃ text, s.sql = .ok text
  describe : ∃ words, s.describe = .ok words
  subject : ∃ words, s.subject = .ok words
  targets : ∀ change, s = .privilege change →
    ∃ text, Sql.targets change = .ok text ∧ change.WritesTargets text

/-- The privileges are all there and have a letter each. -/
def AllKnown (privileges : List (Option String)) : Prop :=
  ∃ tokens : List String, privileges = tokens.map some ∧
    ∀ token ∈ tokens, AclItem.isPrivilege token = true

/-- The statement names what its kind needs, and every name is there. -/
structure PrivilegeChange.IsComplete (change : PrivilegeChange) : Prop where
  verb : change.direction.word.isSome = true
  privileges : AllKnown change.privileges
  objects : ∃ names : List String, change.objects = names.map some ∧
    (names = [] → change.kind.inSchema = true ∧ change.kind.catalog.plural.isSome = true)
  schema : change.kind.inSchema = true → ∃ schema, change.schema = some schema

/-- The statement names the owner, and its kind has a word for all objects. -/
structure DefaultPrivilegeChange.IsComplete (change : DefaultPrivilegeChange) : Prop where
  verb : change.direction.word.isSome = true
  privileges : AllKnown change.privileges
  owner : change.owner.isSome = true
  plural : change.kind.catalog.plural.isSome = true

namespace Sql

theorem exists_verb {direction : Direction} (h : direction.word.isSome = true) :
    ∃ verb, direction.verb = .ok verb := by
  obtain ⟨word, hword⟩ := Option.isSome_iff_exists.1 h
  unfold Direction.verb
  rw [hword]
  exact ⟨_, rfl⟩

theorem exists_describePlural {kind : ObjectKind} (h : kind.catalog.plural.isSome = true) :
    ∃ words, Statement.describePlural kind = .ok words := by
  obtain ⟨word, hword⟩ := Option.isSome_iff_exists.1 h
  unfold Statement.describePlural
  rw [hword]
  exact ⟨_, rfl⟩

theorem exists_plural {kind : ObjectKind} (h : kind.catalog.plural.isSome = true) :
    ∃ word, plural kind = .ok word := by
  obtain ⟨word, hword⟩ := Option.isSome_iff_exists.1 h
  unfold plural
  rw [hword]
  exact ⟨_, rfl⟩

theorem exists_describePrivileges {privileges : List (Option String)} (h : AllKnown privileges) :
    ∃ words, Statement.describePrivileges privileges = .ok words := by
  obtain ⟨tokens, rfl, -⟩ := h
  unfold Statement.describePrivileges
  split
  · exact ⟨_, rfl⟩
  · exact exists_commaSeparated tokens

end Sql

namespace PrivilegeChange.IsComplete

open Sql

variable {change : PrivilegeChange}

theorem exists_describeObjects (h : change.IsComplete) :
    ∃ words, Statement.describeObjects change = .ok words := by
  obtain ⟨names, hobjects, hall⟩ := h.objects
  unfold Statement.describeObjects
  by_cases hmeansAll : (change.kind.inSchema && change.objects.isEmpty) = true
  · rw [if_pos hmeansAll]
    rw [Bool.and_eq_true, hobjects, List.isEmpty_iff, List.map_eq_nil_iff] at hmeansAll
    exact exists_bind_eq_ok (exists_describePlural (hall hmeansAll.2).2) fun _ => ⟨_, rfl⟩
  · rw [if_neg hmeansAll]
    refine exists_bind_eq_ok ?_ fun _ => ⟨_, rfl⟩
    rw [hobjects, List.map_map]
    -- with the schema in front or without it, every object has a name
    cases Statement.namedSchema change.schema with
    | some schema =>
      have hshown := exists_commaSeparated
        (names.map fun name => schema ++ "." ++ Statement.shown (some name))
      rwa [List.map_map] at hshown
    | none => exact exists_commaSeparated names

/-- What is written for a list of names that is not empty is such a list. -/
theorem writesTargets_of_names {names : List String} (hnames : names ≠ []) (write : String → String)
    (hwrite : ∀ name, write name ≠ "") :
    change.WritesTargets
      (change.kind.catalog.keyword ++ " " ++ String.intercalate ", " (names.map write)) := by
  refine .listed (fun hnil => hnames (List.map_eq_nil_iff.1 hnil)) fun text htext => ?_
  obtain ⟨name, -, rfl⟩ := List.mem_map.1 htext
  exact hwrite name

theorem exists_targets (h : change.IsComplete) :
    ∃ text, Sql.targets change = .ok text ∧ change.WritesTargets text := by
  obtain ⟨names, hobjects, hall⟩ := h.objects
  have hquoted : ∀ name, identifier name ≠ "" := fun name => by
    simp [identifier]
  unfold Sql.targets
  rw [hobjects]
  by_cases hinside : change.kind.inSchema = true
  · obtain ⟨schema, hschema⟩ := h.schema hinside
    rw [if_pos hinside, hschema]
    by_cases hempty : (names.map some).isEmpty = true
    · have hnil : names = [] := List.map_eq_nil_iff.1 (List.isEmpty_iff.1 hempty)
      obtain ⟨word, hword⟩ := Option.isSome_iff_exists.1 (hall hnil).2
      have hplural : plural change.kind = .ok word := by
        rw [plural, hword]
      rw [if_pos hempty, hplural]
      exact ⟨_, rfl, .all hword hschema⟩
    -- objects in a schema, each written behind its name
    · have hnames : names ≠ [] := fun hnil => hempty (by rw [hnil]; rfl)
      have hlist : (names.map some).mapM (qualified schema) =
          .ok (names.map fun name => identifier schema ++ "." ++ identifier name) := by
        rw [List.mapM_map]
        exact mapM_eq_ok_map fun _ _ => rfl
      rw [if_neg hempty]
      refine ⟨_, ?_, writesTargets_of_names hnames (fun name =>
        identifier schema ++ "." ++ identifier name) fun name => ?_⟩
      · show ((names.map some).mapM (qualified schema) >>= _) = _
        rw [hlist]
        rfl
      · simp [hquoted]
  -- objects that are in no schema
  · have hnames : names ≠ [] := fun hnil => hinside (hall hnil).1
    have hlist : (names.map some).mapM nameOf = .ok (names.map identifier) := by
      rw [List.mapM_map]
      exact mapM_eq_ok_map fun _ _ => rfl
    rw [if_neg hinside, hlist]
    exact ⟨_, rfl, writesTargets_of_names hnames identifier hquoted⟩

theorem isWritable (h : change.IsComplete) : (Statement.privilege change).IsWritable := by
  obtain ⟨objects, htargets, hwrites⟩ := h.exists_targets
  refine ⟨?_, ?_, h.exists_describeObjects, fun other hother => ?_⟩
  · obtain ⟨tokens, htokens, hknown⟩ := h.privileges
    unfold Statement.sql
    dsimp only
    rw [htokens, htargets]
    exact exists_bind_eq_ok (exists_privilegeList hknown) fun _ => ⟨_, rfl⟩
  · unfold Statement.describe
    refine exists_bind_eq_ok (exists_verb h.verb) fun _ => ?_
    refine exists_bind_eq_ok (exists_describePrivileges h.privileges) fun _ => ?_
    exact exists_bind_eq_ok h.exists_describeObjects fun _ => ⟨_, rfl⟩
  · cases hother
    exact ⟨objects, htargets, hwrites⟩

end PrivilegeChange.IsComplete

theorem DefaultPrivilegeChange.IsComplete.isWritable {change : DefaultPrivilegeChange}
    (h : change.IsComplete) : (Statement.defaultPrivilege change).IsWritable := by
  -- the future objects are named by the plural of their kind
  have hsubject : ∃ words, Statement.describeFutureObjects change = .ok words := by
    unfold Statement.describeFutureObjects
    exact Sql.exists_bind_eq_ok (Sql.exists_describePlural h.plural) fun _ => ⟨_, rfl⟩
  refine ⟨?_, ?_, hsubject, fun _ hother => nomatch hother⟩
  · obtain ⟨tokens, htokens, hknown⟩ := h.privileges
    obtain ⟨owner, howner⟩ := Option.isSome_iff_exists.1 h.owner
    unfold Statement.sql
    dsimp only
    rw [htokens, howner]
    refine Sql.exists_bind_eq_ok ⟨_, rfl⟩ fun _ => ?_
    refine Sql.exists_bind_eq_ok (Sql.exists_privilegeList hknown) fun _ => ?_
    exact Sql.exists_bind_eq_ok (Sql.exists_plural h.plural) fun _ => ⟨_, rfl⟩
  · unfold Statement.describe
    refine Sql.exists_bind_eq_ok (Sql.exists_verb h.verb) fun _ => ?_
    refine Sql.exists_bind_eq_ok (Sql.exists_describePrivileges h.privileges) fun _ => ?_
    exact Sql.exists_bind_eq_ok hsubject fun _ => ⟨_, rfl⟩

/-! ## 2. Grants and default privileges

A declaration that passed its check gives complete statements: every part that is written is there.
-/

namespace GrantRequest

variable {r : GrantRequest} {declared : DeclaredGrant}

/-- Only where all objects of a kind can be meant may none be named. -/
theorem inSchema_of_targets_eq_nil (h : r.check = .ok declared) (htargets : declared.targets = []) :
    declared.kind.inSchema = true := by
  obtain ⟨hschema, hbulk⟩ := objects_of_check h
  obtain ⟨_, _, _, -, -, -, -, -, -, rfl⟩ := exists_of_check h
  unfold DeclaredGrant.targets DeclaredGrant.schemaName at htargets
  dsimp only at htargets hbulk ⊢
  -- databases and schemas are named themselves, and the kinds outside of schemas need names
  cases hkind : r.kind with
  | database =>
    rw [hkind] at htargets
    cases htargets
  | schema =>
    obtain ⟨name, hname⟩ := hschema (by rw [hkind]; rfl)
    rw [hkind, hname] at htargets
    cases htargets
  | foreignDataWrapper =>
    rw [hkind] at htargets hbulk
    cases hbulk rfl htargets
  | foreignServer =>
    rw [hkind] at htargets hbulk
    cases hbulk rfl htargets
  | _ => rfl

theorem isWritable_statement (h : r.check = .ok declared) {direction : Direction}
    (hverb : direction.word.isSome = true) {listed : List String}
    (hlisted : ∀ token ∈ listed, AclItem.isPrivilege token = true) (grantOption : Flag) :
    (declared.statement direction listed grantOption).IsWritable := by
  refine PrivilegeChange.IsComplete.isWritable ⟨hverb, ⟨listed, rfl, hlisted⟩,
    ⟨declared.targets, rfl, fun hnone => ?_⟩, fun hinside => (named_of_check h hinside).1⟩
  have hinside := inSchema_of_targets_eq_nil h hnone
  exact ⟨hinside, (named_of_check h hinside).2 hnone⟩

end GrantRequest

theorem DeclaredDefaults.isWritable_statement {r : DefaultsRequest} {declared : DeclaredDefaults}
    (h : r.check = .ok declared) {direction : Direction} (hverb : direction.word.isSome = true)
    {listed : List String} (hlisted : ∀ token ∈ listed, AclItem.isPrivilege token = true)
    (grantOption : Flag) : (declared.statement direction listed grantOption).IsWritable :=
  DefaultPrivilegeChange.IsComplete.isWritable
    ⟨hverb, ⟨listed, rfl, hlisted⟩, rfl, plural_of_check h⟩

/-- Every statement of the plans for accepted privileges can be written. -/
theorem PrivilegeRequest.isWritable_of_mem {request : PrivilegeRequest}
    {declared : DeclaredPrivileges} (h : request.check = .ok declared) {s : Statement}
    (hs : s ∈ declared.plan ∨ s ∈ declared.revokePlan) : s.IsWritable := by
  obtain ⟨direction, listed, grantOption, rfl, hverb, hlisted⟩ := exists_listed_of_mem h hs
  cases request with
  | grant r =>
    obtain ⟨checked, hcheck, rfl⟩ := exists_of_map_eq_ok h
    exact GrantRequest.isWritable_statement hcheck hverb hlisted grantOption
  | defaults r =>
    obtain ⟨checked, hcheck, rfl⟩ := exists_of_map_eq_ok h
    exact DeclaredDefaults.isWritable_statement hcheck hverb hlisted grantOption

/-! ## 3. Policies of schemas

Here the statements come from what was read as well as from what is declared. Of what was read it is
used that a schema has only two privileges. -/

/-- The holding is of the privileges that a schema has. -/
def Holding.IsForSchemas (h : Holding) : Prop :=
  ∀ token ∈ h.privileges, token = "CREATE" ∨ token = "USAGE"

/-- All holdings are of the privileges that a schema has. -/
def Policy.IsForSchemas (p : Policy) : Prop := ∀ key h, p.find? key = some h → h.IsForSchemas

theorem Policy.isForSchemas_ofHoldings {l : List Holding} (hl : ∀ h ∈ l, h.IsForSchemas) :
    (ofHoldings l).IsForSchemas := by
  refine forall_ofHoldings (fun h k hh hk token htoken => ?_) hl
  rcases TextSet.mem_union.1 htoken with htoken | htoken
  · exact hh token htoken
  · exact hk token htoken

theorem Policy.IsForSchemas.eraseAll {p : Policy} (h : p.IsForSchemas) (roles : List String) :
    (p.eraseAll roles).IsForSchemas :=
  fun key held hfound => h key held (find?_of_find?_eraseAll hfound)

theorem DeclaredPolicy.isForSchemas_policy (declared : DeclaredPolicy) :
    declared.policy.IsForSchemas := by
  refine Policy.isForSchemas_ofHoldings fun h hmem => ?_
  obtain ⟨rule, -, rfl⟩ := List.mem_map.1 hmem
  exact fun token htoken => SchemaRights.mem_privileges htoken

namespace Holding.IsForSchemas

variable {h : Holding}

theorem isWritable_statement (hschemas : h.IsForSchemas) {direction : Direction}
    (hverb : direction.word.isSome = true) (name : String) {tokens : TextSet}
    (htokens : tokens ⊆ h.privileges) (grantOption : Bool) :
    (h.statement direction .schema name tokens grantOption).IsWritable := by
  have hletters : AclItem.isPrivilege "CREATE" = true ∧ AclItem.isPrivilege "USAGE" = true := by
    decide
  have hknown : ∀ token ∈ tokens.toList, AclItem.isPrivilege token = true := by
    intro token htoken
    rcases hschemas token (htokens token htoken) with rfl | rfl
    · exact hletters.1
    · exact hletters.2
  refine PrivilegeChange.IsComplete.isWritable ⟨hverb, ⟨tokens.toList, rfl, hknown⟩,
    ⟨[name], rfl, fun hnil => nomatch hnil⟩, fun hinside => ?_⟩
  cases hinside

theorem isWritable_of_mem_revokes (hschemas : h.IsForSchemas) {name : String} {s : Statement}
    (hs : s ∈ h.revokes .schema name) : s.IsWritable := by
  rw [eq_of_mem_revokes .schema (some name) hs]
  exact hschemas.isWritable_statement rfl name (fun _ hx => hx) false

theorem isWritable_of_mem_grants (hschemas : h.IsForSchemas) {name : String} {s : Statement}
    (hs : s ∈ h.grants .schema name) : s.IsWritable := by
  rw [grants, List.mem_append, List.mem_ite_nil_left, List.mem_ite_nil_left, List.mem_singleton,
    List.mem_singleton] at hs
  rcases hs with ⟨-, rfl⟩ | ⟨-, rfl⟩
  · exact hschemas.isWritable_statement rfl name (fun _ hx => (TextSet.mem_diff.1 hx).1) false
  · exact hschemas.isWritable_statement rfl name h.options_subset true

end Holding.IsForSchemas

/-- What leads from one policy of a schema to another can be written. -/
theorem PolicyDelta.Leads.isWritable {old new : Policy} (hold : old.IsForSchemas)
    (hnew : new.IsForSchemas) {name : String} {statements : List Statement}
    (h : (ofPolicies old new).Leads name statements) : ∀ s ∈ statements, s.IsWritable := by
  intro s hs
  rcases h.of_mem hs with ⟨key, held, hfound, hs⟩ | ⟨key, held, hfound, hs⟩
  · exact (hold key held hfound).isWritable_of_mem_revokes hs
  · exact (hnew key held hfound).isWritable_of_mem_grants hs

/-- Whichever roles still exist, a plan leads from the one policy to the other. -/
theorem PolicyDelta.leads_plan (delta : PolicyDelta) (name : Option String)
    (exists? : Option String → Bool) :
    delta.Leads name (Id.run (delta.plan .schema name fun role => pure (exists? role))) := by
  refine ⟨Id.run (stillThere (fun role => pure (exists? role)) delta.dropped), ?_, rfl⟩
  rw [stillThere_eq_filter]
  exact fun h hmem => (List.mem_filter.1 hmem).1

namespace DeclaredPolicy

/-- The changes that are planned from what was there before, when the given roles exist. -/
def changes (declared : DeclaredPolicy) (row : AclRow) (previous : Option Policy)
    (exists? : Option String → Bool) : List Statement :=
  Id.run ((declared.diff row previous).plan .schema declared.schema fun role =>
    pure (exists? role))

/-- The changes that are planned to take the declared policy away. -/
def revokeChanges (declared : DeclaredPolicy) (row : AclRow) (exists? : Option String → Bool) :
    List Statement :=
  Id.run ((declared.revokeDiff row).plan .schema declared.schema fun role => pure (exists? role))

variable {declared : DeclaredPolicy} {row : AclRow}

theorem isWritable_changes {previous : Option Policy} (hrow : row.policy.IsForSchemas)
    (hprevious : ∀ p ∈ previous, p.IsForSchemas) (exists? : Option String → Bool) :
    ∀ s ∈ declared.changes row previous exists?, s.IsWritable := by
  have hold : (previous.getD row.policy).IsForSchemas := by
    cases previous with
    | none => exact hrow
    | some p => exact hprevious p rfl
  exact PolicyDelta.Leads.isWritable (hold.eraseAll _) (declared.isForSchemas_policy.eraseAll _)
    (PolicyDelta.leads_plan _ _ exists?)

theorem isWritable_revokeChanges (exists? : Option String → Bool) :
    ∀ s ∈ declared.revokeChanges row exists?, s.IsWritable := by
  have hnothing : (∅ : Policy).IsForSchemas := fun _ _ hfound => nomatch hfound
  exact PolicyDelta.Leads.isWritable (declared.isForSchemas_policy.eraseAll _) hnothing
    (PolicyDelta.leads_plan _ _ exists?)

theorem isWritable_ownerPlan : ∀ s ∈ declared.ownerPlan row, s.IsWritable := by
  intro s hs
  unfold ownerPlan OwnerChange.plan at hs
  -- a schema changes hands only where an owner is declared
  cases howner : declared.owner with
  | none =>
    rw [howner] at hs
    cases hs
  | some owner =>
    rw [howner] at hs
    split at hs
    · cases hs
    · rw [List.mem_singleton.1 hs]
      exact ⟨⟨_, rfl⟩, ⟨_, rfl⟩, ⟨_, rfl⟩, fun _ hother => nomatch hother⟩

end DeclaredPolicy

/-! ## 4. All plans -/

theorem DeclaredMembership.isWritable_of_mem {declared : DeclaredMembership}
    {observed : Option Standing} {s : Statement}
    (hs : s ∈ declared.plan observed ∨ s = declared.revokeStatement) : s.IsWritable := by
  have hrevoke : declared.revokeStatement.IsWritable :=
    ⟨⟨_, rfl⟩, ⟨_, rfl⟩, ⟨_, rfl⟩, fun _ hother => nomatch hother⟩
  have hgrant : declared.grantStatement.IsWritable :=
    ⟨⟨_, rfl⟩, ⟨_, rfl⟩, ⟨_, rfl⟩, fun _ hother => nomatch hother⟩
  rcases hs with hs | rfl
  · rcases List.mem_append.1 hs with hs | hs
    · split at hs
      · rwa [List.mem_singleton.1 hs]
      · cases hs
    · rwa [List.mem_singleton.1 hs]
  · exact hrevoke

/-- Every statement of every plan for a declaration that keeps the rules has a text for the server
and words for people, and names something: whoever owns a schema and whatever is granted on it, as
far as schemas have such privileges, whichever roles exist, and whether the membership is there. -/
theorem planned_isWritable :
    (∀ (r : GrantRequest) (declared : DeclaredGrant), r.check = .ok declared →
      ∀ s ∈ declared.plan ++ declared.revokePlan, s.IsWritable) ∧
    (∀ (r : DefaultsRequest) (declared : DeclaredDefaults), r.check = .ok declared →
      ∀ s ∈ declared.plan ++ declared.revokePlan, s.IsWritable) ∧
    (∀ (r : PolicyRequest) (declared : DeclaredPolicy), r.check = .ok declared →
      ∀ (name owner : Option String) (items : List AclItem),
        (∀ item ∈ items, ∀ token ∈ item.privileges, token = "CREATE" ∨ token = "USAGE") →
        ∀ (previous : Option Policy), (∀ p ∈ previous, p.IsForSchemas) →
        ∀ exists? : Option String → Bool,
          ∀ s ∈ declared.ownerPlan ⟨name, owner, .ofAcl items⟩ ++
            declared.changes ⟨name, owner, .ofAcl items⟩ previous exists? ++
            declared.revokeChanges ⟨name, owner, .ofAcl items⟩ exists?, s.IsWritable) ∧
    ∀ (r : MembershipRequest) (declared : DeclaredMembership), r.check = .ok declared →
      ∀ (observed : Option Standing),
        ∀ s ∈ declared.plan observed ++ [declared.revokeStatement], s.IsWritable := by
  refine ⟨?_, ?_, ?_, ?_⟩
  · intro r declared hcheck s hs
    have haccepted : (PrivilegeRequest.grant r).check = .ok (.grant declared) := by
      rw [PrivilegeRequest.check, hcheck]
      rfl
    exact PrivilegeRequest.isWritable_of_mem haccepted (List.mem_append.1 hs)
  · intro r declared hcheck s hs
    have haccepted : (PrivilegeRequest.defaults r).check = .ok (.defaults declared) := by
      rw [PrivilegeRequest.check, hcheck]
      rfl
    exact PrivilegeRequest.isWritable_of_mem haccepted (List.mem_append.1 hs)
  · intro r declared _ name owner items hitems previous hprevious exists? s hs
    -- entries of a schema that were read are privileges on schemas
    have hrow : (Policy.ofAcl items).IsForSchemas := by
      refine Policy.isForSchemas_ofHoldings fun h hmem => ?_
      obtain ⟨item, hitem, rfl⟩ := List.mem_map.1 hmem
      exact hitems item hitem
    rcases List.mem_append.1 hs with hs | hs
    · rcases List.mem_append.1 hs with hs | hs
      · exact DeclaredPolicy.isWritable_ownerPlan s hs
      · exact DeclaredPolicy.isWritable_changes hrow hprevious exists? s hs
    · exact DeclaredPolicy.isWritable_revokeChanges exists? s hs
  · intro r declared _ observed s hs
    exact DeclaredMembership.isWritable_of_mem
      ((List.mem_append.1 hs).imp_right List.mem_singleton.1)

/-- All tables of a schema, to be read by one role. -/
def sampleGrant : GrantRequest where
  role := .text "reader"
  database := .text "app"
  kind := .table
  privileges := .singleton "SELECT"
  schema := .text "s"
  objects := .texts ∅
  grantOption := .off

/-- Tables that will be made, to be read by one role. -/
def sampleDefaults : DefaultsRequest where
  role := .text "reader"
  database := .text "app"
  owner := .text "maker"
  kind := .table
  privileges := .singleton "SELECT"
  schema := .null
  grantOption := .off

/-- A schema for one owner, without any rule. -/
def samplePolicyRequest : PolicyRequest where
  database := .text "app"
  schema := .text "s"
  owner := .text "maker"
  rules := []

/-- One role in another. -/
def sampleMembership : MembershipRequest where
  role := .text "reader"
  grantRole := .text "staff"
  adminOption := .off

theorem planned_isWritable_samples :
    (∃ declared, sampleGrant.check = .ok declared ∧
      ∀ s ∈ declared.plan ++ declared.revokePlan, s.IsWritable) ∧
    (∃ declared, sampleDefaults.check = .ok declared ∧
      ∀ s ∈ declared.plan ++ declared.revokePlan, s.IsWritable) ∧
    (∃ declared, samplePolicyRequest.check = .ok declared ∧
      ∀ s ∈ declared.changes ⟨some "s", some "other", .ofAcl [.ofMarks "reader" "other"
        [("USAGE", true)]]⟩ none fun _ => true, s.IsWritable) ∧
    ∃ declared, sampleMembership.check = .ok declared ∧
      ∀ s ∈ declared.plan none ++ [declared.revokeStatement], s.IsWritable := by
  obtain ⟨hgrant, hdefaults, hpolicy, hmembership⟩ := planned_isWritable
  refine ⟨⟨_, rfl, hgrant sampleGrant _ rfl⟩, ⟨_, rfl, hdefaults sampleDefaults _ rfl⟩,
    ⟨_, rfl, fun s hs => ?_⟩, ⟨_, rfl, hmembership sampleMembership _ rfl none⟩⟩
  refine hpolicy samplePolicyRequest _ rfl (some "s") (some "other")
    [.ofMarks "reader" "other" [("USAGE", true)]] ?_ none (fun _ hp => nomatch hp) (fun _ => true) s
    (List.mem_append_left _ (List.mem_append_right _ hs))
  intro item hitem token htoken
  rw [List.mem_singleton.1 hitem] at htoken
  exact .inr (by simpa using (TextSet.mem_ofList ..).1 htoken)

end PgGrants
