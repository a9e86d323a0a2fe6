/-
Syntax and versions. Some words of a statement and some columns of a question came with a version,
and a server before it does not understand them. Questions are put so that the server understands
them. Statements go by the gates: what an operation asks for before it does anything covers what it
sends.

It does so with two exceptions. To revoke what a role holds on procedures or routines is not gated,
although to grant it is; and a schema policy that is brought about takes away whatever was there
before, also `MAINTAIN`, for which a schema policy has no gate.
-/
import PgGrants.Proofs.Gates
import PgGrants.Proofs.Observed
import PgGrants.Proofs.PolicyPlan
import PgGrants.Proofs.SentPlans

set_option autoImplicit false

namespace PgGrants

/-! ## 1. What syntax requires -/

/-- The feature that a word for objects in a statement came with. -/
def Feature.ofObjects? (word : String) : Option Feature :=
  if word ∈ ["PROCEDURE", "PROCEDURES", "ROUTINE", "ROUTINES"] then some .procedure
  else if word = "SCHEMAS" then some .privilegesOnSchemas
  else none

/-- The feature that a privilege came with. -/
def Feature.ofPrivilege? (token : String) : Option Feature :=
  if token = "MAINTAIN" then some .maintainPrivilege else none

/-- The feature that a column of the catalog came with. -/
def Feature.ofColumn? (column : String) : Option Feature :=
  if column = "prokind" then some .prokind
  else if column = "set_option" then some .membershipSetOption
  else none

/-- The word for the objects in the text of the statement. -/
def PrivilegeChange.objectWord (change : PrivilegeChange) : String :=
  if change.kind.inSchema && change.objects.isEmpty then change.kind.catalog.plural.getD ""
  else change.kind.catalog.keyword

/-- What a server must have in order to understand the statement. -/
def Statement.features : Statement → List Feature
  | .privilege change =>
    change.privileges.filterMap (fun token => token.bind Feature.ofPrivilege?) ++
      (Feature.ofObjects? change.objectWord).toList
  | .defaultPrivilege change =>
    change.privileges.filterMap (fun token => token.bind Feature.ofPrivilege?) ++
      (Feature.ofObjects? (change.kind.catalog.plural.getD "")).toList
  | .membership _ => []
  | .schemaOwner _ => []

/-- What a server must have in order to understand the question. -/
def Query.features : Query → List Feature
  | .isMember _ _ true => (Feature.ofColumn? "set_option").toList
  | .objects kind _ _ true => kind.catalog.kindColumn.toList.filterMap Feature.ofColumn?
  | _ => []

/-- What a server must have in order to understand the command. -/
def Command.features : Command → List Feature
  | .query question => question.features
  | .statement change => change.features
  | _ => []

/-- What a server must have in order to understand what is sent. -/
def Event.features : Event → List Feature
  | .sent command _ => command.features
  | _ => []

/-! ## 2. Where each feature comes from

A statement needs few features, and each comes from something that can be seen in it: a privilege, a
kind of object, a verb. -/

/-- Objects of the kind are procedures, or may be. -/
def ObjectKind.IsProcedural (kind : ObjectKind) : Prop := kind = .procedure ∨ kind = .routine

instance (kind : ObjectKind) : Decidable kind.IsProcedural :=
  inferInstanceAs (Decidable (kind = .procedure ∨ kind = .routine))

theorem PrivilegeChange.ofObjects?_objectWord (change : PrivilegeChange) :
    Feature.ofObjects? change.objectWord =
      if change.kind.IsProcedural then some .procedure else none := by
  unfold objectWord
  cases change.objects.isEmpty <;> cases change.kind <;> decide

theorem ObjectKind.ofObjects?_plural (kind : ObjectKind) :
    Feature.ofObjects? (kind.catalog.plural.getD "") =
      if kind.IsProcedural then some .procedure
      else if kind = .schema then some .privilegesOnSchemas
      else none := by
  cases kind <;> decide

/-- Of the columns that tell kinds apart one is new. -/
theorem ObjectKind.ofColumn?_kindColumn (kind : ObjectKind) :
    kind.catalog.kindColumn.toList.filterMap Feature.ofColumn? =
      if kind.catalog.kindColumn = some "prokind" then [.prokind] else [] := by
  cases kind <;> decide

theorem Feature.mem_ofPrivileges {feature : Feature} {tokens : List (Option String)}
    (h : feature ∈ tokens.filterMap fun token => token.bind Feature.ofPrivilege?) :
    feature = .maintainPrivilege ∧ some "MAINTAIN" ∈ tokens := by
  obtain ⟨token?, htoken, hbind⟩ := List.mem_filterMap.1 h
  obtain ⟨token, rfl, hfeature⟩ := Option.bind_eq_some_iff.1 hbind
  unfold ofPrivilege? at hfeature
  split at hfeature
  · rename_i hmaintain
    rw [hmaintain] at htoken
    exact ⟨(Option.some.inj hfeature).symm, htoken⟩
  · cases hfeature

theorem Statement.mem_features_privilege {change : PrivilegeChange} {feature : Feature}
    (h : feature ∈ (Statement.privilege change).features) :
    feature = .maintainPrivilege ∧ some "MAINTAIN" ∈ change.privileges ∨
      feature = .procedure ∧ change.kind.IsProcedural := by
  rcases List.mem_append.1 h with h | h
  · exact .inl (Feature.mem_ofPrivileges h)
  · rw [change.ofObjects?_objectWord, Option.mem_toList] at h
    split at h
    · rename_i hkind
      exact .inr ⟨(Option.some.inj h).symm, hkind⟩
    · cases h

theorem Statement.mem_features_defaultPrivilege {change : DefaultPrivilegeChange}
    {feature : Feature} (h : feature ∈ (Statement.defaultPrivilege change).features) :
    feature = .maintainPrivilege ∧ some "MAINTAIN" ∈ change.privileges ∨
      feature = .procedure ∧ change.kind.IsProcedural ∨
      feature = .privilegesOnSchemas ∧ change.kind = .schema := by
  -- from the privileges, or from the kind of the future objects
  rcases List.mem_append.1 h with h | h
  · exact .inl (Feature.mem_ofPrivileges h)
  · rw [change.kind.ofObjects?_plural, Option.mem_toList] at h
    split at h
    · rename_i hkind
      exact .inr (.inl ⟨(Option.some.inj h).symm, hkind⟩)
    · split at h
      · rename_i hkind
        exact .inr (.inr ⟨(Option.some.inj h).symm, hkind⟩)
      · cases h

/-- A question is put so that the server understands it. -/
theorem Query.IsProper.supports {caps : Capabilities} {query : Query} (h : query.IsProper caps)
    {feature : Feature} (hfeature : feature ∈ query.features) : caps.supports feature = true := by
  cases query with
  -- a question needs a feature only by the column that came with it
  | isMember role member settable =>
    cases settable with
    | false => exact absurd hfeature List.not_mem_nil
    | true =>
      rw [List.mem_singleton.1 (show feature ∈ [Feature.membershipSetOption] from hfeature)]
      exact h rfl
  | objects kind schema names byKind =>
    cases byKind with
    | false => exact absurd hfeature List.not_mem_nil
    | true =>
      rw [Query.features, kind.ofColumn?_kindColumn] at hfeature
      split at hfeature
      · rename_i hcolumn
        rw [List.mem_singleton.1 hfeature]
        exact h rfl hcolumn
      · exact absurd hfeature List.not_mem_nil
  | _ => exact absurd hfeature List.not_mem_nil

theorem Query.features_of_isPreliminary {query : Query} (h : query.IsPreliminary) :
    query.features = [] := by
  cases query with
  | objects kind schema names byKind =>
    cases (h : kind = .database)
    cases byKind <;> rfl
  | isMember => exact h.elim
  | _ => rfl

/-! ## 3. What the gates cover

For each feature of a plan there is a gate of the verb that plans it, but for procedures that are
revoked. -/

section Gates

variable {kind : ObjectKind} {privileges : TextSet} {operation : String}

theorem Gate.exists_procedure (h : kind.IsProcedural) :
    ∃ gate ∈ Gate.ofPrivileges kind privileges operation, gate.feature = .procedure := by
  have hkind : (kind == .procedure || kind == .routine) = true := by
    rcases h with rfl | rfl <;> rfl
  refine ⟨⟨.procedure, "Granting privileges on " ++ kind.name ++ "s"⟩, ?_, rfl⟩
  unfold Gate.ofPrivileges
  rw [if_pos hkind]
  exact List.mem_append_left _ (List.mem_append_right _ List.mem_cons_self)

theorem Gate.exists_maintain (h : "MAINTAIN" ∈ privileges) :
    ∃ gate ∈ Gate.ofPrivileges kind privileges operation, gate.feature = .maintainPrivilege := by
  refine ⟨⟨.maintainPrivilege, "The MAINTAIN privilege"⟩, ?_, rfl⟩
  unfold Gate.ofPrivileges
  rw [if_pos (TextSet.contains_iff.2 h)]
  exact List.mem_append_right _ List.mem_cons_self

end Gates

/-- A plan is made of statements of one form, and they list only privileges that were declared. -/
theorem Privilege.exists_of_mem_replace {statement : Direction → List String → Flag → Statement}
    {privileges : TextSet} {grantOption : Flag} {s : Statement}
    (hs : s ∈ Privilege.replace statement privileges grantOption) :
    ∃ direction tokens grantOption, s = statement direction tokens grantOption ∧
      ∀ token, some token ∈ tokens.map some → token ∈ privileges := by
  rcases eq_or_eq_of_mem_replace hs with rfl | rfl
  · exact ⟨_, _, _, rfl, fun token htoken => absurd htoken List.not_mem_nil⟩
  · refine ⟨_, _, _, rfl, fun token htoken => ?_⟩
    obtain ⟨listed, hlisted, heq⟩ := List.mem_map.1 htoken
    cases heq
    exact (List.mem_ite_nil_left.1 hlisted).2

namespace DeclaredRights

/-- What is held on procedures is to be taken away, which no gate is about. -/
def TakesProcedures : Verb → DeclaredRights → Prop
  | .revoke, .grant declared => declared.kind.IsProcedural
  | _, _ => False

end DeclaredRights

/-- What is planned for a grant is about its kind, and names privileges that were declared. -/
theorem DeclaredGrant.of_mem_plan {declared : DeclaredGrant} {statement : Statement}
    (h : statement ∈ declared.plan) {feature : Feature} (hfeature : feature ∈ statement.features) :
    feature = .maintainPrivilege ∧ "MAINTAIN" ∈ declared.privileges ∨
      feature = .procedure ∧ declared.kind.IsProcedural := by
  obtain ⟨direction, tokens, grantOption, rfl, hdeclared⟩ := Privilege.exists_of_mem_replace h
  exact (Statement.mem_features_privilege hfeature).imp_left fun hmaintain =>
    ⟨hmaintain.1, hdeclared _ hmaintain.2⟩

/-- To revoke a grant names no privilege. -/
theorem DeclaredGrant.of_mem_revokePlan {declared : DeclaredGrant} {statement : Statement}
    (h : statement ∈ declared.revokePlan) {feature : Feature}
    (hfeature : feature ∈ statement.features) :
    feature = .procedure ∧ declared.kind.IsProcedural := by
  rw [List.mem_singleton.1 h] at hfeature
  exact (Statement.mem_features_privilege hfeature).resolve_left fun hmaintain =>
    absurd hmaintain.2 List.not_mem_nil

/-- What is planned for default privileges is about their kind, and names privileges that were
declared. -/
theorem DeclaredDefaults.of_mem_plan {declared : DeclaredDefaults} {statement : Statement}
    (h : statement ∈ declared.plan) {feature : Feature} (hfeature : feature ∈ statement.features) :
    feature = .maintainPrivilege ∧ "MAINTAIN" ∈ declared.privileges ∨
      feature = .procedure ∧ declared.kind.IsProcedural ∨
      feature = .privilegesOnSchemas ∧ declared.kind = .schema := by
  obtain ⟨direction, tokens, grantOption, rfl, hdeclared⟩ := Privilege.exists_of_mem_replace h
  exact (Statement.mem_features_defaultPrivilege hfeature).imp_left fun hmaintain =>
    ⟨hmaintain.1, hdeclared _ hmaintain.2⟩

/-- The gates of default privileges cover what is planned for them. -/
theorem DeclaredDefaults.exists_gate {declared : DeclaredDefaults} {statement : Statement}
    (h : statement ∈ declared.plan) {feature : Feature} (hfeature : feature ∈ statement.features)
    (verb : Verb) :
    ∃ gate ∈ (DeclaredRights.defaults declared).gates verb, gate.feature = feature := by
  -- all three verbs of default privileges have the same gates
  have hcovered : ∃ gate ∈ (DeclaredRights.defaults declared).gates .read,
      gate.feature = feature := by
    rcases declared.of_mem_plan h hfeature with ⟨rfl, hmaintain⟩ | ⟨rfl, hkind⟩ | ⟨rfl, hkind⟩
    · obtain ⟨gate, hgate, heq⟩ := Gate.exists_maintain hmaintain
      exact ⟨gate, List.mem_append_left _ hgate, heq⟩
    · obtain ⟨gate, hgate, heq⟩ := Gate.exists_procedure hkind
      exact ⟨gate, List.mem_append_left _ hgate, heq⟩
    · refine ⟨⟨.privilegesOnSchemas, "Default privileges on schemas"⟩, ?_, rfl⟩
      refine List.mem_append_right _ ?_
      rw [hkind]
      exact List.mem_cons_self
  cases verb with
  | _ => exact hcovered

/-- What a plan requires was asked for, but for procedures that are revoked from. -/
theorem DeclaredRights.exists_gate_or_takesProcedures {declared : DeclaredRights} {verb : Verb}
    {statement : Statement} (h : statement ∈ declared.statements verb) {feature : Feature}
    (hfeature : feature ∈ statement.features) :
    (∃ gate ∈ declared.gates verb, gate.feature = feature) ∨
      declared.TakesProcedures verb ∧ feature = .procedure := by
  cases declared with
  | grant declared =>
    cases verb with
    | sync =>
      rcases declared.of_mem_plan h hfeature with ⟨rfl, hmaintain⟩ | ⟨rfl, hkind⟩
      · exact .inl (Gate.exists_maintain hmaintain)
      · exact .inl (Gate.exists_procedure hkind)
    | read => exact absurd h List.not_mem_nil
    -- a revocation names no privilege; what is left to need is the kind
    | revoke =>
      obtain ⟨rfl, hkind⟩ := declared.of_mem_revokePlan h hfeature
      exact .inr ⟨hkind, rfl⟩
  | defaults declared =>
    cases verb with
    | sync => exact .inl (declared.exists_gate h hfeature .sync)
    | read => exact absurd h List.not_mem_nil
    | revoke => exact .inl (declared.exists_gate (List.mem_append_left _ h) hfeature .revoke)
  | policy declared previous =>
    cases verb with
    | _ => exact absurd h List.not_mem_nil

/-! ## 4. What policies bring with them

A policy is declared without MAINTAIN, so only what a schema already has can bring it into a plan,
and then it is revoked. -/

/-- Schemas and their privileges are old, but for what is held of a privilege that is new. -/
theorem Holding.of_mem_features {h : Holding} {direction : Direction} {name : Option String}
    {tokens : TextSet} {grantOption : Bool} (htokens : tokens ⊆ h.privileges) {feature : Feature}
    (hfeature : feature ∈ (h.statement direction .schema name tokens grantOption).features) :
    feature = .maintainPrivilege ∧ "MAINTAIN" ∈ h.privileges := by
  rcases Statement.mem_features_privilege hfeature with ⟨rfl, hmaintain⟩ | ⟨-, hkind⟩
  · obtain ⟨token, htoken, heq⟩ := List.mem_map.1 hmaintain
    cases heq
    exact ⟨rfl, htokens _ htoken⟩
  · exact absurd (show ObjectKind.IsProcedural .schema from hkind) (by decide)

theorem Holding.of_mem_revokes {h : Holding} {name : Option String} {statement : Statement}
    (hs : statement ∈ h.revokes .schema name) {feature : Feature}
    (hfeature : feature ∈ statement.features) :
    feature = .maintainPrivilege ∧ "MAINTAIN" ∈ h.privileges := by
  rw [Holding.eq_of_mem_revokes .schema name hs] at hfeature
  exact Holding.of_mem_features (fun _ hx => hx) hfeature

theorem Holding.of_mem_grants {h : Holding} {name : Option String} {statement : Statement}
    (hs : statement ∈ h.grants .schema name) {feature : Feature}
    (hfeature : feature ∈ statement.features) :
    feature = .maintainPrivilege ∧ "MAINTAIN" ∈ h.privileges := by
  rw [grants, List.mem_append, List.mem_ite_nil_left, List.mem_ite_nil_left, List.mem_singleton,
    List.mem_singleton] at hs
  rcases hs with ⟨-, rfl⟩ | ⟨-, rfl⟩
  · exact Holding.of_mem_features (fun _ hx => (TextSet.mem_diff.1 hx).1) hfeature
  · exact Holding.of_mem_features h.options_subset hfeature

theorem DeclaredPolicy.not_mem_maintain (declared : DeclaredPolicy) :
    ∀ key h, declared.policy.find? key = some h → "MAINTAIN" ∉ h.privileges := by
  refine Policy.forall_ofHoldings (fun h k hh hk hmem => ?_) fun h hmem hmaintain => ?_
  · exact (TextSet.mem_union.1 hmem).elim hh hk
  · obtain ⟨rule, -, rfl⟩ := List.mem_map.1 hmem
    exact absurd (SchemaRights.mem_privileges hmaintain) (by decide)

/-- The change is from what is held in the old policy to what is held in the new one. -/
def RoleChange.IsFrom (old? new? : Option Holding) : RoleChange → Prop
  | .dropped old => old? = some old
  | .added new => new? = some new
  | .updated old new => old? = some old ∧ new? = some new
  | .unchanged new => new? = some new

theorem RoleChange.isFrom_ofHoldings? {old? new? : Option Holding} {change : RoleChange}
    (h : ofHoldings? old? new? = some change) : change.IsFrom old? new? := by
  cases old? with
  | none =>
    cases new? with
    | none => cases h
    | some new =>
      cases h
      exact rfl
  | some old =>
    cases new? with
    | none =>
      cases h
      exact rfl
    | some new =>
      rw [ofHoldings?] at h
      split at h
      · cases h
        exact rfl
      · cases h
        exact ⟨rfl, rfl⟩

namespace PolicyDelta

variable {old new : Policy}

/-- What is made of a class of changes is made of what is held under some key. -/
theorem exists_isFrom_of_mem {α : Type} {cls : RoleChange → Option α} {make : α → List Statement}
    {l : List α} (hl : l ⊆ (changes old new).filterMap cls) {statement : Statement}
    (hs : statement ∈ l.flatMap make) :
    ∃ key change a, change.IsFrom (old.find? key) (new.find? key) ∧ cls change = some a ∧
      statement ∈ make a := by
  obtain ⟨a, ha, hs⟩ := List.mem_flatMap.1 hs
  obtain ⟨change, hchange, hcls⟩ := List.mem_filterMap.1 (hl ha)
  obtain ⟨key, -, hkey⟩ := List.mem_filterMap.1 hchange
  exact ⟨key, change, a, RoleChange.isFrom_ofHoldings? hkey, hcls, hs⟩

/-- What leads from one policy to another takes away what the one says and gives what the other
says. -/
theorem Leads.of_mem {name : Option String} {statements : List Statement}
    (h : (ofPolicies old new).Leads name statements) {statement : Statement}
    (hs : statement ∈ statements) :
    (∃ key held, old.find? key = some held ∧ statement ∈ held.revokes .schema name) ∨
      ∃ key held, new.find? key = some held ∧ statement ∈ held.grants .schema name := by
  obtain ⟨dropped, hdropped, rfl⟩ := h
  rcases List.mem_append.1 hs with hs | hs
  -- what is revoked was held in the old policy, what is granted is in the new one
  · rcases List.mem_append.1 hs with hs | hs
    · obtain ⟨key, change, held, hfrom, hcls, hs⟩ := exists_isFrom_of_mem hdropped hs
      cases change <;> cases hcls
      exact .inl ⟨key, held, hfrom, hs⟩
    · obtain ⟨key, change, pair, hfrom, hcls, hs⟩ := exists_isFrom_of_mem (fun _ h => h) hs
      cases change <;> cases hcls
      exact .inl ⟨key, _, hfrom.1, hs⟩
  · rcases List.mem_append.1 hs with hs | hs
    · obtain ⟨key, change, held, hfrom, hcls, hs⟩ := exists_isFrom_of_mem (fun _ h => h) hs
      cases change <;> cases hcls
      exact .inr ⟨key, held, hfrom, hs⟩
    · obtain ⟨key, change, pair, hfrom, hcls, hs⟩ := exists_isFrom_of_mem (fun _ h => h) hs
      cases change <;> cases hcls
      exact .inr ⟨key, _, hfrom.2, hs⟩

end PolicyDelta

/-! ## 5. What look-ups plan -/

theorem Policy.find?_of_find?_eraseAll {p : Policy} {roles : List String} {key : String}
    {held : Holding} (h : (p.eraseAll roles).find? key = some held) : p.find? key = some held := by
  rw [find?_eraseAll] at h
  split at h
  · cases h
  · exact h

variable {σ : Type} [Server σ] {start : Connection σ} {statement : Statement} {feature : Feature}

omit [Server σ] in
theorem exists_job_of_mem_planned {lookUp : Session σ (Option Job)}
    (h : statement ∈ planned lookUp start) :
    ∃ job, (lookUp.exec start).1 = .ok (some job) ∧ statement ∈ job.statements := by
  unfold planned at h
  split at h
  · rename_i job hjob
    exact ⟨job, hjob, h⟩
  · exact absurd h List.not_mem_nil

omit [Server σ] in
theorem Gives.mem_of_mem_planned {lookUp : Session σ (Option Job)} {statements : List Statement}
    (hgives : Gives lookUp (Job.Has statements)) (h : statement ∈ planned lookUp start) :
    statement ∈ statements := by
  obtain ⟨job, hjob, hmem⟩ := exists_job_of_mem_planned h
  rwa [← hgives start _ hjob job rfl]

namespace DeclaredPolicy

variable {declared : DeclaredPolicy}

/-- Of what is planned for a schema, new is at most what takes away what was there before. -/
theorem exists_held_of_mem_planned {previous : Option Policy}
    (h : statement ∈ planned (declared.syncJob previous) start)
    (hfeature : feature ∈ statement.features) :
    feature = .maintainPrivilege ∧ ∃ row key held, declared.FindsRow start row ∧
      (previous.getD row.policy).find? key = some held ∧ "MAINTAIN" ∈ held.privileges ∧
      statement ∈ held.revokes .schema declared.schema := by
  obtain ⟨job, hjob, hmem⟩ := exists_job_of_mem_planned h
  obtain ⟨row, changes, hrow, hchanges, hstatements⟩ := declared.exists_row_of_syncJob hjob
  rw [hstatements] at hmem
  rcases List.mem_append.1 hmem with hmem | hmem
  -- handing the schema over needs no feature
  · rw [ownerPlan, OwnerChange.plan, List.mem_ite_nil_left, List.mem_singleton] at hmem
    rw [hmem.2] at hfeature
    exact absurd hfeature List.not_mem_nil
  · rcases hchanges.of_mem hmem with ⟨key, held, hheld, hmem⟩ | ⟨key, held, hheld, hmem⟩
    · obtain ⟨rfl, hmaintain⟩ := Holding.of_mem_revokes hmem hfeature
      exact ⟨rfl, row, key, held, hrow, Policy.find?_of_find?_eraseAll hheld, hmaintain, hmem⟩
    -- a declared policy grants nothing that needs one
    · exact absurd (Holding.of_mem_grants hmem hfeature).2
        (declared.not_mem_maintain key held (Policy.find?_of_find?_eraseAll hheld))

/-- To take a declared policy away needs nothing new. -/
theorem features_of_mem_planned (h : statement ∈ planned declared.revokeJob start) :
    feature ∉ statement.features := by
  intro hfeature
  obtain ⟨job, hjob, hmem⟩ := exists_job_of_mem_planned h
  obtain ⟨row, hrow, hchanges⟩ := declared.exists_row_of_revokeJob hjob
  rcases hchanges.of_mem hmem with ⟨key, held, hheld, hmem⟩ | ⟨key, held, hheld, hmem⟩
  · exact declared.not_mem_maintain key held (Policy.find?_of_find?_eraseAll hheld)
      (Holding.of_mem_revokes hmem hfeature).2
  · cases hheld

end DeclaredPolicy

/-! ## 6. What is sent

The statements of a run are planned ones, and planned ones have a gate or are exceptions. A run that
has passed its gates knows the features, and one that was stopped has sent nothing. -/

namespace DeclaredRights

/-- The ways in which an operation sends what no gate has asked for. -/
inductive SendsUngated (c : Client σ) (steps : List Step) (statement : Statement) :
    Verb → DeclaredRights → Feature → Prop where
  /-- What is held on procedures is taken away. -/
  | fromProcedures {declared : DeclaredGrant} (hkind : declared.kind.IsProcedural)
      (hplanned : statement ∈ declared.revokePlan) :
      SendsUngated c steps statement .revoke (.grant declared) .procedure
  /-- What some role had on the schema before is taken away. -/
  | fromBefore {declared : DeclaredPolicy} {previous : Option Policy} {before rest : List Step}
      {start : Connection σ} {row : AclRow} {key : String} {held : Holding}
      (hsteps : steps = before ++ rest) (hserver : Follows c.server before start.server)
      (hrow : declared.FindsRow start row)
      (hheld : (previous.getD row.policy).find? key = some held)
      (hmaintain : "MAINTAIN" ∈ held.privileges)
      (hplanned : statement ∈ held.revokes .schema declared.schema) :
      SendsUngated c steps statement .sync (.policy declared previous) .maintainPrivilege

/-- What is sent was asked for, but for the two exceptions. -/
theorem exists_gate_or_sendsUngated {declared : DeclaredRights} {verb : Verb} {c : Client σ}
    {steps before rest : List Step} (hsteps : steps = before ++ rest)
    (hserver : Follows c.server before start.server)
    (hplanned : statement ∈ planned (declared.job verb) start)
    (hfeature : feature ∈ statement.features) :
    (∃ gate ∈ declared.gates verb, gate.feature = feature) ∨
      SendsUngated c steps statement verb declared feature := by
  cases verb with
  -- reading plans nothing
  | read => exact absurd hplanned List.not_mem_nil
  | sync =>
    cases declared with
    | grant declared =>
      have hmem : statement ∈ (DeclaredRights.grant declared).statements .sync :=
        declared.gives_syncJob.mem_of_mem_planned hplanned
      exact .inl ((exists_gate_or_takesProcedures hmem hfeature).resolve_right fun h => h.1)
    | defaults declared =>
      have hmem : statement ∈ (DeclaredRights.defaults declared).statements .sync :=
        declared.gives_syncJob.mem_of_mem_planned hplanned
      exact .inl ((exists_gate_or_takesProcedures hmem hfeature).resolve_right fun h => h.1)
    | policy declared previous =>
      obtain ⟨rfl, row, key, held, hrow, hheld, hmaintain, hmem⟩ :=
        DeclaredPolicy.exists_held_of_mem_planned hplanned hfeature
      exact .inr (.fromBefore hsteps hserver hrow hheld hmaintain hmem)
  | revoke =>
    cases declared with
    | grant declared =>
      have hmem : statement ∈ declared.revokePlan :=
        declared.gives_revokeJob.mem_of_mem_planned hplanned
      obtain ⟨rfl, hkind⟩ := declared.of_mem_revokePlan hmem hfeature
      exact .inr (.fromProcedures hkind hmem)
    | defaults declared =>
      have hmem : statement ∈ (DeclaredRights.defaults declared).statements .revoke :=
        declared.gives_revokeJob.mem_of_mem_planned hplanned
      exact .inl ((exists_gate_or_takesProcedures hmem hfeature).resolve_right fun h => h.1)
    | policy declared previous =>
      exact absurd hfeature (DeclaredPolicy.features_of_mem_planned hplanned)

end DeclaredRights

theorem Step.exists_command_of_mem_features {step : Step} (h : feature ∈ step.event.features) :
    ∃ command, step.command? = some command ∧ feature ∈ command.features := by
  obtain ⟨event, failure⟩ := step
  cases event with
  | sent command sql => exact ⟨command, rfl, h⟩
  | _ => exact absurd h List.not_mem_nil

/-- Questions that come before everything else need nothing new. -/
theorem Mute.not_mem_features {steps : List Step} (h : Mute Query.IsPreliminary steps) {step : Step}
    (hstep : step ∈ steps) : feature ∉ step.event.features := by
  intro hfeature
  obtain ⟨command, hcommand, hfeature⟩ := step.exists_command_of_mem_features hfeature
  rcases h step hstep with hquiet | ⟨query, hpreliminary, hasked⟩
  · rw [hquiet] at hcommand
    cases hcommand
  · rw [hasked] at hcommand
    cases hcommand
    rw [Command.features, Query.features_of_isPreliminary hpreliminary] at hfeature
    exact absurd hfeature List.not_mem_nil

/-- Let a request about grants, default privileges or a schema policy keep the rules.

Whatever the operation sends, the server has what is needed to understand it, with two exceptions:
when what is held on procedures is revoked, and when a schema policy that is brought about takes
`MAINTAIN` away, which some role had before. And when the plan needs what the server does not have,
the operation complains about a feature that is missing and has asked for the version at most, but
for the first exception again. -/
theorem RightsRequest.gates_cover_what_is_sent {request : RightsRequest} {declared : DeclaredRights}
    (h : request.check = .ok declared) (verb : Verb) (c : Client σ) :
    ∃ outcome steps c', Runs (request.run verb) c outcome steps c' ∧
      (∀ step ∈ steps, ∀ feature ∈ step.event.features,
        (∃ caps, c'.capabilities = some caps ∧ caps.supports feature = true) ∨
          ∃ statement, step.statement? = some statement ∧
            DeclaredRights.SendsUngated c steps statement verb declared feature) ∧
      ∀ caps, c'.capabilities = some caps → ∀ statement ∈ declared.statements verb,
        ∀ feature ∈ statement.features, caps.supports feature = false →
          (∃ missing operation, outcome = .error (.unsupported missing operation caps.version) ∧
            caps.supports missing = false ∧ FindsVersion c steps) ∨
          declared.TakesProcedures verb ∧ feature = .procedure := by
  obtain ⟨outcome, steps, c', hrun, hpasses⟩ := RightsRequest.runs_passes h verb c
  obtain ⟨_, _, _, hrun', hplanned⟩ := RightsRequest.runs_planned h verb c
  -- one run, described by its gates and by its plan
  obtain ⟨rfl, rfl, rfl⟩ := hrun'.unique hrun
  refine ⟨_, _, _, hrun, fun step hstep feature hfeature => ?_,
    fun caps hcaps statement hmem feature hfeature hlacks => ?_⟩
  -- a feature that was used
  · cases hpasses with
    | stopped hadmits => exact absurd hfeature (hadmits.mute.not_mem_features hstep)
    | @passed caps _ first rest hversion hknown hgates hproper _ =>
      rcases List.mem_append.1 hstep with hfirst | hrest
      · exact absurd hfeature (hversion.mute.not_mem_features hfirst)
      · obtain ⟨command, hcommand, hfeature⟩ := step.exists_command_of_mem_features hfeature
        cases command with
        | query query =>
          exact .inl ⟨caps, hknown, (hproper step hrest query hcommand).supports hfeature⟩
        | statement statement =>
          have hsent : step.statement? = some statement := by
            rw [Step.statement?, hcommand]
            rfl
          obtain ⟨before, others, start, hsteps, hserver, hmem⟩ :=
            hplanned step hstep statement hsent
          obtain ⟨gate, hgate, rfl⟩ | hungated :=
            DeclaredRights.exists_gate_or_sendsUngated hsteps hserver hmem hfeature
          · exact .inl ⟨caps, hknown, hgates gate hgate⟩
          · exact .inr ⟨statement, hsent, hungated⟩
        | _ => exact absurd hfeature List.not_mem_nil
  -- a feature that is missing: its gate has stopped the run
  · refine (DeclaredRights.exists_gate_or_takesProcedures hmem hfeature).imp_left ?_
    rintro ⟨gate, hgate, rfl⟩
    cases hpasses with
    | stopped hadmits =>
      cases hadmits with
      | unknown _ _ hunknown =>
        rw [hunknown] at hcaps
        cases hcaps
      | refused hversion hknown _ hmissing =>
        cases hknown.symm.trans hcaps
        exact ⟨_, _, rfl, hmissing, hversion⟩
    | passed _ hknown hgates _ _ =>
      cases hknown.symm.trans hcaps
      rw [hgates gate hgate] at hlacks
      cases hlacks

/-- A request about what a role may do with a procedure. -/
def procedureRequest : RightsRequest :=
  .grant {
    role := .text "reader"
    database := .text "app"
    kind := .procedure
    privileges := .ofList ["EXECUTE"]
    schema := .text "s"
    objects := .texts (.ofList ["p"])
    grantOption := .off }

/-- What it declares. -/
def procedureGrant : DeclaredGrant where
  role := "reader"
  database := "app"
  kind := .procedure
  privileges := .ofList ["EXECUTE"]
  schema := .text "s"
  objects := .ofList ["p"]
  grantOption := .off

/-- A client that knows its server to be of version 10, which shows it something named `p`. -/
def clientOf10 : Client Script :=
  { Client.new ⟨"postgres", some "10", "postgresql", "psycopg"⟩ ⟨[
      .rows [[.text "app", .text "postgres", .list []]],
      .rows [[.text "reader", .int 16387, .bool false]],
      .rows [[.text "s", .text "owner_role", .list []]],
      .rows [[.text "p", .text "owner_role", .list [.text "reader=X/owner_role"]]],
      .rows [[.text "s", .text "owner_role", .list []]],
      .rows [[.text "postgres"]],
      .rows [[.text "postgres", .int 10, .bool true]]]⟩ with
    capabilities := some ⟨⟨[10]⟩⟩ }

/-- Before version 11 nothing is granted on a procedure, and nothing is sent either. -/
theorem RightsRequest.procedures_are_refused_before_11 :
    procedureRequest.check = .ok (.grant procedureGrant) ∧
      ∃ missing operation c', Runs (procedureRequest.run .sync) clientOf10
        (.error (.unsupported missing operation ⟨[10]⟩)) [] c' := by
  have hcheck : procedureRequest.check = .ok (.grant procedureGrant) := by rfl
  obtain ⟨outcome, steps, c', hrun, -, hrefused⟩ :=
    gates_cover_what_is_sent hcheck .sync clientOf10
  have hmem : procedureGrant.statement .revoke [] .off ∈
      (DeclaredRights.grant procedureGrant).statements .sync := List.mem_cons_self
  obtain ⟨missing, operation, rfl, -, hversion⟩ | ⟨hnever, -⟩ :=
    hrefused _ (hrun.known _ rfl) _ hmem .procedure List.mem_cons_self rfl
  · refine ⟨hcheck, missing, operation, c', ?_⟩
    rcases hversion with rfl | ⟨hunknown, -, -⟩
    · exact hrun
    · cases hunknown
  · exact hnever.elim

/-- But what is held on it is revoked, in words that the server does not understand. -/
theorem RightsRequest.procedures_are_revoked_from_before_11 :
    procedureRequest.check = .ok (.grant procedureGrant) ∧
      "REVOKE ALL PRIVILEGES ON PROCEDURE \"s\".\"p\" FROM \"reader\"" ∈
        (Call.exec (procedureRequest.run .revoke) clientOf10).2.log.filterMap Event.text? ∧
      ¬∀ event ∈ (Call.exec (procedureRequest.run .revoke) clientOf10).2.log,
        ∀ feature ∈ event.features, Capabilities.supports ⟨⟨[10]⟩⟩ feature = true := by
  refine ⟨by rfl, ?_, ?_⟩
  · decide +kernel
  · decide +kernel

end PgGrants
