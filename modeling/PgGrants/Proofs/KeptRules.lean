/-
Requests that keep the rules. A request is checked rule by rule, and the first complaint ends the
check; what is accepted has therefore passed every rule, and is made of the values that were given.
This is said once for each kind of request, so that no other proof goes through a check again.
-/
import PgGrants.Declaration.DefaultPrivileges
import PgGrants.Declaration.Grant
import PgGrants.Declaration.SchemaPolicy

set_option autoImplicit false

namespace PgGrants

/-! ## 1. Chains that succeed -/

/-- A chain that succeeds has a first link that does. -/
theorem exists_of_bind_eq_ok {ε α β : Type} {first : Except ε α} {next : α → Except ε β} {b : β}
    (h : first >>= next = .ok b) : ∃ a, first = .ok a ∧ next a = .ok b := by
  cases first with
  | error cause => cases h
  | ok a => exact ⟨a, rfl, h⟩

/-- What is mapped to a success is one. -/
theorem exists_of_map_eq_ok {ε α β : Type} {first : Except ε α} {f : α → β} {b : β}
    (h : first.map f = .ok b) : ∃ a, first = .ok a ∧ f a = b := by
  cases first with
  | error cause => cases h
  | ok a => exact ⟨a, rfl, Except.ok.inj h⟩

/-- A success has no complaint that could be told otherwise. -/
theorem eq_ok_of_mapError_eq_ok {ε ε' α : Type} {first : Except ε α} {f : ε → ε'} {a : α}
    (h : first.mapError f = .ok a) : first = .ok a := by
  cases first with
  | error cause => cases h
  | ok b => exact congrArg Except.ok (Except.ok.inj h)

/-! ## 2. Single rules -/

namespace Declaration

theorem of_ensure {condition : Bool} {complaint : Invalid} {u : Unit}
    (h : ensure condition complaint = .ok u) : condition = true := by
  cases condition with
  | true => rfl
  | false => cases h

/-- A text that is accepted as a name is that name. -/
theorem eq_of_nameIn {text what name : String} (h : nameIn (.text text) what = .ok name) :
    name = text := by
  by_cases hempty : text = ""
  · rw [nameIn, if_pos hempty] at h
    cases h
  · rw [nameIn, if_neg hempty] at h
    exact (Except.ok.inj h).symm

/-- What is accepted as a name is a text. -/
theorem eq_text_of_nameIn {given : Value} {what name : String} (h : nameIn given what = .ok name) :
    given = .text name := by
  cases given with
  | text text => rw [eq_of_nameIn h]
  | _ => cases h

end Declaration

/-- Tokens that were accepted exist on the kind. -/
theorem Privilege.mem_of_check {kind : ObjectKind} {tokens : TextSet}
    (h : Privilege.check kind tokens = .ok ()) {token : String} (hmem : token ∈ tokens) :
    token = Privilege.all ∨ token ∈ kind.vocabulary := by
  unfold Privilege.check at h
  split at h
  · cases h
  · rename_i hnone
    have hallowed := List.find?_eq_none.1 hnone token hmem
    rw [Bool.not_eq_true', Bool.not_eq_false, isAllowed, Bool.or_eq_true, beq_iff_eq,
      TextSet.contains_iff] at hallowed
    exact hallowed

/-- Objects are accepted as they were given. -/
theorem GrantRequest.objects_of_checkNames {r : GrantRequest} {objects : TextSet}
    (h : r.checkNames = .ok objects) : r.objects = .texts objects := by
  unfold checkNames at h
  split at h
  · rename_i names hgiven
    split at h
    · cases h
    · cases h
      exact hgiven
  · cases h

/-- A rule is accepted as it was asked for. -/
theorem SchemaRuleRequest.eq_of_check {r : SchemaRuleRequest} {rule : SchemaRule}
    (h : r.check = .ok rule) : r = ⟨.text rule.role, rule.rights⟩ := by
  obtain ⟨role, rights⟩ := r
  cases role with
  | text role =>
    obtain ⟨_, -, h⟩ := exists_of_bind_eq_ok h
    obtain ⟨_, -, h⟩ := exists_of_bind_eq_ok h
    cases h
    rfl
  | _ => cases h

/-! ## 3. Whole checks -/

/-- What a request for a grant is accepted as, and the rules that it keeps. -/
theorem GrantRequest.exists_of_check {r : GrantRequest} {declared : DeclaredGrant}
    (h : r.check = .ok declared) : ∃ role database objects,
      Declaration.nameIn r.role "role" = .ok role ∧
      Declaration.nameIn r.database "database" = .ok database ∧
      r.checkSchema = .ok () ∧ r.checkObjects = .ok () ∧ r.checkNames = .ok objects ∧
      Privilege.check r.kind r.privileges = .ok () ∧
      declared = ⟨role, database, r.kind, r.privileges, r.schema, objects, r.grantOption⟩ := by
  unfold GrantRequest.check at h
  obtain ⟨role, hrole, h⟩ := exists_of_bind_eq_ok h
  obtain ⟨database, hdatabase, h⟩ := exists_of_bind_eq_ok h
  obtain ⟨_, hschema, h⟩ := exists_of_bind_eq_ok h
  obtain ⟨_, hneeded, h⟩ := exists_of_bind_eq_ok h
  obtain ⟨objects, hnames, h⟩ := exists_of_bind_eq_ok h
  obtain ⟨_, -, h⟩ := exists_of_bind_eq_ok h
  obtain ⟨_, hprivileges, h⟩ := exists_of_bind_eq_ok h
  exact ⟨role, database, objects, hrole, hdatabase, hschema, hneeded, hnames, hprivileges,
    (Except.ok.inj h).symm⟩

/-- What a request for default privileges is accepted as, and the rules that it keeps. -/
theorem DefaultsRequest.exists_of_check {r : DefaultsRequest} {declared : DeclaredDefaults}
    (h : r.check = .ok declared) : ∃ role database owner schema,
      Declaration.nameIn r.role "role" = .ok role ∧
      Declaration.nameIn r.database "database" = .ok database ∧
      Declaration.nameIn r.owner "owner" = .ok owner ∧
      r.kind.hasDefaultPrivileges = true ∧ r.checkSchema = .ok schema ∧
      Privilege.check r.kind r.privileges = .ok () ∧
      declared = ⟨role, database, owner, r.kind, r.privileges, schema, r.grantOption⟩ := by
  unfold DefaultsRequest.check at h
  obtain ⟨role, hrole, h⟩ := exists_of_bind_eq_ok h
  obtain ⟨database, hdatabase, h⟩ := exists_of_bind_eq_ok h
  obtain ⟨owner, howner, h⟩ := exists_of_bind_eq_ok h
  obtain ⟨_, hkind, h⟩ := exists_of_bind_eq_ok h
  obtain ⟨schema, hschema, h⟩ := exists_of_bind_eq_ok h
  obtain ⟨_, -, h⟩ := exists_of_bind_eq_ok h
  obtain ⟨_, hprivileges, h⟩ := exists_of_bind_eq_ok h
  exact ⟨role, database, owner, schema, hrole, hdatabase, howner, Declaration.of_ensure hkind,
    hschema, hprivileges, (Except.ok.inj h).symm⟩

/-- What a request for a schema policy is accepted as. -/
theorem PolicyRequest.exists_of_check {r : PolicyRequest} {declared : DeclaredPolicy}
    (h : r.check = .ok declared) : ∃ database schema owner rules,
      Declaration.nameIn r.database "database" = .ok database ∧
      Declaration.nameIn r.schema "schema" = .ok schema ∧ r.checkOwner = .ok owner ∧
      r.rules.mapM SchemaRuleRequest.check = .ok rules ∧
      declared = ⟨database, schema, owner, rules⟩ := by
  unfold PolicyRequest.check at h
  obtain ⟨database, hdatabase, h⟩ := exists_of_bind_eq_ok h
  obtain ⟨schema, hschema, h⟩ := exists_of_bind_eq_ok h
  obtain ⟨owner, howner, h⟩ := exists_of_bind_eq_ok h
  obtain ⟨rules, hrules, h⟩ := exists_of_bind_eq_ok h
  exact ⟨database, schema, owner, rules, hdatabase, hschema, howner, hrules,
    (Except.ok.inj h).symm⟩

end PgGrants
