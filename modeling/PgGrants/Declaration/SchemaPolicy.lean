/-
Declared schema policies: who owns a schema and what each role shall hold on it. A policy is a list
of rules, one per role, which say by flags what the role may do; rules for one role, by any
spelling, are joined.
-/
import PgGrants.Declaration.Fields
import PgGrants.Identifier

set_option autoImplicit false

namespace PgGrants

/-- What a role may do on a schema: create objects in it, use it, and grant either on. -/
structure SchemaRights where
  create : Flag
  createWithGrant : Flag
  usage : Flag
  usageWithGrant : Flag

namespace SchemaRights

/-- The privileges with a grant option. -/
def grantOptions (rights : SchemaRights) : TextSet :=
  .ofList ((if rights.createWithGrant.isSet then ["CREATE"] else []) ++
    if rights.usageWithGrant.isSet then ["USAGE"] else [])

/-- The privileges, a grant option bringing its privilege with it. -/
def privileges (rights : SchemaRights) : TextSet :=
  .ofList ((if rights.create.isSet || rights.createWithGrant.isSet then ["CREATE"] else []) ++
    if rights.usage.isSet || rights.usageWithGrant.isSet then ["USAGE"] else [])

/-- A rule for a schema is about creating and using. -/
theorem mem_privileges {rights : SchemaRights} {token : String} (h : token ∈ rights.privileges) :
    token = "CREATE" ∨ token = "USAGE" := by
  rw [privileges, TextSet.mem_ofList, List.mem_append, List.mem_ite_nil_right,
    List.mem_ite_nil_right, List.mem_singleton, List.mem_singleton] at h
  exact h.imp And.right And.right

theorem grantOptions_subset (rights : SchemaRights) : rights.grantOptions ⊆ rights.privileges := by
  intro x hx
  simp only [grantOptions, privileges, TextSet.mem_ofList, List.mem_append] at hx ⊢
  rcases hx with hx | hx
  · refine Or.inl ?_
    by_cases h : rights.createWithGrant.isSet = true <;> simp_all
  · refine Or.inr ?_
    by_cases h : rights.usageWithGrant.isSet = true <;> simp_all

/-- The holding of a role with these rights. -/
def holding (rights : SchemaRights) (role : String) : Holding :=
  ⟨role, rights.privileges, rights.grantOptions, rights.grantOptions_subset⟩

/-- The rights that a holding has on a schema. -/
def ofHolding (h : Holding) : SchemaRights where
  create := h.privileges.contains "CREATE" && !h.grantOptions.contains "CREATE"
  createWithGrant := h.grantOptions.contains "CREATE"
  usage := h.privileges.contains "USAGE" && !h.grantOptions.contains "USAGE"
  usageWithGrant := h.grantOptions.contains "USAGE"

end SchemaRights

/-- A rule as it was asked for. -/
structure SchemaRuleRequest where
  role : Value
  rights : SchemaRights

/-- A rule for one role. -/
structure SchemaRule where
  role : String
  rights : SchemaRights

namespace SchemaRuleRequest

/-- The request that fields make; a rule without role is for PUBLIC. -/
def ofFields (given : Fields) : SchemaRuleRequest where
  role := given.get "role" (.text Role.publicKey)
  rights := {
    create := given.flag "create"
    createWithGrant := given.flag "create_with_grant"
    usage := given.flag "usage"
    usageWithGrant := given.flag "usage_with_grant" }

/-- The request that a payload makes. -/
def ofPayload (payload : Value) : Except Invalid SchemaRuleRequest :=
  return ofFields (← Declaration.schemaRule.fields payload)

/-- What the rule gives, for a role that has a key. -/
def holding (r : SchemaRuleRequest) : Except Mistyped Holding :=
  return r.rights.holding (← Role.nameOfValue r.role)

/-- The rule of a request that keeps the rules, or the first complaint. -/
def check (r : SchemaRuleRequest) : Except Invalid SchemaRule :=
  match r.role with
  | .text role => do
    Declaration.ensure (!(r.rights.createWithGrant.isSet && Role.isPublic role))
      (.grantOptionForPublic "create_with_grant")
    Declaration.ensure (!(r.rights.usageWithGrant.isSet && Role.isPublic role))
      (.grantOptionForPublic "usage_with_grant")
    return ⟨role, r.rights⟩
  | given => .error (.ruleRoleNotText given)

end SchemaRuleRequest

namespace SchemaRule

/-- What the rule gives. -/
def holding (rule : SchemaRule) : Holding := rule.rights.holding rule.role

/-- The rule that gives a holding. -/
def ofHolding (h : Holding) : SchemaRule :=
  ⟨if h.isPublic then Role.publicKey else Role.orPublic h.role, .ofHolding h⟩

end SchemaRule

/-- A schema policy as it was asked for. -/
structure PolicyRequest where
  database : Value
  schema : Value
  owner : Value
  rules : List SchemaRuleRequest

/-- A schema policy that keeps the rules. -/
structure DeclaredPolicy where
  database : String
  schema : String
  /-- The role that shall own the schema, if one is declared. -/
  owner : Option String
  rules : List SchemaRule

namespace PolicyRequest

/-- The request that fields make. -/
def ofFields (given : Fields) : Except Error PolicyRequest := do
  let payloads ← (given.get "policies" (.list [])).iterate.mapError .mistyped
  let rules ← (payloads.mapM SchemaRuleRequest.ofPayload).mapError .invalid
  return {
    database := given.given "database"
    schema := given.given "schema"
    owner := given.get "owner" .null
    rules := rules }

/-- The request made directly with fields. -/
def ofArguments (given : Value) : Except Error PolicyRequest := do
  ofFields (← (Declaration.schemaPolicy.arguments given).mapError .mistyped)

/-- The owner of the request, if it names one. -/
def checkOwner (r : PolicyRequest) : Except Invalid (Option String) :=
  match r.owner with
  | .null => .ok none
  | given => return some (← Declaration.nameIn given "owner")

/-- The schema policy, when the request keeps the rules, or the first complaint. -/
def check (r : PolicyRequest) : Except Invalid DeclaredPolicy := do
  let database ← Declaration.nameIn r.database "database"
  let schema ← Declaration.nameIn r.schema "schema"
  let owner ← r.checkOwner
  let rules ← r.rules.mapM SchemaRuleRequest.check
  return { database := database, schema := schema, owner := owner, rules := rules }

end PolicyRequest

namespace DeclaredPolicy

/-- The schema policy that a payload declares. -/
def ofPayload (payload : Value) : Except Error DeclaredPolicy := do
  let given ← (Declaration.schemaPolicy.fields payload).mapError .invalid
  (← PolicyRequest.ofFields given).check.mapError .invalid

/-- The policy that the rules make. -/
def policy (declared : DeclaredPolicy) : Policy :=
  .ofHoldings (declared.rules.map SchemaRule.holding)

/-- The identifier of the schema policy. -/
def id (declared : DeclaredPolicy) : String :=
  Identifier.schemaPolicy declared.database declared.schema

end DeclaredPolicy

end PgGrants
