/-
Declared rights have a normal form. A grant and default privileges are the same however their
payload was written, and so are their identifiers and plans. And what is declared, written down
field by field, is declared by that again: the fields that were written down make the request that
was checked.
-/
import PgGrants.Plan
import PgGrants.Proofs.Restatements

set_option autoImplicit false

namespace PgGrants

/-! ## 1. What is declared, written down -/

/-- The list of the texts. -/
def Value.ofTexts (l : List String) : Value := .list (l.map .text)

@[simp] theorem Value.texts?_ofTexts (l : List String) : (ofTexts l).texts? = some l :=
  mapM_text?_map_text l

theorem Privilege.normalizeValue_ofTexts (l : List String) :
    normalizeValue (.ofTexts l) = .ok (normalize l) := by
  unfold normalizeValue
  rw [givenTokens_of_texts? (Value.texts?_ofTexts l)]
  rfl

theorem ObjectKind.ofValue_name (kind : ObjectKind) : ofValue (.text kind.name) = .ok kind := by
  rw [ofValue_eq_ok_iff]
  cases kind <;> decide +kernel

/-- The privileges that fields give are in normal form. -/
theorem Declaration.normal_of_kindAndPrivileges {given : Fields} {kind : ObjectKind}
    {privileges : TextSet} (h : kindAndPrivileges given = .ok (kind, privileges)) :
    ∀ token ∈ privileges, Privilege.normalForm token = token := by
  unfold kindAndPrivileges at h
  obtain ⟨found, -, h⟩ := exists_of_bind_eq_ok h
  obtain ⟨normal, hnormal, h⟩ := exists_of_bind_eq_ok h
  obtain ⟨tokens, -, hnormal⟩ := exists_of_bind_eq_ok (eq_ok_of_mapError_eq_ok hnormal)
  cases h
  cases hnormal
  exact fun token => Privilege.normalForm_of_mem_normalize

/-- The kind and the privileges, written down, are read back. -/
theorem Declaration.kindAndPrivileges_written {given : Fields} {kind : ObjectKind}
    {privileges : TextSet} {l : List String} (hl : TextSet.ofList l = privileges)
    (hnormal : ∀ token ∈ privileges, Privilege.normalForm token = token)
    (hkind : given.given "object_type" = .text kind.name)
    (hprivileges : given.get "privileges" (.list []) = .ofTexts l) :
    kindAndPrivileges given = .ok (kind, privileges) := by
  subst hl
  have hnormalized : Privilege.normalize l = .ofList l :=
    Privilege.normalize_eq_ofList fun token htoken => hnormal token (TextSet.mem_ofList.2 htoken)
  unfold kindAndPrivileges
  rw [hkind, hprivileges, ObjectKind.ofValue_name, Privilege.normalizeValue_ofTexts, hnormalized]
  rfl

namespace DeclaredGrant

/-- The request that the grant itself is. -/
def asRequest (declared : DeclaredGrant) : GrantRequest where
  role := .text declared.role
  database := .text declared.database
  kind := declared.kind
  privileges := declared.privileges
  schema := declared.schema
  objects := .texts declared.objects
  grantOption := declared.grantOption

/-- The fields of the grant, its sets being given as lists. -/
def asFields (declared : DeclaredGrant) (privileges objects : List String) : Fields :=
  [("role", .text declared.role), ("database", .text declared.database),
    ("object_type", .text declared.kind.name), ("privileges", .ofTexts privileges),
    ("schema", declared.schema), ("objects", .ofTexts objects),
    ("with_grant_option", declared.grantOption.given)]

end DeclaredGrant

namespace DeclaredDefaults

/-- The request that the default privileges themselves are. -/
def asRequest (declared : DeclaredDefaults) : DefaultsRequest where
  role := .text declared.role
  database := .text declared.database
  owner := .text declared.owner
  kind := declared.kind
  privileges := declared.privileges
  schema := .ofName declared.schema
  grantOption := declared.grantOption

/-- The fields of the default privileges, the set being given as a list. -/
def asFields (declared : DeclaredDefaults) (privileges : List String) : Fields :=
  [("role", .text declared.role), ("database", .text declared.database),
    ("owner", .text declared.owner), ("object_type", .text declared.kind.name),
    ("privileges", .ofTexts privileges), ("schema", .ofName declared.schema),
    ("with_grant_option", declared.grantOption.given)]

end DeclaredDefaults

/-- A request that keeps the rules is the grant that it is accepted as. -/
theorem GrantRequest.eq_of_check {r : GrantRequest} {declared : DeclaredGrant}
    (h : r.check = .ok declared) : r = declared.asRequest := by
  obtain ⟨role, database, objects, hrole, hdatabase, -, -, hobjects, -, rfl⟩ := exists_of_check h
  obtain ⟨givenRole, givenDatabase, kind, privileges, schema, givenObjects, grantOption⟩ := r
  obtain rfl := Declaration.eq_text_of_nameIn hrole
  obtain rfl := Declaration.eq_text_of_nameIn hdatabase
  obtain rfl := objects_of_checkNames hobjects
  rfl

/-- The schema that is accepted is that of the request. -/
theorem DefaultsRequest.schema_of_checkSchema {r : DefaultsRequest} {schema : Option String}
    (h : r.checkSchema = .ok schema) : r.schema = .ofName schema := by
  unfold checkSchema at h
  obtain ⟨_, -, h⟩ := exists_of_bind_eq_ok h
  cases hschema : r.schema with
  | null =>
    rw [hschema] at h
    cases h
    rfl
  | _ =>
    rw [hschema] at h
    obtain ⟨name, hname, h⟩ := exists_of_bind_eq_ok h
    cases h
    exact Declaration.eq_text_of_nameIn hname

/-- A request that keeps the rules is the default privileges that it is accepted as. -/
theorem DefaultsRequest.eq_of_check {r : DefaultsRequest} {declared : DeclaredDefaults}
    (h : r.check = .ok declared) : r = declared.asRequest := by
  obtain ⟨role, database, owner, schema, hrole, hdatabase, howner, -, hschema, -, rfl⟩ :=
    exists_of_check h
  obtain ⟨givenRole, givenDatabase, givenOwner, kind, privileges, givenSchema, grantOption⟩ := r
  obtain rfl := Declaration.eq_text_of_nameIn hrole
  obtain rfl := Declaration.eq_text_of_nameIn hdatabase
  obtain rfl := Declaration.eq_text_of_nameIn howner
  obtain rfl := schema_of_checkSchema hschema
  rfl

/-- The privileges of a request are in normal form. -/
theorem GrantRequest.normal_of_ofFields {given : Fields} {r : GrantRequest}
    (h : ofFields given = .ok r) : ∀ token ∈ r.privileges, Privilege.normalForm token = token := by
  unfold ofFields at h
  obtain ⟨⟨kind, privileges⟩, hkind, h⟩ := exists_of_bind_eq_ok h
  obtain ⟨_, -, h⟩ := exists_of_bind_eq_ok h
  cases h
  exact Declaration.normal_of_kindAndPrivileges hkind

theorem DefaultsRequest.normal_of_ofFields {given : Fields} {r : DefaultsRequest}
    (h : ofFields given = .ok r) : ∀ token ∈ r.privileges, Privilege.normalForm token = token := by
  unfold ofFields at h
  obtain ⟨⟨kind, privileges⟩, hkind, h⟩ := exists_of_bind_eq_ok h
  cases h
  exact Declaration.normal_of_kindAndPrivileges hkind

/-- A grant, written down, is declared by what was written. -/
theorem DeclaredGrant.ofPayload_asFields {payload : Value} {declared : DeclaredGrant}
    (h : ofPayload payload = .ok declared) {privileges objects : List String}
    (hprivileges : TextSet.ofList privileges = declared.privileges)
    (hobjects : TextSet.ofList objects = declared.objects) :
    ofPayload (.record (declared.asFields privileges objects)) = .ok declared := by
  obtain ⟨given, r, -, hr, hcheck⟩ := ofPayload_eq_ok_iff.1 h
  obtain rfl := GrantRequest.eq_of_check hcheck
  have hfields : Declaration.grant.fields (.record (declared.asFields privileges objects)) =
      .ok (declared.asFields privileges objects) := by
    refine Declaration.fields_eq_ok_iff.2 ⟨rfl, ?_, ?_⟩ <;>
      rw [show (declared.asFields privileges objects).names = ["role", "database", "object_type",
        "privileges", "schema", "objects", "with_grant_option"] from rfl] <;>
      decide
  -- the fields are read back one by one, and give the request that was checked
  have hrequest : GrantRequest.ofFields (declared.asFields privileges objects) =
      .ok declared.asRequest := by
    unfold GrantRequest.ofFields
    rw [Declaration.kindAndPrivileges_written hprivileges (GrantRequest.normal_of_ofFields hr) rfl
        rfl,
      show (declared.asFields privileges objects).get "objects" (.list []) = .ofTexts objects
        from rfl,
      Declaration.objectsOf_of_texts? (Value.texts?_ofTexts objects), hobjects]
    rfl
  exact ofPayload_eq_ok_iff.2 ⟨_, _, hfields, hrequest, hcheck⟩

/-- Default privileges, written down, are declared by what was written. -/
theorem DeclaredDefaults.ofPayload_asFields {payload : Value} {declared : DeclaredDefaults}
    (h : ofPayload payload = .ok declared) {privileges : List String}
    (hprivileges : TextSet.ofList privileges = declared.privileges) :
    ofPayload (.record (declared.asFields privileges)) = .ok declared := by
  obtain ⟨given, r, -, hr, hcheck⟩ := ofPayload_eq_ok_iff.1 h
  obtain rfl := DefaultsRequest.eq_of_check hcheck
  have hfields : Declaration.defaultPrivileges.fields (.record (declared.asFields privileges)) =
      .ok (declared.asFields privileges) := by
    refine Declaration.fields_eq_ok_iff.2 ⟨rfl, ?_, ?_⟩ <;>
      rw [show (declared.asFields privileges).names = ["role", "database", "owner", "object_type",
        "privileges", "schema", "with_grant_option"] from rfl] <;>
      decide
  have hrequest : DefaultsRequest.ofFields (declared.asFields privileges) =
      .ok declared.asRequest := by
    unfold DefaultsRequest.ofFields
    rw [Declaration.kindAndPrivileges_written hprivileges (DefaultsRequest.normal_of_ofFields hr)
      rfl rfl]
    rfl
  exact ofPayload_eq_ok_iff.2 ⟨_, _, hfields, hrequest, hcheck⟩

/-! ## 2. The normal form

A declaration that was accepted is written down as fields, and these are accepted again as the same
declaration. Whatever says the same is accepted as it too, so the text and the plan are the same. -/

/-- A payload for reading and filling tables of the schema `public`. -/
def tablesPayload (kind : String) (privileges objects : Value) : Value :=
  .record [("role", .text "reader"), ("database", .text "app"), ("object_type", .text kind),
    ("privileges", privileges), ("schema", .text "public"), ("objects", objects)]

/-- The grant on the tables `a` and `b`. -/
def tablesDeclared : DeclaredGrant where
  role := "reader"
  database := "app"
  kind := .table
  privileges := .ofList ["INSERT", "SELECT"]
  schema := .text "public"
  objects := .ofList ["a", "b"]
  grantOption := .off

/-- A payload for privileges on the schemas that `alice` will create. -/
def schemasPayload (kind : String) (privileges : Value) : Value :=
  .record [("role", .text "reader"), ("database", .text "app"), ("owner", .text "alice"),
    ("object_type", .text kind), ("privileges", privileges)]

/-- All privileges on the schemas that `alice` will create. -/
def schemasDeclared : DeclaredDefaults where
  role := "reader"
  database := "app"
  owner := "alice"
  kind := .schema
  privileges := .ofList ["ALL"]
  schema := none
  grantOption := .off

theorem tablesPayload_restates : (tablesPayload "table" (.list [.text "INSERT", .text "SELECT"])
    (.list [.text "a", .text "b"])).Restates (tablesPayload "TABLE"
      (.list [.text "select", .text " Insert", .text "SELECT"])
      (.list [.text "b", .text "a", .text "b"])) := by
  have hkind : Value.SameLetters (.text "table") (.text "TABLE") :=
    .of_toLower_eq (Text.toLower_eq_iff.2 (by decide))
  have hselect : Privilege.SameToken "SELECT" "select" :=
    .rel _ _ (.letters (Text.toLower_eq_iff.2 (by decide)))
  have hinsert : Privilege.SameToken "INSERT" " Insert" :=
    .trans _ "Insert" _ (.rel _ _ (.letters (Text.toLower_eq_iff.2 (by decide))))
      (.rel _ _ (.blanks (by decide)))
  -- the same tokens in other letters, with a blank, in another order and repeated
  have htokens : Value.SameTexts Privilege.SameToken (.list [.text "INSERT", .text "SELECT"])
      (.list [.text "select", .text " Insert", .text "SELECT"]) := by
    refine .given ["INSERT", "SELECT"] ["select", " Insert", "SELECT"] rfl rfl ?_ ?_
    · simp only [List.forall_mem_cons]
      exact ⟨⟨_, by simp, hinsert⟩, ⟨_, by simp, hselect⟩, nofun⟩
    · simp only [List.forall_mem_cons]
      exact ⟨⟨_, by simp, hselect⟩, ⟨_, by simp, hinsert⟩, ⟨"SELECT", by simp, .refl _⟩, nofun⟩
  have hobjects : Value.SameTexts Eq (.list [.text "a", .text "b"])
      (.list [.text "b", .text "a", .text "b"]) :=
    .given ["a", "b"] ["b", "a", "b"] rfl rfl (by decide) (by decide)
  exact .intro (.cons (.refl _ _) (.cons (.refl _ _) (.cons hkind (.cons htokens
    (.cons (.refl _ _) (.cons hobjects .nil))))))

theorem schemasPayload_restates : (schemasPayload "schema" (.list [.text "ALL"])).Restates
    (schemasPayload "Schema" (.text "all  privileges")) := by
  have hkind : Value.SameLetters (.text "schema") (.text "Schema") :=
    .of_toLower_eq (Text.toLower_eq_iff.2 (by decide))
  -- the alias first, then letters, then blanks
  have hall : Privilege.SameToken "ALL" "all  privileges" :=
    .trans _ "ALL PRIVILEGES" _ (.symm _ _ (.rel _ _ .allPrivileges))
      (.trans _ "all privileges" _ (.rel _ _ (.letters (Text.toLower_eq_iff.2 (by decide))))
        (.rel _ _ (.blanks (by decide))))
  have htokens : Value.SameTexts Privilege.SameToken (.list [.text "ALL"])
      (.text "all  privileges") := by
    refine .given ["ALL"] ["all  privileges"] rfl rfl ?_ ?_
    · simp only [List.forall_mem_cons]
      exact ⟨⟨_, by simp, hall⟩, nofun⟩
    · simp only [List.forall_mem_cons]
      exact ⟨⟨_, by simp, hall⟩, nofun⟩
  exact .intro (.cons (.refl _ _) (.cons (.refl _ _) (.cons (.refl _ _) (.cons hkind
    (.cons htokens .nil)))))

/-- Declared rights do not depend on how they were written. What a payload declares, written down
with its sets in any order, is declared by that; and whatever says the same as the payload is
accepted too, declares the same, and has the same identifier and the same plan. -/
theorem declarations_have_normal_form (payload : Value) :
    (∀ declared, DeclaredGrant.ofPayload payload = .ok declared →
      (∀ privileges objects, TextSet.ofList privileges = declared.privileges →
        TextSet.ofList objects = declared.objects →
        DeclaredGrant.ofPayload (.record (declared.asFields privileges objects)) = .ok declared) ∧
      ∀ other, payload.Restates other → ∃ again, DeclaredGrant.ofPayload other = .ok again ∧
        again = declared ∧ again.id = declared.id ∧ again.plan = declared.plan) ∧
    ∀ declared, DeclaredDefaults.ofPayload payload = .ok declared →
      (∀ privileges, TextSet.ofList privileges = declared.privileges →
        DeclaredDefaults.ofPayload (.record (declared.asFields privileges)) = .ok declared) ∧
      ∀ other, payload.Restates other → ∃ again, DeclaredDefaults.ofPayload other = .ok again ∧
        again = declared ∧ again.id = declared.id ∧ again.plan = declared.plan := by
  constructor
  · intro declared hdeclared
    constructor
    · intro privileges objects hprivileges hobjects
      exact DeclaredGrant.ofPayload_asFields hdeclared hprivileges hobjects
    · intro other hother
      exact ⟨declared, hother.grant_eq_ok hdeclared, rfl, rfl, rfl⟩
  · intro declared hdeclared
    constructor
    · intro privileges hprivileges
      exact DeclaredDefaults.ofPayload_asFields hdeclared hprivileges
    · intro other hother
      exact ⟨declared, hother.defaults_eq_ok hdeclared, rfl, rfl, rfl⟩

/-- Other capitals and blanks, another order and repetition, and an alias change nothing. -/
theorem normal_form_of_respelt_payloads :
    DeclaredGrant.ofPayload (.record (tablesDeclared.asFields ["SELECT", "INSERT"] ["a", "b"])) =
        .ok tablesDeclared ∧
      (∃ again, DeclaredGrant.ofPayload (tablesPayload "TABLE"
          (.list [.text "select", .text " Insert", .text "SELECT"])
          (.list [.text "b", .text "a", .text "b"])) = .ok again ∧
        again = tablesDeclared ∧ again.id = tablesDeclared.id ∧
        again.plan = tablesDeclared.plan) ∧
      DeclaredDefaults.ofPayload (.record (schemasDeclared.asFields ["ALL"])) =
        .ok schemasDeclared ∧
      ∃ again, DeclaredDefaults.ofPayload (schemasPayload "Schema" (.text "all  privileges")) =
          .ok again ∧
        again = schemasDeclared ∧ again.id = schemasDeclared.id ∧
        again.plan = schemasDeclared.plan := by
  have htables : DeclaredGrant.ofPayload (tablesPayload "table"
      (.list [.text "INSERT", .text "SELECT"]) (.list [.text "a", .text "b"])) =
      .ok tablesDeclared := by rfl
  have hschemas : DeclaredDefaults.ofPayload (schemasPayload "schema" (.list [.text "ALL"])) =
      .ok schemasDeclared := by rfl
  obtain ⟨hwritten, hrespelt⟩ := (declarations_have_normal_form _).1 _ htables
  obtain ⟨hwritten', hrespelt'⟩ := (declarations_have_normal_form _).2 _ hschemas
  exact ⟨hwritten _ _ (by decide +kernel) (by decide +kernel), hrespelt _ tablesPayload_restates,
    hwritten' _ (by decide +kernel), hrespelt' _ schemasPayload_restates⟩

end PgGrants
