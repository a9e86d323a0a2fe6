/-
A statement can be told from its text.

The text of a statement is made of fixed words, of quoted names and of lists of them, and each of
these can be read from the left (`PrefixFree`), whatever characters the names hold. So two
statements of plans have one text exactly when they agree in everything the text is about: what is
given or taken, on which objects, by and to whom, and with which option. Two spellings of PUBLIC are
one role, an option counts only where something is given, and the former owner of a schema is not
written.
-/
import PgGrants.Proofs.PolicyPlan
import PgGrants.Proofs.TextParts

set_option autoImplicit false

namespace PgGrants

/-! ## 1. Statements of plans -/

/-- Both statements are of one form and agree in everything that their texts are about. -/
def Statement.Agrees : Statement → Statement → Prop
  | .privilege s, .privilege t =>
    s.direction = t.direction ∧ s.kind = t.kind ∧ s.privileges = t.privileges ∧
      (s.kind.inSchema = true → s.schema = t.schema) ∧ s.objects = t.objects ∧
      Role.Same s.role t.role ∧ s.direction.SameOption s.grantOption t.grantOption
  | .defaultPrivilege s, .defaultPrivilege t =>
    s.direction = t.direction ∧ s.owner = t.owner ∧ s.kind = t.kind ∧
      s.privileges = t.privileges ∧ s.schema = t.schema ∧ Role.Same s.role t.role ∧
      s.direction.SameOption s.grantOption t.grantOption
  | .membership s, .membership t =>
    s.direction = t.direction ∧ s.role = t.role ∧ s.grantRole = t.grantRole ∧
      s.direction.SameOption s.adminOption t.adminOption
  | .schemaOwner s, .schemaOwner t => s.schema = t.schema ∧ s.owner = t.owner
  | _, _ => False

/-- The statement is one of a plan: for a grant, default privileges or a membership that keeps the
rules, for the policy of a database or a schema, or for the owner of a schema. -/
inductive Statement.IsPlanned : Statement → Prop where
  | grant {r : GrantRequest} {declared : DeclaredGrant} (hcheck : r.check = .ok declared)
      {s : Statement} (hs : s ∈ declared.plan) : IsPlanned s
  | grantRevoked {r : GrantRequest} {declared : DeclaredGrant} (hcheck : r.check = .ok declared)
      {s : Statement} (hs : s ∈ declared.revokePlan) : IsPlanned s
  | defaults {r : DefaultsRequest} {declared : DeclaredDefaults} (hcheck : r.check = .ok declared)
      {s : Statement} (hs : s ∈ declared.plan) : IsPlanned s
  | defaultsRevoked {r : DefaultsRequest} {declared : DeclaredDefaults}
      (hcheck : r.check = .ok declared) {s : Statement} (hs : s ∈ declared.revokePlan) : IsPlanned s
  | policy (old new : Policy) {kind : ObjectKind} (hkind : kind.isContainer = true) (name : String)
      (exists? : Option String → Bool) {s : Statement}
      (hs : s ∈ old.planTo new kind name exists?) : IsPlanned s
  | membership {r : MembershipRequest} {declared : DeclaredMembership}
      (hcheck : r.check = .ok declared) (observed : Option Standing) {s : Statement}
      (hs : s ∈ declared.plan observed) : IsPlanned s
  | owner (schema : String) (owner observed : Option String) {s : Statement}
      (hs : s ∈ OwnerChange.plan schema owner observed) : IsPlanned s

/-- What the statement does is to give, to take away, or to hand a schema over. -/
def Statement.IsDirected : Statement → Prop
  | .schemaOwner _ => True
  | s => s.direction = .grant ∨ s.direction = .revoke

/-- A plan for the policy of an object takes privileges away and gives some. -/
theorem PolicyDelta.isDirected_of_mem {delta : PolicyDelta} {kind : ObjectKind}
    {name : Option String} {s : Statement} (hs : s ∈ delta.statements kind name) :
    s.IsDirected := by
  -- a holding is revoked by one statement and granted by others
  have hrevokes : ∀ h : Holding, s ∈ h.revokes kind name → s.IsDirected := by
    intro h hs
    rw [Holding.eq_of_mem_revokes kind name hs]
    exact .inr rfl
  have hgrants : ∀ h : Holding, s ∈ h.grants kind name → s.IsDirected := by
    intro h hs
    obtain ⟨tokens, grantOption, rfl⟩ := Holding.exists_of_mem_grants kind name hs
    exact .inl rfl
  simp only [statements, revokes, grants, List.mem_append, List.mem_flatMap] at hs
  obtain (⟨h, -, hs⟩ | ⟨h, -, hs⟩) | (⟨h, -, hs⟩ | ⟨h, -, hs⟩) := hs
  · exact hrevokes _ hs
  · exact hrevokes _ hs
  · exact hgrants _ hs
  · exact hgrants _ hs

theorem Statement.IsPlanned.isDirected {s : Statement} (h : s.IsPlanned) : s.IsDirected := by
  -- a plan that revokes is one statement, and a plan that grants has at most one more
  cases h with
  | @grant _ declared _ _ hs =>
    rcases List.mem_append.1 hs with hs | hs
    · rw [List.mem_singleton.1 hs]
      exact .inr rfl
    · split at hs
      · cases hs
      · rw [List.mem_singleton.1 hs]
        exact .inl rfl
  | grantRevoked _ hs =>
    rw [List.mem_singleton.1 hs]
    exact .inr rfl
  | defaults _ hs =>
    rcases List.mem_append.1 hs with hs | hs
    · rw [List.mem_singleton.1 hs]
      exact .inr rfl
    · split at hs
      · cases hs
      · rw [List.mem_singleton.1 hs]
        exact .inl rfl
  | defaultsRevoked _ hs =>
    rw [List.mem_singleton.1 hs]
    exact .inr rfl
  | policy old new _ name exists? hs => exact PolicyDelta.isDirected_of_mem hs
  | membership _ observed hs =>
    rcases List.mem_append.1 hs with hs | hs
    · split at hs
      · rw [List.mem_singleton.1 hs]
        exact .inr rfl
      · cases hs
    · rw [List.mem_singleton.1 hs]
      exact .inl rfl
  | owner schema owner observed hs =>
    unfold OwnerChange.plan at hs
    split at hs
    · cases hs
    · rw [List.mem_singleton.1 hs]
      trivial

namespace Statement

open Sql

/-! ## 2. What a text consists of

Each kind of statement is its parts in a fixed order. That a text was written at all says that the
parts could be written, and what they are. -/

theorem privilege_text {change : PrivilegeChange} {text : String}
    (h : (Statement.privilege change).sql = .ok text) :
    ∃ (tokens : List String) (objects : List Char), change.privileges = tokens.map some ∧
      (∀ token ∈ tokens, AclItem.isPrivilege token = true) ∧ TargetText change objects ∧
      text.toList = verbText change.direction ++ (privilegeText tokens ++ (" ON ".toList ++
        (objects ++ (prepositionText change.direction ++ ((grantee change.role).toList ++
          (optionClause "GRANT" change.direction change.grantOption).toList))))) := by
  -- the parts are written one after another, and each can fail
  obtain ⟨privileges, hprivileges, h⟩ := exists_of_bind_eq_ok h
  obtain ⟨objects, hobjects, h⟩ := exists_of_bind_eq_ok h
  cases h
  obtain ⟨tokens, hgiven, hknown, htext⟩ := eq_of_privilegeList hprivileges
  refine ⟨tokens, objects.toList, hgiven, hknown, targetText_of_targets hobjects, ?_⟩
  simp [toList_transfer, htext]

theorem defaultPrivilege_text {change : DefaultPrivilegeChange} {text : String}
    (h : (Statement.defaultPrivilege change).sql = .ok text) :
    ∃ (tokens : List String) (owner : String), change.privileges = tokens.map some ∧
      (∀ token ∈ tokens, AclItem.isPrivilege token = true) ∧ change.owner = some owner ∧
      change.kind.catalog.plural.isSome = true ∧
      text.toList = "ALTER DEFAULT PRIVILEGES FOR ROLE ".toList ++ ((identifier owner).toList ++
        (placeText change.schema ++ (' ' :: (verbText change.direction ++ (privilegeText tokens ++
          (" ON ".toList ++ ((change.kind.catalog.plural.getD "").toList ++
            (prepositionText change.direction ++ ((grantee change.role).toList ++
              (optionClause "GRANT" change.direction change.grantOption).toList))))))))) := by
  obtain ⟨owner, howner, h⟩ := exists_of_bind_eq_ok h
  obtain ⟨privileges, hprivileges, h⟩ := exists_of_bind_eq_ok h
  obtain ⟨objects, hobjects, h⟩ := exists_of_bind_eq_ok h
  cases h
  obtain ⟨tokens, hgiven, hknown, htext⟩ := eq_of_privilegeList hprivileges
  obtain ⟨name, hname, rfl⟩ := eq_of_nameOf howner
  have hplural := eq_of_plural hobjects
  refine ⟨tokens, name, hgiven, hknown, hname, by rw [hplural]; rfl, ?_⟩
  rw [hplural]
  cases change.schema <;> simp [toList_transfer, htext, placeText]

theorem membership_text {change : MembershipChange} {text : String}
    (h : (Statement.membership change).sql = .ok text) :
    ∃ joined member : String, change.grantRole = some joined ∧ change.role = some member ∧
      text.toList = verbText change.direction ++ ((identifier joined).toList ++
        (prepositionText change.direction ++ ((identifier member).toList ++
          (optionClause "ADMIN" change.direction change.adminOption).toList))) := by
  obtain ⟨joined, hjoined, h⟩ := exists_of_bind_eq_ok h
  obtain ⟨member, hmember, h⟩ := exists_of_bind_eq_ok h
  cases h
  obtain ⟨joinedName, hjoinedName, rfl⟩ := eq_of_nameOf hjoined
  obtain ⟨memberName, hmemberName, rfl⟩ := eq_of_nameOf hmember
  exact ⟨joinedName, memberName, hjoinedName, hmemberName, by simp [toList_transfer]⟩

theorem schemaOwner_text {change : OwnerChange} {text : String}
    (h : (Statement.schemaOwner change).sql = .ok text) :
    ∃ schema owner : String, change.schema = some schema ∧ change.owner = some owner ∧
      text.toList = "ALTER SCHEMA ".toList ++ ((identifier schema).toList ++
        (" OWNER TO ".toList ++ (identifier owner).toList)) := by
  obtain ⟨schema, hschema, h⟩ := exists_of_bind_eq_ok h
  obtain ⟨owner, howner, h⟩ := exists_of_bind_eq_ok h
  cases h
  obtain ⟨schemaName, hschemaName, rfl⟩ := eq_of_nameOf hschema
  obtain ⟨ownerName, hownerName, rfl⟩ := eq_of_nameOf howner
  exact ⟨schemaName, ownerName, hschemaName, hownerName, by simp⟩

end Statement

/-! ## 3. The form of a statement

Before any part is compared the two statements have to be of one kind. The first words tell it, and
for a grant the sign behind them: an identifier is quoted, a privilege is not. -/

/-- The four forms of statement. -/
inductive Statement.Form where
  | privilege
  | defaultPrivilege
  | membership
  | schemaOwner

/-- The form of the statement. -/
def Statement.form : Statement → Form
  | .privilege _ => .privilege
  | .defaultPrivilege _ => .defaultPrivilege
  | .membership _ => .membership
  | .schemaOwner _ => .schemaOwner

/-- The form that a text shows by the sign after its first word: what is altered, or whether a name
stands there or a privilege. -/
def Statement.Form.ofText (text : List Char) : Form :=
  let sign := (text.dropWhile (· ≠ ' '))[1]?
  if text.head? = some 'A' then
    if sign = some 'D' then .defaultPrivilege else .schemaOwner
  else if sign = some '"' then .membership else .privilege

namespace Statement

open Sql

theorem ofText_verb {direction : Direction} (h : direction = .grant ∨ direction = .revoke)
    (c : Char) (rest : List Char) :
    Form.ofText (verbText direction ++ c :: rest) =
      if c = '"' then .membership else .privilege := by
  rcases h with rfl | rfl
  · simp [Form.ofText, verbText, Direction.isGrant]
  · simp [Form.ofText, verbText, Direction.isGrant, Direction.grant, Direction.revoke]

/-- The text of a statement shows its form. -/
theorem form_eq_of_sql {s : Statement} (hs : s.IsDirected) {text : String}
    (h : s.sql = .ok text) : s.form = Form.ofText text.toList := by
  cases s with
  | privilege change =>
    obtain ⟨tokens, objects, -, hknown, -, htext⟩ := privilege_text h
    obtain ⟨c, cs, hchars, hc⟩ := head_privilegeText hknown
    have hdirection : change.direction = .grant ∨ change.direction = .revoke := hs
    -- a privilege does not start with a quotation mark
    rw [htext, hchars, List.cons_append, ofText_verb hdirection, if_neg hc]
    rfl
  | defaultPrivilege change =>
    obtain ⟨tokens, owner, -, -, -, -, htext⟩ := defaultPrivilege_text h
    rw [htext]
    simp [Form.ofText, form]
  | membership change =>
    obtain ⟨joined, member, -, -, htext⟩ := membership_text h
    have hdirection : change.direction = .grant ∨ change.direction = .revoke := hs
    -- the name of a role does
    rw [htext, toList_identifier, List.cons_append, ofText_verb hdirection, if_pos rfl]
    rfl
  | schemaOwner change =>
    obtain ⟨schema, owner, -, -, htext⟩ := schemaOwner_text h
    rw [htext]
    simp [Form.ofText, form]

/-! ## 4. Equal texts

Parts are cancelled from the left, each prefix-free before what follows it, until nothing is left to
compare. -/

theorem privilege_agrees {s t : PrivilegeChange}
    (hs : s.direction = .grant ∨ s.direction = .revoke)
    (ht : t.direction = .grant ∨ t.direction = .revoke) {text : String}
    (h : (Statement.privilege s).sql = .ok text) (h' : (Statement.privilege t).sql = .ok text) :
    (Statement.privilege s).Agrees (.privilege t) := by
  obtain ⟨tokens, objects, hgiven, hknown, hobjects, htext⟩ := privilege_text h
  obtain ⟨tokens', objects', hgiven', hknown', hobjects', htext'⟩ := privilege_text h'
  -- the parts of the text, from the left
  obtain ⟨hdirection, hverb⟩ := verb_cancel hs ht (htext.symm.trans htext')
  obtain ⟨htokens, hprivileges⟩ := prefixFree_privilegeText _ _ _ _ hknown hknown' rfl rfl hverb
  obtain ⟨hkind, hschema, hsame, htargets⟩ := hobjects.cancel hobjects' (spaced_preposition _ _)
    (spaced_preposition _ _) (List.append_cancel_left hprivileges)
  rw [← hdirection] at htargets
  obtain ⟨hrole, hoption⟩ := grantee_cancel (unquoted_option _ _ _) (unquoted_option _ _ _)
    (List.append_cancel_left htargets)
  refine ⟨hdirection, hkind, ?_, hschema, hsame, hrole, sameOption_of_clause hoption⟩
  rw [hgiven, hgiven', htokens]

theorem defaultPrivilege_agrees {s t : DefaultPrivilegeChange}
    (hs : s.direction = .grant ∨ s.direction = .revoke)
    (ht : t.direction = .grant ∨ t.direction = .revoke) {text : String}
    (h : (Statement.defaultPrivilege s).sql = .ok text)
    (h' : (Statement.defaultPrivilege t).sql = .ok text) :
    (Statement.defaultPrivilege s).Agrees (.defaultPrivilege t) := by
  obtain ⟨tokens, owner, hgiven, hknown, howner, hplural, htext⟩ := defaultPrivilege_text h
  obtain ⟨tokens', owner', hgiven', hknown', howner', hplural', htext'⟩ := defaultPrivilege_text h'
  -- the parts of the text, from the left
  obtain ⟨hname, hplace⟩ := prefixFree_identifier _ _ _ _ trivial trivial (unquoted_place _ _)
    (unquoted_place _ _) (List.append_cancel_left (htext.symm.trans htext'))
  obtain ⟨hschema, hwords⟩ := place_cancel hs ht hplace
  obtain ⟨hdirection, hverb⟩ := verb_cancel hs ht hwords
  obtain ⟨htokens, hprivileges⟩ := prefixFree_privilegeText _ _ _ _ hknown hknown' rfl rfl hverb
  obtain ⟨hkind, hobjects⟩ := prefixFree_plural _ _ _ _ hplural hplural' trivial trivial
    (List.append_cancel_left hprivileges)
  rw [← hdirection] at hobjects
  obtain ⟨hrole, hoption⟩ := grantee_cancel (unquoted_option _ _ _) (unquoted_option _ _ _)
    (List.append_cancel_left hobjects)
  refine ⟨hdirection, ?_, hkind, ?_, hschema, hrole, sameOption_of_clause hoption⟩
  · rw [howner, howner', hname]
  · rw [hgiven, hgiven', htokens]

theorem membership_agrees {s t : MembershipChange}
    (hs : s.direction = .grant ∨ s.direction = .revoke)
    (ht : t.direction = .grant ∨ t.direction = .revoke) {text : String}
    (h : (Statement.membership s).sql = .ok text) (h' : (Statement.membership t).sql = .ok text) :
    (Statement.membership s).Agrees (.membership t) := by
  obtain ⟨joined, member, hjoined, hmember, htext⟩ := membership_text h
  obtain ⟨joined', member', hjoined', hmember', htext'⟩ := membership_text h'
  -- the parts of the text, from the left
  obtain ⟨hdirection, hverb⟩ := verb_cancel hs ht (htext.symm.trans htext')
  obtain ⟨hgroup, hpreposition⟩ := prefixFree_identifier _ _ _ _ trivial trivial
    (spaced_preposition _ _).unquoted (spaced_preposition _ _).unquoted hverb
  rw [← hdirection] at hpreposition
  obtain ⟨hname, hoption⟩ := prefixFree_identifier _ _ _ _ trivial trivial (unquoted_option _ _ _)
    (unquoted_option _ _ _) (List.append_cancel_left hpreposition)
  refine ⟨hdirection, ?_, ?_, sameOption_of_clause hoption⟩
  · rw [hmember, hmember', hname]
  · rw [hjoined, hjoined', hgroup]

theorem schemaOwner_agrees {s t : OwnerChange} {text : String}
    (h : (Statement.schemaOwner s).sql = .ok text) (h' : (Statement.schemaOwner t).sql = .ok text) :
    (Statement.schemaOwner s).Agrees (.schemaOwner t) := by
  obtain ⟨schema, owner, hschema, howner, htext⟩ := schemaOwner_text h
  obtain ⟨schema', owner', hschema', howner', htext'⟩ := schemaOwner_text h'
  have hspaced : ∀ rest, Spaced (" OWNER TO ".toList ++ rest) := fun _ => rfl
  -- the parts of the text, from the left
  obtain ⟨hname, hwords⟩ := prefixFree_identifier _ _ _ _ trivial trivial (hspaced _).unquoted
    (hspaced _).unquoted (List.append_cancel_left (htext.symm.trans htext'))
  have hsame : owner = owner' :=
    identifier_injective (String.toList_inj.1 (List.append_cancel_left hwords))
  refine ⟨?_, ?_⟩
  · rw [hschema, hschema', hname]
  · rw [howner, howner', hsame]

/-- Statements with one text agree. -/
theorem agrees_of_sql {s t : Statement} (hs : s.IsDirected) (ht : t.IsDirected) {text : String}
    (h : s.sql = .ok text) (h' : t.sql = .ok text) : s.Agrees t := by
  -- one text has one form
  have hform : s.form = t.form := (form_eq_of_sql hs h).trans (form_eq_of_sql ht h').symm
  cases s with
  | privilege change =>
    cases t with
    | privilege change' => exact privilege_agrees hs ht h h'
    | _ => cases hform
  | defaultPrivilege change =>
    cases t with
    | defaultPrivilege change' => exact defaultPrivilege_agrees hs ht h h'
    | _ => cases hform
  | membership change =>
    cases t with
    | membership change' => exact membership_agrees hs ht h h'
    | _ => cases hform
  | schemaOwner change =>
    cases t with
    | schemaOwner change' => exact schemaOwner_agrees h h'
    | _ => cases hform

/-- Statements that agree have one text, if they have any. -/
theorem sql_eq_of_agrees {s t : Statement} (h : s.Agrees t) : s.sql = t.sql := by
  cases s with
  | privilege change =>
    cases t with
    | privilege change' =>
      obtain ⟨hdirection, hkind, hprivileges, hschema, hobjects, hrole, hoption⟩ := h
      -- outside a schema the schema is not written, and need not agree
      have htargets : targets change = targets change' := by
        unfold targets
        rw [← hkind, ← hobjects]
        split
        · rename_i hinside
          rw [hschema hinside]
        · rfl
      have hclause := optionClause_congr "GRANT" hoption
      simp only [sql, ← hdirection, hprivileges, htargets, grantee_congr hrole, hclause]
    | _ => cases h
  | defaultPrivilege change =>
    cases t with
    | defaultPrivilege change' =>
      obtain ⟨hdirection, howner, hkind, hprivileges, hschema, hrole, hoption⟩ := h
      have hclause := optionClause_congr "GRANT" hoption
      simp only [sql, ← hdirection, howner, hkind, hprivileges, hschema, grantee_congr hrole,
        hclause]
    | _ => cases h
  | membership change =>
    cases t with
    | membership change' =>
      obtain ⟨hdirection, hrole, hgroup, hoption⟩ := h
      have hclause := optionClause_congr "ADMIN" hoption
      simp only [sql, ← hdirection, hrole, hgroup, hclause]
    | _ => cases h
  | schemaOwner change =>
    cases t with
    | schemaOwner change' =>
      obtain ⟨hschema, howner⟩ := h
      simp only [sql, hschema, howner]
    | _ => cases h

/-- A statement of a plan can be told from its text, whatever the names in it are: another statement
of a plan has the same text exactly when it agrees with it in everything. -/
theorem sql_identifies_statement {s t : Statement} (hs : s.IsPlanned) (ht : t.IsPlanned)
    {text : String} (h : s.sql = .ok text) : t.sql = .ok text ↔ s.Agrees t := by
  constructor
  · exact agrees_of_sql hs.isDirected ht.isDirected h
  · intro hagrees
    rw [← sql_eq_of_agrees hagrees]
    exact h

end Statement

/-- A request to take everything on tables of a schema away. -/
def tablesRequest (tables : List String) : GrantRequest where
  role := .text "reader"
  database := .text "app"
  kind := .table
  privileges := .ofList []
  schema := .text "s"
  objects := .texts (.ofList tables)
  grantOption := .off

/-- What it declares. -/
def tablesGrant (tables : List String) : DeclaredGrant where
  role := "reader"
  database := "app"
  kind := .table
  privileges := .ofList []
  schema := .text "s"
  objects := .ofList tables
  grantOption := .off

/-- A name that would read as two names in a schema if its quotes were not written twice. -/
def quotingTable : String := "a\", \"s\".\"b"

/-- What is sent for the table of this name. -/
def quotingText : String :=
  "REVOKE ALL PRIVILEGES ON TABLE \"s\".\"a\"\", \"\"s\"\".\"\"b\" FROM \"reader\""

/-- The statement for one table whose name reads as two is not the statement for two tables. -/
theorem Statement.one_table_is_not_two :
    (tablesGrant [quotingTable]).revokePlan.map Statement.sql = [.ok quotingText] ∧
      (tablesGrant ["a", "b"]).revokePlan.map Statement.sql ≠ [.ok quotingText] := by
  have hone : (tablesRequest [quotingTable]).check = .ok (tablesGrant [quotingTable]) := by rfl
  have htwo : (tablesRequest ["a", "b"]).check = .ok (tablesGrant ["a", "b"]) := by rfl
  have htext : ((tablesGrant [quotingTable]).statement .revoke [] .off).sql = .ok quotingText := by
    rfl
  refine ⟨congrArg (fun text => [text]) htext, fun heq => ?_⟩
  have hagrees := (Statement.sql_identifies_statement
    (.grantRevoked hone (List.mem_singleton.2 rfl)) (.grantRevoked htwo (List.mem_singleton.2 rfl))
    htext).1 (List.cons.inj heq).1
  obtain ⟨-, -, -, -, hobjects, -⟩ := hagrees
  exact absurd hobjects (by decide)

end PgGrants
