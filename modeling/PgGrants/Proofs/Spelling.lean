/-
Spellings of PUBLIC. The implicit role has many names, and which of them a declaration uses must not
matter. Here two declarations, two policies or two statements are alike when they differ in nothing
but the spelling of that role; what is planned from declarations that are alike is alike, and
statements that are alike have one text.

How names may differ is a parameter. By the exact spelling nothing differs, and then everything
proved of two that are alike is a fact about one.
-/
import Mathlib.Data.List.Forall2
import PgGrants.Converge.DefaultPrivileges
import PgGrants.Converge.Grant
import PgGrants.Converge.SchemaPolicy

set_option autoImplicit false

namespace PgGrants

/-! ## 1. Names -/

/-- How far two names may differ. -/
inductive Spelling where
  /-- They are the same. -/
  | exact
  /-- They may be two spellings of PUBLIC. -/
  | loose

variable {spelling : Spelling}

/-- The names are the same, or two spellings of PUBLIC where these do not count. -/
def Spelling.Same (spelling : Spelling) (a b : Option String) : Prop :=
  a = b ∨ spelling = .loose ∧ Role.isPublic (Role.orPublic a) = true ∧
    Role.isPublic (Role.orPublic b) = true

namespace Spelling.Same

variable {a b : Option String}

theorem refl (a : Option String) : spelling.Same a a := .inl rfl

theorem eq_of_exact (h : Spelling.exact.Same a b) : a = b := by
  rcases h with h | ⟨h, -, -⟩
  · exact h
  · cases h

/-- Two spellings of PUBLIC have one key, and of any other role there is one spelling only. -/
theorem key_eq (h : spelling.Same a b) :
    Role.key (Role.orPublic a) = Role.key (Role.orPublic b) := by
  rcases h with rfl | ⟨-, ha, hb⟩
  · rfl
  · rw [beq_iff_eq.1 ha, beq_iff_eq.1 hb]

theorem isPublic_eq (h : spelling.Same a b) :
    Role.isPublic (Role.orPublic a) = Role.isPublic (Role.orPublic b) := by
  unfold Role.isPublic
  rw [h.key_eq]

/-- In a statement PUBLIC is a bare word. -/
theorem grantee_eq (h : spelling.Same a b) : Sql.grantee a = Sql.grantee b := by
  rcases h with rfl | ⟨-, ha, hb⟩
  · rfl
  · rw [Sql.grantee, Sql.grantee, ha, hb]
    rfl

/-- In a message PUBLIC is the same bare word. -/
theorem describeGrantee_eq (h : spelling.Same a b) :
    Statement.describeGrantee a = Statement.describeGrantee b := by
  rcases h with rfl | ⟨-, ha, hb⟩
  · rfl
  · rw [Statement.describeGrantee, Statement.describeGrantee, Role.shownName, Role.shownName, ha,
      hb]
    rfl

end Spelling.Same

/-! ## 2. Statements -/

/-- The statements differ in nothing but the spelling of the grantee. -/
inductive Statement.Alike (spelling : Spelling) : Statement → Statement → Prop where
  | refl (statement : Statement) : Alike spelling statement statement
  | privilege {change : PrivilegeChange} {role : Option String}
      (h : spelling.Same change.role role) :
      Alike spelling (.privilege change) (.privilege { change with role := role })
  | defaultPrivilege {change : DefaultPrivilegeChange} {role : Option String}
      (h : spelling.Same change.role role) :
      Alike spelling (.defaultPrivilege change) (.defaultPrivilege { change with role := role })

namespace Statement.Alike

variable {s t : Statement}

theorem eq_of_exact (h : Alike .exact s t) : s = t := by
  cases h with
  | refl => rfl
  | privilege h => rw [← h.eq_of_exact]
  | defaultPrivilege h => rw [← h.eq_of_exact]

/-- What stands beside the grantee in the text does not depend on its spelling. -/
theorem sql_eq (h : Alike spelling s t) : s.sql = t.sql := by
  cases h with
  | refl => rfl
  | privilege h =>
    unfold Statement.sql
    dsimp only
    rw [h.grantee_eq]
    rfl
  | defaultPrivilege h =>
    unfold Statement.sql
    dsimp only
    rw [h.grantee_eq]

theorem describe_eq (h : Alike spelling s t) : s.describe = t.describe := by
  cases h with
  | refl => rfl
  | privilege h =>
    unfold Statement.describe
    dsimp only
    rw [h.describeGrantee_eq]
    rfl
  | defaultPrivilege h =>
    unfold Statement.describe
    dsimp only
    rw [h.describeGrantee_eq]
    rfl

theorem subject_eq (h : Alike spelling s t) : s.subject = t.subject := by
  cases h with
  | refl => rfl
  | privilege _ => rfl
  | defaultPrivilege _ => rfl

end Statement.Alike

/-! ## 3. Holdings and policies -/

/-- The holdings differ in nothing but the spelling of the role. -/
structure Holding.Alike (spelling : Spelling) (h k : Holding) : Prop where
  role : spelling.Same h.role k.role
  privileges : h.privileges = k.privileges
  grantOptions : h.grantOptions = k.grantOptions

namespace Holding.Alike

variable {h k m n : Holding}

theorem refl (h : Holding) : Alike spelling h h := ⟨.refl _, rfl, rfl⟩

theorem key_eq (halike : Alike spelling h k) : h.key = k.key := halike.role.key_eq

theorem isPublic_eq (halike : Alike spelling h k) : h.isPublic = k.isPublic :=
  halike.role.isPublic_eq

theorem join (hfirst : Alike spelling h k) (hsecond : Alike spelling m n) :
    Alike spelling (h.join m) (k.join n) where
  role := hfirst.role
  privileges := congrArg₂ (· ∪ ·) hfirst.privileges hsecond.privileges
  grantOptions := congrArg₂ (· ∪ ·) hfirst.grantOptions hsecond.grantOptions

theorem sameRights_eq (hfirst : Alike spelling h k) (hsecond : Alike spelling m n) :
    h.sameRights m = k.sameRights n := by
  unfold Holding.sameRights
  rw [hfirst.privileges, hfirst.grantOptions, hsecond.privileges, hsecond.grantOptions]

theorem isGrantable_eq (halike : Alike spelling h k) : h.isGrantable = k.isGrantable := by
  unfold Holding.isGrantable
  rw [halike.privileges, halike.grantOptions]

theorem isAsDeclared_eq (halike : Alike spelling h k) (kind : ObjectKind) (privileges : TextSet)
    (grantOption : Flag) (caps : Option Capabilities) :
    h.isAsDeclared kind privileges grantOption caps =
      k.isAsDeclared kind privileges grantOption caps := by
  unfold Holding.isAsDeclared
  rw [halike.privileges, halike.grantOptions]

theorem plain_eq (halike : Alike spelling h k) : h.plain = k.plain := by
  unfold Holding.plain
  rw [halike.privileges, halike.grantOptions]

/-- The same thing said about holdings that are alike. -/
theorem statement (halike : Alike spelling h k) (direction : Direction) (kind : ObjectKind)
    (name : Option String) (privileges : TextSet) (grantOption : Bool) :
    Statement.Alike spelling (h.statement direction kind name privileges grantOption)
      (k.statement direction kind name privileges grantOption) :=
  .privilege halike.role

theorem revokes (halike : Alike spelling h k) (kind : ObjectKind) (name : Option String) :
    List.Forall₂ (Statement.Alike spelling) (h.revokes kind name) (k.revokes kind name) := by
  unfold Holding.revokes
  rw [halike.privileges]
  split
  · exact .nil
  · exact .cons (halike.statement ..) .nil

theorem grants (halike : Alike spelling h k) (kind : ObjectKind) (name : Option String) :
    List.Forall₂ (Statement.Alike spelling) (h.grants kind name) (k.grants kind name) := by
  unfold Holding.grants
  rw [halike.plain_eq, halike.grantOptions]
  refine List.rel_append ?_ ?_
  · split
    · exact .nil
    · exact .cons (halike.statement ..) .nil
  · split
    · exact .nil
    · exact .cons (halike.statement ..) .nil

end Holding.Alike

namespace Policy

/-- The policies differ in nothing but the spelling of PUBLIC. -/
def Alike (spelling : Spelling) (p q : Policy) : Prop :=
  List.Forall₂ (Holding.Alike spelling) p.holdings q.holdings

theorem Alike.refl (p : Policy) : Alike spelling p p :=
  List.forall₂_same.2 fun h _ => Holding.Alike.refl h

theorem alike_addSorted {h k : Holding} {l m : List Holding} (halike : Holding.Alike spelling h k)
    (hlists : List.Forall₂ (Holding.Alike spelling) l m) :
    List.Forall₂ (Holding.Alike spelling) (addSorted h l) (addSorted k m) := by
  induction hlists with
  | nil => exact .cons halike .nil
  | cons hfirst hrest ih =>
    unfold addSorted
    -- both lists are searched by the same keys, so both take the same branch
    rw [halike.key_eq, hfirst.key_eq]
    split
    · exact .cons halike (.cons hfirst hrest)
    · split
      · exact .cons (hfirst.join halike) hrest
      · exact .cons hfirst ih

theorem Alike.add {p q : Policy} {h k : Holding} (hpolicy : Alike spelling p q)
    (halike : Holding.Alike spelling h k) : Alike spelling (p.add h) (q.add k) :=
  alike_addSorted halike hpolicy

/-- Lists that are alike fold to policies that are alike. -/
theorem alike_ofHoldings {l m : List Holding} (h : List.Forall₂ (Holding.Alike spelling) l m) :
    Alike spelling (ofHoldings l) (ofHoldings m) := by
  have hadd : Relator.LiftFun (Alike spelling)
      (Relator.LiftFun (Holding.Alike spelling) (Alike spelling)) add add :=
    fun _ _ hpolicy _ _ halike => hpolicy.add halike
  exact List.rel_foldl hadd (Alike.refl ∅) h

theorem Alike.eraseAll {p q : Policy} (h : Alike spelling p q) (roles : List String) :
    Alike spelling (p.eraseAll roles) (q.eraseAll roles) := by
  refine List.rel_filter (fun k m hkm => ?_) h
  dsimp only
  rw [hkm.key_eq]

theorem Alike.keys_eq {p q : Policy} (h : Alike spelling p q) : p.keys = q.keys := by
  have hkeys : p.holdings.map Holding.key = q.holdings.map Holding.key := by
    refine List.forall₂_eq_eq_eq ▸ List.rel_map (fun k m hkm => ?_) h
    exact hkm.key_eq
  unfold keys
  simp only [hkeys]

theorem Alike.find? {p q : Policy} (h : Alike spelling p q) (key : String) :
    Option.Rel (Holding.Alike spelling) (p.find? key) (q.find? key) := by
  obtain ⟨l, hl⟩ := p
  obtain ⟨m, hm⟩ := q
  show Option.Rel (Holding.Alike spelling) (l.find? fun h => h.key == key)
    (m.find? fun h => h.key == key)
  have hlists : List.Forall₂ (Holding.Alike spelling) l m := h
  clear h hl hm
  induction hlists with
  | nil => exact .none
  | cons hfirst _ ih =>
    rw [List.find?_cons, List.find?_cons, hfirst.key_eq]
    -- the key is that of the first holding in both lists, or in neither
    split
    · exact .some hfirst
    · exact ih

end Policy

/-! ## 4. The difference between two policies

Changes are found by key and told by rights, and neither depends on the spelling. What differs is
the role that a change carries. -/

/-- The changes differ in nothing but the spelling of PUBLIC. -/
inductive RoleChange.Alike (spelling : Spelling) : RoleChange → RoleChange → Prop where
  | dropped {h k : Holding} (halike : Holding.Alike spelling h k) :
      Alike spelling (.dropped h) (.dropped k)
  | added {h k : Holding} (halike : Holding.Alike spelling h k) :
      Alike spelling (.added h) (.added k)
  | updated {h k m n : Holding} (hold : Holding.Alike spelling h k)
      (hnew : Holding.Alike spelling m n) : Alike spelling (.updated h m) (.updated k n)
  | unchanged {h k : Holding} (halike : Holding.Alike spelling h k) :
      Alike spelling (.unchanged h) (.unchanged k)

theorem RoleChange.alike_ofHoldings? {h k m n : Option Holding}
    (hold : Option.Rel (Holding.Alike spelling) h k)
    (hnew : Option.Rel (Holding.Alike spelling) m n) :
    Option.Rel (Alike spelling) (ofHoldings? h m) (ofHoldings? k n) := by
  cases hold with
  | none =>
    cases hnew with
    | none => exact .none
    | some hnew => exact .some (.added hnew)
  | some hold =>
    cases hnew with
    | none => exact .some (.dropped hold)
    | some hnew =>
      unfold ofHoldings?
      dsimp only
      -- the rights are equal, so both are updated or both unchanged
      rw [hold.sameRights_eq hnew]
      split
      · exact .some (.unchanged hnew)
      · exact .some (.updated hold hnew)

/-- The differences differ in nothing but the spelling of PUBLIC. -/
structure PolicyDelta.Alike (spelling : Spelling) (d e : PolicyDelta) : Prop where
  dropped : List.Forall₂ (Holding.Alike spelling) d.dropped e.dropped
  added : List.Forall₂ (Holding.Alike spelling) d.added e.added
  updated : List.Forall₂ (fun change other : Holding × Holding =>
    Holding.Alike spelling change.1 other.1 ∧ Holding.Alike spelling change.2 other.2)
      d.updated e.updated

namespace PolicyDelta

theorem alike_changes {p q r s : Policy} (hold : Policy.Alike spelling p q)
    (hnew : Policy.Alike spelling r s) :
    List.Forall₂ (RoleChange.Alike spelling) (changes p r) (changes q s) := by
  unfold changes
  rw [hold.keys_eq, hnew.keys_eq]
  -- key by key the same look-ups on both sides
  refine List.rel_filterMap (R := Eq) ?_ (List.forall₂_same.2 fun _ _ => rfl)
  rintro key _ rfl
  exact RoleChange.alike_ofHoldings? (hold.find? key) (hnew.find? key)

theorem alike_ofPolicies {p q r s : Policy} (hold : Policy.Alike spelling p q)
    (hnew : Policy.Alike spelling r s) :
    Alike spelling (ofPolicies p r) (ofPolicies q s) where
  dropped := List.rel_filterMap (fun _ _ h => by
    cases h with
    | dropped halike => exact .some halike
    | _ => exact .none) (alike_changes hold hnew)
  added := List.rel_filterMap (fun _ _ h => by
    cases h with
    | added halike => exact .some halike
    | _ => exact .none) (alike_changes hold hnew)
  updated := List.rel_filterMap (fun _ _ h => by
    cases h with
    | updated hold hnew => exact .some ⟨hold, hnew⟩
    | _ => exact .none) (alike_changes hold hnew)

/-- The statements of differences that are alike are alike, one by one. -/
theorem Alike.statements {d e : PolicyDelta} (h : Alike spelling d e) (kind : ObjectKind)
    (name : Option String) :
    List.Forall₂ (Statement.Alike spelling) (d.statements kind name) (e.statements kind name) := by
  unfold PolicyDelta.statements PolicyDelta.revokes PolicyDelta.grants
  refine List.rel_append (List.rel_append ?_ ?_) (List.rel_append ?_ ?_)
  · exact List.rel_flatMap h.dropped fun _ _ halike => halike.revokes kind name
  · exact List.rel_flatMap h.updated fun _ _ halike => halike.1.revokes kind name
  · exact List.rel_flatMap h.added fun _ _ halike => halike.grants kind name
  · exact List.rel_flatMap h.updated fun _ _ halike => halike.2.grants kind name

end PolicyDelta

/-! ## 5. Declarations -/

/-- The grants differ in nothing but the spelling of the role. -/
inductive DeclaredGrant.Alike (spelling : Spelling) (declared : DeclaredGrant) :
    DeclaredGrant → Prop where
  | intro {role : String} (h : spelling.Same declared.role role) :
      Alike spelling declared { declared with role := role }

/-- The default privileges differ in nothing but the spelling of the role. -/
inductive DeclaredDefaults.Alike (spelling : Spelling) (declared : DeclaredDefaults) :
    DeclaredDefaults → Prop where
  | intro {role : String} (h : spelling.Same declared.role role) :
      Alike spelling declared { declared with role := role }

/-- The rules differ in nothing but the spelling of the role. -/
inductive SchemaRule.Alike (spelling : Spelling) (rule : SchemaRule) : SchemaRule → Prop where
  | intro {role : String} (h : spelling.Same rule.role role) :
      Alike spelling rule { rule with role := role }

/-- The schema policies differ in nothing but the spelling of roles in their rules. -/
inductive DeclaredPolicy.Alike (spelling : Spelling) (declared : DeclaredPolicy) :
    DeclaredPolicy → Prop where
  | intro {rules : List SchemaRule}
      (h : List.Forall₂ (SchemaRule.Alike spelling) declared.rules rules) :
      Alike spelling declared { declared with rules := rules }

/-- Whoever holds anything under one spelling holds it under the other. -/
theorem Policy.alike_holdingOf (p : Policy) {a b : String} (h : spelling.Same a b) :
    Holding.Alike spelling (p.holdingOf a) (p.holdingOf b) := by
  have hkey : Role.key a = Role.key b := h.key_eq
  have hlookup : p.lookup a = p.lookup b := by
    unfold Policy.lookup
    rw [hkey]
  unfold Policy.holdingOf
  rw [Option.bind_some, Option.bind_some, hlookup]
  cases p.lookup b with
  | none => exact ⟨h, rfl, rfl⟩
  | some held => exact .refl held

namespace DeclaredGrant.Alike

variable {declared other : DeclaredGrant}

theorem isMet_eq (h : Alike spelling declared other) (caps : Capabilities) :
    declared.isMet caps = other.isMet caps := by
  obtain ⟨hrole⟩ := h
  funext row
  exact (row.policy.alike_holdingOf hrole).isAsDeclared_eq ..

theorem revokePlan (h : Alike spelling declared other) :
    List.Forall₂ (Statement.Alike spelling) declared.revokePlan other.revokePlan := by
  obtain ⟨hrole⟩ := h
  exact .cons (.privilege hrole) .nil

theorem plan (h : Alike spelling declared other) :
    List.Forall₂ (Statement.Alike spelling) declared.plan other.plan := by
  refine List.rel_append h.revokePlan ?_
  obtain ⟨hrole⟩ := h
  split
  · exact .nil
  · exact .cons (.privilege hrole) .nil

end DeclaredGrant.Alike

namespace DeclaredDefaults.Alike

variable {declared other : DeclaredDefaults}

theorem revokePlan (h : Alike spelling declared other) :
    List.Forall₂ (Statement.Alike spelling) declared.revokePlan other.revokePlan := by
  obtain ⟨hrole⟩ := h
  exact .cons (.defaultPrivilege hrole) .nil

theorem plan (h : Alike spelling declared other) :
    List.Forall₂ (Statement.Alike spelling) declared.plan other.plan := by
  refine List.rel_append h.revokePlan ?_
  obtain ⟨hrole⟩ := h
  split
  · exact .nil
  · exact .cons (.defaultPrivilege hrole) .nil

end DeclaredDefaults.Alike

namespace DeclaredPolicy.Alike

variable {declared other : DeclaredPolicy}

theorem policy (h : Alike spelling declared other) :
    Policy.Alike spelling declared.policy other.policy := by
  obtain ⟨hrules⟩ := h
  refine Policy.alike_ofHoldings (List.rel_map (fun rule _ halike => ?_) hrules)
  obtain ⟨hrole⟩ := halike
  exact ⟨hrole, rfl, rfl⟩

theorem diff (h : Alike spelling declared other) (row : AclRow) (previous : Option Policy) :
    PolicyDelta.Alike spelling (declared.diff row previous) (other.diff row previous) := by
  have hnew := h.policy
  obtain ⟨hrules⟩ := h
  exact PolicyDelta.alike_ofPolicies (.refl _) (hnew.eraseAll _)

theorem revokeDiff (h : Alike spelling declared other) (row : AclRow) :
    PolicyDelta.Alike spelling (declared.revokeDiff row) (other.revokeDiff row) :=
  PolicyDelta.alike_ofPolicies (h.policy.eraseAll _) (.refl _)

end DeclaredPolicy.Alike

/-! ## 6. Reports -/

/-- The reports differ in nothing but the spelling of the role. -/
inductive GrantReport.Alike (spelling : Spelling) (report : GrantReport) : GrantReport → Prop where
  | intro {role : String} (h : spelling.Same report.role role) :
      Alike spelling report { report with role := role }

/-- The reports differ in nothing but the spelling of the role. -/
inductive DefaultsReport.Alike (spelling : Spelling) (report : DefaultsReport) :
    DefaultsReport → Prop where
  | intro {role : String} (h : spelling.Same report.role role) :
      Alike spelling report { report with role := role }

theorem DeclaredGrant.Alike.state {declared other : DeclaredGrant}
    (h : Alike spelling declared other) (caps : Capabilities) (rows : List AclRow) :
    GrantReport.Alike spelling (declared.state caps rows) (other.state caps rows) := by
  have hmet := h.isMet_eq caps
  obtain ⟨hrole⟩ := h
  unfold DeclaredGrant.state
  rw [← hmet]
  -- both report the same row, if there is one to report
  cases rows.find? fun row => !declared.isMet caps row with
  | none => exact .intro hrole
  | some row =>
    have hheld := row.policy.alike_holdingOf hrole
    dsimp only
    rw [hheld.privileges, hheld.isGrantable_eq]
    exact .intro hrole

theorem DeclaredDefaults.Alike.state {declared other : DeclaredDefaults}
    (h : Alike spelling declared other) (p : Policy) :
    DefaultsReport.Alike spelling (declared.state (p.holdingOf declared.role))
      (other.state (p.holdingOf other.role)) := by
  obtain ⟨hrole⟩ := h
  have hheld := p.alike_holdingOf hrole
  unfold DeclaredDefaults.state
  rw [hheld.privileges, hheld.isGrantable_eq]
  exact .intro hrole

end PgGrants
