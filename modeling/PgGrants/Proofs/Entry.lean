/-
One entry: what one role holds on one object, or gets on the objects that an owner will create. A
server of a known version changes an entry by the statements that are about its place and address
its role. Here is said what the plans of grants and of default privileges do to an entry, and by
which test an entry is left alone.

The two are made by different code. The plan revokes everything and names the privileges to grant,
or none of them for all; the test compares sets in which `ALL` is replaced by what the server
knows. That they agree rests on two facts about a declaration that was accepted: its tokens exist on
the kind, and it asks for `MAINTAIN` only where that is known.
-/
import PgGrants.Converge.Requirement
import PgGrants.Proofs.Acl
import PgGrants.Proofs.KeptRules

set_option autoImplicit false

namespace PgGrants

/-! ## 1. What statements do to an entry -/

/-- What an entry is of. -/
inductive Place where
  /-- An object; those outside schemas have none. -/
  | object (kind : ObjectKind) (schema name : Option String)
  /-- The objects that an owner will create in a schema, or in any. -/
  | future (kind : ObjectKind) (schema owner : Option String)

namespace Place

/-- The kind of the objects. -/
def kind : Place → ObjectKind
  | .object kind _ _ => kind
  | .future kind _ _ => kind

end Place

/-- The statement gives the grant option with the privileges. -/
def Statement.grantOption : Statement → Flag
  | .privilege change => change.grantOption
  | .defaultPrivilege change => change.grantOption
  | .membership _ => .off
  | .schemaOwner _ => .off

/-- The statement is about what is held at the place. One without objects is about all of them. -/
def Statement.isAt (place : Place) : Statement → Bool
  | .privilege change =>
    match place with
    | .object kind schema name =>
      change.kind == kind && change.schema == schema &&
        (change.objects.isEmpty || change.objects.contains name)
    | .future _ _ _ => false
  | .defaultPrivilege change =>
    match place with
    | .object _ _ _ => false
    | .future kind schema owner =>
      change.kind == kind && change.schema == schema && change.owner == owner
  | .membership _ => false
  | .schemaOwner _ => false

/-- The privileges that a list in a statement stands for. Without any they are all that the server
knows for the kind. -/
def Privilege.meant (caps : Capabilities) (kind : ObjectKind) (listed : List (Option String)) :
    TextSet :=
  if listed.isEmpty then knownVocabulary kind (some caps) else .ofList (listed.filterMap id)

section Effects

variable (caps : Capabilities)

/-- What giving or taking privileges does to the rights. To take all of them leaves nothing. -/
def Rights.change (kind : ObjectKind) (direction : Direction) (listed : List (Option String))
    (grantOption : Flag) (r : Rights) : Rights :=
  if direction.isGrant then
    r.add ⟨Privilege.meant caps kind listed,
      if grantOption.isSet then Privilege.meant caps kind listed else ∅⟩
  else if listed.isEmpty then .none
  else r.remove (Privilege.meant caps kind listed)

variable (place : Place) (key : String)

/-- What a statement does to the entry of a role at a place. -/
def Statement.changeEntry (r : Rights) (statement : Statement) : Rights :=
  if statement.isAt place && Role.key (Role.orPublic statement.role) == key then
    r.change caps place.kind statement.direction statement.privileges statement.grantOption
  else r

/-- The entry of a role at a place after some statements. -/
def Rights.entryAfter (r : Rights) (statements : List Statement) : Rights :=
  statements.foldl (Statement.changeEntry caps place key) r

end Effects

/-! ## 2. What is wanted of an entry -/

/-- What grants and default privileges declare alike: the privileges that a role shall have. -/
structure Wanted where
  role : String
  kind : ObjectKind
  privileges : TextSet
  grantOption : Flag

namespace Wanted

/-- The role key. -/
def key (wanted : Wanted) : String := Role.key wanted.role

/-- The privileges that are meant, with grant options on all of them or on none. -/
def rights (wanted : Wanted) (caps : Capabilities) : Rights :=
  let privileges := Privilege.expand wanted.kind wanted.privileges (some caps)
  ⟨privileges, if wanted.grantOption.isSet then privileges else ∅⟩

/-- The test by which an entry is left alone. -/
def isMetBy (wanted : Wanted) (caps : Capabilities) (h : Holding) : Bool :=
  h.isAsDeclared wanted.kind wanted.privileges wanted.grantOption (some caps)

/-- Every token exists on the kind. -/
def IsValid (wanted : Wanted) : Prop :=
  ∀ token ∈ wanted.privileges, token = Privilege.all ∨ token ∈ wanted.kind.vocabulary

/-- The server knows what is asked for by name. -/
def IsKnown (wanted : Wanted) (caps : Capabilities) : Prop :=
  "MAINTAIN" ∈ wanted.privileges → caps.supports .maintainPrivilege = true

end Wanted

namespace Privilege

variable {kind : ObjectKind} {tokens : TextSet} {caps : Capabilities}

/-- Tokens without `ALL` mean themselves. -/
theorem expand_of_not_mem (h : all ∉ tokens) : expand kind tokens (some caps) = tokens := by
  have hcontains : tokens.contains all = false := by
    rw [← Bool.not_eq_true, TextSet.contains_iff]
    exact h
  rw [expand, hcontains]
  rfl

/-- What exists on the kind is known to the server, but for `MAINTAIN` on an old one. -/
theorem mem_knownVocabulary {token : String} : token ∈ knownVocabulary kind (some caps) ↔
    token ∈ kind.vocabulary ∧
      (token = "MAINTAIN" → caps.supports .maintainPrivilege = true) := by
  unfold knownVocabulary
  by_cases hsupports : caps.supports .maintainPrivilege = true
  · simp [hsupports]
  · simp [hsupports]

/-- `ALL` beside other tokens means no more than `ALL` alone. -/
theorem expand_of_mem (hall : all ∈ tokens)
    (hvalid : ∀ token ∈ tokens, token = all ∨ token ∈ kind.vocabulary)
    (hknown : "MAINTAIN" ∈ tokens → caps.supports .maintainPrivilege = true) :
    expand kind tokens (some caps) = knownVocabulary kind (some caps) := by
  rw [expand, if_pos (TextSet.contains_iff.2 hall)]
  -- what is named besides `ALL` is part of what `ALL` stands for, as far as the server knows it
  ext token
  rw [TextSet.mem_union, TextSet.mem_diff]
  constructor
  · rintro (⟨hmem, hne⟩ | hmem)
    · have hvocabulary : token ∈ kind.vocabulary := by
        refine (hvalid token hmem).resolve_left fun heq => hne ?_
        rw [heq]
        exact TextSet.mem_ofList.2 (List.mem_singleton.2 rfl)
      refine mem_knownVocabulary.2 ⟨hvocabulary, ?_⟩
      intro hmaintain
      rw [hmaintain] at hmem
      exact hknown hmem
    · exact hmem
  · exact fun hmem => .inr hmem

/-- The privileges that a statement lists for tokens stand for what the tokens mean. -/
theorem meant_listed (hvalid : ∀ token ∈ tokens, token = all ∨ token ∈ kind.vocabulary)
    (hknown : "MAINTAIN" ∈ tokens → caps.supports .maintainPrivilege = true)
    (hnonempty : tokens ≠ ∅) :
    meant caps kind ((listed tokens).map some) = expand kind tokens (some caps) := by
  unfold listed
  -- `ALL` is written as no list, and any other list is written out
  by_cases hall : all ∈ tokens
  · rw [if_pos (TextSet.contains_iff.2 hall), expand_of_mem hall hvalid hknown]
    rfl
  · have hsome : (tokens.toList.map some).isEmpty = false := by
      rw [List.isEmpty_map, ← Bool.not_eq_true]
      exact fun hempty => hnonempty (TextSet.isEmpty_iff.1 hempty)
    rw [if_neg fun h => hall (TextSet.contains_iff.1 h), meant, hsome, expand_of_not_mem hall,
      List.filterMap_map]
    simp

end Privilege

/-! ## 3. The plan and the test

Revoking everything and then granting what is wanted leaves exactly that, and the test lets pass
exactly that. So an entry that is left alone is one that the plan would not change. -/

namespace Wanted

variable {wanted : Wanted} {caps : Capabilities}

/-- The test is exact: what it lets pass is what is wanted, and nothing else. -/
theorem isMetBy_iff {h : Holding} (hall : Privilege.all ∉ h.privileges) :
    wanted.isMetBy caps h = true ↔ h.rights = wanted.rights caps := by
  have hmeaning : Privilege.sameMeaning wanted.kind h.privileges wanted.privileges (some caps) =
      true ↔ h.privileges = Privilege.expand wanted.kind wanted.privileges (some caps) := by
    rw [Privilege.sameMeaning, beq_iff_eq, Privilege.expand_of_not_mem hall]
  have hrights : h.rights = wanted.rights caps ↔
      h.privileges = Privilege.expand wanted.kind wanted.privileges (some caps) ∧
        h.grantOptions = if wanted.grantOption.isSet then
          Privilege.expand wanted.kind wanted.privileges (some caps) else ∅ := Rights.ext_iff
  rw [isMetBy, Holding.isAsDeclared, Bool.and_eq_true, hmeaning, hrights]
  -- what carries the option is compared with what is held, which is what is wanted
  refine and_congr_right fun hprivileges => ?_
  by_cases hoption : wanted.grantOption.isSet = true
  · rw [if_pos hoption, if_pos hoption, beq_iff_eq, hprivileges]
  · rw [if_neg hoption, if_neg hoption, TextSet.isEmpty_iff]

/-- Privileges that were accepted exist on their kind. -/
theorem isValid_of_check (h : Privilege.check wanted.kind wanted.privileges = .ok ()) :
    wanted.IsValid :=
  fun _ => Privilege.mem_of_check h

/-- Statements of one form, which is given their direction, their privileges and their grant option,
change what the role holds at the place. -/
structure IsChangedBy (wanted : Wanted) (place : Place)
    (statement : Direction → List String → Flag → Statement) : Prop where
  kind : place.kind = wanted.kind
  isAt : ∀ direction listed grantOption,
    (statement direction listed grantOption).isAt place = true
  key : ∀ direction listed grantOption,
    Role.key (Role.orPublic (statement direction listed grantOption).role) = wanted.key
  direction : ∀ direction listed grantOption,
    (statement direction listed grantOption).direction = direction
  privileges : ∀ direction listed grantOption,
    (statement direction listed grantOption).privileges = listed.map some
  grantOption : ∀ direction listed grantOption,
    (statement direction listed grantOption).grantOption = grantOption

theorem IsChangedBy.changeEntry {place : Place}
    {statement : Direction → List String → Flag → Statement}
    (h : wanted.IsChangedBy place statement) (direction : Direction) (listed : List String)
    (grantOption : Flag) (r : Rights) :
    (statement direction listed grantOption).changeEntry caps place wanted.key r =
      r.change caps wanted.kind direction (listed.map some) grantOption := by
  rw [Statement.changeEntry, h.isAt, h.key, beq_self_eq_true, Bool.and_self, if_pos rfl, h.kind,
    h.direction, h.privileges, h.grantOption]

/-- To revoke everything and then to grant what is wanted leaves what is wanted, whatever was held
before. -/
theorem entryAfter_replace (hvalid : wanted.IsValid) (hknown : wanted.IsKnown caps)
    {place : Place} {statement : Direction → List String → Flag → Statement}
    (hstatement : wanted.IsChangedBy place statement) (r : Rights) :
    r.entryAfter caps place wanted.key
        (Privilege.replace statement wanted.privileges wanted.grantOption) =
      wanted.rights caps := by
  -- the first statement takes everything away, so what was there before does not matter
  have hrevoked : (statement .revoke [] .off).changeEntry caps place wanted.key r = .none := by
    rw [hstatement.changeEntry]
    rfl
  rw [Rights.entryAfter, Privilege.replace, List.foldl_append, List.foldl_cons, List.foldl_nil,
    hrevoked]
  by_cases hempty : wanted.privileges = ∅
  · -- nothing is granted, and nothing is wanted
    rw [if_pos (TextSet.isEmpty_iff.2 hempty), rights, hempty,
      Privilege.expand_of_not_mem (TextSet.not_mem_empty _), ite_self]
    rfl
  · rw [if_neg fun h => hempty (TextSet.isEmpty_iff.1 h), List.foldl_cons, List.foldl_nil,
      hstatement.changeEntry, Rights.change, if_pos (by decide),
      Privilege.meant_listed hvalid hknown hempty, Rights.none_add]
    rfl

end Wanted

/-- What takes everything away and gives what is declared is made of at most two statements. -/
theorem Privilege.eq_or_eq_of_mem_replace {statement : Direction → List String → Flag → Statement}
    {privileges : TextSet} {grantOption : Flag} {s : Statement}
    (hs : s ∈ Privilege.replace statement privileges grantOption) :
    s = statement .revoke [] .off ∨ s = statement .grant (listed privileges) grantOption := by
  rw [replace, List.mem_append, List.mem_singleton, List.mem_ite_nil_left, List.mem_singleton] at hs
  exact hs.imp_right And.right

/-! ## 4. Grants and default privileges -/

namespace DeclaredGrant

/-- What the grant wants of each entry. -/
def wanted (declared : DeclaredGrant) : Wanted where
  role := declared.role
  kind := declared.kind
  privileges := declared.privileges
  grantOption := declared.grantOption

/-- The places that the grant is about: its targets, all objects when it names none. -/
def IsTarget (declared : DeclaredGrant) (place : Place) : Prop :=
  ∃ name, place = .object declared.kind declared.targetSchema name ∧
    (declared.targets = [] ∨ name ∈ declared.targets.map some)

/-- Statements about the grant change the role's entry on every target. -/
theorem isChangedBy_statement (declared : DeclaredGrant) {place : Place}
    (htarget : declared.IsTarget place) :
    declared.wanted.IsChangedBy place declared.statement := by
  obtain ⟨name, rfl, hname⟩ := htarget
  have hobjects : ((declared.targets.map some).isEmpty ||
      (declared.targets.map some).contains name) = true := by
    rw [Bool.or_eq_true, List.isEmpty_iff, List.map_eq_nil_iff, List.contains_iff_mem]
    exact hname
  refine ⟨rfl, fun _ _ _ => ?_, fun _ _ _ => rfl, fun _ _ _ => rfl, fun _ _ _ => rfl,
    fun _ _ _ => rfl⟩
  simp only [statement, Statement.isAt, beq_self_eq_true, Bool.true_and, hobjects]

end DeclaredGrant

namespace DeclaredDefaults

/-- What the default privileges want of their entry. -/
def wanted (declared : DeclaredDefaults) : Wanted where
  role := declared.role
  kind := declared.kind
  privileges := declared.privileges
  grantOption := declared.grantOption

/-- The place that the default privileges are about. -/
def place (declared : DeclaredDefaults) : Place :=
  .future declared.kind declared.schema declared.owner

/-- Statements about the default privileges change the role's entry. -/
theorem isChangedBy_statement (declared : DeclaredDefaults) :
    declared.wanted.IsChangedBy declared.place declared.statement := by
  refine ⟨rfl, fun _ _ _ => ?_, fun _ _ _ => rfl, fun _ _ _ => rfl, fun _ _ _ => rfl,
    fun _ _ _ => rfl⟩
  simp only [statement, place, Statement.isAt, beq_self_eq_true, Bool.and_self]

end DeclaredDefaults

end PgGrants
