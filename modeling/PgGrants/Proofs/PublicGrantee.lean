/-
Which names turn into PUBLIC. A statement about a grant or about default privileges ends with the
grantee: the bare word PUBLIC, or the name of one role in quotes. The word stands there for `public`
in any case, and for two more kinds of names that a declaration may have: blanks only, and `public`
with blanks around it, since roles are told apart without the blanks at either end. A name without
such blanks is never widened.
-/
import PgGrants.Proofs.NormalForms
import PgGrants.Proofs.PublicSpellings
import PgGrants.Proofs.Settling
import PgGrants.Proofs.StatementText

set_option autoImplicit false

namespace PgGrants

/-! ## 1. Blanks and letters

A name means PUBLIC when it is `public` in any case, or when nothing else is left once its blanks
are stripped. The two are told apart by the blanks, which lower case keeps. -/

namespace Text

/-- A blank is its own lower case. -/
theorem lowerChar_of_isBlank {c : Char} (h : isBlank c = true) : lowerChar c = [c] := by
  have hdotted : c ≠ '\u0130' := by
    rintro rfl
    exact absurd h (by decide)
  unfold lowerChar
  rw [if_neg hdotted, mapByRuns_of_not_holds fun run hrun =>
    not_holds_of_isBlank h run (List.mem_append_left _ hrun)]

/-- A blank in a text is still there in lower case. -/
theorem mem_lowerCharsAfter_of_isBlank {c : Char} (hc : isBlank c = true) {cs : List Char}
    (hmem : c ∈ cs) (before : List Char) : c ∈ lowerCharsAfter before cs := by
  -- a blank is no sigma, so it keeps its place
  have hsigma : c ≠ '\u03A3' := by
    rintro rfl
    exact absurd hc (by decide)
  induction cs generalizing before with
  | nil => cases hmem
  | cons first rest ih =>
    unfold lowerCharsAfter
    rcases List.mem_cons.1 hmem with rfl | hrest
    · rw [if_neg hsigma, lowerChar_of_isBlank hc]
      exact List.mem_append_left _ (List.mem_singleton.2 rfl)
    · exact List.mem_append_right _ (ih hrest _)

/-- A text whose lower case has no blank has none itself, so nothing is stripped off it. -/
theorem strip_eq_self_of_lower {s : String}
    (h : ∀ c ∈ (lower s).toList, isBlank c = false) : strip s = s := by
  -- a blank anywhere would be left in the lower case
  have hblank : ∀ c ∈ s.toList, isBlank c = false := by
    intro c hc
    rw [← Bool.not_eq_true]
    intro hblank
    have hlower : c ∈ (lower s).toList := by
      unfold lower lowerChars
      rw [String.toList_ofList]
      exact mem_lowerCharsAfter_of_isBlank hblank hc []
    exact absurd (h c hlower) (by rw [hblank]; decide)
  have htrimmed : IsTrimmed isBlank s.toList :=
    ⟨fun c hc => hblank c (List.mem_of_mem_head? hc),
      fun c hc => hblank c (List.mem_of_mem_getLast? hc)⟩
  exact strip_eq_self_iff.2 htrimmed

/-- Only the empty text has an empty lower case. -/
theorem lower_eq_empty_iff {s : String} : lower s = "" ↔ s = "" := by
  constructor
  · intro h
    have hchars : lowerCharsAfter [] s.toList = [] := String.ofList_eq_empty_iff.1 h
    by_contra hne
    have hlist : s.toList ≠ [] := fun hnil => hne (String.toList_eq_nil_iff.1 hnil)
    exact lowerCharsAfter_ne_nil [] hlist hchars
  · rintro rfl
    rfl

end Text

namespace Role

/-- Blanks at an end of the name keep it from being read as it is: it has none but blanks, or
`public` stands between them. -/
def IsPaddedPublic (role : String) : Prop :=
  Text.strip role ≠ role ∧ (Text.strip role = "" ∨ Text.lower (Text.strip role) = "public")

/-- The names that stand for PUBLIC. -/
theorem isPublic_iff {role : String} (hrole : role ≠ "") :
    isPublic role = true ↔ Text.lower role = "public" ∨ IsPaddedPublic role := by
  have hkey : isPublic role = true ↔
      Text.lower (Text.strip role) = "public" ∨ Text.strip role = "" := by
    unfold isPublic key
    rw [beq_iff_eq]
    by_cases hpublic : Text.lower (Text.strip role) = "public"
    · simp [hpublic]
    · simp [hpublic, publicKey, Text.lower_eq_empty_iff]
  rw [hkey]
  by_cases hstrip : Text.strip role = role
  · rw [hstrip]
    simp [IsPaddedPublic, hrole, hstrip]
  · -- a padded name has blanks, and then its lower case has them too
    have hlower : Text.lower role ≠ "public" := by
      intro hlower
      have hnone : ("public".toList.all fun c => !Text.isBlank c) = true := by decide
      refine hstrip (Text.strip_eq_self_of_lower fun c hc => ?_)
      rw [hlower] at hc
      have hkept := List.all_eq_true.1 hnone c hc
      rwa [Bool.not_eq_true'] at hkept
    simp only [hlower, false_or, IsPaddedPublic, ne_eq, hstrip, not_false_eq_true, true_and]
    exact Or.comm

end Role

/-! ## 2. The grantee at the end of a text -/

namespace Sql

/-- The text ends by giving something to the grantee in these words, with the grant option or
without it, or by taking something from it. -/
def EndsWithGrantee (words text : String) : Prop :=
  ∃ front, text = front ++ " TO " ++ words ∨
    text = front ++ " TO " ++ words ++ " WITH GRANT OPTION" ∨
    text = front ++ " FROM " ++ words

/-- The last sign of the grantee in a text, the words of the grant option being passed over. They
are the only ones that end with an N, and eighteen signs long. -/
def lastGranteeSign (text : String) : Option Char :=
  let signs := text.toList.reverse
  if signs.head? = some 'N' then signs[18]? else signs.head?

theorem lastGranteeSign_eq {words text : String} (h : EndsWithGrantee words text)
    {init : List Char} {c : Char} (hwords : words.toList = init ++ [c]) (hc : c ≠ 'N') :
    lastGranteeSign text = some c := by
  obtain ⟨front, rfl | rfl | rfl⟩ := h
  · simp [lastGranteeSign, hwords, hc]
  · simp [lastGranteeSign, hwords]
  · simp [lastGranteeSign, hwords, hc]

/-- No text that ends with a role's name in quotes is one for PUBLIC. -/
theorem EndsWithGrantee.not_public {role text : String}
    (h : EndsWithGrantee (identifier role) text) : ¬ EndsWithGrantee "PUBLIC" text := by
  intro hpublic
  have hquote : (identifier role).toList = ('"' :: role.toList.flatMap AclItem.inQuotes) ++ ['"'] :=
    toList_identifier role
  have hletter : "PUBLIC".toList = "PUBLI".toList ++ ['C'] := by decide
  have hsame := (lastGranteeSign_eq hpublic hletter (by decide)).symm.trans
    (lastGranteeSign_eq h hquote (by decide))
  exact absurd hsame (by decide)

theorem endsWithGrantee_of_transfer (front thing words : String) (direction : Direction)
    (flag : Flag) :
    EndsWithGrantee words
      (front ++ transfer direction thing words ++ optionClause "GRANT" direction flag) := by
  unfold transfer optionClause
  by_cases hgrant : direction.isGrant = true
  · refine ⟨front ++ ("GRANT " ++ thing), ?_⟩
    by_cases hflag : flag.isSet = true
    · exact .inr (.inl (by simp [hgrant, hflag, String.append_assoc]))
    · exact .inl (by simp [hgrant, hflag, String.append_assoc])
  · exact ⟨front ++ ("REVOKE " ++ thing), .inr (.inr (by simp [hgrant, String.append_assoc]))⟩

end Sql

/-! ## 3. Statements for what is declared

What passed its check can be written: the tokens are known, a schema is there where one is needed,
and a kind that is named in the plural has one. -/

namespace Sql

open AclItem

/-- What can be written item by item can be written as a list. -/
theorem exists_mapM_eq_ok {α β : Type} {write : α → Except Unwritable β} {l : List α}
    (h : ∀ a ∈ l, ∃ b, write a = .ok b) : ∃ m, l.mapM write = .ok m := by
  induction l with
  | nil => exact ⟨[], rfl⟩
  | cons a rest ih =>
    obtain ⟨b, hb⟩ := h a List.mem_cons_self
    obtain ⟨m, hm⟩ := ih fun other hother => h other (List.mem_cons_of_mem _ hother)
    refine ⟨b :: m, ?_⟩
    rw [List.mapM_cons, hb, hm]
    rfl

theorem exists_bind_eq_ok {α β : Type} {first : Except Unwritable α}
    {next : α → Except Unwritable β} (hfirst : ∃ a, first = .ok a)
    (hnext : ∀ a, ∃ b, next a = .ok b) : ∃ b, first >>= next = .ok b := by
  obtain ⟨a, rfl⟩ := hfirst
  exact hnext a

theorem exists_commaSeparated (names : List String) :
    ∃ text, Statement.commaSeparated (names.map some) = .ok text := by
  unfold Statement.commaSeparated
  refine exists_bind_eq_ok (exists_mapM_eq_ok ?_) fun _ => ⟨_, rfl⟩
  rintro ⟨given, place⟩ hgiven
  obtain ⟨name, -, rfl⟩ := List.mem_map.1 (List.fst_mem_of_mem_zipIdx hgiven)
  exact ⟨name, rfl⟩

theorem exists_privilegeList {tokens : List String}
    (hknown : ∀ token ∈ tokens, isPrivilege token = true) :
    ∃ text, privilegeList (tokens.map some) = .ok text := by
  have hnone : ((tokens.map some).find? fun token => !isKnown token) = none := by
    rw [List.find?_eq_none]
    intro token htoken
    obtain ⟨name, hname, rfl⟩ := List.mem_map.1 htoken
    simp [isKnown, hknown name hname]
  unfold privilegeList Statement.describePrivileges
  rw [hnone]
  -- an empty list is written with one word
  by_cases hempty : (tokens.map some).isEmpty = true
  · exact ⟨_, if_pos hempty⟩
  · obtain ⟨text, htext⟩ := exists_commaSeparated tokens
    exact ⟨text, (if_neg hempty).trans htext⟩

theorem exists_mapM_of_names {write : Option String → Except Unwritable String}
    (h : ∀ name : String, ∃ text, write name = .ok text) (names : List String) :
    ∃ texts, (names.map some).mapM write = .ok texts := by
  refine exists_mapM_eq_ok fun given hgiven => ?_
  obtain ⟨name, -, rfl⟩ := List.mem_map.1 hgiven
  exact h name

/-- The objects of a statement can be written when they are named, in a schema where the kind has
one; all objects of a schema are meant only where there is a word for them. -/
theorem exists_targets {change : PrivilegeChange} {names : List String}
    (hobjects : change.objects = names.map some)
    (hschema : change.kind.inSchema = true → ∃ schema, change.schema = some schema)
    (hplural : change.kind.inSchema = true → names = [] →
      change.kind.catalog.plural.isSome = true) : ∃ text, targets change = .ok text := by
  unfold targets
  by_cases hinside : change.kind.inSchema = true
  · obtain ⟨schema, hname⟩ := hschema hinside
    rw [if_pos hinside, hobjects, hname]
    -- all objects of a kind, or the named ones
    by_cases hempty : (names.map some).isEmpty = true
    · rw [if_pos hempty]
      have hnil : names = [] := List.map_eq_nil_iff.1 (List.isEmpty_iff.1 hempty)
      obtain ⟨word, hword⟩ := Option.isSome_iff_exists.1 (hplural hinside hnil)
      refine exists_bind_eq_ok ⟨word, ?_⟩ fun _ => ⟨_, rfl⟩
      unfold plural
      rw [hword]
    · rw [if_neg hempty]
      refine exists_bind_eq_ok ⟨schema, rfl⟩ fun schema => ?_
      exact exists_bind_eq_ok (exists_mapM_of_names (fun _ => ⟨_, rfl⟩) names) fun _ => ⟨_, rfl⟩
  · rw [if_neg hinside, hobjects]
    exact exists_bind_eq_ok (exists_mapM_of_names (fun _ => ⟨_, rfl⟩) names) fun _ => ⟨_, rfl⟩

end Sql

/-- A statement lists privileges that have a letter. -/
theorem Wanted.isPrivilege_of_listed {wanted : Wanted} (h : wanted.IsValid) :
    ∀ token ∈ Privilege.listed wanted.privileges, AclItem.isPrivilege token = true := by
  -- the words of all kinds, checked one by one
  have hvocabulary : ∀ kind ∈ ObjectKind.all, ∀ token ∈ kind.vocabulary.toList,
      AclItem.isPrivilege token = true := by
    decide
  intro token htoken
  unfold Privilege.listed at htoken
  by_cases hall : wanted.privileges.contains Privilege.all = true
  · rw [if_pos hall] at htoken
    cases htoken
  · rw [if_neg hall] at htoken
    have hmem : token ∈ wanted.privileges := htoken
    rcases h token hmem with rfl | hexists
    · exact absurd (TextSet.contains_iff.2 hmem) hall
    · exact hvocabulary wanted.kind (ObjectKind.mem_all _) token hexists

namespace GrantRequest

/-- A schema is named where the kind needs one, and objects unless the kind allows bulk grants. -/
theorem objects_of_check {r : GrantRequest} {declared : DeclaredGrant}
    (h : r.check = .ok declared) :
    ((r.kind.inSchema || r.kind == .schema) = true → ∃ name, r.schema = .text name) ∧
      (r.kind.isContainer = false → declared.objects.toList = [] → r.kind.isBulk = true) := by
  obtain ⟨_, _, objects, -, -, hschema, hobjects, hnames, -, rfl⟩ := exists_of_check h
  constructor
  · intro hneeded
    rw [checkSchema, if_pos hneeded] at hschema
    obtain ⟨schema, hname, -⟩ := exists_of_bind_eq_ok hschema
    cases hgiven : r.schema with
    | text name => exact ⟨name, rfl⟩
    | _ =>
      rw [hgiven] at hname
      cases hname
  · intro hcontainer hnone
    have hempty : r.objects.isEmpty = true := by
      rw [objects_of_checkNames hnames]
      exact List.isEmpty_iff.2 hnone
    rw [checkObjects, hcontainer, if_neg Bool.false_ne_true, hempty] at hobjects
    have hbulk := Declaration.of_ensure hobjects
    rwa [Bool.not_true, Bool.or_false] at hbulk

/-- What is accepted names a schema where the kind has one, and objects unless all can be meant. -/
theorem named_of_check {r : GrantRequest} {declared : DeclaredGrant}
    (h : r.check = .ok declared) (hinside : declared.kind.inSchema = true) :
    (∃ schema, declared.targetSchema = some schema) ∧
      (declared.targets = [] → declared.kind.catalog.plural.isSome = true) := by
  -- two facts on the table of kinds
  have hbulk : ∀ kind ∈ ObjectKind.all, kind.isBulk = true → kind.catalog.plural.isSome = true := by
    decide
  have hcontainer : ∀ kind ∈ ObjectKind.all, kind.inSchema = true → kind.isContainer = false := by
    decide
  obtain ⟨hschema, hobjects⟩ := objects_of_check h
  obtain ⟨_, _, objects, -, -, -, -, -, -, rfl⟩ := exists_of_check h
  have hinside : r.kind.inSchema = true := hinside
  have hnotContainer : r.kind.isContainer = false := hcontainer _ (ObjectKind.mem_all _) hinside
  constructor
  · obtain ⟨name, hname⟩ := hschema (by rw [hinside, Bool.true_or])
    unfold DeclaredGrant.targetSchema DeclaredGrant.schemaName
    rw [if_pos hinside, hname]
    exact ⟨name, rfl⟩
  · intro htargets
    refine hbulk _ (ObjectKind.mem_all _) (hobjects hnotContainer ?_)
    rw [← htargets]
    unfold DeclaredGrant.targets
    cases hkind : r.kind <;> first | rfl | (rw [hkind] at hnotContainer; cases hnotContainer)

end GrantRequest

namespace DeclaredGrant

open Sql

/-- A statement about an accepted grant can be written, and ends with the grantee. -/
theorem exists_sql {r : GrantRequest} {declared : DeclaredGrant} (hcheck : r.check = .ok declared)
    (direction : Direction) {listed : List String}
    (hlisted : ∀ token ∈ listed, AclItem.isPrivilege token = true) (grantOption : Flag) :
    ∃ text, (declared.statement direction listed grantOption).sql = .ok text ∧
      EndsWithGrantee (grantee declared.role) text := by
  obtain ⟨privileges, hprivileges⟩ := exists_privilegeList hlisted
  obtain ⟨objects, hobjects⟩ : ∃ objects, Sql.targets ⟨direction, declared.kind, declared.role,
      listed.map some, declared.targetSchema, declared.targets.map some, grantOption⟩ =
        .ok objects :=
    exists_targets rfl (fun hinside => (GrantRequest.named_of_check hcheck hinside).1)
      fun hinside => (GrantRequest.named_of_check hcheck hinside).2
  refine ⟨"" ++ transfer direction (privileges ++ " ON " ++ objects) (grantee declared.role) ++
    optionClause "GRANT" direction grantOption, ?_, endsWithGrantee_of_transfer _ _ _ _ _⟩
  unfold statement Statement.sql
  dsimp only
  rw [hprivileges, hobjects, String.empty_append]
  rfl

end DeclaredGrant

namespace DeclaredDefaults

open Sql

/-- Where default privileges are accepted there is a word for all objects. -/
theorem plural_of_check {r : DefaultsRequest} {declared : DeclaredDefaults}
    (hcheck : r.check = .ok declared) : declared.kind.catalog.plural.isSome = true := by
  have hdefaults : ∀ kind ∈ ObjectKind.all, kind.hasDefaultPrivileges = true →
      kind.catalog.plural.isSome = true := by
    decide
  obtain ⟨_, _, _, _, -, -, -, hkind, -, -, rfl⟩ := DefaultsRequest.exists_of_check hcheck
  exact hdefaults _ (ObjectKind.mem_all _) hkind

/-- A statement about accepted default privileges can be written, and ends with the grantee. -/
theorem exists_sql {r : DefaultsRequest} {declared : DeclaredDefaults}
    (hcheck : r.check = .ok declared) (direction : Direction) {listed : List String}
    (hlisted : ∀ token ∈ listed, AclItem.isPrivilege token = true) (grantOption : Flag) :
    ∃ text, (declared.statement direction listed grantOption).sql = .ok text ∧
      EndsWithGrantee (grantee declared.role) text := by
  obtain ⟨privileges, hprivileges⟩ := exists_privilegeList hlisted
  obtain ⟨objects, hobjects⟩ := Option.isSome_iff_exists.1 (plural_of_check hcheck)
  have hobjects : plural declared.kind = .ok objects := by
    unfold plural
    rw [hobjects]
  refine ⟨"ALTER DEFAULT PRIVILEGES FOR ROLE " ++ identifier declared.owner ++
    (declared.schema.elim "" fun schema => " IN SCHEMA " ++ identifier schema) ++ " " ++
    transfer direction (privileges ++ " ON " ++ objects) (grantee declared.role) ++
    optionClause "GRANT" direction grantOption, ?_, endsWithGrantee_of_transfer _ _ _ _ _⟩
  unfold statement Statement.sql
  dsimp only
  rw [hprivileges, hobjects]
  cases declared.schema <;> rfl

end DeclaredDefaults

/-! ## 4. Plans -/

namespace DeclaredPrivileges

/-- The role that the privileges are for. -/
def role : DeclaredPrivileges → String
  | .grant declared => declared.role
  | .defaults declared => declared.role

/-- The statements that take everything away. -/
def revokePlan : DeclaredPrivileges → List Statement
  | .grant declared => declared.revokePlan
  | .defaults declared => declared.revokePlan

/-- A statement about the privileges. -/
def statement : DeclaredPrivileges → Direction → List String → Flag → Statement
  | .grant declared => declared.statement
  | .defaults declared => declared.statement

/-- The tokens that are declared. -/
def privileges : DeclaredPrivileges → TextSet
  | .grant declared => declared.privileges
  | .defaults declared => declared.privileges

/-- A plan takes everything away and then gives what is declared, unless that is nothing. -/
theorem exists_statement_of_mem {declared : DeclaredPrivileges} {s : Statement}
    (hs : s ∈ declared.plan ∨ s ∈ declared.revokePlan) :
    (∃ grantOption, s = declared.statement .revoke [] grantOption) ∨
      ∃ grantOption,
        s = declared.statement .grant (Privilege.listed declared.privileges) grantOption := by
  -- a plan clears and then grants, so it has statements of two shapes
  have hplan {statement : Direction → List String → Flag → Statement} {privileges : TextSet}
      {grantOption : Flag} (hs : s ∈ Privilege.replace statement privileges grantOption) :
      (∃ flag, s = statement .revoke [] flag) ∨
        ∃ flag, s = statement .grant (Privilege.listed privileges) flag :=
    (Privilege.eq_or_eq_of_mem_replace hs).imp (fun h => ⟨_, h⟩) fun h => ⟨_, h⟩
  cases declared with
  | grant declared =>
    rcases hs with hs | hs
    · exact hplan hs
    · exact .inl ⟨_, List.mem_singleton.1 hs⟩
  | defaults declared =>
    rcases hs with hs | hs
    · exact hplan hs
    · exact .inl ⟨_, List.mem_singleton.1 hs⟩

end DeclaredPrivileges

namespace PrivilegeRequest

open Sql

/-- A role that is accepted has a name. -/
theorem role_ne_empty_of_check {request : PrivilegeRequest} {declared : DeclaredPrivileges}
    (h : request.check = .ok declared) : declared.role ≠ "" := by
  -- the empty text is refused as a name
  have hname : ∀ {given : Value} {role : String},
      Declaration.nameIn given "role" = .ok role → role ≠ "" := by
    rintro given role hrole rfl
    cases given with
    | text name =>
      have hempty := Declaration.eq_of_nameIn hrole
      subst hempty
      cases hrole
    | _ => cases hrole
  cases request with
  | grant r =>
    obtain ⟨_, hcheck, rfl⟩ := exists_of_map_eq_ok h
    obtain ⟨_, _, _, hrole, -, -, -, -, -, rfl⟩ := GrantRequest.exists_of_check hcheck
    exact hname hrole
  | defaults r =>
    obtain ⟨_, hcheck, rfl⟩ := exists_of_map_eq_ok h
    obtain ⟨_, _, _, _, hrole, -, -, -, -, -, rfl⟩ := DefaultsRequest.exists_of_check hcheck
    exact hname hrole

/-- Every statement of the plans lists privileges that have a letter, or none. -/
theorem exists_listed_of_mem {request : PrivilegeRequest} {declared : DeclaredPrivileges}
    (h : request.check = .ok declared) {s : Statement}
    (hs : s ∈ declared.plan ∨ s ∈ declared.revokePlan) :
    ∃ direction listed grantOption, s = declared.statement direction listed grantOption ∧
      direction.word.isSome = true ∧ ∀ token ∈ listed, AclItem.isPrivilege token = true := by
  rcases DeclaredPrivileges.exists_statement_of_mem hs with ⟨flag, rfl⟩ | ⟨flag, rfl⟩
  · exact ⟨_, [], flag, rfl, rfl, fun _ htoken => nomatch htoken⟩
  · refine ⟨_, _, flag, rfl, rfl, ?_⟩
    have hlisted := Wanted.isPrivilege_of_listed (isValid_of_check h)
    cases declared <;> exact hlisted

/-- Every statement of the plans can be written, and ends with the grantee. -/
theorem exists_sql_of_mem {request : PrivilegeRequest} {declared : DeclaredPrivileges}
    (h : request.check = .ok declared) {s : Statement}
    (hs : s ∈ declared.plan ∨ s ∈ declared.revokePlan) :
    ∃ text, s.sql = .ok text ∧ EndsWithGrantee (grantee declared.role) text := by
  obtain ⟨direction, listed, grantOption, rfl, -, hlisted⟩ := exists_listed_of_mem h hs
  cases request with
  | grant r =>
    obtain ⟨checked, hcheck, rfl⟩ := exists_of_map_eq_ok h
    exact DeclaredGrant.exists_sql hcheck direction hlisted grantOption
  | defaults r =>
    obtain ⟨checked, hcheck, rfl⟩ := exists_of_map_eq_ok h
    exact DeclaredDefaults.exists_sql hcheck direction hlisted grantOption

/-- The statements of the plans are for PUBLIC when the role is `public` in some case, or a padded
name that is read as PUBLIC, and are for exactly this one role otherwise. -/
theorem only_padding_widens_to_public {request : PrivilegeRequest} {declared : DeclaredPrivileges}
    (hcheck : request.check = .ok declared) {s : Statement}
    (hs : s ∈ declared.plan ∨ s ∈ declared.revokePlan) :
    ∃ text, s.sql = .ok text ∧
      (EndsWithGrantee "PUBLIC" text ↔
        Text.lower declared.role = "public" ∨ Role.IsPaddedPublic declared.role) ∧
      (EndsWithGrantee (identifier declared.role) text ↔
        ¬ (Text.lower declared.role = "public" ∨ Role.IsPaddedPublic declared.role)) := by
  obtain ⟨text, hsql, hends⟩ := exists_sql_of_mem hcheck hs
  refine ⟨text, hsql, ?_⟩
  rw [← Role.isPublic_iff (role_ne_empty_of_check hcheck)]
  -- the text is for one of the two, and never for both
  by_cases hpublic : Role.isPublic declared.role = true
  · have hword : grantee declared.role = "PUBLIC" := if_pos hpublic
    rw [hword] at hends
    exact ⟨iff_of_true hends hpublic,
      iff_of_false (fun hrole => hrole.not_public hends) (not_not_intro hpublic)⟩
  · have hquoted : grantee declared.role = identifier declared.role := if_neg hpublic
    rw [hquoted] at hends
    exact ⟨iff_of_false hends.not_public hpublic, iff_of_true hends hpublic⟩

/-- A request that the role of this name may read a table. -/
def usersReadableBy (role : String) : PrivilegeRequest :=
  .grant {
    role := .text role
    database := .text "app"
    kind := .table
    privileges := .ofList ["SELECT"]
    schema := .text "s"
    objects := .texts (.ofList ["users"])
    grantOption := .off }

/-- The grant that this request declares. -/
def usersGrantTo (role : String) : DeclaredGrant where
  role := role
  database := "app"
  kind := .table
  privileges := .ofList ["SELECT"]
  schema := .text "s"
  objects := .ofList ["users"]
  grantOption := .off

theorem capital_public_is_public :
    (usersReadableBy "Public").check = .ok (.grant (usersGrantTo "Public")) ∧
      (usersGrantTo "Public").statement .revoke [] .off ∈ (usersGrantTo "Public").revokePlan ∧
      ∃ text, ((usersGrantTo "Public").statement .revoke [] .off).sql = .ok text ∧
        EndsWithGrantee "PUBLIC" text := by
  have hcheck : (usersReadableBy "Public").check = .ok (.grant (usersGrantTo "Public")) := by rfl
  have hmem : (usersGrantTo "Public").statement .revoke [] .off ∈
      (usersGrantTo "Public").revokePlan := List.mem_singleton.2 rfl
  obtain ⟨text, hsql, hpublic, -⟩ := only_padding_widens_to_public hcheck (.inr hmem)
  exact ⟨hcheck, hmem, text, hsql, hpublic.2 (.inl (by decide))⟩

/-- A role whose name is a blank is not `public`, and yet everybody may read its table. -/
theorem blank_role_is_public :
    (usersReadableBy " ").check = .ok (.grant (usersGrantTo " ")) ∧
      (usersGrantTo " ").plan.map Statement.sql =
        [.ok "REVOKE ALL PRIVILEGES ON TABLE \"s\".\"users\" FROM PUBLIC",
          .ok "GRANT SELECT ON TABLE \"s\".\"users\" TO PUBLIC"] ∧
      Text.lower " " ≠ "public" := by
  refine ⟨rfl, rfl, ?_⟩
  decide

end PrivilegeRequest

end PgGrants
