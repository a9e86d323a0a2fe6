/-
Access control lists, as the server keeps them: for every role key, what privileges the role holds
on one object and which of them it may grant on. A role without an entry and a role whose entry is
empty are not told apart, so a list is a total function.

A statement changes the rights of the one role that it addresses. The rest of the theory uses that:
what a list of statements does to a key is what its statements for that key do (`run_apply`), and
statements that are made key by key act on each key by themselves (`rightsAfter_flatMap`).
-/
import Mathlib.Logic.Function.Basic
import PgGrants.Plan

set_option autoImplicit false

namespace PgGrants

/-! ## 1. What a role holds -/

/-- The privileges of a role on an object, and those that it may grant on. -/
@[ext] structure Rights where
  privileges : TextSet
  grantOptions : TextSet
deriving DecidableEq

namespace Rights

/-- No privilege. -/
def none : Rights := ⟨∅, ∅⟩

/-- The rights of either. -/
def add (r s : Rights) : Rights :=
  ⟨r.privileges ∪ s.privileges, r.grantOptions ∪ s.grantOptions⟩

/-- The rights without some privileges. A privilege that is taken away takes its grant option with
it. -/
def remove (r : Rights) (tokens : TextSet) : Rights :=
  ⟨r.privileges \ tokens, r.grantOptions \ tokens⟩

/-- Grant options are only held on privileges that are held. -/
def IsProper (r : Rights) : Prop := r.grantOptions ⊆ r.privileges

theorem isProper_none : none.IsProper := fun _ hx => hx

theorem isProper_add {r s : Rights} (hr : r.IsProper) (hs : s.IsProper) : (r.add s).IsProper := by
  intro x hx
  rw [add, TextSet.mem_union] at hx ⊢
  exact hx.imp (hr x) (hs x)

theorem isProper_remove {r : Rights} (hr : r.IsProper) (tokens : TextSet) :
    (r.remove tokens).IsProper := by
  intro x hx
  rw [remove, TextSet.mem_diff] at hx ⊢
  exact ⟨hr x hx.1, hx.2⟩

@[simp] theorem remove_empty (r : Rights) : r.remove ∅ = r := by
  ext x <;> simp [remove]

@[simp] theorem add_none (r : Rights) : r.add none = r := by
  ext x <;> simp [add, none]

@[simp] theorem none_add (r : Rights) : none.add r = r := by
  ext x <;> simp [add, none]

/-- Taking every privilege away that is held leaves nothing. -/
theorem remove_self {r : Rights} (hr : r.IsProper) : r.remove r.privileges = none := by
  ext x
  · simp [remove, none]
  · have hx := hr x
    -- a grant option that is left would be on a privilege that is gone
    simp only [remove, none, TextSet.mem_diff, TextSet.not_mem_empty, iff_false]
    exact fun hheld => hheld.2 (hx hheld.1)

end Rights

/-! ## 2. Lists of rights -/

/-- What every role holds on an object, by role key. -/
abbrev Acl := String → Rights

namespace Acl

/-- The list with the rights of one role changed. -/
def alter (acl : Acl) (key : String) (change : Rights → Rights) : Acl :=
  Function.update acl key (change (acl key))

/-- What one role holds goes over to another. -/
def handOver (acl : Acl) (giver taker : String) : Acl :=
  Function.update (Function.update acl giver .none) taker ((acl taker).add (acl giver))

theorem alter_apply (acl : Acl) (key key' : String) (change : Rights → Rights) :
    acl.alter key change key' = if key = key' then change (acl key') else acl key' := by
  rw [alter, Function.update_apply]
  by_cases h : key = key'
  · simp [h]
  · simp [h, Ne.symm h]

/-- To hand over touches two roles only, and leaves nothing to the giver. -/
theorem handOver_apply (acl : Acl) (giver taker key : String) :
    acl.handOver giver taker key =
      if key = taker then (acl taker).add (acl giver)
      else if key = giver then .none
      else acl key := by
  rw [handOver, Function.update_apply, Function.update_apply]

end Acl

namespace Holding

/-- What the role holds, whatever it is called. -/
def rights (h : Holding) : Rights := ⟨h.privileges, h.grantOptions⟩

theorem isProper_rights (h : Holding) : h.rights.IsProper := h.options_subset

theorem sameRights_iff {h k : Holding} : h.sameRights k = true ↔ h.rights = k.rights := by
  simp [sameRights, rights]

end Holding

/-- The access control list that a policy describes. -/
def Policy.acl (p : Policy) : Acl := fun key => ((p.find? key).map Holding.rights).getD .none

theorem Policy.acl_apply (p : Policy) (key : String) :
    p.acl key = ((p.find? key).map Holding.rights).getD .none := rfl

theorem Policy.isProper_acl (p : Policy) (key : String) : (p.acl key).IsProper := by
  rw [acl_apply]
  cases p.find? key with
  | none => exact Rights.isProper_none
  | some h => exact h.isProper_rights

/-! ## 3. What statements do -/

/-- The privileges that a statement is about, all of the kind's when it names none. -/
def PrivilegeChange.tokens (change : PrivilegeChange) : TextSet :=
  if change.privileges.isEmpty then change.kind.vocabulary
  else .ofList (change.privileges.filterMap id)

/-- What a statement does to the rights of the role that it addresses. -/
def PrivilegeChange.effect (change : PrivilegeChange) (r : Rights) : Rights :=
  if change.direction.isGrant then
    r.add ⟨change.tokens, if change.grantOption.isSet then change.tokens else ∅⟩
  else r.remove change.tokens

/-- The statement is about one object, which is a global one or a schema. -/
def PrivilegeChange.isAbout (change : PrivilegeChange) (kind : ObjectKind)
    (name : Option String) : Bool :=
  change.kind == kind && change.schema.isNone && change.objects.contains name

theorem PrivilegeChange.isProper_effect (change : PrivilegeChange) {r : Rights}
    (hr : r.IsProper) : (change.effect r).IsProper := by
  unfold effect
  split
  · refine Rights.isProper_add hr fun x hx => ?_
    by_cases hgrant : change.grantOption.isSet = true
    · simpa [hgrant] using hx
    · simp [hgrant] at hx
  · exact Rights.isProper_remove hr _

section Effects

variable (kind : ObjectKind) (name : Option String)

/-- What a statement does to the access control list of an object. -/
def Statement.changeAcl (acl : Acl) : Statement → Acl
  | .privilege change =>
    if change.isAbout kind name then
      acl.alter (Role.key (Role.orPublic change.role)) change.effect
    else acl
  | _ => acl

/-- The access control list of an object after some statements. -/
def Acl.run (acl : Acl) (statements : List Statement) : Acl :=
  statements.foldl (Statement.changeAcl kind name) acl

/-- What a statement does to the rights of one role on an object. -/
def Statement.changeRights (key : String) (r : Rights) : Statement → Rights
  | .privilege change =>
    if change.isAbout kind name && Role.key (Role.orPublic change.role) == key then
      change.effect r
    else r
  | _ => r

/-- The rights of one role on an object after some statements. -/
def Rights.after (key : String) (r : Rights) (statements : List Statement) : Rights :=
  statements.foldl (Statement.changeRights kind name key) r

theorem Statement.changeAcl_apply (acl : Acl) (statement : Statement) (key : String) :
    statement.changeAcl kind name acl key =
      statement.changeRights kind name key (acl key) := by
  cases statement with
  | privilege change =>
    unfold changeAcl changeRights
    by_cases habout : change.isAbout kind name = true
    · simp [habout, Acl.alter_apply]
    · simp [habout]
  | defaultPrivilege _ => rfl
  | membership _ => rfl
  | schemaOwner _ => rfl

/-- Every key has a run of its own. -/
theorem Acl.run_apply (acl : Acl) (statements : List Statement) (key : String) :
    acl.run kind name statements key = (acl key).after kind name key statements := by
  induction statements generalizing acl with
  | nil => rfl
  | cons statement rest ih =>
    show run kind name (statement.changeAcl kind name acl) rest key = _
    -- the rest of the run starts, at this key, from what the first statement made of it
    rw [ih, Statement.changeAcl_apply]
    rfl

theorem Rights.after_append (key : String) (r : Rights) (l m : List Statement) :
    r.after kind name key (l ++ m) = (r.after kind name key l).after kind name key m :=
  List.foldl_append

/-- The statement addresses the role with the key. -/
def Statement.isFor (key : String) (statement : Statement) : Prop :=
  Role.key (Role.orPublic statement.role) = key

/-- Statements for other roles do nothing to a role. -/
theorem Rights.after_of_ne {key key' : String} (hne : key' ≠ key) {statements : List Statement}
    (hfor : ∀ s ∈ statements, s.isFor key') (r : Rights) :
    r.after kind name key statements = r := by
  induction statements generalizing r with
  | nil => rfl
  | cons statement rest ih =>
    -- only statements about privileges read the key; the others do nothing to any role
    have hhead : statement.changeRights kind name key r = r := by
      have hkey := hfor statement List.mem_cons_self
      cases statement with
      | privilege change =>
        have hne' : ¬ Role.key (Role.orPublic change.role) = key := fun h => hne (hkey.symm.trans h)
        simp [Statement.changeRights, hne']
      | defaultPrivilege _ => rfl
      | membership _ => rfl
      | schemaOwner _ => rfl
    show (statement.changeRights kind name key r).after kind name key rest = r
    rw [hhead]
    exact ih (fun s hs => hfor s (List.mem_cons_of_mem _ hs)) r

/-- Statements made key by key, for different keys, do to each role what those made for its key do.
The induction is on the keys: the role's own key occurs once, and every other one is passed over. -/
theorem Rights.after_flatMap {keys : List String} (hkeys : keys.Nodup)
    {make : String → List Statement} (hmake : ∀ k, ∀ s ∈ make k, s.isFor k) (key : String)
    (r : Rights) :
    r.after kind name key (keys.flatMap make) =
      if key ∈ keys then r.after kind name key (make key) else r := by
  induction keys generalizing r with
  | nil => rfl
  | cons k rest ih =>
    rw [List.nodup_cons] at hkeys
    rw [List.flatMap_cons, after_append, ih hkeys.2]
    -- the keys are distinct, so once this one was met the rest passes it over
    by_cases hk : k = key
    · subst hk
      simp [hkeys.1]
    · rw [after_of_ne kind name hk (hmake k)]
      simp [Ne.symm hk]

end Effects

/-! ## 4. Lists that a policy can describe -/

/-- The list is that of a policy: it has finitely many entries, and grant options only where the
privileges are. -/
def Acl.IsHeld (acl : Acl) : Prop := ∃ p : Policy, p.acl = acl

theorem Acl.IsHeld.isProper {acl : Acl} (h : acl.IsHeld) (key : String) : (acl key).IsProper := by
  obtain ⟨p, rfl⟩ := h
  exact p.isProper_acl key

/-- Any proper rights can be put in the place of a role's. The holding that was there is erased
first, since adding joins. -/
theorem Acl.IsHeld.update {acl : Acl} (h : acl.IsHeld) (role : Option String) {r : Rights}
    (hr : r.IsProper) : Acl.IsHeld (Function.update acl (Role.key (Role.orPublic role)) r) := by
  obtain ⟨p, rfl⟩ := h
  let new : Holding := ⟨role, r.privileges, r.grantOptions, hr⟩
  refine ⟨(p.eraseAll [Role.orPublic role]).add new, funext fun key => ?_⟩
  have hkey : new.key = Role.key (Role.orPublic role) := rfl
  rw [Policy.acl_apply, Policy.find?_add, Policy.find?_eraseAll, hkey, Function.update_apply]
  by_cases h : Role.key (Role.orPublic role) = key
  · simp [h, new, Holding.rights]
  · simp [h, Ne.symm h, Policy.acl_apply]

theorem Acl.IsHeld.handOver {acl : Acl} (h : acl.IsHeld) (giver taker : Option String) :
    (acl.handOver (Role.key (Role.orPublic giver)) (Role.key (Role.orPublic taker))).IsHeld := by
  rw [Acl.handOver]
  exact (h.update giver Rights.isProper_none).update taker
    (Rights.isProper_add (h.isProper _) (h.isProper _))

theorem Acl.IsHeld.changeAcl {acl : Acl} (h : acl.IsHeld) (kind : ObjectKind)
    (name : Option String) (statement : Statement) :
    (statement.changeAcl kind name acl).IsHeld := by
  cases statement with
  | privilege change =>
    rw [Statement.changeAcl]
    by_cases habout : change.isAbout kind name = true
    · rw [if_pos habout, Acl.alter]
      exact h.update change.role (change.isProper_effect (h.isProper _))
    · rw [if_neg habout]
      exact h
  | defaultPrivilege _ => exact h
  | membership _ => exact h
  | schemaOwner _ => exact h

end PgGrants
