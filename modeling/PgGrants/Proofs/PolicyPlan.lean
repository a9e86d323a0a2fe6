/-
What a policy plan does to an access control list.

A plan is made in four passes over the roles: it takes away from dropped roles, takes away from
changed ones, gives to new roles, and gives to changed ones. Every pass is made key by key
(`planTo_eq`), so a plan acts on each role by itself, and there it comes to what `Rights.led` says,
whatever the role holds at first (`after_planTo`). From that follow the two ways in which a plan can
have nothing to do: both policies give every role the same rights, or they do so but for one role
that holds nothing yet.
-/
import PgGrants.Proofs.Acl

set_option autoImplicit false

namespace PgGrants

/-! ## 1. Plans between policies -/

/-- The plan from one policy of an object to another, when it is known which roles exist. -/
def Policy.planTo (old new : Policy) (kind : ObjectKind) (name : Option String)
    (exists? : Option String → Bool) : List Statement :=
  Id.run ((PolicyDelta.ofPolicies old new).plan kind name fun role => pure (exists? role))

/-- What a plan from one holding to another makes of the rights of their role, whatever these are.
The two say the same, or the old privileges go and the new rights come; from a role that is gone
nothing is taken. -/
def Rights.led (r : Rights) (exists? : Option String → Bool) :
    Option Holding → Option Holding → Rights
  | some old, some new =>
    if old.rights = new.rights then r else (r.remove old.privileges).add new.rights
  | .none, some new => r.add new.rights
  | some old, .none =>
    if old.isPublic || exists? old.role then r.remove old.privileges else r
  | .none, .none => r

/-! ## 2. The statements about one holding -/

section Plans

variable (kind : ObjectKind) (name : Option String)

namespace Holding

/-- A statement that names privileges gives or takes just these. -/
theorem changeRights_statement (h : Holding) (direction : Direction) {tokens : TextSet}
    (htokens : tokens.isEmpty = false) (grantOption : Bool) (r : Rights) :
    (h.statement direction kind name tokens grantOption).changeRights kind name h.key r =
      if direction.isGrant then r.add ⟨tokens, if grantOption then tokens else ∅⟩
      else r.remove tokens := by
  -- a statement without any privilege would be about all of them
  have hsome : (tokens.toList.map some).isEmpty = false := by
    rw [List.isEmpty_map]
    exact htokens
  have hnamed : TextSet.ofList ((tokens.toList.map some).filterMap id) = tokens := by simp
  have hkey : Role.key (Role.orPublic h.role) = h.key := rfl
  unfold statement Statement.changeRights PrivilegeChange.isAbout PrivilegeChange.effect
    PrivilegeChange.tokens
  simp only [hsome, hnamed, hkey]
  cases grantOption <;> simp

theorem eq_of_mem_revokes {h : Holding} {s : Statement} (hs : s ∈ h.revokes kind name) :
    s = h.statement .revoke kind name h.privileges false := by
  unfold revokes at hs
  by_cases hempty : h.privileges.isEmpty = true
  · simp [hempty] at hs
  · rwa [if_neg hempty, List.mem_singleton] at hs

theorem exists_of_mem_grants {h : Holding} {s : Statement} (hs : s ∈ h.grants kind name) :
    ∃ tokens grantOption, s = h.statement .grant kind name tokens grantOption := by
  unfold grants at hs
  rw [List.mem_append] at hs
  rcases hs with hs | hs
  · by_cases hempty : h.plain.isEmpty = true
    · simp [hempty] at hs
    · rw [if_neg hempty, List.mem_singleton] at hs
      exact ⟨_, _, hs⟩
  · by_cases hempty : h.grantOptions.isEmpty = true
    · simp [hempty] at hs
    · rw [if_neg hempty, List.mem_singleton] at hs
      exact ⟨_, _, hs⟩

theorem isFor_revokes (h : Holding) : ∀ s ∈ h.revokes kind name, s.isFor h.key := by
  intro s hs
  rw [eq_of_mem_revokes kind name hs]
  rfl

theorem isFor_grants (h : Holding) : ∀ s ∈ h.grants kind name, s.isFor h.key := by
  intro s hs
  obtain ⟨tokens, grantOption, rfl⟩ := exists_of_mem_grants kind name hs
  rfl

end Holding

namespace Holding

/-- To take everything away that a holding has is one statement, or none when that is nothing. -/
theorem after_revokes (h : Holding) (r : Rights) :
    r.after kind name h.key (h.revokes kind name) = r.remove h.privileges := by
  unfold revokes
  by_cases hempty : h.privileges.isEmpty = true
  · have hnothing : h.privileges = ∅ := TextSet.isEmpty_iff.1 hempty
    rw [if_pos hempty, hnothing, Rights.remove_empty]
    rfl
  · rw [if_neg hempty]
    show (h.statement .revoke kind name h.privileges false).changeRights kind name h.key r = _
    rw [h.changeRights_statement kind name _ (by simpa using hempty)]
    rfl

/-- To give what a holding has is at most two statements. Whoever gets a grant option gets the
privilege with it, so the two together give everything. -/
theorem after_grants (h : Holding) (r : Rights) :
    r.after kind name h.key (h.grants kind name) = r.add h.rights := by
  have hplain : r.after kind name h.key
      (if h.plain.isEmpty then [] else [h.statement .grant kind name h.plain false]) =
        r.add ⟨h.plain, ∅⟩ := by
    by_cases hempty : h.plain.isEmpty = true
    · rw [if_pos hempty, TextSet.isEmpty_iff.1 hempty]
      exact r.add_none.symm
    · rw [if_neg hempty]
      exact h.changeRights_statement kind name _ (by simpa using hempty) false r
  have hoptions : ∀ r : Rights, r.after kind name h.key
      (if h.grantOptions.isEmpty then []
        else [h.statement .grant kind name h.grantOptions true]) =
        r.add ⟨h.grantOptions, h.grantOptions⟩ := by
    intro r
    by_cases hempty : h.grantOptions.isEmpty = true
    · rw [if_pos hempty, TextSet.isEmpty_iff.1 hempty]
      exact r.add_none.symm
    · rw [if_neg hempty]
      exact h.changeRights_statement kind name _ (by simpa using hempty) true r
  -- it is left to see that the privileges of the two statements are those of the holding
  rw [grants, Rights.after_append, hplain, hoptions]
  ext x
  · have hx := h.options_subset x
    by_cases hoption : x ∈ h.grantOptions
    · simp [Rights.add, rights, hoption, hx hoption]
    · simp [Rights.add, rights, plain, hoption]
  · simp [Rights.add, rights]

end Holding

/-! ## 3. The four passes -/

namespace RoleChange

/-- What the first pass takes away: everything from a dropped role that is still there. -/
def dropRevokes (exists? : Option String → Bool) : RoleChange → List Statement
  | .dropped old => if old.isPublic || exists? old.role then old.revokes kind name else []
  | _ => []

/-- What the second pass takes away: everything from a role that changes. -/
def updateRevokes : RoleChange → List Statement
  | .updated old _ => old.revokes kind name
  | _ => []

/-- What the third pass gives: everything to a new role. -/
def addGrants : RoleChange → List Statement
  | .added new => new.grants kind name
  | _ => []

/-- What the fourth pass gives: everything to a role that changes. -/
def updateGrants : RoleChange → List Statement
  | .updated _ new => new.grants kind name
  | _ => []

/-- The four passes, in order. -/
def passes (exists? : Option String → Bool) : List (RoleChange → List Statement) :=
  [dropRevokes kind name exists?, updateRevokes kind name, addGrants kind name,
    updateGrants kind name]

/-- The holdings in a change are those of the role with the key. -/
def IsOf (key : String) : RoleChange → Prop
  | .dropped old => old.key = key
  | .added new => new.key = key
  | .updated old new => old.key = key ∧ new.key = key
  | .unchanged new => new.key = key

/-- Every pass makes statements for the role that changes, and for no other. -/
theorem isFor_pass {key : String} {change : RoleChange} (hof : change.IsOf key)
    (exists? : Option String → Bool) {pass : RoleChange → List Statement}
    (hpass : pass ∈ passes kind name exists?) : ∀ s ∈ pass change, s.isFor key := by
  intro s hs
  simp only [passes, List.mem_cons, List.not_mem_nil, or_false] at hpass
  -- each pass looks at one class of changes and makes nothing of the others
  rcases hpass with rfl | rfl | rfl | rfl
  · cases change <;> simp only [dropRevokes, List.not_mem_nil] at hs
    split at hs
    · exact hof ▸ Holding.isFor_revokes kind name _ s hs
    · simp at hs
  · cases change <;> simp only [updateRevokes, List.not_mem_nil] at hs
    exact hof.1 ▸ Holding.isFor_revokes kind name _ s hs
  · cases change <;> simp only [addGrants, List.not_mem_nil] at hs
    exact hof ▸ Holding.isFor_grants kind name _ s hs
  · cases change <;> simp only [updateGrants, List.not_mem_nil] at hs
    exact hof.2 ▸ Holding.isFor_grants kind name _ s hs

end RoleChange

namespace Policy

variable (old new : Policy)

/-- How the holding with the key changes between two policies. -/
def change? (key : String) : Option RoleChange :=
  RoleChange.ofHoldings? (old.find? key) (new.find? key)

/-- The statements of one pass for the role with the key. -/
def passAt (pass : RoleChange → List Statement) (key : String) : List Statement :=
  (old.change? new key).elim [] pass

/-- The statements of one pass over all roles. -/
def passOver (pass : RoleChange → List Statement) : List Statement :=
  (old.keys ∪ new.keys).toList.flatMap (old.passAt new pass)

end Policy

theorem Policy.key_of_find? {p : Policy} {key : String} {h : Holding}
    (hfind : p.find? key = some h) : h.key = key := by
  unfold find? at hfind
  have hkey := List.find?_some hfind
  rwa [beq_iff_eq] at hkey

theorem Policy.isOf_change? {old new : Policy} {key : String} {change : RoleChange}
    (hchange : old.change? new key = some change) : change.IsOf key := by
  unfold change? at hchange
  -- `change?` only sees what was found under the key, in one policy or both
  cases hold : old.find? key with
  | none =>
    cases hnew : new.find? key with
    | none => simp [hold, hnew, RoleChange.ofHoldings?] at hchange
    | some n =>
      simp only [hold, hnew, RoleChange.ofHoldings?, Option.some.injEq] at hchange
      subst hchange
      exact key_of_find? hnew
  | some o =>
    cases hnew : new.find? key with
    | none =>
      simp only [hold, hnew, RoleChange.ofHoldings?, Option.some.injEq] at hchange
      subst hchange
      exact key_of_find? hold
    | some n =>
      simp only [hold, hnew, RoleChange.ofHoldings?] at hchange
      split at hchange
      · simp only [Option.some.injEq] at hchange
        subst hchange
        exact key_of_find? hnew
      · simp only [Option.some.injEq] at hchange
        subst hchange
        exact ⟨key_of_find? hold, key_of_find? hnew⟩

theorem flatMap_filterMap {α β γ : Type} (l : List α) (f : α → Option β)
    (g : β → List γ) : (l.filterMap f).flatMap g = l.flatMap fun x => (f x).elim [] g := by
  induction l with
  | nil => rfl
  | cons x rest ih =>
    rw [List.filterMap_cons, List.flatMap_cons]
    cases f x with
    | none => exact ih
    | some y =>
      rw [List.flatMap_cons, ih]
      rfl

/-- Where only one member of a list without repetitions is made into anything, that is all that the
list is made into. -/
theorem flatMap_eq_of_only {α β : Type} [DecidableEq α] {l : List α} (hl : l.Nodup)
    {f : α → List β} {x : α} (hothers : ∀ y, y ≠ x → f y = []) :
    l.flatMap f = if x ∈ l then f x else [] := by
  induction l with
  | nil => rfl
  | cons y rest ih =>
    rw [List.nodup_cons] at hl
    rw [List.flatMap_cons, ih hl.2]
    by_cases hy : y = x
    · subst hy
      simp [hl.1]
    · rw [hothers y hy]
      simp [Ne.symm hy]

/-- A class of changes, each made into statements, is a pass. -/
theorem Policy.flatMap_class {α : Type} (old new : Policy) (cls : RoleChange → Option α)
    (make : α → List Statement) {pass : RoleChange → List Statement}
    (hpass : ∀ change, pass change = (cls change).elim [] make) :
    ((PolicyDelta.changes old new).filterMap cls).flatMap make = old.passOver new pass := by
  have hfun : pass = fun change => (cls change).elim [] make := funext hpass
  rw [flatMap_filterMap, ← hfun, PolicyDelta.changes, flatMap_filterMap]
  rfl

/-- Where it is known which roles exist, the dropped holdings are filtered by that. -/
theorem PolicyDelta.stillThere_eq_filter (exists? : Option String → Bool) (l : List Holding) :
    Id.run (stillThere (fun role => pure (exists? role)) l) =
      l.filter fun h => h.isPublic || exists? h.role := by
  induction l with
  | nil => rfl
  | cons h rest ih =>
    rw [List.filter_cons, ← ih]
    cases hpublic : h.isPublic <;> cases hexists : exists? h.role <;>
      simp [stillThere, hpublic, hexists]

/-- A plan is its four passes, one after the other. -/
theorem Policy.planTo_eq (old new : Policy) (exists? : Option String → Bool) :
    old.planTo new kind name exists? =
      (old.passOver new (RoleChange.dropRevokes kind name exists?) ++
        old.passOver new (RoleChange.updateRevokes kind name)) ++
      (old.passOver new (RoleChange.addGrants kind name) ++
        old.passOver new (RoleChange.updateGrants kind name)) := by
  -- four classes of one list of changes; only the first is filtered once more, by which roles exist
  have hdrop : ((PolicyDelta.ofPolicies old new).dropped.filter
      (fun h => h.isPublic || exists? h.role)).flatMap (·.revokes kind name) =
        old.passOver new (RoleChange.dropRevokes kind name exists?) := by
    rw [PolicyDelta.ofPolicies, List.filter_filterMap]
    refine old.flatMap_class new _ _ fun change => ?_
    cases change with
    | dropped o =>
      cases hthere : (o.isPublic || exists? o.role) <;>
        simp [RoleChange.dropRevokes, RoleChange.dropped?, Option.filter_some, hthere]
    | added _ => rfl
    | updated _ _ => rfl
    | unchanged _ => rfl
  have hupdate : (PolicyDelta.ofPolicies old new).updated.flatMap (·.1.revokes kind name) =
      old.passOver new (RoleChange.updateRevokes kind name) :=
    old.flatMap_class new _ _ fun change => by cases change <;> rfl
  have hadd : (PolicyDelta.ofPolicies old new).added.flatMap (·.grants kind name) =
      old.passOver new (RoleChange.addGrants kind name) :=
    old.flatMap_class new _ _ fun change => by cases change <;> rfl
  have hgive : (PolicyDelta.ofPolicies old new).updated.flatMap (·.2.grants kind name) =
      old.passOver new (RoleChange.updateGrants kind name) :=
    old.flatMap_class new _ _ fun change => by cases change <;> rfl
  rw [← hdrop, ← hupdate, ← hadd, ← hgive, ← PolicyDelta.stillThere_eq_filter]
  rfl

/-! ## 4. What a plan comes to -/

theorem TextSet.nodup_toList (s : TextSet) : s.toList.Nodup := by
  refine s.ascending.imp ?_
  rintro x y hlt rfl
  exact String.lt_irrefl x hlt

/-- A role of neither policy does not change. -/
theorem Policy.change?_eq_none {old new : Policy} {key : String}
    (hkey : key ∉ (old.keys ∪ new.keys).toList) : old.change? new key = none := by
  rw [← TextSet.mem_def, TextSet.mem_union, not_or] at hkey
  have hold : old.find? key = none := by
    rw [← Option.not_isSome_iff_eq_none, Policy.find?_isSome_iff]
    exact hkey.1
  have hnew : new.find? key = none := by
    rw [← Option.not_isSome_iff_eq_none, Policy.find?_isSome_iff]
    exact hkey.2
  rw [Policy.change?, hold, hnew]
  rfl

/-- A pass over all roles does to each role what the pass makes for it. -/
theorem Policy.after_passOver (old new : Policy) (exists? : Option String → Bool)
    {pass : RoleChange → List Statement} (hpass : pass ∈ RoleChange.passes kind name exists?)
    (key : String) (r : Rights) :
    r.after kind name key (old.passOver new pass) =
      r.after kind name key (old.passAt new pass key) := by
  -- each key makes statements for its own role, which is what `after_flatMap` asks for
  have hfor : ∀ k, ∀ s ∈ old.passAt new pass k, s.isFor k := by
    intro k s hs
    rw [Policy.passAt] at hs
    cases hchange : old.change? new k with
    | none => simp [hchange] at hs
    | some change =>
      rw [hchange] at hs
      exact RoleChange.isFor_pass kind name (Policy.isOf_change? hchange) exists? hpass s hs
  rw [Policy.passOver, Rights.after_flatMap kind name (TextSet.nodup_toList _) hfor]
  by_cases hkey : key ∈ (old.keys ∪ new.keys).toList
  · rw [if_pos hkey]
  · rw [if_neg hkey, Policy.passAt, Policy.change?_eq_none hkey]
    rfl

/-- **What a plan does to one role**, whatever the role holds. -/
theorem Policy.after_planTo (old new : Policy) (exists? : Option String → Bool) (key : String)
    (r : Rights) :
    r.after kind name key (old.planTo new kind name exists?) =
      r.led exists? (old.find? key) (new.find? key) := by
  -- four runs in a row, each of which comes to its part for this key
  have hpasses : ∀ pass ∈ RoleChange.passes kind name exists?, ∀ r : Rights,
      r.after kind name key (old.passOver new pass) =
        r.after kind name key (old.passAt new pass key) :=
    fun pass hpass => old.after_passOver kind name new exists? hpass key
  simp only [RoleChange.passes, List.forall_mem_cons] at hpasses
  obtain ⟨hdrop, hupdate, hadd, hgive, -⟩ := hpasses
  rw [old.planTo_eq kind name new, Rights.after_append, Rights.after_append, Rights.after_append,
    hdrop, hupdate, hadd, hgive]
  simp only [Policy.passAt, Policy.change?]
  -- at most two of the parts are not empty, depending on where the key is found
  cases hold : old.find? key with
  | none =>
    cases hnew : new.find? key with
    | none => rfl
    | some n =>
      rw [← Policy.key_of_find? hnew]
      exact n.after_grants kind name r
  | some o =>
    cases hnew : new.find? key with
    | none =>
      have hkey := Policy.key_of_find? hold
      cases hthere : (o.isPublic || exists? o.role) with
      | false => simp [RoleChange.ofHoldings?, RoleChange.dropRevokes, Rights.led, hthere]; rfl
      | true =>
        rw [Rights.led, if_pos hthere, ← hkey, ← o.after_revokes kind name r]
        simp [RoleChange.ofHoldings?, RoleChange.dropRevokes, hthere]; rfl
    | some n =>
      have hkey := Policy.key_of_find? hold
      by_cases hsame : o.sameRights n = true
      · rw [Rights.led, if_pos (Holding.sameRights_iff.1 hsame), RoleChange.ofHoldings?,
          if_pos hsame]
        rfl
      · rw [Rights.led, if_neg (fun h => hsame (Holding.sameRights_iff.2 h)),
          RoleChange.ofHoldings?, if_neg hsame]
        -- only the second and the fourth pass have something to say here
        show (r.after kind name key (o.revokes kind name)).after kind name key
          (n.grants kind name) = _
        have htaken := o.after_revokes kind name r
        have hgiven := n.after_grants kind name (r.remove o.privileges)
        rw [hkey] at htaken
        rw [Policy.key_of_find? hnew] at hgiven
        rw [htaken, hgiven]

/-- From what the old holding says to what the new one says, unless the role is gone. -/
theorem Rights.led_of_held {exists? : Option String → Bool} {old new : Option Holding}
    (hthere : ∀ o, old = some o → new = .none → (o.isPublic || exists? o.role) = true) :
    ((old.map Holding.rights).getD .none).led exists? old new =
      (new.map Holding.rights).getD .none := by
  cases old with
  | none =>
    cases new with
    | none => rfl
    | some n => exact n.rights.none_add
  | some o =>
    -- grant options are held on held privileges only, so nothing survives taking these away
    have hgone : o.rights.remove o.privileges = .none := Rights.remove_self o.isProper_rights
    cases new with
    | none =>
      rw [led, if_pos (hthere o rfl rfl)]
      exact hgone
    | some n =>
      by_cases hsame : o.rights = n.rights
      · rw [led, if_pos hsame]
        exact hsame
      · rw [led, if_neg hsame]
        show (o.rights.remove o.privileges).add n.rights = n.rights
        rw [hgone, Rights.none_add]

/-! ## 5. Plans with nothing to do -/

namespace Holding

theorem revokes_eq_nil {h : Holding} (hnothing : h.rights = .none) :
    h.revokes kind name = [] := by
  have hempty : h.privileges = ∅ := congrArg Rights.privileges hnothing
  rw [revokes, if_pos (TextSet.isEmpty_iff.2 hempty)]

theorem grants_eq_nil {h : Holding} (hnothing : h.rights = .none) : h.grants kind name = [] := by
  have hempty : h.privileges = ∅ := congrArg Rights.privileges hnothing
  have hoptions : h.grantOptions = ∅ := congrArg Rights.grantOptions hnothing
  have hplain : h.plain = ∅ := by
    ext x
    simp [plain, hempty]
  rw [grants, if_pos (TextSet.isEmpty_iff.2 hplain), if_pos (TextSet.isEmpty_iff.2 hoptions)]
  rfl

end Holding

namespace Policy

variable {old new : Policy} {key : String}

/-- Where both policies give a role the same rights no pass has anything to say, whether the role
has an empty entry in one of them or none. -/
theorem passAt_eq_nil (hsame : old.acl key = new.acl key) (exists? : Option String → Bool)
    {pass : RoleChange → List Statement} (hpass : pass ∈ RoleChange.passes kind name exists?) :
    old.passAt new pass key = [] := by
  simp only [RoleChange.passes, List.mem_cons, List.not_mem_nil, or_false] at hpass
  rw [acl_apply, acl_apply] at hsame
  unfold passAt change?
  cases hold : old.find? key with
  | none =>
    cases hnew : new.find? key with
    | none => rfl
    | some n =>
      -- a new role is given nothing when its holding is empty, which is not the same as no holding
      have hnothing : n.rights = .none := by simpa [hold, hnew] using hsame.symm
      rcases hpass with rfl | rfl | rfl | rfl
      · rfl
      · rfl
      · exact Holding.grants_eq_nil kind name hnothing
      · rfl
  | some o =>
    cases hnew : new.find? key with
    | none =>
      have hnothing : o.rights = .none := by simpa [hold, hnew] using hsame
      rcases hpass with rfl | rfl | rfl | rfl
      · simp [RoleChange.ofHoldings?, RoleChange.dropRevokes,
          Holding.revokes_eq_nil kind name hnothing]
      · rfl
      · rfl
      · rfl
    | some n =>
      have heq : o.sameRights n = true := by
        rw [Holding.sameRights_iff]
        simpa [hold, hnew] using hsame
      rw [RoleChange.ofHoldings?, if_pos heq]
      rcases hpass with rfl | rfl | rfl | rfl <;> rfl

/-- A pass that has something to say for one role only says just that. -/
theorem passOver_eq_passAt {pass : RoleChange → List Statement}
    (hothers : ∀ k, k ≠ key → old.passAt new pass k = []) :
    old.passOver new pass = old.passAt new pass key := by
  rw [passOver, flatMap_eq_of_only (TextSet.nodup_toList _) hothers]
  by_cases hkey : key ∈ (old.keys ∪ new.keys).toList
  · rw [if_pos hkey]
  · rw [if_neg hkey, passAt, change?_eq_none hkey]
    rfl

/-- **Between policies that give every role the same rights there is nothing to do.** -/
theorem planTo_eq_nil (hsame : old.acl = new.acl) (exists? : Option String → Bool) :
    old.planTo new kind name exists? = [] := by
  -- all four passes are silent at every key
  have hnil : ∀ pass ∈ RoleChange.passes kind name exists?, old.passOver new pass = [] := by
    intro pass hpass
    rw [passOver, List.flatMap_eq_nil_iff]
    exact fun k _ => passAt_eq_nil kind name (congrFun hsame k) exists? hpass
  simp only [RoleChange.passes, List.forall_mem_cons] at hnil
  obtain ⟨hdrop, hupdate, hadd, hgive, -⟩ := hnil
  rw [planTo_eq, hdrop, hupdate, hadd, hgive]
  rfl

/-- When the two policies differ for one role only, and that one holds nothing yet, the plan is to
give it what it shall hold. -/
theorem planTo_eq_grants (hothers : ∀ k, k ≠ key → old.acl k = new.acl k)
    (hnothing : old.acl key = .none) (exists? : Option String → Bool) :
    old.planTo new kind name exists? = (new.find? key).elim [] (·.grants kind name) := by
  -- every pass comes down to what it makes for this one key
  have honly : ∀ pass ∈ RoleChange.passes kind name exists?,
      old.passOver new pass = old.passAt new pass key := by
    intro pass hpass
    exact passOver_eq_passAt fun k hk => passAt_eq_nil kind name (hothers k hk) exists? hpass
  simp only [RoleChange.passes, List.forall_mem_cons] at honly
  obtain ⟨hdrop, hupdate, hadd, hgive, -⟩ := honly
  rw [planTo_eq, hdrop, hupdate, hadd, hgive]
  rw [acl_apply] at hnothing
  unfold passAt change?
  cases hold : old.find? key with
  | none =>
    cases hnew : new.find? key with
    | none => rfl
    | some n => exact List.append_nil _
  | some o =>
    -- an empty holding is there already, and there is nothing to take away from it
    have hempty : o.rights = .none := by simpa [hold] using hnothing
    have hrevokes := Holding.revokes_eq_nil kind name hempty
    cases hnew : new.find? key with
    | none => simp [RoleChange.ofHoldings?, RoleChange.dropRevokes, RoleChange.updateRevokes,
        RoleChange.addGrants, RoleChange.updateGrants, hrevokes]
    | some n =>
      by_cases hsame : o.sameRights n = true
      · have hgrants := Holding.grants_eq_nil kind name
          ((Holding.sameRights_iff.1 hsame).symm.trans hempty)
        simp [RoleChange.ofHoldings?, hsame, hgrants, RoleChange.dropRevokes,
          RoleChange.updateRevokes, RoleChange.addGrants, RoleChange.updateGrants]
      · simp [RoleChange.ofHoldings?, hsame, hrevokes, RoleChange.dropRevokes,
          RoleChange.updateRevokes, RoleChange.addGrants, RoleChange.updateGrants]

end Policy

/-! ## 6. The order of a plan -/

theorem Holding.direction_revokes (h : Holding) :
    ∀ s ∈ h.revokes kind name, s.direction = .revoke := by
  intro s hs
  rw [eq_of_mem_revokes kind name hs]
  rfl

theorem Holding.direction_grants (h : Holding) :
    ∀ s ∈ h.grants kind name, s.direction = .grant := by
  intro s hs
  obtain ⟨tokens, grantOption, rfl⟩ := exists_of_mem_grants kind name hs
  rfl

theorem PolicyDelta.direction_revokes (delta : PolicyDelta) :
    ∀ s ∈ delta.revokes kind name, s.direction = .revoke := by
  intro s hs
  rw [revokes, List.mem_append, List.mem_flatMap, List.mem_flatMap] at hs
  rcases hs with ⟨h, -, hs⟩ | ⟨⟨o, n⟩, -, hs⟩
  · exact h.direction_revokes kind name s hs
  · exact o.direction_revokes kind name s hs

theorem PolicyDelta.direction_grants (delta : PolicyDelta) :
    ∀ s ∈ delta.grants kind name, s.direction = .grant := by
  intro s hs
  rw [grants, List.mem_append, List.mem_flatMap, List.mem_flatMap] at hs
  rcases hs with ⟨h, -, hs⟩ | ⟨⟨o, n⟩, -, hs⟩
  · exact h.direction_grants kind name s hs
  · exact n.direction_grants kind name s hs

/-- Everything is taken away before anything is given. -/
theorem Policy.planTo_eq_append (old new : Policy) (exists? : Option String → Bool) :
    ∃ revokes grants, old.planTo new kind name exists? = revokes ++ grants ∧
      (∀ s ∈ revokes, s.direction = .revoke) ∧ ∀ s ∈ grants, s.direction = .grant := by
  -- the filter for roles that exist leaves the division in two halves as it is
  let delta := PolicyDelta.ofPolicies old new
  let there := Id.run (PolicyDelta.stillThere (fun role => pure (exists? role)) delta.dropped)
  let kept : PolicyDelta := { delta with dropped := there }
  exact ⟨kept.revokes kind name, kept.grants kind name, rfl,
    kept.direction_revokes kind name, kept.direction_grants kind name⟩

/-! ## 7. The whole plan -/

/-- **A plan has exactly the intended effect**, on any access control list and for all roles at
once. On the list of the old policy it makes the list of the new one, if the dropped roles are
there, and then nothing is left to do. -/
theorem Policy.planTo_has_intended_effect (old new : Policy) (exists? : Option String → Bool)
    (acl : Acl) :
    (∀ key, acl.run kind name (old.planTo new kind name exists?) key =
      (acl key).led exists? (old.find? key) (new.find? key)) ∧
    (acl = old.acl →
      (∀ key o, old.find? key = some o → new.find? key = none →
        (o.isPublic || exists? o.role) = true) →
      acl.run kind name (old.planTo new kind name exists?) = new.acl ∧
      ∀ found : Policy, found.acl = acl.run kind name (old.planTo new kind name exists?) →
        ∀ exists? : Option String → Bool, found.planTo new kind name exists? = []) ∧
    ∃ revokes grants, old.planTo new kind name exists? = revokes ++ grants ∧
      (∀ s ∈ revokes, s.direction = .revoke) ∧ ∀ s ∈ grants, s.direction = .grant := by
  have heffect : ∀ key, acl.run kind name (old.planTo new kind name exists?) key =
      (acl key).led exists? (old.find? key) (new.find? key) := by
    intro key
    rw [Acl.run_apply, Policy.after_planTo]
  refine ⟨heffect, ?_, old.planTo_eq_append kind name new exists?⟩
  intro hacl hthere
  -- on the old policy's own list every case of `led` ends in what the new policy says
  have hreached : acl.run kind name (old.planTo new kind name exists?) = new.acl := by
    funext key
    rw [heffect, hacl, Policy.acl_apply, Policy.acl_apply]
    exact Rights.led_of_held (hthere key)
  refine ⟨hreached, ?_⟩
  intro found hfound exists?'
  exact found.planTo_eq_nil kind name (hfound.trans hreached) exists?'

end Plans

/-- A policy with a reader, who may pass a privilege on, and a guest. -/
def samplePolicy : Policy :=
  .ofHoldings [⟨some "Reader", .ofList ["CREATE", "USAGE"], .ofList ["CREATE"], by decide⟩,
    ⟨some "guest", .ofList ["USAGE"], ∅, by decide⟩]

/-- A policy with less for the reader, and nothing for anybody else. -/
def narrowerPolicy : Policy := .ofHoldings [⟨some "reader", .ofList ["USAGE"], ∅, by decide⟩]

/-- The guest loses everything, and the reader too, who then gets less back. -/
theorem Policy.planTo_narrows_sample :
    (samplePolicy.planTo narrowerPolicy .schema (some "s") fun _ => true).map
      (fun s => (s.direction, s.role)) =
        [(.revoke, some "guest"), (.revoke, some "Reader"), (.grant, some "reader")] ∧
    samplePolicy.acl.run .schema (some "s")
      (samplePolicy.planTo narrowerPolicy .schema (some "s") fun _ => true) =
        narrowerPolicy.acl := by
  refine ⟨by decide +kernel, ?_⟩
  have heffect := Policy.planTo_has_intended_effect .schema (some "s") samplePolicy
    narrowerPolicy (fun _ => true) samplePolicy.acl
  exact (heffect.2.1 rfl fun _ o _ _ => Bool.or_true o.isPublic).1

end PgGrants
