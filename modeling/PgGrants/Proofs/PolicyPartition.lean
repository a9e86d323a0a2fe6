/-
The difference between two policies is a partition of their role keys. The keys of either policy are
gone through in ascending order, and each is looked up in both policies as a name. Since a key is
the key of itself, each of them falls into one of the four classes, by whether the policies have it
and give it the same; equal policies fall into the same classes, and the difference is empty exactly
when the policies are equal.
-/
import PgGrants.Proofs.PolicyUnion

set_option autoImplicit false

namespace PgGrants

/-! ## 1. The loop over the keys

The loop goes once over the keys of both policies and puts each into one of four lists. Its result
is written here as four filters of one list of changes. -/

/-- A key of a holding finds the same as a name. -/
@[simp] theorem Policy.lookup_key (p : Policy) (h : Holding) : p.lookup h.key = p.find? h.key := by
  rw [lookup, Holding.key_key]

namespace PolicyDelta

/-- No role in any class. -/
def none : PolicyDelta := ⟨[], [], [], []⟩

/-- One step of the loop: the key is looked up as a name in both policies, and what is found goes to
the end of its class. -/
def classify (old new : Policy) (delta : PolicyDelta) (key : String) :
    Except Error PolicyDelta := do
  if (new.lookup key).isNone then
    return { delta with dropped := delta.dropped ++ [← old.get key] }
  else if (old.lookup key).isNone then
    return { delta with added := delta.added ++ [← new.get key] }
  else if (← old.get key).sameRights (← new.get key) then
    return { delta with unchanged := delta.unchanged ++ [← new.get key] }
  else
    return { delta with updated := delta.updated ++ [(← old.get key, ← new.get key)] }

/-- The loop over all keys of both policies. -/
def diff (old new : Policy) : Except Error PolicyDelta :=
  (old.keys ∪ new.keys).toList.foldlM (classify old new) none

/-- The classes with those of a list of changes behind them. -/
def andThen (delta : PolicyDelta) (changes : List RoleChange) : PolicyDelta where
  dropped := delta.dropped ++ changes.filterMap RoleChange.dropped?
  added := delta.added ++ changes.filterMap RoleChange.added?
  updated := delta.updated ++ changes.filterMap RoleChange.updated?
  unchanged := delta.unchanged ++ changes.filterMap RoleChange.unchanged?

theorem andThen_append (delta : PolicyDelta) (l m : List RoleChange) :
    (delta.andThen l).andThen m = delta.andThen (l ++ m) := by
  simp [andThen]

section Single

variable (delta : PolicyDelta) (old new : Holding)

theorem andThen_dropped :
    delta.andThen [.dropped old] = { delta with dropped := delta.dropped ++ [old] } := by
  simp [andThen, RoleChange.dropped?, RoleChange.added?, RoleChange.updated?,
    RoleChange.unchanged?]

theorem andThen_added :
    delta.andThen [.added new] = { delta with added := delta.added ++ [new] } := by
  simp [andThen, RoleChange.dropped?, RoleChange.added?, RoleChange.updated?,
    RoleChange.unchanged?]

theorem andThen_updated :
    delta.andThen [.updated old new] = { delta with updated := delta.updated ++ [(old, new)] } := by
  simp [andThen, RoleChange.dropped?, RoleChange.added?, RoleChange.updated?,
    RoleChange.unchanged?]

theorem andThen_unchanged :
    delta.andThen [.unchanged new] = { delta with unchanged := delta.unchanged ++ [new] } := by
  simp [andThen, RoleChange.dropped?, RoleChange.added?, RoleChange.updated?,
    RoleChange.unchanged?]

end Single

/-- A step puts the change of the key into its class. -/
theorem classify_eq {old new : Policy} {key : String} (hkey : Role.key key = key)
    (hmem : key ∈ old.keys ∨ key ∈ new.keys) (delta : PolicyDelta) :
    classify old new delta key = .ok (delta.andThen (old.change? new key).toList) := by
  have hlookup : ∀ p : Policy, p.lookup key = p.find? key := fun p => by
    rw [Policy.lookup, hkey]
  unfold classify Policy.get
  rw [← Policy.find?_isSome_iff, ← Policy.find?_isSome_iff] at hmem
  simp only [hlookup]
  unfold Policy.change?
  -- a key is in neither policy, in one of them or in both; the first cannot be
  cases hold : old.find? key with
  | none =>
    cases hnew : new.find? key with
    | none => simp [hold, hnew] at hmem
    | some n =>
      rw [RoleChange.ofHoldings?, Option.toList_some, andThen_added]
      rfl
  | some o =>
    cases hnew : new.find? key with
    | none =>
      rw [RoleChange.ofHoldings?, Option.toList_some, andThen_dropped]
      rfl
    | some n =>
      by_cases hsame : o.sameRights n = true
      · rw [RoleChange.ofHoldings?, if_pos hsame, Option.toList_some, andThen_unchanged]
        exact if_pos hsame
      · rw [RoleChange.ofHoldings?, if_neg hsame, Option.toList_some, andThen_updated]
        exact if_neg hsame

theorem diff_eq (old new : Policy) : diff old new = .ok (ofPolicies old new) := by
  -- over any keys of the policies, whatever the lists hold already
  have hloop : ∀ (keys : List String) (delta : PolicyDelta),
      (∀ key ∈ keys, key ∈ old.keys ∨ key ∈ new.keys) →
        keys.foldlM (classify old new) delta =
          .ok (delta.andThen (keys.filterMap (old.change? new))) := by
    intro keys
    induction keys with
    | nil =>
      intro delta _
      have hnothing : delta.andThen [] = delta := by simp [andThen]
      rw [List.filterMap_nil, hnothing]
      rfl
    | cons key rest ih =>
      intro delta hkeys
      have hkey := hkeys key List.mem_cons_self
      -- keys are stored in normal form, so looking one up normalises nothing
      have hfixed : Role.key key = key := hkey.elim Policy.key_of_mem_keys Policy.key_of_mem_keys
      rw [List.foldlM_cons, classify_eq hfixed hkey]
      refine (ih _ fun other hother => hkeys other (List.mem_cons_of_mem key hother)).trans ?_
      rw [andThen_append]
      cases hchange : old.change? new key with
      | none => rw [List.filterMap_cons_none hchange, Option.toList_none, List.nil_append]
      | some change => rw [List.filterMap_cons_some hchange, Option.toList_some]; rfl
  exact hloop _ none fun key hkey => TextSet.mem_union.1 hkey

end PolicyDelta

/-! ## 2. Which class a key is in

A key is in exactly one class, told by what the two policies hold under it. -/

namespace RoleChange

/-- The key of the role that changes. -/
def key : RoleChange → String
  | .dropped old => old.key
  | .added new => new.key
  | .updated _ new => new.key
  | .unchanged new => new.key

theorem IsOf.key_eq {change : RoleChange} {name : String} (h : change.IsOf name) :
    change.key = name := by
  cases change with
  | updated old new => exact h.2
  | _ => exact h

/-- The change is the one between what was found and what is found: which of the two are there, and
whether the rights are the same. -/
def IsBetween (old new : Option Holding) : RoleChange → Prop
  | .dropped o => old = some o ∧ new = none
  | .added n => old = none ∧ new = some n
  | .updated o n => old = some o ∧ new = some n ∧ ¬ o.sameRights n = true
  | .unchanged n => new = some n ∧ ∃ o, old = some o ∧ o.sameRights n = true

theorem ofHoldings?_eq_some_iff {old new : Option Holding} {change : RoleChange} :
    ofHoldings? old new = some change ↔ change.IsBetween old new := by
  cases old with
  | none => cases new <;> cases change <;> simp [ofHoldings?, IsBetween]
  | some o =>
    cases new with
    | none => cases change <;> simp [ofHoldings?, IsBetween]
    | some n =>
      have hboth : ofHoldings? (some o) (some n) =
          if o.sameRights n = true then some (.unchanged n) else some (.updated o n) := rfl
      rw [hboth]
      by_cases hsame : o.sameRights n = true
      · rw [if_pos hsame]
        cases change <;> grind [IsBetween]
      · rw [if_neg hsame]
        cases change <;> grind [IsBetween]

end RoleChange

namespace PolicyDelta

variable {old new : Policy}

theorem change?_isSome_iff {key : String} :
    (old.change? new key).isSome = true ↔ key ∈ old.keys ∪ new.keys := by
  rw [TextSet.mem_union, ← Policy.find?_isSome_iff, ← Policy.find?_isSome_iff]
  unfold Policy.change?
  cases old.find? key with
  | none => cases new.find? key <;> simp [RoleChange.ofHoldings?]
  | some o =>
    cases new.find? key with
    | none => simp [RoleChange.ofHoldings?]
    | some n =>
      unfold RoleChange.ofHoldings?
      dsimp only
      split <;> simp

/-- The changes are those of the keys of either policy. -/
theorem mem_changes {change : RoleChange} :
    change ∈ changes old new ↔ old.change? new change.key = some change := by
  constructor
  · intro h
    obtain ⟨key, -, hchange⟩ := List.mem_filterMap.1 h
    rwa [(Policy.isOf_change? hchange).key_eq]
  · intro h
    exact List.mem_filterMap.2 ⟨change.key, change?_isSome_iff.1 (h ▸ rfl), h⟩

/-- There is one change for each key. -/
theorem map_key_changes (old new : Policy) :
    (changes old new).map RoleChange.key = (old.keys ∪ new.keys).toList := by
  have hkey : ∀ key ∈ (old.keys ∪ new.keys).toList,
      (old.change? new key).map RoleChange.key = some key := by
    intro key hkey
    obtain ⟨change, hchange⟩ := Option.isSome_iff_exists.1 (change?_isSome_iff.2 hkey)
    rw [hchange, Option.map_some, (Policy.isOf_change? hchange).key_eq]
  show ((old.keys ∪ new.keys).toList.filterMap (old.change? new)).map RoleChange.key = _
  rw [List.map_filterMap, List.filterMap_congr hkey, List.filterMap_some]

theorem mem_changes_iff {change : RoleChange} : change ∈ changes old new ↔
    change.IsBetween (old.lookup change.key) (new.lookup change.key) := by
  have hlookup : ∀ p : Policy, p.lookup change.key = p.find? change.key := by
    intro p
    cases change <;> exact p.lookup_key _
  rw [mem_changes, Policy.change?, RoleChange.ofHoldings?_eq_some_iff, hlookup, hlookup]

/-- A change is in the class that it is made for. -/
theorem mem_class {α : Type} {cls : RoleChange → Option α} (make : α → RoleChange)
    (hclass : ∀ change a, cls change = some a ↔ change = make a) {l : List RoleChange} {a : α} :
    a ∈ l.filterMap cls ↔ make a ∈ l := by
  simp [List.mem_filterMap, hclass]

theorem mem_dropped {h : Holding} :
    h ∈ (ofPolicies old new).dropped ↔ .dropped h ∈ changes old new :=
  mem_class .dropped fun change a => by cases change <;> simp [RoleChange.dropped?]

theorem mem_added {h : Holding} :
    h ∈ (ofPolicies old new).added ↔ .added h ∈ changes old new :=
  mem_class .added fun change a => by cases change <;> simp [RoleChange.added?]

theorem mem_updated {pair : Holding × Holding} :
    pair ∈ (ofPolicies old new).updated ↔ .updated pair.1 pair.2 ∈ changes old new :=
  mem_class (fun pair : Holding × Holding => .updated pair.1 pair.2) fun change a => by
    cases change <;> simp [RoleChange.updated?, Prod.ext_iff]

theorem mem_unchanged {h : Holding} :
    h ∈ (ofPolicies old new).unchanged ↔ .unchanged h ∈ changes old new :=
  mem_class .unchanged fun change a => by cases change <;> simp [RoleChange.unchanged?]

/-- The keys of the four classes together. -/
def keys (delta : PolicyDelta) : List String :=
  delta.dropped.map Holding.key ++ delta.added.map Holding.key ++
    delta.updated.map (fun pair => pair.2.key) ++ delta.unchanged.map Holding.key

/-- Each change goes into one class. -/
theorem keys_perm (l : List RoleChange) : (none.andThen l).keys.Perm (l.map RoleChange.key) := by
  induction l with
  | nil => exact List.Perm.nil
  | cons change rest ih =>
    -- each change counts once for its own key, in whichever list it is
    refine List.perm_iff_count.2 fun key => ?_
    have hrest := ih.count_eq key
    simp only [keys, andThen, none, List.nil_append, List.count_append] at hrest
    cases change
    all_goals
      simp only [keys, andThen, none, List.nil_append, List.count_append, List.filterMap_cons,
        RoleChange.dropped?, RoleChange.added?, RoleChange.updated?, RoleChange.unchanged?,
        List.map_cons, List.count_cons, RoleChange.key]
      omega

/-- The keys of a class are some of the keys of the changes, in their order. -/
theorem map_filterMap_sublist {α : Type} {cls : RoleChange → Option α} {key : α → String}
    (h : ∀ change a, cls change = some a → key a = change.key) (l : List RoleChange) :
    ((l.filterMap cls).map key).Sublist (l.map RoleChange.key) := by
  induction l with
  | nil => exact List.Sublist.slnil
  | cons change rest ih =>
    -- a change of another class is passed over
    cases hclass : cls change with
    | none =>
      rw [List.filterMap_cons_none hclass]
      exact ih.cons _
    | some a =>
      rw [List.filterMap_cons_some hclass, List.map_cons, List.map_cons, h change a hclass]
      exact ih.cons_cons _

/-- A class of a difference is in strictly ascending order of the keys. -/
theorem pairwise_class {α : Type} {cls : RoleChange → Option α} (key : α → String)
    (h : ∀ change a, cls change = some a → key a = change.key) :
    (((changes old new).filterMap cls).map key).Pairwise (· < ·) := by
  refine List.Pairwise.sublist (map_filterMap_sublist h _) ?_
  rw [map_key_changes]
  exact (old.keys ∪ new.keys).ascending

/-! ## 3. The other way round -/

theorem keys_comm (p q : Policy) : p.keys ∪ q.keys = q.keys ∪ p.keys := by
  ext key
  rw [TextSet.mem_union, TextSet.mem_union]
  exact or_comm

/-- A class, key by key. -/
theorem filterMap_changes {α : Type} (cls : RoleChange → Option α) :
    (changes old new).filterMap cls = (old.keys ∪ new.keys).toList.filterMap fun key =>
      (old.change? new key).bind cls := by
  unfold changes
  rw [List.filterMap_filterMap]
  rfl

end PolicyDelta

namespace RoleChange

theorem sameRights_comm (h k : Holding) : h.sameRights k = k.sameRights h := by
  rw [Bool.eq_iff_iff, Holding.sameRights_iff, Holding.sameRights_iff]
  exact eq_comm

variable (o n : Option Holding)

theorem dropped?_flip : (ofHoldings? n o).bind dropped? = (ofHoldings? o n).bind added? := by
  cases o <;> cases n <;> grind [ofHoldings?, dropped?, added?]

theorem updated?_flip :
    (ofHoldings? n o).bind updated? = ((ofHoldings? o n).bind updated?).map Prod.swap := by
  cases o <;> cases n <;> grind [ofHoldings?, updated?, sameRights_comm]

theorem unchanged?_flip {key : String} (ho : ∀ h ∈ o, h.key = key) (hn : ∀ h ∈ n, h.key = key) :
    ((ofHoldings? n o).bind unchanged?).map Holding.key =
      ((ofHoldings? o n).bind unchanged?).map Holding.key := by
  cases o <;> cases n <;> grind [ofHoldings?, unchanged?, sameRights_comm]

end RoleChange

namespace PolicyDelta

/-- The second difference is the first one the other way round. -/
structure IsFlipped (delta flipped : PolicyDelta) : Prop where
  dropped : flipped.dropped = delta.added
  added : flipped.added = delta.dropped
  updated : flipped.updated = delta.updated.map Prod.swap
  unchanged : flipped.unchanged.map Holding.key = delta.unchanged.map Holding.key

theorem dropped_flip (old new : Policy) :
    (ofPolicies new old).dropped = (ofPolicies old new).added := by
  unfold ofPolicies
  dsimp only
  rw [filterMap_changes, filterMap_changes, keys_comm]
  exact List.filterMap_congr fun key _ => RoleChange.dropped?_flip _ _

theorem isFlipped (old new : Policy) : (ofPolicies old new).IsFlipped (ofPolicies new old) where
  dropped := dropped_flip old new
  added := (dropped_flip new old).symm
  updated := by
    unfold ofPolicies
    dsimp only
    rw [filterMap_changes, filterMap_changes, keys_comm, List.map_filterMap]
    exact List.filterMap_congr fun key _ => RoleChange.updated?_flip _ _
  unchanged := by
    unfold ofPolicies
    dsimp only
    rw [filterMap_changes, filterMap_changes, keys_comm, List.map_filterMap, List.map_filterMap]
    exact List.filterMap_congr fun key _ => RoleChange.unchanged?_flip _ _
      (fun h hh => Policy.key_of_find? hh) fun h hh => Policy.key_of_find? hh

end PolicyDelta

/-! ## 4. Equal policies -/

/-- The holding with its key for a name, so that two spellings of the role do not differ. -/
def Holding.unspelt (h : Holding) : Holding := { h with role := h.key }

/-- The change without the spellings of the role. -/
def RoleChange.unspelt : RoleChange → RoleChange
  | .dropped old => .dropped old.unspelt
  | .added new => .added new.unspelt
  | .updated old new => .updated old.unspelt new.unspelt
  | .unchanged new => .unchanged new.unspelt

/-- The difference without the spellings of the roles. -/
def PolicyDelta.unspelt (delta : PolicyDelta) : PolicyDelta where
  dropped := delta.dropped.map Holding.unspelt
  added := delta.added.map Holding.unspelt
  updated := delta.updated.map fun pair => (pair.1.unspelt, pair.2.unspelt)
  unchanged := delta.unchanged.map Holding.unspelt

theorem Holding.unspelt_eq_iff {h k : Holding} :
    h.unspelt = k.unspelt ↔ h.key = k.key ∧ h.rights = k.rights := by
  obtain ⟨role, privileges, grantOptions, hsubset⟩ := h
  obtain ⟨role', privileges', grantOptions', hsubset'⟩ := k
  simp [unspelt, Holding.rights]

theorem RoleChange.map_unspelt_ofHoldings? (o n : Option Holding) :
    (ofHoldings? o n).map unspelt =
      ofHoldings? (o.map Holding.unspelt) (n.map Holding.unspelt) := by
  have hrights : ∀ h k : Holding, h.unspelt.sameRights k.unspelt = h.sameRights k := fun _ _ => rfl
  cases o <;> cases n <;> grind [ofHoldings?, unspelt]

/-- Equal policies have holdings of the same roles with the same rights. -/
theorem Policy.map_unspelt_find? {p q : Policy} (h : ∀ key, p.held key = q.held key)
    (key : String) : (p.find? key).map Holding.unspelt = (q.find? key).map Holding.unspelt := by
  have hkey := h key
  unfold held at hkey
  cases hp : p.find? key with
  | none =>
    rw [hp] at hkey
    cases hq : q.find? key with
    | none => rfl
    | some k =>
      rw [hq] at hkey
      cases hkey
  | some h =>
    rw [hp] at hkey
    cases hq : q.find? key with
    | none =>
      rw [hq] at hkey
      cases hkey
    | some k =>
      rw [hq] at hkey
      -- the same key and the same rights: only the spelling may differ
      refine congrArg some (Holding.unspelt_eq_iff.2 ⟨?_, Option.some.inj hkey⟩)
      rw [key_of_find? hp, key_of_find? hq]

namespace PolicyDelta

variable {old new old' new' : Policy}

theorem map_unspelt_changes (hold : ∀ key, old.held key = old'.held key)
    (hnew : ∀ key, new.held key = new'.held key) :
    (changes old new).map RoleChange.unspelt = (changes old' new').map RoleChange.unspelt := by
  unfold changes
  rw [Policy.keys_eq_of_held hold, Policy.keys_eq_of_held hnew, List.map_filterMap,
    List.map_filterMap]
  refine List.filterMap_congr fun key _ => ?_
  rw [RoleChange.map_unspelt_ofHoldings?, RoleChange.map_unspelt_ofHoldings?,
    Policy.map_unspelt_find? hold, Policy.map_unspelt_find? hnew]

/-- A class without the spellings is a class of the changes without them. -/
theorem map_class {α : Type} {cls : RoleChange → Option α} {f : α → α}
    (h : ∀ change, cls change.unspelt = (cls change).map f) (l : List RoleChange) :
    (l.filterMap cls).map f = (l.map RoleChange.unspelt).filterMap cls := by
  rw [List.map_filterMap, List.filterMap_map]
  exact List.filterMap_congr fun change _ => (h change).symm

theorem unspelt_eq (hold : ∀ key, old.held key = old'.held key)
    (hnew : ∀ key, new.held key = new'.held key) :
    (ofPolicies old new).unspelt = (ofPolicies old' new').unspelt := by
  -- forgetting the spelling and choosing a class go in either order
  have hclasses : ∀ p q : Policy, (ofPolicies p q).unspelt =
      none.andThen ((changes p q).map RoleChange.unspelt) := by
    intro p q
    unfold unspelt ofPolicies andThen none
    simp only [List.nil_append]
    rw [map_class, map_class, map_class, map_class]
    all_goals
      rintro (_ | _ | _ | _)
      all_goals rfl
  rw [hclasses, hclasses, map_unspelt_changes hold hnew]

/-- A key has the same in both policies when its change is none, or none to speak of. -/
theorem held_eq_iff {key : String} : old.held key = new.held key ↔
    ∀ change, old.change? new key = some change → ∃ n, change = .unchanged n := by
  unfold Policy.held Policy.change?
  cases old.find? key with
  | none => cases new.find? key <;> simp [RoleChange.ofHoldings?]
  | some o =>
    cases new.find? key with
    | none => simp [RoleChange.ofHoldings?]
    | some n =>
      rw [Option.map_some, Option.map_some, Option.some_inj, ← Holding.sameRights_iff]
      by_cases hsame : o.sameRights n = true <;> simp [RoleChange.ofHoldings?, hsame]

theorem isEmpty_iff :
    (ofPolicies old new).isEmpty = true ↔ ∀ key, old.held key = new.held key := by
  -- nothing is dropped, added or updated when every change leaves its key alone
  have hclasses : (ofPolicies old new).isEmpty = true ↔
      ∀ change ∈ changes old new, ∃ n, change = .unchanged n := by
    simp only [isEmpty, Bool.and_eq_true, List.isEmpty_iff, List.eq_nil_iff_forall_not_mem,
      mem_dropped, mem_added, mem_updated]
    constructor
    · rintro ⟨⟨hdropped, hadded⟩, hupdated⟩ change hchange
      cases change with
      | dropped o => exact absurd hchange (hdropped o)
      | added n => exact absurd hchange (hadded n)
      | updated o n => exact absurd hchange (hupdated (o, n))
      | unchanged n => exact ⟨n, rfl⟩
    · intro h
      refine ⟨⟨fun o ho => ?_, fun n hn => ?_⟩, fun pair hpair => ?_⟩
      · obtain ⟨_, heq⟩ := h _ ho
        cases heq
      · obtain ⟨_, heq⟩ := h _ hn
        cases heq
      · obtain ⟨_, heq⟩ := h _ hpair
        cases heq
  rw [hclasses]
  constructor
  · intro h key
    refine held_eq_iff.2 fun change hchange => h change ?_
    rwa [mem_changes, (Policy.isOf_change? hchange).key_eq]
  · exact fun h change hchange => held_eq_iff.1 (h change.key) change (mem_changes.1 hchange)

/-! ## 5. The partition -/

/-- The classes of the difference are a partition of the keys of both policies: each key stands in
one class, once, and no other key does. Which class it is in is given by look-ups of the key, and
every class is in strictly ascending order. -/
structure IsPartition (delta : PolicyDelta) (old new : Policy) : Prop where
  keys : delta.keys.Perm (old.keys ∪ new.keys).toList
  mem_dropped : ∀ h, h ∈ delta.dropped ↔ old.lookup h.key = some h ∧ new.lookup h.key = Option.none
  mem_added : ∀ h, h ∈ delta.added ↔ old.lookup h.key = Option.none ∧ new.lookup h.key = some h
  mem_updated : ∀ o n, (o, n) ∈ delta.updated ↔ o.key = n.key ∧ old.lookup o.key = some o ∧
    new.lookup n.key = some n ∧ ¬(o.privileges = n.privileges ∧ o.grantOptions = n.grantOptions)
  mem_unchanged : ∀ n, n ∈ delta.unchanged ↔ new.lookup n.key = some n ∧
    ∃ o, old.lookup n.key = some o ∧ o.privileges = n.privileges ∧ o.grantOptions = n.grantOptions
  dropped_ascending : (delta.dropped.map Holding.key).Pairwise (· < ·)
  added_ascending : (delta.added.map Holding.key).Pairwise (· < ·)
  updated_ascending : (delta.updated.map fun pair => pair.2.key).Pairwise (· < ·)
  unchanged_ascending : (delta.unchanged.map Holding.key).Pairwise (· < ·)

theorem isPartition (old new : Policy) : (ofPolicies old new).IsPartition old new where
  keys := by
    have hnone : none.andThen (changes old new) = ofPolicies old new := rfl
    rw [← map_key_changes, ← hnone]
    exact keys_perm _
  mem_dropped := fun h => by
    rw [mem_dropped, mem_changes_iff]
    exact Iff.rfl
  mem_added := fun h => by
    rw [mem_added, mem_changes_iff]
    exact Iff.rfl
  mem_updated := fun o n => by
    rw [mem_updated, mem_changes_iff]
    -- rights differ when the privileges or the grant options do
    have hrights : o.sameRights n = true ↔
        o.privileges = n.privileges ∧ o.grantOptions = n.grantOptions := by
      simp [Holding.sameRights]
    rw [← hrights]
    simp only [RoleChange.IsBetween, RoleChange.key, Policy.lookup_key]
    constructor
    · rintro ⟨hold, hnew, hdiffer⟩
      rw [Policy.key_of_find? hold]
      exact ⟨rfl, hold, hnew, hdiffer⟩
    · rintro ⟨hkey, hold, hnew, hdiffer⟩
      rw [hkey] at hold
      exact ⟨hold, hnew, hdiffer⟩
  mem_unchanged := fun n => by
    rw [mem_unchanged, mem_changes_iff]
    simp [RoleChange.IsBetween, RoleChange.key, Holding.sameRights]
  dropped_ascending := pairwise_class Holding.key fun change _ h => by
    cases change <;> cases h
    rfl
  added_ascending := pairwise_class Holding.key fun change _ h => by
    cases change <;> cases h
    rfl
  updated_ascending := by
    refine pairwise_class (fun pair : Holding × Holding => pair.2.key) fun change _ h => ?_
    cases change <;> cases h
    rfl
  unchanged_ascending := pairwise_class Holding.key fun change _ h => by
    cases change <;> cases h
    rfl

/-- The loop over the keys gives the difference, and that is a partition of the keys. Between the
same policies the other way round it gives the same classes with their parts exchanged. It gives
nothing but unchanged roles if and only if the policies are equal, and between equal policies it
gives the same classes, up to the spelling of the roles. -/
theorem diff_isPartition (old new : Policy) :
    diff old new = .ok (ofPolicies old new) ∧ diff new old = .ok (ofPolicies new old) ∧
      (ofPolicies old new).IsPartition old new ∧
      (ofPolicies old new).IsFlipped (ofPolicies new old) ∧
      ((ofPolicies old new).isEmpty = true ↔ old.equal new = true) ∧
      ∀ old' new', old.equal old' = true → new.equal new' = true →
        diff old' new' = .ok (ofPolicies old' new') ∧
          (ofPolicies old' new').unspelt = (ofPolicies old new).unspelt := by
  refine ⟨diff_eq old new, diff_eq new old, isPartition old new, isFlipped old new, ?_,
    fun old' new' hold hnew => ⟨diff_eq old' new', ?_⟩⟩
  · rw [isEmpty_iff, Policy.equal_iff]
  · exact (unspelt_eq (Policy.equal_iff.1 hold) (Policy.equal_iff.1 hnew)).symm

/-- Read rights of one role, under a given spelling. -/
def samplePolicy (role : String) : Policy :=
  .ofHoldings [AclItem.heldBy role [("SELECT", false)]]

theorem diff_isPartition_respelt :
    (samplePolicy "Alice").equal (samplePolicy " ALICE ") = true ∧
      (samplePolicy "bob").equal (samplePolicy "Bob") = true ∧
      diff (samplePolicy " ALICE ") (samplePolicy "Bob") =
        .ok (ofPolicies (samplePolicy " ALICE ") (samplePolicy "Bob")) ∧
      (ofPolicies (samplePolicy " ALICE ") (samplePolicy "Bob")).unspelt =
        (ofPolicies (samplePolicy "Alice") (samplePolicy "bob")).unspelt := by
  have hold : (samplePolicy "Alice").equal (samplePolicy " ALICE ") = true := by
    decide +kernel
  have hnew : (samplePolicy "bob").equal (samplePolicy "Bob") = true := by
    decide +kernel
  obtain ⟨-, -, -, -, -, hrespelt⟩ :=
    diff_isPartition (samplePolicy "Alice") (samplePolicy "bob")
  exact ⟨hold, hnew, hrespelt _ _ hold hnew⟩

end PolicyDelta

end PgGrants
