/-
Folding holdings into a policy is a union by role key. Two holdings of one role are joined by
building a third one, whose tokens are brought to normal form and whose grant options are checked
again; a look-up brings the name to its key again, also where the name is a key already. Since
normal forms are stable, none of this is refused and none of it changes anything: each key has the
privileges and the grant options of all its holdings together, whatever their order and however
they are taken together.
-/
import Mathlib.Data.List.Perm.Subperm
import PgGrants.Proofs.NormalForms
import PgGrants.Proofs.PolicyPlan
import PgGrants.Proofs.Refusals

set_option autoImplicit false

namespace PgGrants

/-! ## 1. Holdings that were built -/

namespace Holding

/-- The holding that is built from the tokens as they are given. -/
def build (role : Option String) (privileges grantOptions : List String) :
    Except Invalid Holding :=
  ofSets role (Privilege.normalize privileges) (Privilege.normalize grantOptions)

/-- The holding was built, from whatever tokens. -/
def IsBuilt (h : Holding) : Prop :=
  ∃ privileges grantOptions, build h.role privileges grantOptions = .ok h

theorem ofSets_eq_ok {role : Option String} {privileges grantOptions : TextSet} {h : Holding}
    (hmade : ofSets role privileges grantOptions = .ok h) :
    h.role = role ∧ h.privileges = privileges ∧ h.grantOptions = grantOptions := by
  unfold ofSets at hmade
  split at hmade
  · cases hmade
    exact ⟨rfl, rfl, rfl⟩
  · cases hmade

/-- What was built is what is built from its own tokens. -/
theorem isBuilt_iff_isNormal {h : Holding} : h.IsBuilt ↔ h.IsNormal := by
  constructor
  · rintro ⟨privileges, grantOptions, hmade⟩ token htoken
    rw [(ofSets_eq_ok hmade).2.1] at htoken
    exact Privilege.normalForm_of_mem_normalize htoken
  · intro hnormal
    exact ⟨_, _, hnormal.isAccepted⟩

end Holding

/-! ## 2. The fold with its checks

Every holding that is built on the way is checked. Where the holdings to be folded passed their own
checks none of these fails, so the fold with its checks is the fold without them. -/

/-- Why two holdings are not joined. -/
inductive MergeFault where
  /-- They are of two roles. -/
  | mismatch (fault : Holding.Mismatch)
  /-- The joint holding is refused. -/
  | refused (fault : Invalid)

namespace Holding

/-- The join of two holdings of one role, built like any other holding. -/
def mergeBuilt (h k : Holding) : Except MergeFault Holding := do
  let joint ← (h.merge k).mapError .mismatch
  (build joint.role joint.privileges.toList joint.grantOptions.toList).mapError .refused

/-- Built holdings of one role are joined, and the check changes nothing. -/
theorem mergeBuilt_eq {h k : Holding} (hh : h.IsNormal) (hk : k.IsNormal) (hkey : k.key = h.key) :
    h.mergeBuilt k = .ok (h.join k) := by
  have hmerge : h.merge k = .ok (h.join k) := if_pos hkey
  have hbuild : build (h.join k).role (h.join k).privileges.toList (h.join k).grantOptions.toList =
      .ok (h.join k) := (hh.join hk).isAccepted
  unfold mergeBuilt
  rw [hmerge]
  show (build (h.join k).role _ _).mapError _ = _
  rw [hbuild]
  rfl

end Holding

namespace Policy

theorem find?_of_mem {p : Policy} {h : Holding} (hmem : h ∈ p.holdings) :
    p.find? h.key = some h := by
  obtain ⟨l, hl⟩ := p
  show l.find? (fun k => k.key == h.key) = some h
  induction l with
  | nil => cases hmem
  | cons first rest ih =>
    rw [List.map_cons, List.pairwise_cons] at hl
    -- the keys ascend, so an earlier holding has another key
    rcases List.mem_cons.1 hmem with rfl | hrest
    · simp
    · have hlater : first.key < h.key := hl.1 _ (List.mem_map_of_mem hrest)
      have hne : first.key ≠ h.key := by
        intro heq
        rw [heq] at hlater
        exact String.lt_irrefl _ hlater
      rw [List.find?_cons, beq_eq_false_iff_ne.2 hne]
      exact ih hl.2 hrest

theorem mem_of_find? {p : Policy} {key : String} {h : Holding} (hfound : p.find? key = some h) :
    h ∈ p.holdings := List.mem_of_find?_eq_some hfound

theorem holdings_eq (p : Policy) : p.holdings = p.keys.toList.filterMap p.find? := by
  have hkeys : p.keys.toList = p.holdings.map Holding.key := rfl
  have hown : ∀ h ∈ p.holdings, (p.find? ∘ Holding.key) h = some h :=
    fun h hmem => find?_of_mem hmem
  rw [hkeys, List.filterMap_map, List.filterMap_congr hown, List.filterMap_some]

/-- A policy is what is found in it. -/
theorem eq_of_find? {p q : Policy} (h : ∀ key, p.find? key = q.find? key) : p = q := by
  have hkeys : p.keys = q.keys := by
    ext key
    rw [← find?_isSome_iff, ← find?_isSome_iff, h]
  have hholdings : p.holdings = q.holdings := by
    rw [holdings_eq, holdings_eq, hkeys, funext h]
  obtain ⟨l, hl⟩ := p
  obtain ⟨m, hm⟩ := q
  cases hholdings
  rfl

/-- The policy with the holding in place of the one that its role had. -/
def put (p : Policy) (h : Holding) : Policy := (p.eraseAll [Role.orPublic h.role]).add h

theorem find?_put {p : Policy} {h : Holding} {key : String} :
    (p.put h).find? key = if h.key = key then some h else p.find? key := by
  unfold put
  rw [find?_add, find?_eraseAll]
  have hkey : key ∈ [Role.orPublic h.role].map Role.key ↔ h.key = key := by
    rw [List.map_singleton, List.mem_singleton, Holding.key]
    exact eq_comm
  by_cases hsame : h.key = key
  · rw [if_pos hsame, if_pos hsame, if_pos (hkey.2 hsame)]
  · rw [if_neg hsame, if_neg hsame, if_neg fun hmem => hsame (hkey.1 hmem)]

/-- The policy with one more holding, joined to what its role has. -/
def addBuilt (p : Policy) (h : Holding) : Except MergeFault Policy :=
  match p.find? h.key with
  | some k => return p.put (← k.mergeBuilt h)
  | none => return p.put h

/-- The policy that holdings are folded to, one after the other. -/
def fold (l : List Holding) : Except MergeFault Policy := l.foldlM addBuilt ∅

/-- One step of the fold is refused nothing, and adds the holding. -/
theorem addBuilt_eq {p : Policy} {h : Holding} (hp : ∀ key k, p.find? key = some k → k.IsNormal)
    (hh : h.IsNormal) : p.addBuilt h = .ok (p.add h) := by
  unfold addBuilt
  -- the key is new, or there is a holding that the new one is joined to
  cases hfound : p.find? h.key with
  | none =>
    refine congrArg Except.ok (eq_of_find? fun key => ?_)
    rw [find?_put, find?_add]
    by_cases hkey : h.key = key
    · rw [if_pos hkey, if_pos hkey, ← hkey, hfound]
    · rw [if_neg hkey, if_neg hkey]
  | some k =>
    have hkey : k.key = h.key := key_of_find? hfound
    dsimp only
    rw [Holding.mergeBuilt_eq (hp _ k hfound) hh hkey.symm]
    refine congrArg Except.ok (eq_of_find? fun key => ?_)
    rw [find?_put, find?_add, Holding.key_join, hkey]
    by_cases hsame : h.key = key
    · rw [if_pos hsame, if_pos hsame, ← hsame, hfound]
    · rw [if_neg hsame, if_neg hsame]

/-- Built holdings are folded without any complaint. -/
theorem fold_eq {l : List Holding} (hl : ∀ h ∈ l, h.IsNormal) : fold l = .ok (ofHoldings l) := by
  suffices h : ∀ p : Policy, (∀ key k, p.find? key = some k → k.IsNormal) →
      l.foldlM addBuilt p = .ok (l.foldl add p) from
    h ∅ fun _ _ hfound => nomatch hfound
  induction l with
  | nil => exact fun p _ => rfl
  | cons h rest ih =>
    intro p hp
    have hh : h.IsNormal := hl h List.mem_cons_self
    rw [List.foldlM_cons, addBuilt_eq hp hh, List.foldl_cons]
    refine ih (fun k hk => hl k (List.mem_cons_of_mem h hk)) (p.add h) ?_
    exact forall_add (fun _ _ => Holding.IsNormal.join) hp hh

/-! ## 3. Equality by name

Equality compares sizes and then looks up each key of one policy in the other. That, and comparing
the keys first, both come down to what is held under each key. -/

theorem key_of_mem_keys {p : Policy} {key : String} (h : key ∈ p.keys) : Role.key key = key := by
  obtain ⟨holding, -, rfl⟩ := List.mem_map.1 h
  exact holding.key_key

/-- A key of the policy finds its holding as a name, too. -/
theorem lookup_of_mem_keys {p q : Policy} {key : String} (h : key ∈ p.keys) :
    q.lookup key = q.find? key := by
  unfold lookup
  rw [key_of_mem_keys h]

/-- Two look-ups find holdings with the same rights. -/
def sameFound : Option Holding → Option Holding → Bool
  | some h, some k => h.sameRights k
  | _, _ => false

/-- The policies are equal when compared key by key, every key being looked up as a name. -/
def equal (p q : Policy) : Bool :=
  p.size == q.size && p.keys.toList.all (fun key => (q.lookup key).isSome) &&
    p.keys.toList.all fun key => sameFound (p.lookup key) (q.lookup key)

/-- What a key has, `none` when it has no holding. -/
def held (p : Policy) (key : String) : Option Rights := (p.find? key).map Holding.rights

theorem mem_keys_iff {p : Policy} {key : String} : key ∈ p.keys ↔ (p.held key).isSome := by
  rw [held, Option.isSome_map, find?_isSome_iff]

theorem keys_eq_of_held {p q : Policy} (h : ∀ key, p.held key = q.held key) : p.keys = q.keys := by
  ext key
  rw [mem_keys_iff, mem_keys_iff, h]

theorem keys_eq_of_size {p q : Policy} (hsize : p.size = q.size) (h : p.keys ⊆ q.keys) :
    p.keys = q.keys := by
  have hlength : q.keys.toList.length ≤ p.keys.toList.length := by
    show (q.holdings.map Holding.key).length ≤ (p.holdings.map Holding.key).length
    rw [List.length_map, List.length_map]
    exact hsize.symm.le
  -- as many keys, none of them twice, and each of them in the other policy
  have hnodup : p.keys.toList.Nodup := by
    refine p.keys.ascending.imp ?_
    rintro a b hlt rfl
    exact String.lt_irrefl a hlt
  have hperm : p.keys.toList.Perm q.keys.toList :=
    (List.subperm_of_subset hnodup h).perm_of_length_le hlength
  ext key
  exact hperm.mem_iff

theorem held_eq_of_sameFound {p q : Policy} {key : String}
    (h : sameFound (p.find? key) (q.find? key) = true) : p.held key = q.held key := by
  unfold held
  cases hp : p.find? key with
  | none =>
    rw [hp] at h
    cases h
  | some found =>
    cases hq : q.find? key with
    | none =>
      rw [hp, hq] at h
      cases h
    | some other =>
      rw [hp, hq] at h
      exact congrArg some (Holding.sameRights_iff.1 h)

theorem sameFound_of_held_eq {p q : Policy} {key : String} (hkey : key ∈ p.keys)
    (h : p.held key = q.held key) : sameFound (p.find? key) (q.find? key) = true := by
  obtain ⟨found, hfound⟩ := Option.isSome_iff_exists.1 (find?_isSome_iff.2 hkey)
  unfold held at h
  rw [hfound] at h ⊢
  cases hq : q.find? key with
  | none =>
    rw [hq] at h
    cases h
  | some other =>
    rw [hq] at h
    exact Holding.sameRights_iff.2 (Option.some.inj h)

/-- Policies with the same keys give every key the same when they do so for their keys. -/
theorem held_eq_iff_of_keys {p q : Policy} (hkeys : p.keys = q.keys) :
    (∀ key, p.held key = q.held key) ↔
      ∀ key ∈ p.keys, sameFound (p.find? key) (q.find? key) = true := by
  constructor
  · exact fun h key hkey => sameFound_of_held_eq hkey (h key)
  · intro h key
    -- under a key of neither policy nothing is held on both sides
    by_cases hkey : key ∈ p.keys
    · exact held_eq_of_sameFound (h key hkey)
    · have hp : p.held key = none := by
        rwa [mem_keys_iff, Bool.not_eq_true, Option.isSome_eq_false_iff, Option.isNone_iff_eq_none]
          at hkey
      have hq : q.held key = none := by
        rwa [hkeys, mem_keys_iff, Bool.not_eq_true, Option.isSome_eq_false_iff,
          Option.isNone_iff_eq_none] at hkey
      rw [hp, hq]

/-- Equal policies give every key the same, and nothing else is asked of them. -/
theorem equal_iff {p q : Policy} : p.equal q = true ↔ ∀ key, p.held key = q.held key := by
  have hlookups : (∀ key ∈ p.keys, sameFound (p.lookup key) (q.lookup key) = true) ↔
      ∀ key ∈ p.keys, sameFound (p.find? key) (q.find? key) = true := by
    refine forall₂_congr fun key hkey => ?_
    rw [lookup_of_mem_keys hkey, lookup_of_mem_keys hkey]
  have hsubset : (∀ key ∈ p.keys, (q.lookup key).isSome = true) ↔ p.keys ⊆ q.keys := by
    refine forall₂_congr fun key hkey => ?_
    rw [lookup_of_mem_keys hkey, find?_isSome_iff]
  have hsplit : p.equal q = true ↔ (p.size = q.size ∧ p.keys ⊆ q.keys) ∧
      ∀ key ∈ p.keys, sameFound (p.find? key) (q.find? key) = true := by
    rw [← hsubset, ← hlookups]
    simp [equal, TextSet.mem_def]
  rw [hsplit]
  constructor
  · rintro ⟨⟨hsize, hkeys⟩, hfound⟩
    exact (held_eq_iff_of_keys (keys_eq_of_size hsize hkeys)).2 hfound
  · intro h
    have hkeys : p.keys = q.keys := keys_eq_of_held h
    -- policies that hold the same have the same keys, and so the same size
    have hsize : p.size = q.size := by
      have hlength := congrArg (fun keys : TextSet => keys.toList.length) hkeys
      simpa [keys, size] using hlength
    refine ⟨⟨hsize, fun key hkey => hkeys ▸ hkey⟩, (held_eq_iff_of_keys hkeys).1 h⟩

theorem same_iff {p q : Policy} : p.same q = true ↔ ∀ key, p.held key = q.held key := by
  -- going over the holdings is going over their keys
  have hfound : (∀ h ∈ p.holdings, sameFound (some h) (q.find? h.key) = true) ↔
      ∀ key ∈ p.keys, sameFound (p.find? key) (q.find? key) = true := by
    constructor
    · intro h key hkey
      obtain ⟨holding, hmem, rfl⟩ := List.mem_map.1 hkey
      rw [find?_of_mem hmem]
      exact h holding hmem
    · intro h holding hmem
      rw [← find?_of_mem hmem]
      exact h holding.key (List.mem_map_of_mem hmem)
  have hsplit : p.same q = true ↔ p.keys = q.keys ∧
      ∀ h ∈ p.holdings, sameFound (some h) (q.find? h.key) = true := by
    rw [same, Bool.and_eq_true, beq_iff_eq, List.all_eq_true]
    refine and_congr_right fun _ => forall₂_congr fun h _ => ?_
    cases q.find? h.key <;> rfl
  rw [hsplit, hfound]
  constructor
  · rintro ⟨hkeys, hsame⟩
    exact (held_eq_iff_of_keys hkeys).2 hsame
  · intro h
    exact ⟨keys_eq_of_held h, (held_eq_iff_of_keys (keys_eq_of_held h)).1 h⟩

/-- Looking keys up as names makes no difference to equality. -/
theorem equal_eq_same (p q : Policy) : p.equal q = p.same q := by
  rw [Bool.eq_iff_iff, equal_iff, same_iff]

/-! ## 4. Unions

A property of a holding that is true of a join exactly when it is true of one part shows through the
whole fold. Which privileges are held, and which of them with the grant option, are such properties,
and they determine the policy. -/

/-- What is said of a join is said of one of its parts. -/
def SplitsJoin (good : Holding → Prop) : Prop := ∀ h k, good (h.join k) ↔ good h ∨ good k

theorem splitsJoin_true : SplitsJoin fun _ => True := fun _ _ => by simp

theorem splitsJoin_privileges (token : String) : SplitsJoin fun h => token ∈ h.privileges :=
  fun _ _ => TextSet.mem_union

theorem splitsJoin_grantOptions (token : String) : SplitsJoin fun h => token ∈ h.grantOptions :=
  fun _ _ => TextSet.mem_union

/-- What is found under a key of a folded policy is what its holdings say together. -/
theorem exists_find?_ofHoldings {good : Holding → Prop} (hgood : SplitsJoin good)
    {l : List Holding} {key : String} :
    (∃ h, (ofHoldings l).find? key = some h ∧ good h) ↔ ∃ h ∈ l, h.key = key ∧ good h := by
  -- from any policy, which the fold then adds to
  suffices h : ∀ p : Policy, (∃ h, (l.foldl add p).find? key = some h ∧ good h) ↔
      (∃ h, p.find? key = some h ∧ good h) ∨ ∃ h ∈ l, h.key = key ∧ good h by
    refine (h ∅).trans (or_iff_right ?_)
    rintro ⟨_, hfound, -⟩
    cases hfound
  induction l with
  | nil => simp
  | cons h rest ih =>
    intro p
    have hstep : (∃ k, (p.add h).find? key = some k ∧ good k) ↔
        (∃ k, p.find? key = some k ∧ good k) ∨ (h.key = key ∧ good h) := by
      rw [find?_add]
      by_cases hkey : h.key = key
      · rw [if_pos hkey]
        cases hfound : p.find? key with
        | none => simp [hkey]
        | some k => simp [hkey, hgood k h]
      · rw [if_neg hkey]
        simp [hkey]
    rw [List.foldl_cons, ih, hstep, or_assoc]
    simp [or_and_right, exists_or]

/-- The policy is the union of the holdings: a look-up by any spelling of a role finds what all
holdings with the role's key have together, and nothing when there is none. -/
structure IsUnionOf (p : Policy) (l : List Holding) : Prop where
  succeeds_iff : ∀ role, (∃ found, p.get role = .ok found) ↔ ∃ h ∈ l, h.key = Role.key role
  mem_privileges : ∀ role found, p.get role = .ok found → ∀ token,
    token ∈ found.privileges ↔ ∃ h ∈ l, h.key = Role.key role ∧ token ∈ h.privileges
  mem_grantOptions : ∀ role found, p.get role = .ok found → ∀ token,
    token ∈ found.grantOptions ↔ ∃ h ∈ l, h.key = Role.key role ∧ token ∈ h.grantOptions
  options_subset : ∀ role found, p.get role = .ok found → found.grantOptions ⊆ found.privileges

theorem get_eq_ok_iff {p : Policy} {role : String} {found : Holding} :
    p.get role = .ok found ↔ p.find? (Role.key role) = some found := by
  unfold get lookup
  cases p.find? (Role.key role) with
  | none => simp
  | some h => simp

theorem isUnionOf_ofHoldings (l : List Holding) : (ofHoldings l).IsUnionOf l where
  succeeds_iff := fun role => by
    have hunion : (∃ h, (ofHoldings l).find? (Role.key role) = some h ∧ True) ↔
        ∃ h ∈ l, h.key = Role.key role ∧ True := exists_find?_ofHoldings splitsJoin_true
    simpa only [get_eq_ok_iff, and_true] using hunion
  mem_privileges := fun role found hfound token => by
    rw [← exists_find?_ofHoldings (splitsJoin_privileges token), get_eq_ok_iff.1 hfound]
    simp
  mem_grantOptions := fun role found hfound token => by
    rw [← exists_find?_ofHoldings (splitsJoin_grantOptions token), get_eq_ok_iff.1 hfound]
    simp
  options_subset := fun _ found _ => found.options_subset

/-- Policies of which the same is said under every key are equal. -/
theorem equal_of_forall_splitsJoin {p q : Policy}
    (h : ∀ good, SplitsJoin good → ∀ key,
      (∃ k, p.find? key = some k ∧ good k) ↔ ∃ k, q.find? key = some k ∧ good k) :
    p.equal q = true := by
  rw [equal_iff]
  intro key
  unfold held
  -- that something is held at all is the first such property
  have hthere := h _ splitsJoin_true key
  cases hp : p.find? key with
  | none =>
    cases hq : q.find? key with
    | none => rfl
    | some other =>
      rw [hp, hq] at hthere
      simp at hthere
  | some found =>
    cases hq : q.find? key with
    | none =>
      rw [hp, hq] at hthere
      simp at hthere
    | some other =>
      refine congrArg some (Rights.ext ?_ ?_)
      · ext token
        have htoken := h _ (splitsJoin_privileges token) key
        rw [hp, hq] at htoken
        simpa [Holding.rights] using htoken
      · ext token
        have htoken := h _ (splitsJoin_grantOptions token) key
        rw [hp, hq] at htoken
        simpa [Holding.rights] using htoken

/-- Neither the order of the holdings nor how often one is given matters. -/
theorem equal_of_mem_iff {l m : List Holding} (h : ∀ k, k ∈ l ↔ k ∈ m) :
    (ofHoldings l).equal (ofHoldings m) = true := by
  refine equal_of_forall_splitsJoin fun good hgood key => ?_
  rw [exists_find?_ofHoldings hgood, exists_find?_ofHoldings hgood]
  simp only [h]

/-- Parts of the list may be folded first. -/
theorem equal_ofHoldings_flatMap {pieces : List (List Holding)} {l : List Holding}
    (h : pieces.flatten.Perm l) :
    (ofHoldings l).equal (ofHoldings ((pieces.map ofHoldings).flatMap holdings)) = true := by
  refine equal_of_forall_splitsJoin fun good hgood key => ?_
  rw [exists_find?_ofHoldings hgood, exists_find?_ofHoldings hgood]
  -- folding a piece keeps what its holdings say
  have hpiece : ∀ piece : List Holding,
      (∃ k ∈ (ofHoldings piece).holdings, k.key = key ∧ good k) ↔
        ∃ k ∈ piece, k.key = key ∧ good k := by
    intro piece
    refine Iff.trans ?_ (exists_find?_ofHoldings hgood)
    constructor
    · rintro ⟨k, hk, rfl, hsaid⟩
      exact ⟨k, find?_of_mem hk, hsaid⟩
    · rintro ⟨k, hk, hsaid⟩
      exact ⟨k, mem_of_find? hk, key_of_find? hk, hsaid⟩
  have hlist : (∃ k ∈ l, k.key = key ∧ good k) ↔
      ∃ piece ∈ pieces, ∃ k ∈ piece, k.key = key ∧ good k := by
    simp only [← h.mem_iff, List.mem_flatten]
    grind
  have hparts : (∃ k ∈ (pieces.map ofHoldings).flatMap holdings, k.key = key ∧ good k) ↔
      ∃ piece ∈ pieces, ∃ k ∈ (ofHoldings piece).holdings, k.key = key ∧ good k := by
    simp only [List.mem_flatMap, List.mem_map]
    grind
  rw [hlist, hparts]
  simp only [hpiece]

/-- What is found in a policy of built holdings was built. -/
theorem isNormal_of_mem_ofHoldings {l : List Holding} (hl : ∀ h ∈ l, h.IsNormal) {h : Holding}
    (hmem : h ∈ (ofHoldings l).holdings) : h.IsNormal :=
  forall_ofHoldings (fun _ _ => Holding.IsNormal.join) hl h.key h (find?_of_mem hmem)

end Policy

/-! ## 5. Access control lists -/

theorem mapM_eq_ok_map {ε α β : Type} {f : α → Except ε β} {g : α → β} {l : List α}
    (h : ∀ a ∈ l, f a = .ok (g a)) : l.mapM f = .ok (l.map g) := by
  induction l with
  | nil => rfl
  | cons a rest ih =>
    rw [List.mapM_cons, h a List.mem_cons_self,
      ih fun other hother => h other (List.mem_cons_of_mem a hother)]
    rfl

theorem exists_mapM_of_forall {ε α β : Type} {f : α → Except ε β} {l : List α}
    (h : ∀ a ∈ l, ∃ b, f a = .ok b) :
    ∃ m, l.mapM f = .ok m ∧ ∀ b, b ∈ m ↔ ∃ a ∈ l, f a = .ok b := by
  induction l with
  | nil => exact ⟨[], rfl, by simp⟩
  | cons a rest ih =>
    obtain ⟨b, hb⟩ := h a List.mem_cons_self
    obtain ⟨m, hm, hmem⟩ := ih fun other hother => h other (List.mem_cons_of_mem a hother)
    refine ⟨b :: m, ?_, fun c => ?_⟩
    · rw [List.mapM_cons, hb, hm]
      rfl
    · rw [List.mem_cons, hmem]
      simp [hb, eq_comm]

namespace AclItem

/-- The holding that is built for an item. -/
def entry (item : AclItem) : Except Invalid Holding :=
  Holding.build (some item.grantee) item.privileges.toList item.grantOptions.toList

/-- An item that was read is an entry as it is. -/
theorem entry_eq {text : String} {item : AclItem} (h : parse text = .ok item) :
    item.entry = .ok item.holding := by
  have hbuild : Holding.build item.holding.role item.privileges.toList item.grantOptions.toList =
      .ok item.holding := (isNormal_of_parse h).isAccepted
  rwa [(parse_has_letters h).1] at hbuild

end AclItem

theorem AclItem.mapM_ofValue {texts : List String} {items : List AclItem}
    (h : texts.mapM parse = .ok items) : (texts.map Value.text).mapM ofValue = .ok items := by
  induction texts generalizing items with
  | nil =>
    cases h
    rfl
  | cons text rest ih =>
    rw [List.mapM_cons] at h
    obtain ⟨item, hitem, h⟩ := exists_of_bind_eq_ok h
    obtain ⟨others, hothers, h⟩ := exists_of_bind_eq_ok h
    cases h
    have hvalue : ofValue (.text text) = .ok item := by
      rw [ofValue, hitem]
      rfl
    rw [List.map_cons, List.mapM_cons, hvalue, ih hothers]
    rfl

/-- The policy in a cell with a list of texts is folded from the items that they write. -/
theorem Catalog.cellPolicy_texts {texts : List String} {items : List AclItem}
    (h : texts.mapM AclItem.parse = .ok items) :
    cellPolicy (.list (texts.map .text)) = .ok (.ofAcl items) := by
  have hitems : cellAcl (.list (texts.map .text)) = .ok items := by
    cases texts with
    | nil =>
      cases h
      rfl
    | cons text rest => exact AclItem.mapM_ofValue h
  rw [cellPolicy, hitems]
  rfl

/-! ## 6. Folding is a union

The parts are put together: the checks pass, the fold is a union by key, and it does not depend on
the order of the holdings or on how they are split. -/

namespace Policy

/-- Folding built holdings is never refused and gives their policy, which is their union. In another
order they give an equal policy, and so they do when parts of them are folded first. Texts of access
control items that can be read give such holdings, and so give a policy that is their union in
whatever order. -/
theorem fold_isUnionOf :
    (∀ l : List Holding, (∀ h ∈ l, h.IsBuilt) →
      fold l = .ok (ofHoldings l) ∧ (ofHoldings l).IsUnionOf l ∧
        (∀ m : List Holding, m.Perm l →
          fold m = .ok (ofHoldings m) ∧ (ofHoldings l).equal (ofHoldings m) = true) ∧
        ∀ pieces : List (List Holding), pieces.flatten.Perm l →
          ∃ parts q, pieces.mapM fold = .ok parts ∧ fold (parts.flatMap holdings) = .ok q ∧
            (ofHoldings l).equal q = true) ∧
      ∀ texts : List String, (∀ text ∈ texts, ∃ item, AclItem.parse text = .ok item) →
        ∃ items, texts.mapM AclItem.parse = .ok items ∧
          items.mapM AclItem.entry = .ok (items.map AclItem.holding) ∧
          fold (items.map AclItem.holding) = .ok (.ofAcl items) ∧
          Catalog.cellPolicy (.list (texts.map .text)) = .ok (.ofAcl items) ∧
          (ofAcl items).IsUnionOf (items.map AclItem.holding) ∧
          ∀ others : List String, others.Perm texts → ∃ q,
            Catalog.cellPolicy (.list (others.map .text)) = .ok q ∧
              (ofAcl items).equal q = true := by
  constructor
  · intro l hbuilt
    have hl : ∀ h ∈ l, h.IsNormal := fun h hmem => Holding.isBuilt_iff_isNormal.1 (hbuilt h hmem)
    refine ⟨fold_eq hl, isUnionOf_ofHoldings l, fun m hm => ?_, fun pieces hpieces => ?_⟩
    · exact ⟨fold_eq fun h hmem => hl h (hm.mem_iff.1 hmem),
        equal_of_mem_iff fun h => hm.mem_iff.symm⟩
    · have hparts : ∀ piece ∈ pieces, ∀ h ∈ piece, h.IsNormal := fun piece hpiece h hmem =>
        hl h (hpieces.mem_iff.1 (List.mem_flatten_of_mem hpiece hmem))
      have hfolds : pieces.mapM fold = .ok (pieces.map ofHoldings) :=
        mapM_eq_ok_map fun piece hpiece => fold_eq (hparts piece hpiece)
      refine ⟨pieces.map ofHoldings, _, hfolds, fold_eq fun h hmem => ?_,
        equal_ofHoldings_flatMap hpieces⟩
      obtain ⟨part, hpart, hmem⟩ := List.mem_flatMap.1 hmem
      obtain ⟨piece, hpiece, rfl⟩ := List.mem_map.1 hpart
      exact isNormal_of_mem_ofHoldings (hparts piece hpiece) hmem
  -- texts are read to items, and every item that was read gives a built holding
  · intro texts htexts
    obtain ⟨items, hitems, hmem⟩ := exists_mapM_of_forall htexts
    have hread : ∀ item ∈ items, ∃ text, AclItem.parse text = .ok item := fun item hitem =>
      (hmem item).1 hitem |>.imp fun _ h => h.2
    refine ⟨items, hitems, mapM_eq_ok_map fun item hitem => ?_,
      fold_eq fun h hh => ?_, Catalog.cellPolicy_texts hitems, isUnionOf_ofHoldings _,
      fun others hothers => ?_⟩
    · obtain ⟨text, htext⟩ := hread item hitem
      exact AclItem.entry_eq htext
    · obtain ⟨item, hitem, rfl⟩ := List.mem_map.1 hh
      obtain ⟨text, htext⟩ := hread item hitem
      exact AclItem.isNormal_of_parse htext
    · obtain ⟨items', hitems', hmem'⟩ :=
        exists_mapM_of_forall fun text htext => htexts text (hothers.mem_iff.1 htext)
      refine ⟨.ofAcl items', Catalog.cellPolicy_texts hitems', equal_of_mem_iff fun h => ?_⟩
      -- in another order the same items are read
      have hsame : ∀ item, item ∈ items ↔ item ∈ items' := fun item => by
        rw [hmem, hmem']
        simp only [hothers.mem_iff]
      simp only [List.mem_map, hsame]

/-- Two holdings of one role, under two of its spellings. -/
def sampleHoldings : List Holding := [
  ⟨"Alice", .singleton "SELECT", ∅, fun _ h => absurd h (TextSet.not_mem_empty _)⟩,
  ⟨" alice", .singleton "UPDATE", .singleton "UPDATE", fun _ h => h⟩]

theorem fold_isUnionOf_sample :
    (∀ h ∈ sampleHoldings, h.IsBuilt) ∧
      (∃ p found, fold sampleHoldings = .ok p ∧ p.get "ALICE" = .ok found ∧
        "SELECT" ∈ found.privileges ∧ "UPDATE" ∈ found.grantOptions) ∧
      (∃ item, AclItem.parse "alice=r*/owner" = .ok item) ∧
      ∃ p, Catalog.cellPolicy (.list [.text "alice=r*/owner"]) = .ok p := by
  have hbuilt : ∀ h ∈ sampleHoldings, h.IsBuilt := by
    have hnormal : ∀ h ∈ sampleHoldings, ∀ token ∈ h.privileges.toList,
        Privilege.normalForm token = token := by
      decide +kernel
    exact fun h hmem => Holding.isBuilt_iff_isNormal.2 (hnormal h hmem)
  have hkeys : ∀ h ∈ sampleHoldings, h.key = Role.key "ALICE" := by
    decide +kernel
  have hread : ∃ item, AclItem.parse "alice=r*/owner" = .ok item := by
    refine ⟨.ofMarks "alice" "owner" [("SELECT", true)], ?_⟩
    rfl
  obtain ⟨hfold, hunion, -⟩ := fold_isUnionOf.1 sampleHoldings hbuilt
  obtain ⟨found, hfound⟩ := (hunion.succeeds_iff "ALICE").2
    ⟨_, List.mem_cons_self, hkeys _ List.mem_cons_self⟩
  refine ⟨hbuilt, ⟨_, found, hfold, hfound, ?_, ?_⟩, hread, ?_⟩
  · have hselect : ∃ h ∈ sampleHoldings, h.key = Role.key "ALICE" ∧ "SELECT" ∈ h.privileges := by
      decide +kernel
    exact (hunion.mem_privileges "ALICE" found hfound "SELECT").2 hselect
  · have hupdate : ∃ h ∈ sampleHoldings, h.key = Role.key "ALICE" ∧ "UPDATE" ∈ h.grantOptions := by
      decide +kernel
    exact (hunion.mem_grantOptions "ALICE" found hfound "UPDATE").2 hupdate
  · obtain ⟨_, -, -, -, hcell, -⟩ := fold_isUnionOf.2 ["alice=r*/owner"] (by simpa using hread)
    exact ⟨_, hcell⟩

end Policy

end PgGrants
