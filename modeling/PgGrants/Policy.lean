/-
Policies: what each role holds on one object, at most one holding per role key. Adding a holding of
a role that is already there joins the two, so a policy is folded from any list of holdings.

Main statements: `find?_add` and `find?_eraseAll` say what building and shrinking a policy does to
each look-up, and `find?_isSome_iff` that `keys` are exactly the keys with a holding.
-/
import PgGrants.Holding

set_option autoImplicit false

namespace PgGrants

/-- The holdings of several roles, in ascending order of their keys. -/
structure Policy where
  holdings : List Holding
  ascending : (holdings.map Holding.key).Pairwise (· < ·)

namespace Policy

theorem ascending_nil : (([] : List Holding).map Holding.key).Pairwise (· < ·) := List.Pairwise.nil

/-- The policy without any holding. -/
def empty : Policy := ⟨[], ascending_nil⟩

instance : EmptyCollection Policy := ⟨empty⟩

instance : Inhabited Policy := ⟨empty⟩

/-- The number of roles. -/
def size (p : Policy) : Nat := p.holdings.length

/-- The keys of the roles. -/
def keys (p : Policy) : TextSet := ⟨p.holdings.map Holding.key, p.ascending⟩

/-! ## Look-up -/

/-- The holding with the key. -/
def find? (p : Policy) (key : String) : Option Holding := p.holdings.find? fun h => h.key == key

/-- The holding of the role, by any of its spellings. -/
def lookup (p : Policy) (role : String) : Option Holding := p.find? (Role.key role)

/-- The holding of the role, an empty one under the given spelling when there is none. An absent
name is not looked up. -/
def holdingOf (p : Policy) (role : Option String) : Holding :=
  (role.bind p.lookup).getD (.none role)

theorem find?_isSome_iff {p : Policy} {key : String} : (p.find? key).isSome ↔ key ∈ p.keys := by
  simp [find?, keys, TextSet.mem_def]

/-! ## Building -/

/-- The ascending list with `h` at its place, joined to the holding that is there. -/
def addSorted (h : Holding) : List Holding → List Holding
  | [] => [h]
  | k :: rest =>
    if h.key < k.key then h :: k :: rest
    else if h.key = k.key then k.join h :: rest
    else k :: addSorted h rest

theorem map_key_addSorted (h : Holding) (l : List Holding) :
    (addSorted h l).map Holding.key = TextSet.insertSorted h.key (l.map Holding.key) := by
  induction l with
  | nil => rfl
  | cons k rest ih =>
    unfold addSorted
    rw [List.map_cons, TextSet.insertSorted]
    split
    · rfl
    · split
      · rw [List.map_cons, Holding.key_join]
      · rw [List.map_cons, ih]

/-- A key that comes before every key of an ascending list is not in the list. -/
theorem find?_eq_none_of_lt {key : String} {l : List Holding} (h : ∀ k ∈ l, key < k.key) :
    l.find? (fun k => k.key == key) = none := by
  rw [List.find?_eq_none]
  intro k hk heq
  have hlt := h k hk
  rw [beq_iff_eq.1 heq] at hlt
  exact String.lt_irrefl key hlt

theorem find?_addSorted {h : Holding} {l : List Holding} {key : String}
    (hl : (l.map Holding.key).Pairwise (· < ·)) :
    (addSorted h l).find? (fun k => k.key == key) =
      if h.key = key then
        some (match l.find? (fun k => k.key == key) with
          | some k => k.join h
          | none => h)
      else l.find? (fun k => k.key == key) := by
  induction l with
  | nil => by_cases hkey : h.key = key <;> simp [addSorted, hkey]
  | cons k rest ih =>
    rw [List.map_cons, List.pairwise_cons] at hl
    have hrest : ∀ m ∈ rest, k.key < m.key := fun m hm => hl.1 _ (List.mem_map_of_mem hm)
    unfold addSorted
    split
    · -- the new key comes first, so no holding of the list has it
      rename_i hlt
      by_cases hkey : h.key = key
      · rw [hkey] at hlt
        have hnone : (k :: rest).find? (fun m => m.key == key) = none := by
          refine find?_eq_none_of_lt fun m hm => ?_
          rcases List.mem_cons.1 hm with rfl | hm
          · exact hlt
          · exact String.lt_trans hlt (hrest m hm)
        rw [hnone]
        simp [hkey]
      · simp [hkey]
    · split
      · rename_i heq
        by_cases hkey : h.key = key
        · simp [← heq, hkey]
        · have hk : ¬ k.key = key := fun hk => hkey (heq.trans hk)
          simp [hkey, hk]
      · rename_i hne
        by_cases hk : k.key = key
        · have hkey : ¬ h.key = key := fun hkey => hne (hkey.trans hk.symm)
          simp [hk, hkey]
        · simp only [List.find?_cons, beq_eq_false_iff_ne.2 hk]
          exact ih hl.2

/-- The policy with one more holding. -/
def add (p : Policy) (h : Holding) : Policy where
  holdings := addSorted h p.holdings
  ascending := by
    rw [map_key_addSorted]
    exact TextSet.pairwise_insertSorted p.ascending

/-- A look-up of the added key finds the holding, joined to the one that was there; every other
look-up finds what it found before. -/
theorem find?_add {p : Policy} {h : Holding} {key : String} :
    (p.add h).find? key =
      if h.key = key then
        some (match p.find? key with
          | some k => k.join h
          | none => h)
      else p.find? key :=
  find?_addSorted p.ascending

/-- The policy that a list of holdings folds to. -/
def ofHoldings (l : List Holding) : Policy := l.foldl add ∅

/-- The policy without the given roles, by any of their spellings. -/
def eraseAll (p : Policy) (roles : List String) : Policy where
  holdings := p.holdings.filter fun h => !(roles.map Role.key).contains h.key
  ascending := by
    refine List.Pairwise.sublist ?_ p.ascending
    exact List.Sublist.map _ List.filter_sublist

/-- An erased key is no longer found; every other look-up finds what it found before. -/
theorem find?_eraseAll {p : Policy} {roles : List String} {key : String} :
    (p.eraseAll roles).find? key = if key ∈ roles.map Role.key then none else p.find? key := by
  unfold find? eraseAll
  rw [List.find?_filter]
  split
  · rename_i hkey
    rw [List.find?_eq_none]
    intro k _ hk
    rw [decide_eq_true_eq, beq_iff_eq] at hk
    rw [hk.2] at hk
    simp [hkey] at hk
  · rename_i hkey
    refine congrArg (fun p => List.find? p _) (funext fun k => ?_)
    by_cases hk : k.key = key
    · rw [hk]
      simp [hkey]
    · simp [hk]

/-- Both policies have the same keys with the same privileges and grant options. -/
def same (p q : Policy) : Bool :=
  p.keys == q.keys &&
    p.holdings.all fun h =>
      match q.find? h.key with
      | some k => h.sameRights k
      | none => false

end Policy

end PgGrants
