/-
Finite sets of texts. A set is the strictly ascending list of its members by code point, so equal
sets are equal values, and the order in which a set is written is the order of its list.

Main statements: `mem_insert`, `mem_union`, `mem_diff`, `mem_ofList` say what each operation does to
membership, and `ext` says that membership is all there is to a set.
-/

set_option autoImplicit false

namespace PgGrants

/-- A finite set of texts, held in ascending code point order. -/
structure TextSet where
  toList : List String
  ascending : toList.Pairwise (· < ·)
deriving DecidableEq

namespace TextSet

instance : Membership String TextSet := ⟨fun s x => x ∈ s.toList⟩

instance (s : TextSet) (x : String) : Decidable (x ∈ s) :=
  inferInstanceAs (Decidable (x ∈ s.toList))

theorem mem_def {s : TextSet} {x : String} : x ∈ s ↔ x ∈ s.toList := Iff.rfl

/-- The set without members. -/
def empty : TextSet := ⟨[], List.Pairwise.nil⟩

instance : EmptyCollection TextSet := ⟨empty⟩

instance : Inhabited TextSet := ⟨empty⟩

@[simp] theorem not_mem_empty (x : String) : x ∉ (∅ : TextSet) := by
  intro h
  cases h

/-- The set has no member. -/
def isEmpty (s : TextSet) : Bool := s.toList.isEmpty

theorem isEmpty_iff {s : TextSet} : s.isEmpty = true ↔ s = ∅ := by
  obtain ⟨l, hl⟩ := s
  cases l with
  | nil => exact iff_of_true rfl rfl
  | cons y rest => exact iff_of_false Bool.false_ne_true (fun h => nomatch h)

/-- The set has the member, as a test. -/
def contains (s : TextSet) (x : String) : Bool := decide (x ∈ s)

@[simp] theorem contains_iff {s : TextSet} {x : String} : s.contains x = true ↔ x ∈ s := by
  simp [contains]

/-! ## Insertion -/

/-- The ascending list with `x` put at its place, once. -/
def insertSorted (x : String) : List String → List String
  | [] => [x]
  | y :: rest =>
    if x < y then x :: y :: rest
    else if x = y then y :: rest
    else y :: insertSorted x rest

theorem mem_insertSorted {x y : String} {l : List String} :
    y ∈ insertSorted x l ↔ y = x ∨ y ∈ l := by
  induction l with
  | nil => simp [insertSorted]
  | cons z rest ih =>
    unfold insertSorted
    split
    · simp
    · split
      · rename_i hxz
        subst hxz
        simp
      · simp only [List.mem_cons, ih]
        exact or_left_comm

/-- Of two different texts one comes first. -/
theorem lt_of_not_lt_of_ne {x y : String} (hlt : ¬ x < y) (hne : x ≠ y) : y < x := by
  rcases Std.lt_trichotomy x y with h | h | h
  · exact absurd h hlt
  · exact absurd h hne
  · exact h

theorem pairwise_insertSorted {x : String} {l : List String} (hl : l.Pairwise (· < ·)) :
    (insertSorted x l).Pairwise (· < ·) := by
  induction l with
  | nil => simp [insertSorted]
  | cons z rest ih =>
    rw [List.pairwise_cons] at hl
    unfold insertSorted
    split
    · rename_i hxz
      refine List.pairwise_cons.2 ⟨fun y hy => ?_, List.pairwise_cons.2 hl⟩
      rcases List.mem_cons.1 hy with rfl | hy
      · exact hxz
      · exact String.lt_trans hxz (hl.1 y hy)
    · split
      · exact List.pairwise_cons.2 hl
      · rename_i hlt hne
        refine List.pairwise_cons.2 ⟨fun y hy => ?_, ih hl.2⟩
        rcases mem_insertSorted.1 hy with rfl | hy
        · exact lt_of_not_lt_of_ne hlt hne
        · exact hl.1 y hy

/-- The set with one more member. -/
def insert (s : TextSet) (x : String) : TextSet :=
  ⟨insertSorted x s.toList, pairwise_insertSorted s.ascending⟩

@[simp] theorem mem_insert {s : TextSet} {x y : String} : y ∈ s.insert x ↔ y = x ∨ y ∈ s :=
  mem_insertSorted

/-! ## Sets from lists, and the set operations -/

/-- The set of the texts of a list. -/
def ofList (l : List String) : TextSet := l.foldr (fun x s => s.insert x) ∅

@[simp] theorem mem_ofList {l : List String} {x : String} : x ∈ ofList l ↔ x ∈ l := by
  induction l with
  | nil => simp [ofList]
  | cons y rest ih =>
    have h : ofList (y :: rest) = (ofList rest).insert y := rfl
    rw [h, mem_insert, ih, List.mem_cons]

/-- The set with one member. -/
def singleton (x : String) : TextSet := ofList [x]

/-- The members of either set. -/
def union (s t : TextSet) : TextSet := s.toList.foldr (fun x u => u.insert x) t

instance : Union TextSet := ⟨union⟩

@[simp] theorem mem_union {s t : TextSet} {x : String} : x ∈ s ∪ t ↔ x ∈ s ∨ x ∈ t := by
  suffices h : ∀ l : List String, x ∈ l.foldr (fun y u => u.insert y) t ↔ x ∈ l ∨ x ∈ t from
    h s.toList
  intro l
  induction l with
  | nil => simp
  | cons y rest ih => rw [List.foldr_cons, mem_insert, ih, List.mem_cons, or_assoc]

/-- The members that satisfy a test. -/
def filter (s : TextSet) (p : String → Bool) : TextSet :=
  ⟨s.toList.filter p, s.ascending.filter p⟩

@[simp] theorem mem_filter {s : TextSet} {p : String → Bool} {x : String} :
    x ∈ s.filter p ↔ x ∈ s ∧ p x = true := by
  simp [filter, mem_def]

/-- The members of the first set that are not in the second. -/
def diff (s t : TextSet) : TextSet := s.filter fun x => !t.contains x

instance : SDiff TextSet := ⟨diff⟩

@[simp] theorem mem_diff {s t : TextSet} {x : String} : x ∈ s \ t ↔ x ∈ s ∧ x ∉ t := by
  show x ∈ s.filter (fun y => !t.contains y) ↔ x ∈ s ∧ x ∉ t
  simp [contains]

/-- Every member of the first set is in the second. -/
def subset (s t : TextSet) : Bool := s.toList.all t.contains

instance : HasSubset TextSet := ⟨fun s t => ∀ x ∈ s, x ∈ t⟩

theorem subset_def {s t : TextSet} : s ⊆ t ↔ ∀ x ∈ s, x ∈ t := Iff.rfl

theorem subset_iff {s t : TextSet} : s.subset t = true ↔ s ⊆ t := by
  simp [subset, subset_def, mem_def, contains]

instance (s t : TextSet) : Decidable (s ⊆ t) := decidable_of_iff _ subset_iff

/-! ## Extensionality -/

/-- Ascending lists with the same members are equal. -/
theorem eq_of_mem_iff_of_pairwise {l m : List String} (hl : l.Pairwise (· < ·))
    (hm : m.Pairwise (· < ·)) (h : ∀ x, x ∈ l ↔ x ∈ m) : l = m := by
  induction l generalizing m with
  | nil =>
    cases m with
    | nil => rfl
    | cons y _ => exact absurd ((h y).2 List.mem_cons_self) List.not_mem_nil
  | cons x l ih =>
    cases m with
    | nil => exact absurd ((h x).1 List.mem_cons_self) List.not_mem_nil
    | cons y m =>
      rw [List.pairwise_cons] at hl hm
      have hxy : x = y := by
        rcases List.mem_cons.1 ((h x).1 List.mem_cons_self) with hx | hx
        · exact hx
        · rcases List.mem_cons.1 ((h y).2 List.mem_cons_self) with hy | hy
          · exact hy.symm
          · exact absurd (String.lt_trans (hl.1 y hy) (hm.1 x hx)) (String.lt_irrefl x)
      subst hxy
      have hrest : l = m := by
        refine ih hl.2 hm.2 fun z => ⟨fun hz => ?_, fun hz => ?_⟩
        · rcases List.mem_cons.1 ((h z).1 (List.mem_cons_of_mem x hz)) with rfl | hm'
          · exact absurd (hl.1 z hz) (String.lt_irrefl z)
          · exact hm'
        · rcases List.mem_cons.1 ((h z).2 (List.mem_cons_of_mem x hz)) with rfl | hl'
          · exact absurd (hm.1 z hz) (String.lt_irrefl z)
          · exact hl'
      rw [hrest]

/-- Sets with the same members are equal. -/
@[ext] theorem ext {s t : TextSet} (h : ∀ x, x ∈ s ↔ x ∈ t) : s = t := by
  obtain ⟨l, hl⟩ := s
  obtain ⟨m, hm⟩ := t
  have : l = m := eq_of_mem_iff_of_pairwise hl hm h
  subst this
  rfl

@[simp] theorem ofList_toList (s : TextSet) : ofList s.toList = s := by
  ext x
  rw [mem_ofList, mem_def]

end TextSet

end PgGrants
