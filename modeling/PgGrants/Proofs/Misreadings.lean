/-
Answers that cannot be read. Rows and cells are read as what was asked for, and an answer that is
not of that shape is an error of its own: it does not say that anything is missing, and it refuses
nothing that was declared. `OnlyMisreads` says of a way to read that nothing else goes wrong in it.
-/
import PgGrants.Catalog

set_option autoImplicit false

namespace PgGrants

/-- An answer is not of the shape in which it is read. -/
def Error.isMisreading : Error → Bool
  | .absentRow | .absentCell | .rowWidth _ _ => true
  | .aclItem _ | .mistyped _ | .absentKey _ => true
  | .notInteger _ | .tooManyDigits _ | .noVersion _ => true
  | _ => false

theorem Error.isNotFound_of_isMisreading {error : Error} (h : error.isMisreading = true) :
    error.isNotFound = false := by
  cases error with
  | notFound => cases h
  | _ => rfl

/-! ## 1. Ways to read -/

variable {α β : Type}

/-- When it fails, it is by a misreading. -/
def OnlyMisreads (outcome : Except Error α) : Prop :=
  ∀ error, outcome = .error error → error.isMisreading = true

namespace OnlyMisreads

theorem ok (a : α) : OnlyMisreads (.ok a) := fun _ h => nomatch h

theorem error {error : Error} (h : error.isMisreading = true) :
    OnlyMisreads (.error error : Except Error α) := by
  intro _ heq
  cases heq
  exact h

theorem bind {outcome : Except Error α} {next : α → Except Error β} (h : OnlyMisreads outcome)
    (hnext : ∀ a, OnlyMisreads (next a)) : OnlyMisreads (outcome >>= next) := by
  cases outcome with
  | error error => exact .error (h error rfl)
  | ok a => exact hnext a

theorem mapM {f : α → Except Error β} (h : ∀ a, OnlyMisreads (f a)) (l : List α) :
    OnlyMisreads (l.mapM f) := by
  induction l with
  | nil => exact .ok []
  | cons a rest ih =>
    rw [List.mapM_cons]
    exact (h a).bind fun _ => ih.bind fun _ => .ok _

end OnlyMisreads

/-! ## 2. Rows and cells -/

theorem onlyMisreads_firstCell (rows : List (List Value)) :
    OnlyMisreads (Catalog.firstCell rows) := by
  rcases rows with _ | ⟨_ | ⟨cell, row⟩, rest⟩
  · exact .error rfl
  · exact .error rfl
  · exact .ok cell

theorem onlyMisreads_threeCells (row : List Value) : OnlyMisreads (Catalog.threeCells row) := by
  unfold Catalog.threeCells
  split
  · exact .ok _
  · exact .error rfl

theorem onlyMisreads_toInteger (value : Value) : OnlyMisreads value.toInteger := by
  unfold Value.toInteger
  split
  · exact .ok _
  · exact .ok _
  · exact .ok _
  · split
    · exact .ok _
    · exact .error rfl
    · exact .error rfl
  · exact .error rfl

theorem onlyMisreads_version (value : Value) : OnlyMisreads (Version.ofText value) := by
  unfold Version.ofText
  split
  · exact .ok _
  · exact .error rfl
  · exact .error rfl

theorem AclItem.isMisreading_listFault (items : List Value) :
    (listFault items).isMisreading = true := by
  unfold listFault
  split
  · dsimp only
    split
    · rfl
    · split <;> rfl
  · split <;> rfl

theorem onlyMisreads_aclItem (value : Value) : OnlyMisreads (AclItem.ofValue value) := by
  unfold AclItem.ofValue
  split
  · rename_i text
    cases AclItem.parse text with
    | ok item => exact .ok item
    | error fault => exact .error rfl
  · exact .error (AclItem.isMisreading_listFault _)
  · exact .error rfl
  · exact .error rfl
  · exact .error rfl

theorem onlyMisreads_cellPolicy (cell : Value) : OnlyMisreads (Catalog.cellPolicy cell) := by
  have hacl : OnlyMisreads (Catalog.cellAcl cell) := by
    unfold Catalog.cellAcl
    split
    · split
      · exact .error rfl
      · exact .mapM onlyMisreads_aclItem _
    · exact .ok []
  exact hacl.bind fun _ => .ok _

theorem onlyMisreads_rowRole (row : List Value) : OnlyMisreads (Catalog.rowRole row) :=
  (onlyMisreads_threeCells row).bind fun _ => (onlyMisreads_toInteger _).bind fun _ => .ok _

theorem onlyMisreads_rowObject (row : List Value) : OnlyMisreads (Catalog.rowObject row) :=
  (onlyMisreads_threeCells row).bind fun _ => (onlyMisreads_cellPolicy _).bind fun _ => .ok _

end PgGrants
