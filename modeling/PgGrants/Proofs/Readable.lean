/-
Texts that can be read from the left. What is written in front of something else can be told from
what follows, although names may hold every sign that stands between the parts: a quoted name ends
at the first quote that no other quote follows, no fixed word is the beginning of another one, and a
list ends where no comma follows. `PrefixFree` says this of one way of writing; lists of things that
can be told apart can be told apart again.
-/
import Mathlib.Data.List.Infix
import PgGrants.Proofs.ItemGrammar
import PgGrants.Sql.Statement

set_option autoImplicit false

namespace PgGrants

namespace Sql

/-! ## 1. What can be cancelled

A way of writing is prefix-free when what was written can be told from what follows. Then writing
one part after another loses nothing, and the parts are cancelled from the left. -/

/-- What follows does not go on with a quote. -/
abbrev Unquoted (rest : List Char) : Prop := rest.head? ≠ some '"'

/-- What follows is set off by a blank. -/
abbrev Spaced (rest : List Char) : Prop := rest.head? = some ' '

theorem Spaced.unquoted {rest : List Char} (h : Spaced rest) : Unquoted rest := by
  rw [Unquoted, h]
  decide

/-- Of two things of the kind, each written at the beginning of one text and followed by something
suitable, both are the same, and so is what follows. -/
def PrefixFree {α : Type} (kind : α → Prop) (follows : List Char → Prop) (write : α → List Char) :
    Prop :=
  ∀ a b rest rest', kind a → kind b → follows rest → follows rest' →
    write a ++ rest = write b ++ rest' → a = b ∧ rest = rest'

section Rules

variable {α : Type} {kind : α → Prop} {follows : List Char → Prop} {write : α → List Char}

/-- Words of which none is the beginning of another can stand in front of anything. -/
theorem prefixFree_of_words (h : ∀ a b, kind a → kind b → write a <+: write b → a = b) :
    PrefixFree kind (fun _ => True) write := by
  intro a b rest rest' ha hb _ _ heq
  have hleft : write a <+: write a ++ rest := List.prefix_append _ _
  have hright : write b <+: write a ++ rest := by
    rw [heq]
    exact List.prefix_append _ _
  -- both are prefixes of one text, so one is a prefix of the other
  have hab : a = b := by
    rcases List.prefix_or_prefix_of_prefix hleft hright with hprefix | hprefix
    · exact h a b ha hb hprefix
    · exact (h b a hb ha hprefix).symm
  subst hab
  exact ⟨rfl, List.append_cancel_left heq⟩

/-- With fewer things to write, and less in front of which to write them, they can still be told
apart. -/
theorem PrefixFree.mono {kind' : α → Prop} {follows' : List Char → Prop}
    (h : PrefixFree kind follows write) (hkind : ∀ a, kind' a → kind a)
    (hfollows : ∀ rest, follows' rest → follows rest) : PrefixFree kind' follows' write :=
  fun a b rest rest' ha hb hrest hrest' =>
    h a b rest rest' (hkind a ha) (hkind b hb) (hfollows rest hrest) (hfollows rest' hrest')

/-! ## 2. Lists -/

/-- Texts with commas between them. -/
def commas (texts : List (List Char)) : List Char := [',', ' '].intercalate texts

theorem commas_cons (text : List Char) (texts : List (List Char)) :
    commas (text :: texts) = text ++ texts.flatMap fun next => ',' :: ' ' :: next := by
  induction texts generalizing text with
  | nil => simp [commas]
  | cons next texts ih =>
    unfold commas at ih ⊢
    rw [List.intercalate_cons_cons, ih]
    simp

/-- The elements of a list after its first one. -/
def others (write : α → List Char) (l : List α) : List Char :=
  l.flatMap fun a => ',' :: ' ' :: write a

theorem commas_map_cons (a : α) (l : List α) :
    commas ((a :: l).map write) = write a ++ others write l := by
  rw [List.map_cons, commas_cons, List.flatMap_map]
  rfl

/-- A comma or a blank follows each element, so no quote does. -/
theorem unquoted_others (l : List α) {rest : List Char} (hrest : Spaced rest) :
    Unquoted (others write l ++ rest) := by
  cases l with
  | nil => exact hrest.unquoted
  | cons a l => simp [others, Unquoted]

theorem PrefixFree.others (h : PrefixFree kind Unquoted write) :
    PrefixFree (fun l : List α => ∀ a ∈ l, kind a) Spaced (others write) := by
  intro l l' rest rest' hl hl' hrest hrest' heq
  obtain ⟨tail, rfl⟩ := List.head?_eq_some_iff.1 hrest
  obtain ⟨tail', rfl⟩ := List.head?_eq_some_iff.1 hrest'
  induction l generalizing l' with
  | nil =>
    -- as long as one list goes on there is a comma, and behind the last element there is none
    cases l' with
    | nil => exact ⟨rfl, heq⟩
    | cons b l' => simp [Sql.others] at heq
  | cons a l ih =>
    cases l' with
    | nil => simp [Sql.others] at heq
    | cons b l' =>
      rw [List.forall_mem_cons] at hl hl'
      simp only [Sql.others, List.flatMap_cons, List.cons_append, List.append_assoc,
        List.cons.injEq, true_and] at heq
      obtain ⟨rfl, hafter⟩ := h a b _ _ hl.1 hl'.1 (unquoted_others l hrest)
        (unquoted_others l' hrest') heq
      obtain ⟨rfl, hleft⟩ := ih l' hl.2 hl'.2 hafter
      exact ⟨rfl, hleft⟩

/-- A list ends where a blank comes without a comma before it, when its elements are neither empty
nor begin with a blank. -/
theorem PrefixFree.commas (h : PrefixFree kind Unquoted write)
    (hstart : ∀ a, kind a → ∃ c cs, write a = c :: cs ∧ c ≠ ' ') :
    PrefixFree (fun l : List α => ∀ a ∈ l, kind a) Spaced (fun l => Sql.commas (l.map write)) := by
  intro l l' rest rest' hl hl' hrest hrest' heq
  -- what follows an empty list cannot be taken for an element
  have hnonempty : ∀ (a : α) (l : List α) (rest rest' : List Char), kind a → Spaced rest' →
      Sql.commas ((a :: l).map write) ++ rest ≠ rest' := by
    rintro a l rest rest' ha hrest' rfl
    obtain ⟨c, cs, hwrite, hc⟩ := hstart a ha
    rw [commas_map_cons, hwrite] at hrest'
    exact hc (Option.some.inj hrest')
  cases l with
  | nil =>
    cases l' with
    | nil => exact ⟨rfl, heq⟩
    | cons b l' => exact absurd heq.symm (hnonempty b l' _ _ (hl' b List.mem_cons_self) hrest)
  | cons a l =>
    cases l' with
    | nil => exact absurd heq (hnonempty a l _ _ (hl a List.mem_cons_self) hrest')
    | cons b l' =>
      rw [List.forall_mem_cons] at hl hl'
      simp only [commas_map_cons, List.append_assoc] at heq
      obtain ⟨rfl, hafter⟩ := h a b _ _ hl.1 hl'.1 (unquoted_others l hrest)
        (unquoted_others l' hrest') heq
      obtain ⟨rfl, hleft⟩ := h.others l l' rest rest' hl.2 hl'.2 hrest hrest' hafter
      exact ⟨rfl, hleft⟩

end Rules

end Sql

end PgGrants
