/-
What identifiers identify. An identifier is made of names with a separator between them, and a name
may hold the separator as well, so different things can have one identifier.

When they have as many separators at the same places, the places at which the names end are the
same, and so are the names. One exception does no harm: the identifiers have equally many
separators altogether, so a single place cannot differ.
-/
import Mathlib.Algebra.Ring.Nat
import PgGrants.Proofs.PublicSpellings
import PgGrants.Proofs.Readable

set_option autoImplicit false

namespace PgGrants

/-! ## 1. Names with a separator between them

Names are told from their joined text only if it is known where they end. When both texts have as
many separators in the same parts, the first name of one cannot be a proper beginning of the first
name of the other, and so on along the list. -/

section Separated

variable {sep : Char} {ps qs : List (List Char)}

/-- A name ends at the first separator that it does not hold itself. -/
theorem append_cons_inj_of_count {a b s t : List Char} (hcount : a.count sep = b.count sep)
    (h : a ++ sep :: s = b ++ sep :: t) : a = b ∧ s = t := by
  -- the parts have equally many separators, so neither can end before the other
  induction a generalizing b with
  | nil =>
    cases b with
    | nil => exact ⟨rfl, List.tail_eq_of_cons_eq h⟩
    | cons c b =>
      rw [List.nil_append, List.cons_append, List.cons.injEq] at h
      rw [← h.1, List.count_nil, List.count_cons_self] at hcount
      cases hcount
  | cons c a ih =>
    cases b with
    | nil =>
      rw [List.nil_append, List.cons_append, List.cons.injEq] at h
      rw [h.1, List.count_nil, List.count_cons_self] at hcount
      cases hcount
    | cons d b =>
      rw [List.cons_append, List.cons_append, List.cons.injEq] at h
      obtain ⟨rfl, h⟩ := h
      rw [List.count_cons, List.count_cons, Nat.add_right_cancel_iff] at hcount
      obtain ⟨rfl, rfl⟩ := ih hcount h
      exact ⟨rfl, rfl⟩

theorem intercalate_inj_of_counts (hcounts : ps.map (List.count sep) = qs.map (List.count sep))
    (h : [sep].intercalate ps = [sep].intercalate qs) : ps = qs := by
  induction ps generalizing qs with
  | nil => exact (List.map_eq_nil_iff.1 hcounts.symm).symm
  | cons p ps ih =>
    obtain ⟨q, qs, rfl, hcount, hrest⟩ := List.map_eq_cons_iff.1 hcounts.symm
    -- the last part has no separator behind it
    cases ps with
    | nil =>
      rw [List.map_eq_nil_iff.1 hrest, List.intercalate_singleton,
        List.intercalate_singleton] at h
      rw [h, List.map_eq_nil_iff.1 hrest]
    | cons p' ps =>
      obtain ⟨q', qs, rfl, -, -⟩ := List.map_eq_cons_iff.1 hrest
      simp only [List.intercalate_cons_cons, List.append_assoc, List.singleton_append] at h
      obtain ⟨rfl, htail⟩ := append_cons_inj_of_count hcount.symm h
      rw [ih hrest.symm htail]

theorem count_intercalate (hps : ps ≠ []) :
    ([sep].intercalate ps).count sep + 1 = (ps.map (List.count sep)).sum + ps.length := by
  induction ps with
  | nil => exact absurd rfl hps
  | cons p ps ih =>
    cases ps with
    | nil => simp
    | cons p' ps =>
      have hrest := ih (List.cons_ne_nil p' ps)
      simp only [List.intercalate_cons_cons, List.append_assoc, List.singleton_append,
        List.count_append, List.count_cons_self, List.map_cons, List.sum_cons,
        List.length_cons] at hrest ⊢
      omega

/-- Numbers of the same sum do not differ at one place alone. -/
theorem eq_of_sum_eq {xs ys : List Nat} (hlength : xs.length = ys.length) (hsum : xs.sum = ys.sum)
    (hone : (xs.zip ys).countP (fun pair => pair.1 != pair.2) ≤ 1) : xs = ys := by
  -- no pair differs when the number of those that do is zero
  have hnone {xs ys : List Nat} (hlength : xs.length = ys.length)
      (h : (xs.zip ys).countP (fun pair => pair.1 != pair.2) = 0) : xs = ys := by
    rw [List.countP_eq_zero] at h
    refine List.ext_getElem hlength fun i hi hi' => ?_
    have hmem : (xs[i], ys[i]) ∈ xs.zip ys := by
      rw [← List.getElem_zip (h := by rw [List.length_zip]; omega)]
      exact List.getElem_mem _
    simpa using h _ hmem
  induction xs generalizing ys with
  | nil => exact (List.length_eq_zero_iff.1 hlength.symm).symm
  | cons x xs ih =>
    obtain ⟨y, ys, rfl⟩ := List.exists_cons_of_length_eq_add_one hlength.symm
    rw [List.length_cons, List.length_cons, Nat.add_right_cancel_iff] at hlength
    rw [List.zip_cons_cons, List.countP_cons] at hone
    rw [List.sum_cons, List.sum_cons] at hsum
    by_cases hxy : x = y
    · subst hxy
      rw [ih hlength (Nat.add_left_cancel hsum) (Nat.le_of_add_right_le hone)]
    · -- the others are equal, and then these are
      rw [if_pos (by simpa using hxy)] at hone
      obtain rfl := hnone hlength (by omega)
      omega

end Separated

/-! ## 2. Parts of identifiers -/

namespace Identifier

/-- How often each part holds the separator. -/
def separators (sep : Char) (parts : List String) : List Nat :=
  parts.map fun part => part.toList.count sep

/-- The parts hold the separator equally often, place by place, with one exception at most. -/
def AtMostOneApart (sep : Char) (ps qs : List String) : Prop :=
  ((separators sep ps).zip (separators sep qs)).countP (fun pair => pair.1 != pair.2) ≤ 1

instance (sep : Char) (ps qs : List String) : Decidable (AtMostOneApart sep ps qs) :=
  inferInstanceAs (Decidable (_ ≤ 1))

variable {sep : Char} {between : String} {ps qs : List String}

theorem count_toList_intercalate (hsep : between.toList = [sep]) (hps : ps ≠ []) :
    (between.intercalate ps).toList.count sep + 1 = (separators sep ps).sum + ps.length := by
  rw [String.toList_intercalate, hsep,
    count_intercalate (by rwa [Ne, List.map_eq_nil_iff]), List.map_map, List.length_map]
  rfl

theorem eq_of_separators (hsep : between.toList = [sep])
    (hcounts : separators sep ps = separators sep qs)
    (h : between.intercalate ps = between.intercalate qs) : ps = qs := by
  have hcounts' : (ps.map String.toList).map (List.count sep) =
      (qs.map String.toList).map (List.count sep) := by
    rw [List.map_map, List.map_map]
    exact hcounts
  have htexts : [sep].intercalate (ps.map String.toList) =
      [sep].intercalate (qs.map String.toList) := by
    rw [← hsep, ← String.toList_intercalate, ← String.toList_intercalate, h]
  exact List.map_injective_iff.2 (fun _ _ => String.toList_inj.1)
    (intercalate_inj_of_counts hcounts' htexts)

theorem intercalate_inj (hsep : between.toList = [sep]) (hps : ps ≠ [])
    (hlength : ps.length = qs.length) (hone : AtMostOneApart sep ps qs)
    (h : between.intercalate ps = between.intercalate qs) : ps = qs := by
  have hqs : qs ≠ [] := List.ne_nil_of_length_pos (hlength ▸ List.length_pos_iff.2 hps)
  -- both hold the separator equally often altogether
  have hcount := count_toList_intercalate hsep hps
  rw [h, count_toList_intercalate hsep hqs, hlength, Nat.add_right_cancel_iff] at hcount
  refine eq_of_separators hsep (eq_of_sum_eq ?_ hcount.symm hone) h
  rw [separators, separators, List.length_map, List.length_map, hlength]

theorem separators_of_free (hfree : ∀ name ∈ ps, sep ∉ name.toList) :
    separators sep ps = List.replicate ps.length 0 := by
  refine List.eq_replicate_iff.2 ⟨List.length_map _, fun n hn => ?_⟩
  obtain ⟨name, hname, rfl⟩ := List.mem_map.1 hn
  exact List.count_eq_zero.2 (hfree name hname)

/-- Names without the separator stay apart, however many they are. -/
theorem intercalate_inj_of_free (hsep : between.toList = [sep]) (hps : ps ≠ []) (hqs : qs ≠ [])
    (hfree : ∀ name ∈ ps, sep ∉ name.toList) (hfree' : ∀ name ∈ qs, sep ∉ name.toList)
    (h : between.intercalate ps = between.intercalate qs) : ps = qs := by
  have hcount := count_toList_intercalate hsep hps
  rw [h, count_toList_intercalate hsep hqs, separators_of_free hfree, separators_of_free hfree',
    List.sum_replicate_nat, List.sum_replicate_nat, Nat.mul_zero, Nat.mul_zero, Nat.zero_add,
    Nat.zero_add] at hcount
  refine eq_of_separators hsep ?_ h
  rw [separators_of_free hfree, separators_of_free hfree', hcount]

/-! ## 3. Kinds and objects -/

/-- The members of a set are listed in ascending order already. -/
theorem sorted_toList (s : TextSet) : sorted s.toList = s.toList :=
  List.mergeSort_of_pairwise (s.ascending.imp fun h => decide_eq_true (Std.le_of_lt h))

/-- The part of a grant's identifier that says on what it is. -/
def onWhat (kind : ObjectKind) (objects : TextSet) : String :=
  joined (kind.name ::
    if objects.toList.isEmpty then [] else [String.intercalate "," objects.toList])

theorem grant_eq (role database schema : String) (kind : ObjectKind) (objects : TextSet) :
    grant role database schema kind objects.toList =
      joined [role, database, schema, onWhat kind objects] := by
  unfold grant onWhat joined
  rw [sorted_toList]
  split <;> simp [String.intercalate_cons_cons, String.append_assoc]

theorem toList_onWhat_of_nil (kind : ObjectKind) {objects : TextSet} (h : objects.toList = []) :
    (onWhat kind objects).toList = kind.name.toList ++ [] := by
  simp [onWhat, joined, h]

theorem toList_onWhat_of_ne_nil (kind : ObjectKind) {objects : TextSet}
    (h : objects.toList ≠ []) :
    (onWhat kind objects).toList =
      kind.name.toList ++ '_' :: (String.intercalate "," objects.toList).toList := by
  have hempty : objects.toList.isEmpty = false := by simpa using h
  rw [onWhat, hempty, if_neg Bool.false_ne_true, joined, String.toList_intercalate]
  simp [List.intercalate_cons_cons]

/-- No name of a kind is the beginning of another one. -/
theorem prefixFree_name :
    Sql.PrefixFree (fun _ => True) (fun _ => True) fun kind : ObjectKind => kind.name.toList := by
  have hwords : ∀ a ∈ ObjectKind.all, ∀ b ∈ ObjectKind.all,
      a.name.toList <+: b.name.toList → a = b := by decide
  exact Sql.prefixFree_of_words fun a b _ _ h =>
    hwords a (ObjectKind.mem_all a) b (ObjectKind.mem_all b) h

theorem name_inj {kind kind' : ObjectKind} (h : kind.name = kind'.name) : kind = kind' := by
  have hlist : kind.name.toList ++ [] = kind'.name.toList ++ [] := by rw [h]
  exact (prefixFree_name kind kind' [] [] trivial trivial trivial trivial hlist).1

/-- Objects whose names have no commas can be told apart after the kind. -/
theorem onWhat_inj {kind kind' : ObjectKind} {s t : TextSet}
    (hs : ∀ name ∈ s, ',' ∉ name.toList) (ht : ∀ name ∈ t, ',' ∉ name.toList)
    (h : onWhat kind s = onWhat kind' t) : kind = kind' ∧ s = t := by
  have hlist := congrArg String.toList h
  have hset {s t : TextSet} (h : s.toList = t.toList) : s = t :=
    TextSet.ext fun x => by rw [TextSet.mem_def, TextSet.mem_def, h]
  -- a list of names is told from no list by the sign in front of it
  by_cases hsnil : s.toList = [] <;> by_cases htnil : t.toList = []
  · rw [toList_onWhat_of_nil _ hsnil, toList_onWhat_of_nil _ htnil] at hlist
    exact ⟨(prefixFree_name _ _ _ _ trivial trivial trivial trivial hlist).1,
      hset (hsnil.trans htnil.symm)⟩
  · rw [toList_onWhat_of_nil _ hsnil, toList_onWhat_of_ne_nil _ htnil] at hlist
    cases (prefixFree_name _ _ _ _ trivial trivial trivial trivial hlist).2
  · rw [toList_onWhat_of_nil _ htnil, toList_onWhat_of_ne_nil _ hsnil] at hlist
    cases (prefixFree_name _ _ _ _ trivial trivial trivial trivial hlist).2
  · rw [toList_onWhat_of_ne_nil _ hsnil, toList_onWhat_of_ne_nil _ htnil] at hlist
    obtain ⟨hkind, htail⟩ := prefixFree_name _ _ _ _ trivial trivial trivial trivial hlist
    have hnames := String.toList_inj.1 (List.tail_eq_of_cons_eq htail)
    exact ⟨hkind, hset (intercalate_inj_of_free rfl hsnil htnil hs ht hnames)⟩

end Identifier

/-! ## 4. Identifiers and addresses -/

open Identifier

namespace DeclaredGrant

/-- The parts of the identifier. -/
def parts (declared : DeclaredGrant) : List String :=
  [declared.role, declared.database, declared.schemaName.getD "",
    onWhat declared.kind declared.objects]

/-- What the grant is addressed by; an empty schema is none. -/
def address (declared : DeclaredGrant) : String × String × String × ObjectKind × TextSet :=
  (declared.role, declared.database, declared.schemaName.getD "", declared.kind, declared.objects)

theorem id_eq (declared : DeclaredGrant) : declared.id = joined declared.parts := grant_eq ..

theorem id_eq_iff {d e : DeclaredGrant} (hone : AtMostOneApart '_' d.parts e.parts)
    (hd : ∀ name ∈ d.objects, ',' ∉ name.toList) (he : ∀ name ∈ e.objects, ',' ∉ name.toList) :
    d.id = e.id ↔ d.address = e.address := by
  refine ⟨fun h => ?_, fun h => ?_⟩
  · rw [id_eq, id_eq] at h
    have hparts : d.parts = e.parts := intercalate_inj rfl (List.cons_ne_nil _ _) rfl hone h
    simp only [parts, List.cons.injEq, and_true] at hparts
    obtain ⟨hrole, hdatabase, hschema, hwhat⟩ := hparts
    obtain ⟨hkind, hobjects⟩ := onWhat_inj hd he hwhat
    simp only [address, hrole, hdatabase, hschema, hkind, hobjects]
  · simp only [address, Prod.mk.injEq] at h
    obtain ⟨hrole, hdatabase, hschema, hkind, hobjects⟩ := h
    rw [id, id, hrole, hdatabase, hschema, hkind, hobjects]

end DeclaredGrant

namespace DeclaredDefaults

/-- The parts of the identifier. -/
def parts (declared : DeclaredDefaults) : List String :=
  [declared.role, declared.database, declared.schema.getD "", declared.owner, declared.kind.name]

/-- What the default privileges are addressed by. -/
def address (declared : DeclaredDefaults) :
    String × String × Option String × String × ObjectKind :=
  (declared.role, declared.database, declared.schema, declared.owner, declared.kind)

/-- A schema that is named has a name. -/
theorem schema_ne_empty {r : DefaultsRequest} {declared : DeclaredDefaults}
    (h : r.check = .ok declared) : declared.schema ≠ some "" := by
  obtain ⟨_, _, _, schema, -, -, -, -, hschema, -, rfl⟩ := DefaultsRequest.exists_of_check h
  rintro rfl
  unfold DefaultsRequest.checkSchema at hschema
  obtain ⟨_, -, hschema⟩ := exists_of_bind_eq_ok hschema
  -- a schema that is given as a text is stripped and not empty; other values give none
  cases hgiven : r.schema with
  | text name =>
    rw [hgiven] at hschema
    obtain ⟨name', hname, hok⟩ := exists_of_bind_eq_ok hschema
    cases hok
    rw [← Declaration.eq_of_nameIn hname] at hname
    cases hname
  | _ =>
    rw [hgiven] at hschema
    cases hschema

theorem id_eq_iff {d e : DeclaredDefaults} (hone : AtMostOneApart '_' d.parts e.parts)
    (hd : d.schema ≠ some "") (he : e.schema ≠ some "") :
    d.id = e.id ↔ d.address = e.address := by
  refine ⟨fun h => ?_, fun h => ?_⟩
  · have hparts : d.parts = e.parts := intercalate_inj rfl (List.cons_ne_nil _ _) rfl hone h
    simp only [parts, List.cons.injEq, and_true] at hparts
    obtain ⟨hrole, hdatabase, hschema, howner, hname⟩ := hparts
    -- no schema is written as the empty text, which is not the name of one
    have hnone {a b : Option String} (ha : a ≠ some "") (hb : b ≠ some "")
        (h : a.getD "" = b.getD "") : a = b := by
      cases a <;> cases b <;> simp_all
    have hschema := hnone hd he hschema
    have hkind := name_inj hname
    simp only [address, hrole, hdatabase, hschema, howner, hkind]
  · simp only [address, Prod.mk.injEq] at h
    obtain ⟨hrole, hdatabase, hschema, howner, hkind⟩ := h
    rw [id, id, hrole, hdatabase, hschema, howner, hkind]

end DeclaredDefaults

namespace DeclaredPolicy

/-- The parts of the identifier. -/
def parts (declared : DeclaredPolicy) : List String := [declared.database, declared.schema]

theorem id_eq_iff {d e : DeclaredPolicy} (hone : AtMostOneApart '.' d.parts e.parts) :
    d.id = e.id ↔ d.database = e.database ∧ d.schema = e.schema := by
  have hid (declared : DeclaredPolicy) : declared.id = ".".intercalate declared.parts := by
    simp [id, schemaPolicy, parts, String.intercalate_cons_cons]
  rw [hid, hid]
  refine ⟨fun h => ?_, fun ⟨hdatabase, hschema⟩ => by rw [parts, parts, hdatabase, hschema]⟩
  have hparts : d.parts = e.parts := intercalate_inj rfl (List.cons_ne_nil _ _) rfl hone h
  simpa only [parts, List.cons.injEq, and_true] using hparts

end DeclaredPolicy

namespace DeclaredMembership

/-- The parts of the identifier. -/
def parts (declared : DeclaredMembership) : List String :=
  [declared.role, declared.grantRole, if declared.adminOption.isSet then "true" else "false"]

theorem id_eq_iff {d e : DeclaredMembership} (hone : AtMostOneApart '_' d.parts e.parts) :
    d.id = e.id ↔ d.role = e.role ∧ d.grantRole = e.grantRole ∧
      d.adminOption.isSet = e.adminOption.isSet := by
  refine ⟨fun h => ?_, fun ⟨hrole, hgrantRole, hadmin⟩ => by
    rw [id, id, hrole, hgrantRole, hadmin]⟩
  have hparts : d.parts = e.parts := intercalate_inj rfl (List.cons_ne_nil _ _) rfl hone h
  simp only [parts, List.cons.injEq, and_true] at hparts
  refine ⟨hparts.1, hparts.2.1, ?_⟩
  cases hd : d.adminOption.isSet <;> cases he : e.adminOption.isSet
  · rfl
  · simp [hd, he] at hparts
  · simp [hd, he] at hparts
  · rfl

end DeclaredMembership

/-! ## 5. What is identified -/

namespace Identifier

/-- Things that differ in how many separators they hold at one place at most have the same
identifier exactly when they are addressed by the same names, where the names of objects have no
commas. -/
theorem identifies_all_but_shifted :
    (∀ (r s : GrantRequest) (d e : DeclaredGrant), r.check = .ok d → s.check = .ok e →
      AtMostOneApart '_' d.parts e.parts → (∀ name ∈ d.objects, ',' ∉ name.toList) →
      (∀ name ∈ e.objects, ',' ∉ name.toList) → (d.id = e.id ↔ d.address = e.address)) ∧
    (∀ (r s : DefaultsRequest) (d e : DeclaredDefaults), r.check = .ok d → s.check = .ok e →
      AtMostOneApart '_' d.parts e.parts → (d.id = e.id ↔ d.address = e.address)) ∧
    (∀ d e : DeclaredPolicy, AtMostOneApart '.' d.parts e.parts →
      (d.id = e.id ↔ d.database = e.database ∧ d.schema = e.schema)) ∧
    ∀ d e : DeclaredMembership, AtMostOneApart '_' d.parts e.parts →
      (d.id = e.id ↔ d.role = e.role ∧ d.grantRole = e.grantRole ∧
        d.adminOption.isSet = e.adminOption.isSet) := by
  refine ⟨fun _ _ _ _ _ _ hone hd he => DeclaredGrant.id_eq_iff hone hd he,
    fun _ _ _ _ hr hs hone => ?_, fun _ _ => DeclaredPolicy.id_eq_iff,
    fun _ _ => DeclaredMembership.id_eq_iff⟩
  exact DeclaredDefaults.id_eq_iff hone (DeclaredDefaults.schema_ne_empty hr)
    (DeclaredDefaults.schema_ne_empty hs)

/-- A request for no privileges on objects of a kind. -/
def grantOn (role database : String) (kind : ObjectKind) (schema : Value) (objects : List String) :
    GrantRequest where
  role := .text role
  database := .text database
  kind := kind
  privileges := ∅
  schema := schema
  objects := .texts (.ofList objects)
  grantOption := .off

/-- A request for no default privileges on tables. -/
def defaultsOf (role database owner : String) : DefaultsRequest where
  role := .text role
  database := .text database
  owner := .text owner
  kind := .table
  privileges := ∅
  schema := .null
  grantOption := .off

/-- Names with separators are told apart when the separators stand at the same places. -/
theorem schemas_are_told_apart :
    (∃ d e, (grantOn "read_er" "app" .table (.text "s") ["t"]).check = .ok d ∧
      (grantOn "read_er" "app" .table (.text "s_1") ["t"]).check = .ok e ∧
      (d.id = e.id ↔ d.address = e.address)) ∧
    (∃ d e, (defaultsOf "read_er" "app" "o").check = .ok d ∧
      (defaultsOf "read_er" "app" "o_1").check = .ok e ∧ (d.id = e.id ↔ d.address = e.address)) ∧
    ((⟨"app", "s", none, []⟩ : DeclaredPolicy).id = (⟨"app", "s.1", none, []⟩ : DeclaredPolicy).id ↔
      "app" = "app" ∧ "s" = "s.1") ∧
    ((⟨"a_b", "c", .off⟩ : DeclaredMembership).id = (⟨"a_b", "d", .off⟩ : DeclaredMembership).id ↔
      "a_b" = "a_b" ∧ "c" = "d" ∧ Flag.off.isSet = Flag.off.isSet) := by
  obtain ⟨hgrants, hdefaults, hpolicies, hmemberships⟩ := identifies_all_but_shifted
  refine ⟨⟨_, _, rfl, rfl, ?_⟩, ⟨_, _, rfl, rfl, ?_⟩, hpolicies _ _ (by decide),
    hmemberships _ _ (by decide)⟩
  · exact hgrants (grantOn "read_er" "app" .table (.text "s") ["t"])
      (grantOn "read_er" "app" .table (.text "s_1") ["t"]) _ _ rfl rfl (by decide) (by decide)
      (by decide)
  · exact hdefaults (defaultsOf "read_er" "app" "o") (defaultsOf "read_er" "app" "o_1") _ _ rfl rfl
      (by decide)

/-- Where separators are shifted from one name to the next, or stand between objects and in them,
different things have one identifier. -/
theorem shifted_names_collide :
    (∃ d e, (grantOn "a_b" "c" .database .null []).check = .ok d ∧
      (grantOn "a" "b_c" .database .null []).check = .ok e ∧ d.id = e.id ∧ d.role ≠ e.role) ∧
    (∃ d e, (grantOn "a" "b" .table (.text "s") ["t,u"]).check = .ok d ∧
      (grantOn "a" "b" .table (.text "s") ["t", "u"]).check = .ok e ∧ d.id = e.id ∧
      d.objects ≠ e.objects) ∧
    (∃ d e, (defaultsOf "a_b" "c" "o").check = .ok d ∧ (defaultsOf "a" "b_c" "o").check = .ok e ∧
      d.id = e.id ∧ d.role ≠ e.role) ∧
    (⟨"a.b", "c", none, []⟩ : DeclaredPolicy).id = (⟨"a", "b.c", none, []⟩ : DeclaredPolicy).id ∧
    (⟨"a_b", "c", .off⟩ : DeclaredMembership).id =
      (⟨"a", "b_c", .off⟩ : DeclaredMembership).id := by
  -- each pair has the separator in another part
  refine ⟨⟨_, _, rfl, rfl, by decide, by decide⟩, ⟨_, _, rfl, rfl, ?_, by decide⟩,
    ⟨_, _, rfl, rfl, by decide, by decide⟩, by decide, by decide⟩
  rw [DeclaredGrant.id_eq, DeclaredGrant.id_eq]
  decide

end Identifier

end PgGrants
