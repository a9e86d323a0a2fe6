/-
The parts of a statement's text: quoted names and lists of them, the words for privileges and kinds
of object, the grantee, the place of future objects, the verb and the option. Each part is read from
the left (`PrefixFree`, or a lemma that cancels it on both sides of an equation), so that the text
of a statement can be taken apart whatever characters its names hold.
-/
import PgGrants.Proofs.Entry
import PgGrants.Proofs.Readable

set_option autoImplicit false

namespace PgGrants

/-- Both names denote one role: PUBLIC, or the role of exactly this name. -/
def Role.Same (role other : Option String) : Prop :=
  Role.orPublic role = Role.orPublic other ∨
    Role.isPublic (Role.orPublic role) = true ∧ Role.isPublic (Role.orPublic other) = true

/-- Both options say the same, for a statement of this direction. Only what is given can have one.
-/
def Direction.SameOption (direction : Direction) (option other : Flag) : Prop :=
  direction = .grant → option.isSet = other.isSet

namespace Sql

/-! ## 1. Names -/

theorem toList_identifier (name : String) :
    (identifier name).toList = '"' :: (name.toList.flatMap AclItem.inQuotes ++ ['"']) := by
  have hdoubled : doubled '"' name.toList = name.toList.flatMap AclItem.inQuotes := by
    unfold doubled
    congr 1
    funext c
    by_cases hc : c = '"' <;> simp [AclItem.inQuotes, hc]
  simp [identifier, hdoubled]

/-- A quoted name can stand in front of anything but a quote, whatever characters it has. -/
theorem prefixFree_identifier :
    PrefixFree (fun _ : String => True) Unquoted fun name => (identifier name).toList := by
  intro a b rest rest' _ _ hrest hrest' heq
  simp only [toList_identifier, List.cons_append, List.append_assoc, List.nil_append,
    List.cons.injEq, true_and] at heq
  have hread : AclItem.readQuoted (a.toList.flatMap AclItem.inQuotes ++ '"' :: rest) =
      some (a.toList, rest) := AclItem.readQuoted_append hrest
  rw [heq, AclItem.readQuoted_append hrest', Option.some.injEq, Prod.mk.injEq] at hread
  exact ⟨(String.toList_inj.1 hread.1).symm, hread.2.symm⟩

theorem identifier_injective : Function.Injective identifier := by
  intro name other heq
  have hnil : Unquoted [] := by decide
  exact (prefixFree_identifier name other [] [] trivial trivial hnil hnil
    (congrArg (·.toList ++ []) heq)).1

/-- A name inside a schema, as it is written. -/
def qualifiedText (name : String × String) : List Char :=
  (identifier name.1).toList ++ '.' :: (identifier name.2).toList

theorem prefixFree_qualified :
    PrefixFree (fun _ : String × String => True) Unquoted qualifiedText := by
  rintro ⟨schema, a⟩ ⟨schema', b⟩ rest rest' _ _ hrest hrest' heq
  simp only [qualifiedText, List.append_assoc, List.cons_append] at heq
  obtain ⟨rfl, hname⟩ := prefixFree_identifier schema schema' _ _ trivial trivial
    (by simp [Unquoted]) (by simp [Unquoted]) heq
  obtain ⟨rfl, hleft⟩ := prefixFree_identifier a b _ _ trivial trivial hrest hrest'
    (List.cons.inj hname).2
  exact ⟨rfl, hleft⟩

theorem prefixFree_names :
    PrefixFree (fun _ : List String => True) Spaced fun names =>
      commas (names.map fun name => (identifier name).toList) :=
  (prefixFree_identifier.commas fun name _ =>
    ⟨'"', _, toList_identifier name, by decide⟩).mono (fun _ _ _ _ => trivial) fun _ h => h

theorem prefixFree_qualifiedNames :
    PrefixFree (fun _ : List (String × String) => True) Spaced fun names =>
      commas (names.map qualifiedText) := by
  refine (prefixFree_qualified.commas fun name _ => ?_).mono (fun _ _ _ _ => trivial) fun _ h => h
  rw [qualifiedText, toList_identifier]
  exact ⟨'"', _, List.cons_append, by decide⟩

/-! ## 2. Fixed words -/

/-- The words that can stand where privileges do. -/
def privilegeWords : List String := "ALL PRIVILEGES" :: AclItem.letters.map Prod.snd

theorem prefixFree_privilegeWords :
    PrefixFree (· ∈ privilegeWords) (fun _ => True) String.toList := by
  have hwords : ∀ word ∈ privilegeWords, ∀ other ∈ privilegeWords,
      word.toList <+: other.toList → word = other := by
    decide
  exact prefixFree_of_words fun word other hword hother => hwords word hword other hother

/-- The words before the objects of a kind, which are named, or all in a schema. -/
def opening (kind : ObjectKind) (whole : Bool) : List Char :=
  if whole then "ALL ".toList ++ (kind.catalog.plural.getD "").toList ++ " IN SCHEMA ".toList
  else kind.catalog.keyword.toList ++ [' ']

/-- The words before the objects tell the kind, and whether all are meant. -/
theorem prefixFree_opening :
    PrefixFree (fun p : ObjectKind × Bool => p.2 = true → p.1.catalog.plural.isSome = true)
      (fun _ => True) fun p => opening p.1 p.2 := by
  have hwords : ∀ kind ∈ ObjectKind.all, ∀ other ∈ ObjectKind.all, ∀ whole whole' : Bool,
      (whole = true → kind.catalog.plural.isSome = true) →
      (whole' = true → other.catalog.plural.isSome = true) →
      opening kind whole <+: opening other whole' → kind = other ∧ whole = whole' := by
    decide
  refine prefixFree_of_words fun p q hp hq hprefix => ?_
  obtain ⟨hkind, hwhole⟩ := hwords p.1 (ObjectKind.mem_all _) q.1 (ObjectKind.mem_all _) _ _ hp hq
    hprefix
  exact Prod.ext hkind hwhole

/-- The word for all objects of a kind, where there is one, tells the kind. -/
theorem prefixFree_plural :
    PrefixFree (fun kind : ObjectKind => kind.catalog.plural.isSome = true) (fun _ => True)
      fun kind => (kind.catalog.plural.getD "").toList := by
  have hwords : ∀ kind ∈ ObjectKind.all, ∀ other ∈ ObjectKind.all,
      kind.catalog.plural.isSome = true → other.catalog.plural.isSome = true →
      (kind.catalog.plural.getD "").toList <+: (other.catalog.plural.getD "").toList →
      kind = other := by
    decide
  exact prefixFree_of_words fun kind other =>
    hwords kind (ObjectKind.mem_all _) other (ObjectKind.mem_all _)

/-! ## 3. Privileges, targets and grantees

Each part is prefix-free before what can follow it. Words are known ones, names are quoted, and a
list ends at a space. -/

/-- The words that are written for privileges; none stand for all. -/
def wordsFor (tokens : List String) : List String :=
  if tokens.isEmpty then ["ALL PRIVILEGES"] else tokens

theorem mem_privilegeWords {tokens : List String}
    (hknown : ∀ token ∈ tokens, AclItem.isPrivilege token = true) {word : String}
    (hword : word ∈ wordsFor tokens) : word ∈ privilegeWords := by
  cases tokens with
  | nil => exact List.mem_cons.2 (.inl (List.mem_singleton.1 hword))
  | cons token tokens =>
    obtain ⟨entry, hentry, hsame⟩ := List.any_eq_true.1 (hknown word hword)
    exact List.mem_cons_of_mem _ (List.mem_map.2 ⟨entry, hentry, beq_iff_eq.1 hsame⟩)

/-- No privilege begins with a blank or a quote. -/
theorem head_privilegeWord {word : String} (hword : word ∈ privilegeWords) :
    ∃ c cs, word.toList = c :: cs ∧ c ≠ ' ' ∧ c ≠ '"' := by
  have hhead : ∀ word ∈ privilegeWords,
      (word.toList.head?.any fun c => c ≠ ' ' ∧ c ≠ '"') = true := by
    decide
  obtain ⟨c, hc, hne⟩ := (Option.any_eq_true _ _).1 (hhead word hword)
  obtain ⟨cs, hcs⟩ := List.head?_eq_some_iff.1 hc
  exact ⟨c, cs, hcs, of_decide_eq_true hne⟩

/-- The privileges as they are written. -/
def privilegeText (tokens : List String) : List Char := commas ((wordsFor tokens).map String.toList)

/-- Privileges do not begin with a quote. -/
theorem head_privilegeText {tokens : List String}
    (hknown : ∀ token ∈ tokens, AclItem.isPrivilege token = true) :
    ∃ c cs, privilegeText tokens = c :: cs ∧ c ≠ '"' := by
  -- no privileges are written as a word too
  have hwords : ∃ word words, wordsFor tokens = word :: words := by
    cases tokens with
    | nil => exact ⟨_, _, rfl⟩
    | cons token tokens => exact ⟨_, _, rfl⟩
  obtain ⟨word, words, hsplit⟩ := hwords
  have hword : word ∈ privilegeWords := by
    refine mem_privilegeWords hknown ?_
    rw [hsplit]
    exact List.mem_cons_self
  obtain ⟨c, cs, hchars, -, hc⟩ := head_privilegeWord hword
  exact ⟨c, _, by rw [privilegeText, hsplit, commas_map_cons, hchars, List.cons_append], hc⟩

theorem prefixFree_privilegeText :
    PrefixFree (fun tokens => ∀ token ∈ tokens, AclItem.isPrivilege token = true) Spaced
      privilegeText := by
  have hstart : ∀ word ∈ privilegeWords, ∃ c cs, word.toList = c :: cs ∧ c ≠ ' ' := by
    intro word hword
    obtain ⟨c, cs, hchars, hc, -⟩ := head_privilegeWord hword
    exact ⟨c, cs, hchars, hc⟩
  have hwords := (prefixFree_privilegeWords.mono (fun _ h => h)
    fun rest (_ : Unquoted rest) => trivial).commas hstart
  intro tokens tokens' rest rest' hknown hknown' hrest hrest' heq
  obtain ⟨hsame, hleft⟩ := hwords _ _ _ _ (fun _ => mem_privilegeWords hknown)
    (fun _ => mem_privilegeWords hknown') hrest hrest' heq
  -- the words for all privileges are not a privilege, so no list stands for another one
  have hall : AclItem.isPrivilege "ALL PRIVILEGES" = false := by decide
  refine ⟨?_, hleft⟩
  cases tokens with
  | nil =>
    cases tokens' with
    | nil => rfl
    | cons token tokens' =>
      have htoken : "ALL PRIVILEGES" = token := (List.cons.inj hsame).1
      rw [← htoken] at hknown'
      exact absurd (hknown' _ List.mem_cons_self) (by rw [hall]; decide)
  | cons token tokens =>
    cases tokens' with
    | nil =>
      have htoken : token = "ALL PRIVILEGES" := (List.cons.inj hsame).1
      rw [htoken] at hknown
      exact absurd (hknown _ List.mem_cons_self) (by rw [hall]; decide)
    | cons token' tokens' => exact hsame

theorem eq_of_nameOf {given : Option String} {text : String} (h : nameOf given = .ok text) :
    ∃ name, given = some name ∧ text = identifier name := by
  cases given with
  | none => cases h
  | some name =>
    cases h
    exact ⟨name, rfl, rfl⟩

theorem eq_of_plural {kind : ObjectKind} {word : String} (h : plural kind = .ok word) :
    kind.catalog.plural = some word := by
  unfold plural at h
  split at h
  · rename_i hplural
    cases h
    exact hplural
  · cases h

/-- Names that are all written, each by itself or with its place, are all there. -/
theorem eq_map_some_of_mapM {write : Option String × Nat → Except Unwritable String}
    {text : String → String} (hnone : ∀ place written, write (none, place) ≠ .ok written)
    (hsome : ∀ name place, write (some name, place) = .ok (text name))
    {given : List (Option String)} {place : Nat} {texts : List String}
    (h : (given.zipIdx place).mapM write = .ok texts) :
    ∃ names : List String, given = names.map some ∧ texts = names.map text := by
  induction given generalizing place texts with
  | nil =>
    cases h
    exact ⟨[], rfl, rfl⟩
  | cons first given ih =>
    rw [List.zipIdx_cons, List.mapM_cons] at h
    obtain ⟨written, hfirst, h⟩ := exists_of_bind_eq_ok h
    obtain ⟨others, hothers, h⟩ := exists_of_bind_eq_ok h
    cases h
    -- a place without a name cannot be written
    cases first with
    | none => exact absurd hfirst (hnone place written)
    | some name =>
      rw [hsome] at hfirst
      cases hfirst
      obtain ⟨names, rfl, rfl⟩ := ih hothers
      exact ⟨name :: names, rfl, rfl⟩

theorem eq_of_mapM_nameOf {given : List (Option String)} {texts : List String}
    (h : given.mapM nameOf = .ok texts) :
    ∃ names : List String, given = names.map some ∧ texts = names.map identifier := by
  rw [← List.zipIdx_map_fst 0 given, List.mapM_map] at h
  refine eq_map_some_of_mapM (fun place written h => ?_) (fun _ _ => rfl) h
  cases h

theorem eq_of_mapM_qualified {schema : String} {given : List (Option String)}
    {texts : List String} (h : given.mapM (qualified schema) = .ok texts) :
    ∃ names : List String, given = names.map some ∧
      texts = names.map fun name => identifier schema ++ "." ++ identifier name := by
  rw [← List.zipIdx_map_fst 0 given, List.mapM_map] at h
  refine eq_map_some_of_mapM (fun place written h => ?_) (fun _ _ => rfl) h
  cases h

theorem eq_of_commaSeparated {given : List (Option String)} {text : String}
    (h : Statement.commaSeparated given = .ok text) :
    ∃ names : List String, given = names.map some ∧ text = String.intercalate ", " names := by
  unfold Statement.commaSeparated at h
  obtain ⟨texts, htexts, h⟩ := exists_of_bind_eq_ok h
  cases h
  have hall : ∃ names : List String, given = names.map some ∧ texts = names.map id := by
    refine eq_map_some_of_mapM (fun place written h => ?_) (fun _ _ => rfl) htexts
    cases h
  obtain ⟨names, hgiven, hnames⟩ := hall
  rw [List.map_id] at hnames
  exact ⟨names, hgiven, by rw [hnames]⟩

theorem eq_of_privilegeList {given : List (Option String)} {text : String}
    (h : privilegeList given = .ok text) :
    ∃ tokens : List String, given = tokens.map some ∧
      (∀ token ∈ tokens, AclItem.isPrivilege token = true) ∧
        text.toList = privilegeText tokens := by
  unfold privilegeList at h
  split at h
  · cases h
  · rename_i hknown
    -- an unknown privilege would have ended the writing
    have hknown : ∀ token ∈ given, isKnown token = true := by
      simpa using hknown
    unfold Statement.describePrivileges at h
    split at h
    · rename_i hempty
      cases h
      exact ⟨[], List.isEmpty_iff.1 hempty, List.forall_mem_nil _, by decide⟩
    · rename_i hsome
      obtain ⟨tokens, rfl, rfl⟩ := eq_of_commaSeparated h
      refine ⟨tokens, rfl, fun token htoken => ?_, ?_⟩
      · simpa [isKnown] using hknown (some token) (List.mem_map_of_mem htoken)
      · have hsome : tokens.isEmpty = false := by simpa using hsome
        rw [String.toList_intercalate, privilegeText, wordsFor, hsome]
        rfl

/-- The targets of a privilege statement as they are written: all objects in a schema, objects in a
schema, or objects outside schemas. -/
inductive TargetText (change : PrivilegeChange) : List Char → Prop where
  | whole {schema : String} (hkind : change.kind.inSchema = true)
      (hplural : change.kind.catalog.plural.isSome = true) (hobjects : change.objects = [])
      (hschema : change.schema = some schema) :
      TargetText change (opening change.kind true ++ (identifier schema).toList)
  | inside {schema : String} {names : List String} (hkind : change.kind.inSchema = true)
      (hnames : names ≠ []) (hobjects : change.objects = names.map some)
      (hschema : change.schema = some schema) :
      TargetText change (opening change.kind false ++
        commas ((names.map fun name => (schema, name)).map qualifiedText))
  | outside {names : List String} (hkind : change.kind.inSchema = false)
      (hobjects : change.objects = names.map some) :
      TargetText change (opening change.kind false ++
        commas (names.map fun name => (identifier name).toList))

theorem targetText_of_targets {change : PrivilegeChange} {text : String}
    (h : targets change = .ok text) : TargetText change text.toList := by
  -- names between which commas are put
  have hcommas : ∀ (names : List String) (write : String → String),
      (String.intercalate ", " (names.map write)).toList =
        commas (names.map fun name => (write name).toList) := by
    intro names write
    rw [String.toList_intercalate, List.map_map]
    rfl
  have hschema : ∀ {schema : String}, schemaName change.schema = .ok schema →
      change.schema = some schema := by
    intro schema h
    unfold schemaName at h
    split at h
    · rename_i hschema
      cases h
      exact hschema
    · cases h
  unfold targets at h
  split at h
  · rename_i hkind
    split at h
    · rename_i hempty
      obtain ⟨word, hword, h⟩ := exists_of_bind_eq_ok h
      obtain ⟨schema, hname, h⟩ := exists_of_bind_eq_ok h
      cases h
      have hplural := eq_of_plural hword
      have htext : ("ALL " ++ word ++ " IN SCHEMA " ++ identifier schema).toList =
          opening change.kind true ++ (identifier schema).toList := by
        simp [opening, hplural]
      rw [htext]
      exact .whole hkind (by rw [hplural]; rfl) (List.isEmpty_iff.1 hempty) (hschema hname)
    · rename_i hsome
      obtain ⟨schema, hname, h⟩ := exists_of_bind_eq_ok h
      obtain ⟨texts, htexts, h⟩ := exists_of_bind_eq_ok h
      cases h
      obtain ⟨names, hobjects, rfl⟩ := eq_of_mapM_qualified htexts
      have htext : (change.kind.catalog.keyword ++ " " ++ String.intercalate ", "
            (names.map fun name => identifier schema ++ "." ++ identifier name)).toList =
          opening change.kind false ++
            commas ((names.map fun name => (schema, name)).map qualifiedText) := by
        simp [opening, hcommas, qualifiedText, Function.comp_def]
      rw [htext]
      refine .inside hkind ?_ hobjects (hschema hname)
      rintro rfl
      exact hsome (by rw [hobjects]; rfl)
  · rename_i hkind
    obtain ⟨texts, htexts, h⟩ := exists_of_bind_eq_ok h
    cases h
    obtain ⟨names, hobjects, rfl⟩ := eq_of_mapM_nameOf htexts
    have htext : (change.kind.catalog.keyword ++ " " ++ String.intercalate ", "
          (names.map identifier)).toList =
        opening change.kind false ++ commas (names.map fun name => (identifier name).toList) := by
      simp [opening, hcommas]
    rw [htext]
    exact .outside (Bool.eq_false_iff.2 hkind) hobjects

/-- In front of a blank the targets can be told: their kind, the schema they are in, and which they
are. -/
theorem TargetText.cancel {s t : PrivilegeChange} {text text' rest rest' : List Char}
    (hs : TargetText s text) (ht : TargetText t text') (hrest : Spaced rest)
    (hrest' : Spaced rest') (heq : text ++ rest = text' ++ rest') :
    s.kind = t.kind ∧ (s.kind.inSchema = true → s.schema = t.schema) ∧ s.objects = t.objects ∧
      rest = rest' := by
  have hopening : ∀ {whole whole' : Bool} {body body' : List Char},
      (whole = true → s.kind.catalog.plural.isSome = true) →
      (whole' = true → t.kind.catalog.plural.isSome = true) →
      opening s.kind whole ++ body ++ rest = opening t.kind whole' ++ body' ++ rest' →
      s.kind = t.kind ∧ whole = whole' ∧ body ++ rest = body' ++ rest' := by
    intro whole whole' body body' hplural hplural' heq
    rw [List.append_assoc, List.append_assoc] at heq
    obtain ⟨hpair, hbody⟩ := prefixFree_opening (s.kind, whole) (t.kind, whole') _ _ hplural
      hplural' trivial trivial heq
    obtain ⟨hkind, hwhole⟩ := Prod.mk.inj hpair
    exact ⟨hkind, hwhole, hbody⟩
  have hnever {p : Prop} : false = true → p := fun h => nomatch h
  -- the opening tells whether all objects are meant, and the kind whether they are in a schema
  cases hs with
  | whole hkind hplural hobjects hschema =>
    cases ht with
    | whole hkind' hplural' hobjects' hschema' =>
      obtain ⟨hsame, -, hbody⟩ := hopening (fun _ => hplural) (fun _ => hplural') heq
      obtain ⟨rfl, hleft⟩ := prefixFree_identifier _ _ _ _ trivial trivial hrest.unquoted
        hrest'.unquoted hbody
      exact ⟨hsame, fun _ => hschema.trans hschema'.symm, hobjects.trans hobjects'.symm, hleft⟩
    | inside => exact nomatch (hopening (fun _ => hplural) hnever heq).2.1
    | outside => exact nomatch (hopening (fun _ => hplural) hnever heq).2.1
  | @inside schema names hkind hnames hobjects hschema =>
    cases ht with
    | whole hkind' hplural' hobjects' hschema' =>
      exact nomatch (hopening hnever (fun _ => hplural') heq).2.1
    | @inside schema' names' hkind' hnames' hobjects' hschema' =>
      obtain ⟨hsame, -, hbody⟩ := hopening hnever hnever heq
      obtain ⟨hpairs, hleft⟩ := prefixFree_qualifiedNames _ _ _ _ trivial trivial hrest hrest' hbody
      have hsecond : names = names' := by
        have h := congrArg (List.map Prod.snd) hpairs
        simpa [Function.comp_def] using h
      have hfirst : schema = schema' := by
        obtain ⟨name, others, rfl⟩ := List.exists_cons_of_ne_nil hnames
        rw [← hsecond] at hpairs
        exact (Prod.mk.inj (List.cons.inj hpairs).1).1
      refine ⟨hsame, fun _ => ?_, ?_, hleft⟩
      · rw [hschema, hschema', hfirst]
      · rw [hobjects, hobjects', hsecond]
    | outside hkind' =>
      rw [(hopening hnever hnever heq).1, hkind'] at hkind
      cases hkind
  | outside hkind hobjects =>
    cases ht with
    | whole hkind' hplural' =>
      exact nomatch (hopening hnever (fun _ => hplural') heq).2.1
    | inside hkind' =>
      rw [(hopening hnever hnever heq).1, hkind'] at hkind
      cases hkind
    | outside hkind' hobjects' =>
      obtain ⟨hsame, -, hbody⟩ := hopening hnever hnever heq
      obtain ⟨rfl, hleft⟩ := prefixFree_names _ _ _ _ trivial trivial hrest hrest' hbody
      rw [hkind]
      exact ⟨hsame, hnever, hobjects.trans hobjects'.symm, hleft⟩

/-- A grantee can be told in front of anything but a quote, up to the spelling of PUBLIC. -/
theorem grantee_cancel {role other : Option String} {rest rest' : List Char}
    (hrest : Unquoted rest) (hrest' : Unquoted rest')
    (heq : (grantee role).toList ++ rest = (grantee other).toList ++ rest') :
    Role.Same role other ∧ rest = rest' := by
  have hword : ∀ rest name rest', "PUBLIC".toList ++ rest ≠ (identifier name).toList ++ rest' := by
    intro rest name rest' heq
    rw [toList_identifier] at heq
    exact absurd (List.cons.inj heq).1 (by decide)
  -- PUBLIC is written without quotes, as no role's name is
  by_cases hpublic : Role.isPublic (Role.orPublic role) = true
  · by_cases hpublic' : Role.isPublic (Role.orPublic other) = true
    · rw [grantee, grantee, if_pos hpublic, if_pos hpublic'] at heq
      exact ⟨.inr ⟨hpublic, hpublic'⟩, List.append_cancel_left heq⟩
    · rw [grantee, grantee, if_pos hpublic, if_neg hpublic'] at heq
      exact absurd heq (hword _ _ _)
  · by_cases hpublic' : Role.isPublic (Role.orPublic other) = true
    · rw [grantee, grantee, if_neg hpublic, if_pos hpublic'] at heq
      exact absurd heq.symm (hword _ _ _)
    · rw [grantee, grantee, if_neg hpublic, if_neg hpublic'] at heq
      obtain ⟨hname, hleft⟩ := prefixFree_identifier _ _ _ _ trivial trivial hrest hrest' heq
      exact ⟨.inl hname, hleft⟩

theorem grantee_congr {role other : Option String} (h : Role.Same role other) :
    grantee role = grantee other := by
  rcases h with hname | ⟨hpublic, hpublic'⟩
  · rw [grantee, grantee, hname]
  · rw [grantee, grantee, if_pos hpublic, if_pos hpublic']

/-! ## 4. What joins the parts -/

/-- Where future objects are created, with the blank before it. -/
def placeText (schema : Option String) : List Char :=
  schema.elim [] fun name => " IN SCHEMA ".toList ++ (identifier name).toList

theorem unquoted_place (schema : Option String) (rest : List Char) :
    Unquoted (placeText schema ++ ' ' :: rest) := by
  cases schema with
  | none => simp [placeText, Unquoted]
  | some name => simp [placeText, Unquoted]

/-- The verb, with the blank after it. -/
def verbText (direction : Direction) : List Char :=
  if direction.isGrant then "GRANT ".toList else "REVOKE ".toList

/-- What stands between the thing and the role. -/
def prepositionText (direction : Direction) : List Char :=
  if direction.isGrant then " TO ".toList else " FROM ".toList

theorem toList_transfer (direction : Direction) (thing role : String) :
    (transfer direction thing role).toList =
      verbText direction ++ (thing.toList ++ (prepositionText direction ++ role.toList)) := by
  unfold transfer verbText prepositionText
  split <;> simp

theorem spaced_preposition (direction : Direction) (rest : List Char) :
    Spaced (prepositionText direction ++ rest) := by
  unfold prepositionText
  split <;> simp [Spaced]

theorem unquoted_option (name : String) (direction : Direction) (flag : Flag) :
    Unquoted (optionClause name direction flag).toList := by
  unfold optionClause
  split <;> simp [Unquoted]

/-- The verb tells the direction of what gives or takes away. -/
theorem verb_cancel {direction other : Direction} {rest rest' : List Char}
    (h : direction = .grant ∨ direction = .revoke) (h' : other = .grant ∨ other = .revoke)
    (heq : verbText direction ++ rest = verbText other ++ rest') :
    direction = other ∧ rest = rest' := by
  have hne : ∀ rest rest', verbText .grant ++ rest ≠ verbText .revoke ++ rest' := by
    intro rest rest' heq
    exact absurd (List.cons.inj heq).1 (by decide)
  rcases h with rfl | rfl <;> rcases h' with rfl | rfl
  · exact ⟨rfl, List.append_cancel_left heq⟩
  · exact absurd heq (hne _ _)
  · exact absurd heq.symm (hne _ _)
  · exact ⟨rfl, List.append_cancel_left heq⟩

/-- A place can be told in front of a verb. -/
theorem place_cancel {direction other : Direction} {schema schema' : Option String}
    {rest rest' : List Char} (h : direction = .grant ∨ direction = .revoke)
    (h' : other = .grant ∨ other = .revoke)
    (heq : placeText schema ++ ' ' :: (verbText direction ++ rest) =
      placeText schema' ++ ' ' :: (verbText other ++ rest')) :
    schema = schema' ∧ verbText direction ++ rest = verbText other ++ rest' := by
  -- neither verb starts like a place
  have hverb : ∀ {direction : Direction} {rest : List Char} (name : String) (tail : List Char),
      direction = .grant ∨ direction = .revoke →
      ' ' :: (verbText direction ++ rest) ≠ placeText (some name) ++ ' ' :: tail := by
    rintro direction rest name tail (rfl | rfl) heq
    · exact absurd (List.cons.inj (List.cons.inj heq).2).1 (by decide)
    · exact absurd (List.cons.inj (List.cons.inj heq).2).1 (by decide)
  cases schema with
  | none =>
    cases schema' with
    | none => exact ⟨rfl, (List.cons.inj heq).2⟩
    | some name => exact absurd heq (hverb name _ h)
  | some name =>
    cases schema' with
    | none => exact absurd heq.symm (hverb name _ h')
    | some name' =>
      simp only [placeText, Option.elim_some, List.append_assoc] at heq
      obtain ⟨rfl, hafter⟩ := prefixFree_identifier name name' _ _ trivial trivial
        (by simp [Unquoted]) (by simp [Unquoted]) (List.append_cancel_left heq)
      exact ⟨rfl, (List.cons.inj hafter).2⟩

/-- The clause tells whether the option is given. -/
theorem sameOption_of_clause {name : String} {direction : Direction} {flag other : Flag}
    (heq : (optionClause name direction flag).toList =
      (optionClause name direction other).toList) :
    direction.SameOption flag other := by
  rintro rfl
  have hisGrant : Direction.isGrant .grant = true := by decide
  simp only [optionClause, hisGrant, Bool.true_and] at heq
  cases hflag : flag.isSet <;> cases hother : other.isSet <;> simp_all

theorem optionClause_congr (name : String) {direction : Direction} {flag other : Flag}
    (h : direction.SameOption flag other) :
    optionClause name direction flag = optionClause name direction other := by
  unfold optionClause
  by_cases hgrant : direction.isGrant = true
  · rw [h (eq_of_beq hgrant)]
  · rw [Bool.not_eq_true] at hgrant
    rw [hgrant, Bool.false_and, Bool.false_and]

end Sql

end PgGrants
