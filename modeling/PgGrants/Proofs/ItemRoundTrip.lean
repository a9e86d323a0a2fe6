/-
Writing an access control item and reading it are inverse to each other.

What is written is spelt by parts that can be named in advance: the names as they are written, and
for each privilege as many marks as it was given. Reading finds these parts again, because a text
has only one way to be taken apart. The other way round the text need not come back, as marks may
stand in any order and names may be quoted without need, but the item does, and writing it again
changes the text no more.
-/
import PgGrants.Proofs.ItemGrammar

set_option autoImplicit false

namespace PgGrants

namespace AclItem

/-! ## 1. Written names -/

/-- The signs of the grammar are no letters and no numbers of any script. -/
theorem not_isAlphanumeric_of_sign {c : Char} (hc : c ∈ ['=', '/', '"']) :
    Text.isAlphanumeric c = false := by
  simp only [List.mem_cons, List.not_mem_nil, or_false] at hc
  -- the table of ranges is long, so it is gone through for one sign at a time
  rcases hc with rfl | rfl | rfl
  all_goals decide +kernel

/-- A name that is written without quotes holds none of the signs. -/
theorem not_mem_of_isPlainName {name : List Char} (hname : isPlainName name = true) {sign : Char}
    (hsign : sign ∈ ['=', '/', '"']) : sign ∉ name := by
  intro hmem
  have hall := (Bool.and_eq_true_iff.1 hname).2
  have hunderscore : sign ≠ '_' := by
    rintro rfl
    exact absurd hsign (by decide)
  have hplain := List.all_eq_true.1 hall sign hmem
  rw [not_isAlphanumeric_of_sign hsign, Bool.false_or, beq_iff_eq] at hplain
  exact hunderscore hplain

/-- A name is written so that it can stand in front of either terminator. -/
theorem writesName_writeName {terminator : Char} (hterminator : terminator ∈ ['=', '/', '"'])
    (name : String) : WritesName terminator (writeName name).toList name.toList := by
  unfold writeName
  by_cases hplain : isPlainName name.toList = true
  · rw [if_pos hplain]
    refine .plain ?_ (not_mem_of_isPlainName hplain hterminator)
    intro hhead
    exact not_mem_of_isPlainName hplain (by decide) (List.mem_of_mem_head? hhead)
  · rw [if_neg hplain, String.toList_ofList]
    exact .quoted name.toList

/-- The name of a grantee as an item writes it, that of PUBLIC being the empty text. -/
def writeGrantee (grantee : String) : String :=
  if grantee = Role.publicKey then "" else writeName grantee

theorem writesName_writeGrantee (grantee : String) :
    WritesName '=' (writeGrantee grantee).toList grantee.toList := by
  unfold writeGrantee
  by_cases hpublic : grantee = Role.publicKey
  · rw [if_pos hpublic, hpublic]
    exact .plain (by decide) (by decide)
  · rw [if_neg hpublic]
    exact writesName_writeName (by decide) grantee

/-! ## 2. Written marks -/

section Marks

variable {privileges grantOptions : List String}

/-- The marks of the given privileges, in the order of the letters. -/
def marksOf (privileges grantOptions : List String) : List Mark :=
  letters.flatMap fun (letter, privilege) =>
    List.replicate (privileges.count privilege) ⟨letter, grantOptions.contains privilege⟩

/-- The letters that are written are those of the marks. -/
theorem writeMarks_eq : writeMarks privileges grantOptions =
    (marksOf privileges grantOptions).flatMap Mark.text := by
  rw [writeMarks, marksOf, List.flatMap_assoc]
  congr 1
  funext entry
  rw [List.flatMap_replicate]
  rfl

/-- A mark is made for each privilege, with a star when it is among the grant options. -/
theorem mem_marksOf {mark : Mark} : mark ∈ marksOf privileges grantOptions ↔
    ∃ privilege ∈ privileges, (mark.letter, privilege) ∈ letters ∧
      mark.starred = grantOptions.contains privilege := by
  simp only [marksOf, List.mem_flatMap, List.mem_replicate, Prod.exists]
  constructor
  · rintro ⟨letter, privilege, hletter, hcount, rfl⟩
    have hmem : privilege ∈ privileges := List.count_pos_iff.1 (Nat.pos_of_ne_zero hcount)
    exact ⟨privilege, hmem, hletter, rfl⟩
  · rintro ⟨privilege, hmem, hletter, hstarred⟩
    refine ⟨mark.letter, privilege, hletter, ?_, ?_⟩
    · exact Nat.ne_of_gt (List.count_pos_iff.2 hmem)
    · rw [← hstarred]

theorem isKnown_of_mem_marksOf {mark : Mark} (hmark : mark ∈ marksOf privileges grantOptions) :
    mark.IsKnown := by
  obtain ⟨privilege, -, hletter, -⟩ := mem_marksOf.1 hmark
  exact ⟨privilege, hletter⟩

/-- A mark whose letter is that of a privilege is made when the privilege is given. -/
theorem mem_marksOf_of_mem_letters {mark : Mark} {privilege : String}
    (hletter : (mark.letter, privilege) ∈ letters) : mark ∈ marksOf privileges grantOptions ↔
      privilege ∈ privileges ∧ mark.starred = grantOptions.contains privilege := by
  rw [mem_marksOf]
  constructor
  · rintro ⟨given, hgiven, hletter', hstarred⟩
    rw [eq_of_mem_letters hletter hletter']
    exact ⟨hgiven, hstarred⟩
  · rintro ⟨hmem, hstarred⟩
    exact ⟨privilege, hmem, hletter, hstarred⟩

end Marks

/-! ## 3. Written items -/

/-- A privilege with a letter has one in the table. -/
theorem exists_letter_of_isPrivilege {privilege : String} (h : isPrivilege privilege = true) :
    ∃ letter, (letter, privilege) ∈ letters := by
  obtain ⟨⟨letter, known⟩, hletter, heq⟩ := List.any_eq_true.1 h
  rw [beq_iff_eq] at heq
  exact ⟨letter, heq ▸ hletter⟩

/-- The parts describe at most one item. -/
theorem Parts.Describes.unique {parts : Parts} {item other : AclItem} (h : parts.Describes item)
    (hother : parts.Describes other) : item = other := by
  -- parts fix the members of both sets, and a set is fixed by its members
  have hprivileges : item.privileges = other.privileges := by
    ext privilege
    rw [h.privileges, hother.privileges]
  have hgrantOptions : item.grantOptions = other.grantOptions := by
    ext privilege
    rw [h.grantOptions, hother.grantOptions]
  have hrole := h.grantee.trans hother.grantee.symm
  have hgrantor := h.grantor.trans hother.grantor.symm
  obtain ⟨⟨role, held, options, hsubset⟩, by_⟩ := item
  obtain ⟨⟨role', held', options', hsubset'⟩, by_'⟩ := other
  cases hrole
  cases hgrantor
  cases hprivileges
  cases hgrantOptions
  rfl

section Items

variable {grantee grantor : String} {privileges grantOptions : List String}

/-- The parts by which an item is written. -/
def writtenParts (grantee : String) (privileges : List String) (grantor : String)
    (grantOptions : List String) : Parts where
  granteeText := (writeGrantee grantee).toList
  grantee := grantee.toList
  marks := marksOf privileges grantOptions
  grantorText := (writeName grantor).toList
  grantor := grantor.toList

/-- Privileges that have letters are written. -/
theorem write_of_isPrivilege (hknown : ∀ privilege ∈ privileges, isPrivilege privilege = true) :
    write grantee privileges grantor grantOptions =
      .ok (assemble (writeGrantee grantee) privileges grantOptions (writeName grantor)) := by
  have hnone : (privileges.find? fun privilege => !isPrivilege privilege) = none := by
    rw [List.find?_eq_none]
    intro privilege hmem
    rw [hknown privilege hmem]
    decide
  rw [write, hnone]
  rfl

/-- What is written is spelt by these parts. -/
theorem writtenParts_spells : (writtenParts grantee privileges grantor grantOptions).Spells
    (assemble (writeGrantee grantee) privileges grantOptions (writeName grantor)) where
  text_eq := by simp [Parts.text, writtenParts, assemble, writeMarks_eq]
  grantee := writesName_writeGrantee grantee
  marks := fun _ => isKnown_of_mem_marksOf
  grantor := writesName_writeName (by decide) grantor

/-- These parts describe the item with the given names, the given privileges, and those of the
given grant options that are among the privileges. -/
theorem describes_writtenParts (hknown : ∀ privilege ∈ privileges, isPrivilege privilege = true)
    {item : AclItem} :
    (writtenParts grantee privileges grantor grantOptions).Describes item ↔
      item.holding.role = some grantee ∧ item.grantor = grantor ∧
        (∀ privilege, privilege ∈ item.privileges ↔ privilege ∈ privileges) ∧
        ∀ privilege, privilege ∈ item.grantOptions ↔
          privilege ∈ grantOptions ∧ privilege ∈ privileges := by
  -- the marks that are written are those of the letters of the privileges
  have hprivilege : ∀ privilege, (∃ mark ∈ marksOf privileges grantOptions,
      (mark.letter, privilege) ∈ letters) ↔ privilege ∈ privileges := by
    intro privilege
    constructor
    · rintro ⟨mark, hmark, hletter⟩
      exact ((mem_marksOf_of_mem_letters hletter).1 hmark).1
    · intro hmem
      obtain ⟨letter, hletter⟩ := exists_letter_of_isPrivilege (hknown privilege hmem)
      exact ⟨⟨letter, grantOptions.contains privilege⟩,
        (mem_marksOf_of_mem_letters hletter).2 ⟨hmem, rfl⟩, hletter⟩
  have hgrantOption : ∀ privilege, (∃ mark ∈ marksOf privileges grantOptions,
      mark.starred = true ∧ (mark.letter, privilege) ∈ letters) ↔
        privilege ∈ grantOptions ∧ privilege ∈ privileges := by
    intro privilege
    constructor
    · rintro ⟨mark, hmark, hstarred, hletter⟩
      obtain ⟨hmem, heq⟩ := (mem_marksOf_of_mem_letters hletter).1 hmark
      exact ⟨List.contains_iff_mem.1 (heq ▸ hstarred), hmem⟩
    · rintro ⟨hoption, hmem⟩
      obtain ⟨letter, hletter⟩ := exists_letter_of_isPrivilege (hknown privilege hmem)
      have hcontains := List.contains_iff_mem.2 hoption
      exact ⟨⟨letter, true⟩, (mem_marksOf_of_mem_letters hletter).2 ⟨hmem, hcontains.symm⟩, rfl,
        hletter⟩
  simp only [Parts.describes_iff, writtenParts, String.ofList_toList, hprivilege, hgrantOption]

/-- The item with the given names, the given privileges and those of the given grant options that
are among them is the one that is read from its own text. -/
theorem parse_assemble (hknown : ∀ privilege ∈ privileges, isPrivilege privilege = true)
    {item : AclItem} (hrole : item.holding.role = some grantee) (hgrantor : item.grantor = grantor)
    (hprivileges : ∀ privilege, privilege ∈ item.privileges ↔ privilege ∈ privileges)
    (hgrantOptions : ∀ privilege, privilege ∈ item.grantOptions ↔
      privilege ∈ grantOptions ∧ privilege ∈ privileges) :
    parse (assemble (writeGrantee grantee) privileges grantOptions (writeName grantor)) =
      .ok item := by
  have hdescribes := (describes_writtenParts hknown).2
    ⟨hrole, hgrantor, hprivileges, hgrantOptions⟩
  have hspells : (writtenParts grantee privileges grantor grantOptions).Spells _ :=
    writtenParts_spells
  rw [parse_of_spells hspells, (Parts.describes_item hspells.marks).unique hdescribes]

/-- The order in which privileges and grant options are given does not matter, and grant options
may be given more than once. -/
theorem assemble_congr {privileges' grantOptions' : List String}
    (hprivileges : privileges'.Perm privileges)
    (hgrantOptions : ∀ privilege, privilege ∈ grantOptions' ↔ privilege ∈ grantOptions) :
    assemble grantee privileges' grantOptions' grantor =
      assemble grantee privileges grantOptions grantor := by
  have hcontains : ∀ privilege,
      grantOptions'.contains privilege = grantOptions.contains privilege := by
    intro privilege
    rw [Bool.eq_iff_iff, List.contains_iff_mem, List.contains_iff_mem, hgrantOptions]
  have hmarks : writeMarks privileges' grantOptions' = writeMarks privileges grantOptions := by
    unfold writeMarks
    simp only [hprivileges.count_eq, hcontains]
  rw [assemble, assemble, hmarks]

end Items

/-! ## 4. Reading and writing again -/

/-- The text that an item is written as after it was read. -/
def normalize? (text : String) : Option String :=
  match parse text with
  | .ok item =>
    (write item.grantee item.privileges.toList item.grantor item.grantOptions.toList).toOption
  | .error _ => none

/-- An item that was read is written as a text from which it is read again, in whatever order its
privileges and grant options are given. -/
theorem write_of_parse {text : String} {item : AclItem} (h : parse text = .ok item) :
    ∃ normal, parse normal = .ok item ∧
      ∀ privileges grantOptions : List String, privileges.Perm item.privileges.toList →
        grantOptions.Perm item.grantOptions.toList →
        write item.grantee privileges item.grantor grantOptions = .ok normal := by
  obtain ⟨hrole, hknown⟩ := parse_has_letters h
  have hsubset : ∀ privilege, privilege ∈ item.grantOptions ↔
      privilege ∈ item.grantOptions.toList ∧ privilege ∈ item.privileges.toList := by
    intro privilege
    exact ⟨fun hmem => ⟨hmem, item.holding.options_subset privilege hmem⟩, fun hmem => hmem.1⟩
  refine ⟨_, parse_assemble hknown hrole rfl (fun _ => TextSet.mem_def) hsubset, ?_⟩
  · intro privileges grantOptions hprivileges hgrantOptions
    have hknown' : ∀ privilege ∈ privileges, isPrivilege privilege = true := by
      intro privilege hmem
      exact hknown privilege (hprivileges.mem_iff.1 hmem)
    -- the letters are written in a fixed order, whatever the order of the lists
    rw [write_of_isPrivilege hknown', assemble_congr hprivileges fun _ => hgrantOptions.mem_iff]

/-- From what is written for any names, any privileges that have letters and any grant options, the
names are read again, the privileges, and the grant options that are among them. From what is
written for an item that was read, the item is read again, and writing it once more changes nothing.
-/
theorem writing_inverts_reading :
    (∀ (grantee grantor : String) (privileges grantOptions : List String),
      (∀ privilege ∈ privileges, isPrivilege privilege = true) →
        ∃ text item, write grantee privileges grantor grantOptions = .ok text ∧
          parse text = .ok item ∧ item.grantee = grantee ∧ item.grantor = grantor ∧
          (∀ privilege, privilege ∈ item.privileges ↔ privilege ∈ privileges) ∧
          ∀ privilege, privilege ∈ item.grantOptions ↔
            privilege ∈ grantOptions ∧ privilege ∈ privileges) ∧
      (∀ text item, parse text = .ok item →
        ∃ normal, normalize? text = some normal ∧ parse normal = .ok item ∧
          ∀ privileges grantOptions : List String, privileges.Perm item.privileges.toList →
            grantOptions.Perm item.grantOptions.toList →
            write item.grantee privileges item.grantor grantOptions = .ok normal) ∧
      ∀ text normal, normalize? text = some normal → normalize? normal = some normal := by
  have hnormalize : ∀ {text item}, parse text = .ok item →
      ∃ normal, normalize? text = some normal ∧ parse normal = .ok item ∧
        ∀ privileges grantOptions : List String, privileges.Perm item.privileges.toList →
          grantOptions.Perm item.grantOptions.toList →
          write item.grantee privileges item.grantor grantOptions = .ok normal := by
    intro text item h
    obtain ⟨normal, hparse, hwrite⟩ := write_of_parse h
    have hsome : normalize? text = some normal := by
      simp only [normalize?, h, hwrite _ _ (.refl _) (.refl _)]
      rfl
    exact ⟨normal, hsome, hparse, hwrite⟩
  refine ⟨?_, fun _ _ => hnormalize, ?_⟩
  · intro grantee grantor privileges grantOptions hknown
    have hspells : (writtenParts grantee privileges grantor grantOptions).Spells _ :=
      writtenParts_spells
    obtain ⟨hrole, hgrantor, hprivileges, hgrantOptions⟩ := (describes_writtenParts hknown).1
      (Parts.describes_item hspells.marks)
    refine ⟨_, _, write_of_isPrivilege hknown, parse_of_spells hspells, ?_, hgrantor, hprivileges,
      hgrantOptions⟩
    rw [AclItem.grantee, hrole]
    rfl
  · intro text normal hsome
    unfold normalize? at hsome
    split at hsome
    · rename_i item hitem
      obtain ⟨again, hagain, hparse, hwrite⟩ := hnormalize hitem
      obtain ⟨last, hlast, -, hwriteLast⟩ := hnormalize hparse
      rw [hwrite _ _ (.refl _) (.refl _)] at hsome
      cases hsome
      -- what the normal text is read as is what the text was read as, so it is written the same
      have hsame := (hwriteLast _ _ (.refl _) (.refl _)).symm.trans (hwrite _ _ (.refl _) (.refl _))
      rw [hlast, Except.ok.inj hsame]
    · cases hsome

end AclItem

end PgGrants
