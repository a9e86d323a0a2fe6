/-
The grammar of access control items, and that reading accepts exactly the texts of the grammar.

A text is taken apart from the left: a name up to the equals sign, marks up to the slash, a name up
to the end. What makes this work is that every part knows where it ends. A quoted name ends at the
first quote that no other quote follows, a plain one at its terminator, and neither the star nor the
slash is a letter of a privilege. So no text can be taken apart in two ways, although names may hold
the very signs that stand between the parts.
-/
import Mathlib.Data.List.TakeWhile
import Mathlib.Tactic.MkIffOfInductiveProp
import PgGrants.AclItem

set_option autoImplicit false

namespace PgGrants

namespace AclItem

/-! ## 1. The grammar -/

/-- A character as it stands between quotes: a quote is written twice. -/
def inQuotes (c : Char) : List Char := if c = '"' then ['"', '"'] else [c]

/-- The first text is a way to write the second one as a name in front of the terminator. -/
inductive WritesName (terminator : Char) : List Char → List Char → Prop where
  /-- Any name can stand in quotes. -/
  | quoted (name : List Char) :
      WritesName terminator ('"' :: (name.flatMap inQuotes ++ ['"'])) name
  /-- A name that neither begins with a quote nor holds the terminator can stand as it is. -/
  | plain {name : List Char} (hquote : name.head? ≠ some '"') (hterminator : terminator ∉ name) :
      WritesName terminator name name

/-- The letter of a privilege, with a star or without. -/
structure Mark where
  letter : Char
  starred : Bool

/-- A mark as it is written. -/
def Mark.text (mark : Mark) : List Char :=
  if mark.starred then [mark.letter, '*'] else [mark.letter]

/-- The letter is that of a privilege. -/
def Mark.IsKnown (mark : Mark) : Prop := ∃ privilege, (mark.letter, privilege) ∈ letters

/-- The parts of an item. Each name is given as it is written and as it is. -/
structure Parts where
  granteeText : List Char
  grantee : List Char
  marks : List Mark
  grantorText : List Char
  grantor : List Char

/-- The parts with the signs between them. -/
def Parts.text (parts : Parts) : List Char :=
  parts.granteeText ++ '=' :: (parts.marks.flatMap Mark.text ++ '/' :: parts.grantorText)

/-- The text is made of the parts, and each part is as it must be. -/
structure Parts.Spells (parts : Parts) (text : String) : Prop where
  text_eq : parts.text = text.toList
  grantee : WritesName '=' parts.granteeText parts.grantee
  marks : ∀ mark ∈ parts.marks, mark.IsKnown
  grantor : WritesName '/' parts.grantorText parts.grantor

/-- The item is the one that the parts write. A privilege is granted when its letter occurs, and its
grant option when the letter occurs with a star. -/
@[mk_iff]
structure Parts.Describes (parts : Parts) (item : AclItem) : Prop where
  grantee : item.holding.role = some (String.ofList parts.grantee)
  grantor : item.grantor = String.ofList parts.grantor
  privileges : ∀ privilege, privilege ∈ item.privileges ↔
    ∃ mark ∈ parts.marks, (mark.letter, privilege) ∈ letters
  grantOptions : ∀ privilege, privilege ∈ item.grantOptions ↔
    ∃ mark ∈ parts.marks, mark.starred = true ∧ (mark.letter, privilege) ∈ letters

/-- The text that a fault complains about. -/
def Fault.given : Fault → Value
  | .unterminatedName given => given
  | .missingEquals given => given
  | .unknownLetter _ given => given
  | .missingGrantor given => given
  | .trailing given => given

/-! ## 2. Names -/

theorem inQuotes_quote : inQuotes '"' = ['"', '"'] := rfl

theorem inQuotes_of_ne {c : Char} (hc : c ≠ '"') : inQuotes c = [c] := if_neg hc

/-- A character other than a quote is one of the name's. -/
theorem readQuoted_cons_of_ne {c : Char} (hc : c ≠ '"') (cs : List Char) :
    readQuoted (c :: cs) = (readQuoted cs).map fun (name, left) => (c :: name, left) := by
  rw [readQuoted]
  · exact fun _ h => absurd h hc
  · exact fun h => absurd h hc

/-- Between quotes a name is read to its end, which is the first quote that stands alone. -/
theorem readQuoted_append {name rest : List Char} (hrest : rest.head? ≠ some '"') :
    readQuoted (name.flatMap inQuotes ++ '"' :: rest) = some (name, rest) := by
  -- inside, a quotation mark stands twice; the first single one ends the name
  induction name with
  | nil =>
    cases rest with
    | nil => rfl
    | cons c rest =>
      have hc : c ≠ '"' := fun h => hrest (congrArg some h)
      simp [readQuoted, hc]
  | cons c name ih =>
    rw [List.flatMap_cons, List.append_assoc]
    by_cases hc : c = '"'
    · subst hc
      rw [inQuotes_quote, List.cons_append, List.cons_append, List.nil_append, readQuoted, ih]
      rfl
    · rw [inQuotes_of_ne hc, List.cons_append, List.nil_append, readQuoted_cons_of_ne hc, ih]
      rfl

/-- What was read between quotes was written there, and another quote does not follow. -/
theorem eq_of_readQuoted {cs name rest : List Char} (h : readQuoted cs = some (name, rest)) :
    cs = name.flatMap inQuotes ++ '"' :: rest ∧ rest.head? ≠ some '"' := by
  -- the cases are those of the reader: the end of the text, a doubled mark, a single mark, another
  -- sign
  fun_induction readQuoted cs generalizing name with
  | case1 => cases h
  | case2 tail ih =>
    obtain ⟨⟨inner, left⟩, hinner, heq⟩ := Option.map_eq_some_iff.1 h
    cases heq
    obtain ⟨htail, hleft⟩ := ih hinner
    rw [htail]
    exact ⟨rfl, hleft⟩
  | case3 tail hnot =>
    cases h
    refine ⟨rfl, fun hhead => ?_⟩
    obtain ⟨rest', hrest⟩ := List.head?_eq_some_iff.1 hhead
    exact hnot rest' hrest
  | case4 c tail hdouble hc ih =>
    obtain ⟨⟨inner, left⟩, hinner, heq⟩ := Option.map_eq_some_iff.1 h
    cases heq
    obtain ⟨htail, hleft⟩ := ih hinner
    rw [List.flatMap_cons, inQuotes_of_ne hc, htail]
    exact ⟨rfl, hleft⟩

/-- Up to a terminator that it does not hold, a list is read whole. -/
theorem takeWhile_append_terminator {terminator : Char} {name : List Char}
    (hname : terminator ∉ name) {rest : List Char}
    (hrest : rest = [] ∨ rest.head? = some terminator) :
    (name ++ rest).takeWhile (· != terminator) = name ∧
      (name ++ rest).dropWhile (· != terminator) = rest := by
  have hall : ∀ c ∈ name, (c != terminator) = true := by
    intro c hc
    exact bne_iff_ne.2 fun heq => hname (heq ▸ hc)
  rw [List.takeWhile_append_of_pos hall, List.dropWhile_append_of_pos hall]
  rcases hrest with rfl | hhead
  · simp
  · obtain ⟨tail, rfl⟩ := List.head?_eq_some_iff.1 hhead
    simp

section Names

variable {terminator : Char}

/-- A plain name is read with what `takeWhile` finds. -/
theorem readName_of_plain {cs : List Char} (hquote : cs.head? ≠ some '"') :
    readName terminator cs =
      some (cs.takeWhile (· != terminator), cs.dropWhile (· != terminator)) := by
  unfold readName
  split
  · exact absurd rfl hquote
  · rfl

/-- However a name is written, in front of the terminator or at the end it is read back. -/
theorem readName_append (hterminator : terminator ≠ '"') {written name rest : List Char}
    (hname : WritesName terminator written name)
    (hrest : rest = [] ∨ rest.head? = some terminator) :
    readName terminator (written ++ rest) = some (name, rest) := by
  have hnoquote : rest.head? ≠ some '"' := by
    rcases hrest with rfl | hhead
    · exact fun h => nomatch h
    · rw [hhead]
      exact fun h => hterminator (Option.some.inj h)
  -- what follows starts with the terminator, which neither continues a quoted name nor a plain one
  cases hname with
  | quoted =>
    rw [List.cons_append, List.append_assoc]
    exact readQuoted_append hnoquote
  | plain hquote hplain =>
    obtain ⟨htaken, hleft⟩ := takeWhile_append_terminator hplain hrest
    have hhead : (written ++ rest).head? ≠ some '"' := by
      rw [List.head?_append]
      cases written with
      | nil => exact hnoquote
      | cons c _ => exact hquote
    rw [readName_of_plain hhead, htaken, hleft]

/-- Two names that are written at the beginning of one text are written alike. -/
theorem WritesName.cancel (hterminator : terminator ≠ '"')
    {written written' name name' rest rest' : List Char}
    (hname : WritesName terminator written name) (hname' : WritesName terminator written' name')
    (hrest : rest = [] ∨ rest.head? = some terminator)
    (hrest' : rest' = [] ∨ rest'.head? = some terminator)
    (h : written ++ rest = written' ++ rest') :
    written = written' ∧ name = name' ∧ rest = rest' := by
  have hread := readName_append hterminator hname hrest
  rw [h, readName_append hterminator hname' hrest', Option.some.injEq, Prod.mk.injEq] at hread
  obtain ⟨rfl, rfl⟩ := hread
  exact ⟨List.append_cancel_right h, rfl, rfl⟩

/-- What was read as a name is a way to write it. A plain name ends at the terminator or at the end;
after a quoted one anything but a quote can come. -/
theorem writesName_of_readName {cs name rest : List Char}
    (h : readName terminator cs = some (name, rest)) :
    ∃ written, cs = written ++ rest ∧ WritesName terminator written name := by
  unfold readName at h
  split at h
  · rename_i tail
    refine ⟨_, ?_, .quoted name⟩
    rw [(eq_of_readQuoted h).1]
    simp
  · rename_i hquote
    cases h
    refine ⟨_, (List.takeWhile_append_dropWhile).symm, .plain ?_ fun hmem => ?_⟩
    · intro hhead
      -- a plain name that starts with a quotation mark would have been read as a quoted one
      obtain ⟨tail, htail⟩ := List.head?_eq_some_iff.1 hhead
      obtain ⟨more, hmore⟩ := List.takeWhile_prefix (p := (· != terminator)) (l := cs)
      rw [htail] at hmore
      exact hquote _ hmore.symm
    · have htaken := List.mem_takeWhile_imp hmem
      simp at htaken

end Names

/-! ## 3. Marks -/

/-- No letter stands for two privileges. -/
theorem eq_of_mem_letters {letter : Char} {p q : String} (hp : (letter, p) ∈ letters)
    (hq : (letter, q) ∈ letters) : p = q := by
  have hfunctional : ∀ e ∈ letters, ∀ f ∈ letters, e.1 = f.1 → e.2 = f.2 := by decide
  exact hfunctional _ hp _ hq rfl

/-- The privilege of a letter is the one that the table gives. -/
theorem privilegeOf?_eq_some_iff {letter : Char} {privilege : String} :
    privilegeOf? letter = some privilege ↔ (letter, privilege) ∈ letters := by
  have hsound : ∀ {p}, privilegeOf? letter = some p → (letter, p) ∈ letters := by
    intro p h
    obtain ⟨before, after, heq, -⟩ := List.lookup_eq_some_iff.1 h
    rw [heq]
    exact List.mem_append_right _ List.mem_cons_self
  refine ⟨hsound, fun hmem => ?_⟩
  cases hfound : privilegeOf? letter with
  | none =>
    have hne := List.lookup_eq_none_iff.1 hfound _ hmem
    simp at hne
  | some p => rw [eq_of_mem_letters (hsound hfound) hmem]

/-- The star is no letter, so a star always belongs to the letter before it. -/
theorem ne_star_of_mem_letters {letter : Char} {privilege : String}
    (h : (letter, privilege) ∈ letters) : letter ≠ '*' := by
  have hall : ∀ e ∈ letters, e.1 ≠ '*' := by decide
  exact hall _ h

/-- The slash is no letter, so the marks end at the first slash. -/
theorem ne_slash_of_mem_letters {letter : Char} {privilege : String}
    (h : (letter, privilege) ∈ letters) : letter ≠ '/' := by
  have hall : ∀ e ∈ letters, e.1 ≠ '/' := by decide
  exact hall _ h

/-- A mark as it is read: its privilege and whether it has a star. -/
def Mark.entry (mark : Mark) : String × Bool :=
  ((privilegeOf? mark.letter).getD "", mark.starred)

theorem Mark.mem_letters_entry {mark : Mark} (hknown : mark.IsKnown) :
    (mark.letter, mark.entry.1) ∈ letters := by
  obtain ⟨privilege, hmem⟩ := hknown
  rw [Mark.entry, privilegeOf?_eq_some_iff.2 hmem]
  exact hmem

/-- A known mark in front of anything but a star is read as one mark. -/
theorem readMarks_mark {mark : Mark} (hknown : mark.IsKnown) {rest : List Char}
    (hrest : rest.head? ≠ some '*') :
    readMarks (mark.text ++ rest) =
      (readMarks rest).map fun (marks, left) => (mark.entry :: marks, left) := by
  obtain ⟨letter, starred⟩ := mark
  obtain ⟨privilege, hmem⟩ := hknown
  have hslash : letter ≠ '/' := ne_slash_of_mem_letters hmem
  have hfound : privilegeOf? letter = some privilege := privilegeOf?_eq_some_iff.2 hmem
  -- without a star the reader has to see that the next sign is none
  cases starred with
  | true =>
    show readMarks (letter :: '*' :: rest) = _
    rw [readMarks]
    · simp [Mark.entry, hfound]
    · exact hslash
  | false =>
    show readMarks (letter :: rest) = _
    rw [readMarks]
    · simp [Mark.entry, hfound]
    · exact hslash
    · intro tail htail
      rw [htail] at hrest
      exact hrest rfl

/-- What follows a run of known marks is not a star, unless the run is empty. -/
theorem head?_marks_ne_star {marks : List Mark} (hknown : ∀ mark ∈ marks, mark.IsKnown)
    {rest : List Char} (hrest : rest = [] ∨ rest.head? = some '/') :
    (marks.flatMap Mark.text ++ rest).head? ≠ some '*' := by
  -- what comes next is the slash, or the letter of another mark
  cases marks with
  | nil =>
    rcases hrest with rfl | hhead
    · exact fun h => nomatch h
    · intro h
      rw [List.flatMap_nil, List.nil_append, hhead] at h
      exact absurd (Option.some.inj h) (by decide)
  | cons mark marks =>
    obtain ⟨privilege, hmem⟩ := hknown mark List.mem_cons_self
    have hhead : (mark.text ++ (marks.flatMap Mark.text ++ rest)).head? = some mark.letter := by
      unfold Mark.text
      split <;> rfl
    rw [List.flatMap_cons, List.append_assoc, hhead]
    exact fun h => ne_star_of_mem_letters hmem (Option.some.inj h)

/-- Known marks in front of a slash or the end are read one by one. -/
theorem readMarks_append {marks : List Mark} (hknown : ∀ mark ∈ marks, mark.IsKnown)
    {rest : List Char} (hrest : rest = [] ∨ rest.head? = some '/') :
    readMarks (marks.flatMap Mark.text ++ rest) = .ok (marks.map Mark.entry, rest) := by
  -- mark by mark, with the marks that are left as part of the rest
  induction marks with
  | nil =>
    rcases hrest with rfl | hhead
    · rfl
    · obtain ⟨tail, rfl⟩ := List.head?_eq_some_iff.1 hhead
      rfl
  | cons mark marks ih =>
    have hrestKnown : ∀ m ∈ marks, m.IsKnown := fun m hm => hknown m (List.mem_cons_of_mem _ hm)
    rw [List.flatMap_cons, List.append_assoc,
      readMarks_mark (hknown mark List.mem_cons_self) (head?_marks_ne_star hrestKnown hrest),
      ih hrestKnown]
    rfl

/-- When a mark and what follows it were read, what follows it was. -/
theorem exists_of_map_cons {read : Except Char (List (String × Bool) × List Char)}
    {entry : String × Bool} {held : List (String × Bool)} {rest : List Char}
    (h : (read.map fun (marks, left) => (entry :: marks, left)) = .ok (held, rest)) :
    ∃ inner, read = .ok (inner, rest) := by
  cases read with
  | error letter => cases h
  | ok result =>
    cases h
    exact ⟨_, rfl⟩

/-- The text is a run of known marks up to a slash or the end, where the rest begins. -/
def MarksThen (cs rest : List Char) : Prop :=
  ∃ marks : List Mark, cs = marks.flatMap Mark.text ++ rest ∧ (∀ mark ∈ marks, mark.IsKnown) ∧
    (rest = [] ∨ rest.head? = some '/')

theorem MarksThen.nil {rest : List Char} (hrest : rest = [] ∨ rest.head? = some '/') :
    MarksThen rest rest :=
  ⟨[], rfl, fun _ hm => absurd hm List.not_mem_nil, hrest⟩

theorem MarksThen.cons {mark : Mark} {cs rest : List Char} (hmark : mark.IsKnown)
    (h : MarksThen cs rest) : MarksThen (mark.text ++ cs) rest := by
  obtain ⟨marks, rfl, hknown, hrest⟩ := h
  refine ⟨mark :: marks, ?_, List.forall_mem_cons.2 ⟨hmark, hknown⟩, hrest⟩
  rw [List.flatMap_cons, List.append_assoc]

/-- What was read as marks is a run of known marks, and a slash or the end follows. -/
theorem marksThen_of_readMarks {cs rest : List Char} {held : List (String × Bool)}
    (h : readMarks cs = .ok (held, rest)) : MarksThen cs rest := by
  -- the reader gives a result in four cases; the others are faults
  fun_induction readMarks cs generalizing held with
  | case1 =>
    cases h
    exact .nil (.inl rfl)
  | case2 tail =>
    cases h
    exact .nil (.inr rfl)
  | case3 => cases h
  | case4 c tail _ privilege hfound ih =>
    obtain ⟨inner, hinner⟩ := exists_of_map_cons h
    have hknown : Mark.IsKnown ⟨c, true⟩ := ⟨privilege, privilegeOf?_eq_some_iff.1 hfound⟩
    exact (ih hinner).cons hknown
  | case5 => cases h
  | case6 c tail _ _ privilege hfound ih =>
    obtain ⟨inner, hinner⟩ := exists_of_map_cons h
    have hknown : Mark.IsKnown ⟨c, false⟩ := ⟨privilege, privilegeOf?_eq_some_iff.1 hfound⟩
    exact (ih hinner).cons hknown

/-- A known mark is told by its privilege and its star, because no privilege has two letters. -/
theorem Mark.eq_of_entry_eq {mark other : Mark} (hmark : mark.IsKnown) (hother : other.IsKnown)
    (h : mark.entry = other.entry) : mark = other := by
  have hinjective : ∀ e ∈ letters, ∀ f ∈ letters, e.2 = f.2 → e.1 = f.1 := by decide
  have hletter : mark.letter = other.letter :=
    hinjective _ (mem_letters_entry hmark) _ (mem_letters_entry hother) (congrArg Prod.fst h)
  have hstarred : mark.starred = other.starred := congrArg Prod.snd h
  cases mark
  cases other
  cases hletter
  cases hstarred
  rfl

/-- Runs of known marks that are read alike are equal. -/
theorem eq_of_map_entry_eq {marks others : List Mark} (hmarks : ∀ mark ∈ marks, mark.IsKnown)
    (hothers : ∀ mark ∈ others, mark.IsKnown)
    (h : marks.map Mark.entry = others.map Mark.entry) : marks = others := by
  induction marks generalizing others with
  | nil => exact (List.map_eq_nil_iff.1 h.symm).symm
  | cons mark marks ih =>
    obtain ⟨other, others, rfl, hhead, htail⟩ := List.map_eq_cons_iff.1 h.symm
    rw [List.forall_mem_cons] at hmarks hothers
    rw [Mark.eq_of_entry_eq hmarks.1 hothers.1 hhead.symm, ih hmarks.2 hothers.2 htail.symm]

/-- Two runs of known marks at the beginning of one text are equal. -/
theorem marks_cancel {marks others : List Mark} (hmarks : ∀ mark ∈ marks, mark.IsKnown)
    (hothers : ∀ mark ∈ others, mark.IsKnown) {rest rest' : List Char}
    (hrest : rest = [] ∨ rest.head? = some '/') (hrest' : rest' = [] ∨ rest'.head? = some '/')
    (h : marks.flatMap Mark.text ++ rest = others.flatMap Mark.text ++ rest') :
    marks = others ∧ rest = rest' := by
  have hread := readMarks_append hmarks hrest
  rw [h, readMarks_append hothers hrest', Except.ok.injEq, Prod.mk.injEq] at hread
  exact ⟨(eq_of_map_entry_eq hothers hmarks hread.1).symm, hread.2.symm⟩

/-! ## 4. Items -/

section Items

variable {text : String} {parts : Parts}

/-- The item that parts write. -/
def Parts.item (parts : Parts) : AclItem :=
  ofMarks (String.ofList parts.grantee) (String.ofList parts.grantor)
    (parts.marks.map Mark.entry)

/-- A text that parts spell is read as the item that they write. -/
theorem parse_of_spells (h : parts.Spells text) : parse text = .ok parts.item := by
  have hgrantee : readName '=' text.toList =
      some (parts.grantee, '=' :: (parts.marks.flatMap Mark.text ++ '/' :: parts.grantorText)) := by
    rw [← h.text_eq]
    exact readName_append (by decide) h.grantee (.inr rfl)
  have hmarks : readMarks (parts.marks.flatMap Mark.text ++ '/' :: parts.grantorText) =
      .ok (parts.marks.map Mark.entry, '/' :: parts.grantorText) :=
    readMarks_append h.marks (.inr rfl)
  have hgrantor : readName '/' parts.grantorText = some (parts.grantor, []) := by
    have hread := readName_append (by decide) h.grantor (.inl rfl)
    rwa [List.append_nil] at hread
  simp only [parse, hgrantee, hmarks, hgrantor, Parts.item]

/-- A text that is read is spelt by parts. -/
theorem exists_spells_of_parse {item : AclItem} (h : parse text = .ok item) :
    ∃ parts : Parts, parts.Spells text := by
  unfold parse at h
  split at h
  · cases h
  · rename_i grantee afterName hgrantee
    split at h
    · cases h
    · rename_i held afterMarks hmarks
      split at h
      · cases h
      · rename_i grantor hgrantor
        -- all three parts were read, and each leaves the rest to the next one
        obtain ⟨granteeText, htext, hgranteeText⟩ := writesName_of_readName hgrantee
        obtain ⟨marks, hafterName, hknown, -⟩ := marksThen_of_readMarks hmarks
        obtain ⟨grantorText, hafterMarks, hgrantorText⟩ := writesName_of_readName hgrantor
        rw [List.append_nil] at hafterMarks
        refine ⟨⟨granteeText, grantee, marks, grantorText, grantor⟩, ?_, hgranteeText, hknown,
          hgrantorText⟩
        rw [Parts.text, htext, hafterName, hafterMarks]
      · cases h
    · cases h
  · cases h

/-- No text is spelt by two different parts. -/
theorem Parts.Spells.unique {other : Parts} (h : parts.Spells text) (hother : other.Spells text) :
    parts = other := by
  obtain ⟨granteeText, grantee, marks, grantorText, grantor⟩ := parts
  obtain ⟨granteeText', grantee', marks', grantorText', grantor'⟩ := other
  -- the parts are taken off from the left, each up to its terminator
  have htexts : granteeText ++ '=' :: (marks.flatMap Mark.text ++ '/' :: grantorText) =
      granteeText' ++ '=' :: (marks'.flatMap Mark.text ++ '/' :: grantorText') :=
    h.text_eq.trans hother.text_eq.symm
  obtain ⟨hgranteeText, hgrantee, hafter⟩ :=
    h.grantee.cancel (by decide) hother.grantee (.inr rfl) (.inr rfl) htexts
  obtain ⟨hmarks, hafterMarks⟩ :=
    marks_cancel h.marks hother.marks (.inr rfl) (.inr rfl) (List.cons.inj hafter).2
  obtain ⟨hgrantorText, hgrantor, -⟩ :=
    h.grantor.cancel (by decide) hother.grantor (.inl rfl) (.inl rfl)
      (congrArg (· ++ []) (List.cons.inj hafterMarks).2)
  cases hgranteeText
  cases hgrantee
  cases hmarks
  cases hgrantorText
  cases hgrantor
  rfl

/-- The item that parts write is the one that they describe. -/
theorem Parts.describes_item (hknown : ∀ mark ∈ parts.marks, mark.IsKnown) :
    parts.Describes parts.item := by
  -- What a mark was read as is its privilege.
  have hentry : ∀ {mark : Mark} {privilege : String}, mark ∈ parts.marks →
      (mark.entry.1 = privilege ↔ (mark.letter, privilege) ∈ letters) := by
    intro mark privilege hmem
    have hread := Mark.mem_letters_entry (hknown mark hmem)
    exact ⟨fun h => h ▸ hread, fun h => eq_of_mem_letters hread h⟩
  refine ⟨rfl, rfl, fun privilege => ?_, fun privilege => ?_⟩
  · show privilege ∈ TextSet.ofList _ ↔ _
    simp only [TextSet.mem_ofList, List.map_map, List.mem_map, Function.comp_apply]
    exact exists_congr fun mark => and_congr_right hentry
  · show privilege ∈ TextSet.ofList _ ↔ _
    simp only [TextSet.mem_ofList, List.filter_map, List.map_map, List.mem_map, List.mem_filter,
      Function.comp_apply]
    constructor
    · rintro ⟨mark, ⟨hmem, hstarred⟩, heq⟩
      exact ⟨mark, hmem, hstarred, (hentry hmem).1 heq⟩
    · rintro ⟨mark, hmem, hstarred, hletter⟩
      exact ⟨mark, ⟨hmem, hstarred⟩, (hentry hmem).2 hletter⟩

/-- Everything that is read from a text has a letter, and the grantee is named. -/
theorem parse_has_letters {item : AclItem} (h : parse text = .ok item) :
    item.holding.role = some item.grantee ∧
      ∀ privilege ∈ item.privileges.toList, isPrivilege privilege = true := by
  obtain ⟨parts, hspells⟩ := exists_spells_of_parse h
  have hitem : parts.item = item := Except.ok.inj ((parse_of_spells hspells).symm.trans h)
  rw [← hitem]
  refine ⟨rfl, fun privilege hmem => ?_⟩
  obtain ⟨mark, -, hletter⟩ := ((Parts.describes_item hspells.marks).privileges privilege).1 hmem
  exact List.any_eq_true.2 ⟨_, hletter, beq_self_eq_true privilege⟩

/-- Whatever is complained about is the text that was given. -/
theorem given_of_parse {fault : Fault} (h : parse text = .error fault) :
    fault.given = .text text := by
  unfold parse at h
  repeat' split at h
  all_goals
    cases h
    try rfl

/-- A text is read if and only if it is spelt by parts, which are then unique, and the item is the
one that they describe. Of every other text reading complains, and the complaint shows the text. -/
theorem parse_accepts_the_grammar (text : String) :
    ((∃ item, parse text = .ok item) ↔ ∃ parts : Parts, parts.Spells text) ∧
      (∀ parts other : Parts, parts.Spells text → other.Spells text → parts = other) ∧
      (∀ parts : Parts, parts.Spells text → ∃ item, parse text = .ok item ∧ parts.Describes item) ∧
      ((¬∃ parts : Parts, parts.Spells text) →
        ∃ fault, parse text = .error fault ∧ fault.given = .text text) := by
  have hread : ∀ parts : Parts, parts.Spells text →
      ∃ item, parse text = .ok item ∧ parts.Describes item := by
    intro parts h
    exact ⟨parts.item, parse_of_spells h, Parts.describes_item h.marks⟩
  refine ⟨⟨?_, ?_⟩, fun _ _ => Parts.Spells.unique, hread, fun hnone => ?_⟩
  · rintro ⟨item, h⟩
    exact exists_spells_of_parse h
  · rintro ⟨parts, h⟩
    exact ⟨_, parse_of_spells h⟩
  -- a text that is no item gives an error, which tells the text
  · cases hparse : parse text with
    | ok item => exact absurd (exists_spells_of_parse hparse) hnone
    | error fault => exact ⟨fault, rfl, given_of_parse hparse⟩

end Items

end AclItem

end PgGrants
