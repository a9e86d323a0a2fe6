/-
Normal forms are stable. A role key is the key of itself, and the normal form of a privilege token
is in normal form, for names and tokens in any script. So a key can be looked up as it is, and what
was built from normal tokens can be built again from them.

Case mapping is given by runs of code points. That no run leads into a run of the same table is
decided for the runs; everything about characters follows from that.
-/
import Mathlib.Data.List.Basic
import PgGrants.Holding

set_option autoImplicit false

namespace PgGrants

namespace Text

/-! ## 1. Runs that lead out of each other

Case mappings are stored as runs of code points. A run passes another when no image of the one lies
in the other, which is a comparison of numbers and is decided once for the whole table. -/

namespace CaseRun

/-- The code point is one of the run's. -/
def Holds (run : CaseRun) (code : Nat) : Prop :=
  run.first ≤ code ∧ code ≤ run.last ∧ (code - run.first) % run.step = 0

instance (run : CaseRun) (code : Nat) : Decidable (run.Holds code) :=
  inferInstanceAs (Decidable (_ ∧ _))

/-- Where the run takes one of its code points. -/
def image (run : CaseRun) (code : Nat) : Nat := Int.toNat (code + run.shift)

/-- The run that keeps every code point of a range in its place. -/
def keeping (range : CodeRange) : CaseRun := ⟨range.1, range.2, 1, 0⟩

/-- The run leads to characters. -/
def LeadsToChars (run : CaseRun) : Prop :=
  0 ≤ run.first + run.shift ∧
    (run.image run.last < 0xD800 ∨
      0xDFFF < run.image run.first ∧ run.image run.last < 0x110000)

instance (run : CaseRun) : Decidable run.LeadsToChars := inferInstanceAs (Decidable (_ ∧ _))

/-- The run leads past the other one: to one side of it, or in between its code points where these
are two apart. -/
def passes (run other : CaseRun) : Bool :=
  Nat.blt (run.image run.last) other.first || Nat.blt other.last (run.image run.first) ||
    other.step == 2 && (run.step == 2 || run.first == run.last) &&
      (run.image run.first + other.first) % 2 == 1

variable {run other : CaseRun} {code : Nat}

theorem map?_eq_some {moved : Nat} (h : run.map? code = some moved) :
    run.Holds code ∧ moved = run.image code := by
  unfold map? at h
  split at h
  · rename_i hholds
    cases h
    exact ⟨hholds, rfl⟩
  · cases h

theorem map?_eq_none_iff : run.map? code = none ↔ ¬ run.Holds code := by
  unfold map? Holds
  simp

theorem holds_keeping {range : CodeRange} :
    (keeping range).Holds code ↔ range.1 ≤ code ∧ code ≤ range.2 := by
  simp [Holds, keeping, Nat.mod_one]

theorem holds_keeping_self {place : Nat} : (keeping (place, place)).Holds code ↔ code = place := by
  rw [holds_keeping]
  omega

theorem not_holds_image (hpositive : 0 ≤ run.first + run.shift) (h : run.passes other = true)
    (hholds : run.Holds code) : ¬ other.Holds (run.image code) := by
  obtain ⟨hfrom, hto, hstep⟩ := hholds
  rintro ⟨hfirst, hlast, hplace⟩
  simp only [passes, image, Bool.or_eq_true, Bool.and_eq_true, Nat.blt_eq, beq_iff_eq] at h
  unfold image at hfirst hlast hplace
  -- an image can miss the other run on either side, or by its parity
  rcases h with (hbelow | habove) | ⟨⟨htwo, hown⟩, hodd⟩
  · omega
  · omega
  · -- an odd distance stays odd along a run in steps of two
    rw [htwo] at hplace
    rcases hown with hown | hown
    · rw [hown] at hstep
      omega
    · omega

/-- A run that is passed by a code point in its place does not hold it. -/
theorem not_holds_of_passes_keeping (h : (keeping (code, code)).passes run = true) :
    ¬ run.Holds code := by
  have hstays : (keeping (code, code)).image code = code := Int.toNat_natCast code
  have hpositive : (0 : Int) ≤ (keeping (code, code)).first + (keeping (code, code)).shift :=
    Int.natCast_nonneg code
  rw [← hstays]
  exact not_holds_image hpositive h (holds_keeping_self.2 rfl)

theorem LeadsToChars.isValidChar (h : run.LeadsToChars) (hholds : run.Holds code) :
    (run.image code).isValidChar := by
  obtain ⟨hfrom, hto, -⟩ := hholds
  obtain ⟨hpositive, hsmall | ⟨hlarge, hbound⟩⟩ := h
  · refine .inl ?_
    unfold image at hsmall ⊢
    omega
  · refine .inr ?_
    unfold image at hlarge hbound ⊢
    omega

end CaseRun

theorem toNat_ofNat {code : Nat} (h : code.isValidChar) : (Char.ofNat code).toNat = code := by
  unfold Char.ofNat
  rw [dif_pos h]
  rfl

/-- What becomes of a character: no run holds it and it stays, or one does and moves it. -/
theorem mapByRuns_cases (runs : List CaseRun) (c : Char) :
    (mapByRuns runs c = c ∧ ∀ run ∈ runs, ¬ run.Holds c.toNat) ∨
      ∃ run ∈ runs, run.Holds c.toNat ∧ mapByRuns runs c = Char.ofNat (run.image c.toNat) := by
  unfold mapByRuns
  cases hfound : runs.findSome? (·.map? c.toNat) with
  | none =>
    rw [List.findSome?_eq_none_iff] at hfound
    exact .inl ⟨rfl, fun run hrun => CaseRun.map?_eq_none_iff.1 (hfound run hrun)⟩
  | some code =>
    obtain ⟨run, hrun, hmap⟩ := List.exists_of_findSome?_eq_some hfound
    obtain ⟨hholds, rfl⟩ := CaseRun.map?_eq_some hmap
    exact .inr ⟨run, hrun, hholds, rfl⟩

theorem mapByRuns_of_not_holds {runs : List CaseRun} {c : Char}
    (h : ∀ run ∈ runs, ¬ run.Holds c.toNat) : mapByRuns runs c = c := by
  unfold mapByRuns
  rw [List.findSome?_eq_none_iff.2 fun run hrun => CaseRun.map?_eq_none_iff.2 (h run hrun)]

/-- Where a character is taken, it is in no run that all the runs pass, unless it stays in one. -/
theorem not_holds_mapByRuns {runs : List CaseRun} {other : CaseRun}
    (hchars : ∀ run ∈ runs, run.LeadsToChars) (hpass : ∀ run ∈ runs, run.passes other = true)
    {c : Char} (hstay : (∀ run ∈ runs, ¬ run.Holds c.toNat) → ¬ other.Holds c.toNat) :
    ¬ other.Holds (mapByRuns runs c).toNat := by
  rcases mapByRuns_cases runs c with ⟨heq, hnone⟩ | ⟨run, hrun, hholds, heq⟩
  · rw [heq]
    exact hstay hnone
  · rw [heq, toNat_ofNat ((hchars run hrun).isValidChar hholds)]
    exact CaseRun.not_holds_image (hchars run hrun).1 (hpass run hrun) hholds

theorem runs_leadToChars : ∀ run ∈ lowerRuns ++ upperRuns, run.LeadsToChars := by
  decide +kernel

theorem lowerRuns_leadToChars : ∀ run ∈ lowerRuns, run.LeadsToChars :=
  fun run hrun => runs_leadToChars run (List.mem_append_left _ hrun)

theorem upperRuns_leadToChars : ∀ run ∈ upperRuns, run.LeadsToChars :=
  fun run hrun => runs_leadToChars run (List.mem_append_right _ hrun)

theorem lowerRuns_pass {run other : CaseRun} (hrun : run ∈ lowerRuns) (hother : other ∈ lowerRuns) :
    run.passes other = true := by
  have hall : (lowerRuns.all fun run => lowerRuns.all run.passes) = true := by
    decide +kernel
  exact List.all_eq_true.1 (List.all_eq_true.1 hall run hrun) other hother

theorem upperRuns_pass {run other : CaseRun} (hrun : run ∈ upperRuns) (hother : other ∈ upperRuns) :
    run.passes other = true := by
  have hall : (upperRuns.all fun run => upperRuns.all run.passes) = true := by
    decide +kernel
  exact List.all_eq_true.1 (List.all_eq_true.1 hall run hrun) other hother

/-! ## 2. Lower case

What a lower-case character is mapped to is itself. The one exception in the table is the dotted
capital I, which becomes two characters. -/

/-- The character is its own lower case wherever it stands. -/
def KeepsLower (c : Char) : Prop := c ≠ '\u03A3' ∧ lowerChar c = [c]

instance (c : Char) : Decidable (KeepsLower c) := inferInstanceAs (Decidable (_ ∧ _))

theorem keepsLower_of_not_holds {c : Char} (hdotted : c ≠ '\u0130')
    (h : ∀ run ∈ lowerRuns, ¬ run.Holds c.toNat) : KeepsLower c := by
  constructor
  · rintro rfl
    have hsigma : ∃ run ∈ lowerRuns, run.Holds '\u03A3'.toNat := by
      decide +kernel
    obtain ⟨run, hrun, hholds⟩ := hsigma
    exact h run hrun hholds
  · unfold lowerChar
    rw [if_neg hdotted, mapByRuns_of_not_holds h]

/-- The lower case of a character is made of characters that keep it. -/
theorem keepsLower_of_mem_lowerChar {c d : Char} (h : d ∈ lowerChar c) : KeepsLower d := by
  have hpast : ∀ run ∈ lowerRuns, run.passes (.keeping (0x130, 0x130)) = true := by
    decide +kernel
  have hparts : KeepsLower 'i' ∧ KeepsLower '\u0307' := by
    decide +kernel
  unfold lowerChar at h
  -- the dotted capital I is no run of the table, and its two parts keep themselves
  by_cases hdotted : c = '\u0130'
  · rw [if_pos hdotted] at h
    rcases List.mem_pair.1 h with rfl | rfl
    · exact hparts.1
    · exact hparts.2
  · rw [if_neg hdotted, List.mem_singleton] at h
    subst h
    refine keepsLower_of_not_holds (fun heq => ?_) fun other hother => ?_
    · refine not_holds_mapByRuns (c := c) lowerRuns_leadToChars hpast (fun _ hc => hdotted ?_) ?_
      · exact Char.toNat_inj.1 (CaseRun.holds_keeping_self.1 hc)
      · exact CaseRun.holds_keeping_self.2 (congrArg Char.toNat heq)
    · exact not_holds_mapByRuns lowerRuns_leadToChars
        (fun run hrun => lowerRuns_pass hrun hother) fun hnone => hnone other hother

theorem keepsLower_lowerSigma (before after : List Char) :
    KeepsLower (lowerSigma before after) := by
  have hforms : KeepsLower '\u03C2' ∧ KeepsLower '\u03C3' := by
    decide +kernel
  unfold lowerSigma
  split
  · exact hforms.1
  · exact hforms.2

theorem keepsLower_of_mem_lowerCharsAfter {d : Char} {cs : List Char} (before : List Char)
    (h : d ∈ lowerCharsAfter before cs) : KeepsLower d := by
  induction cs generalizing before with
  | nil => cases h
  | cons c rest ih =>
    unfold lowerCharsAfter at h
    rcases List.mem_append.1 h with hfirst | hrest
    · split at hfirst
      · rw [List.mem_singleton.1 hfirst]
        exact keepsLower_lowerSigma before rest
      · exact keepsLower_of_mem_lowerChar hfirst
    · exact ih (c :: before) hrest

theorem lowerCharsAfter_eq_self {cs : List Char} (before : List Char)
    (h : ∀ c ∈ cs, KeepsLower c) : lowerCharsAfter before cs = cs := by
  induction cs generalizing before with
  | nil => rfl
  | cons c rest ih =>
    obtain ⟨hsigma, hchar⟩ := h c List.mem_cons_self
    unfold lowerCharsAfter
    rw [if_neg hsigma, hchar, ih _ fun d hd => h d (List.mem_cons_of_mem c hd)]
    rfl

/-- What is in lower case is its own lower case. -/
theorem lower_lower (s : String) : lower (lower s) = lower s := by
  unfold lower lowerChars
  rw [String.toList_ofList,
    lowerCharsAfter_eq_self [] fun c hc => keepsLower_of_mem_lowerCharsAfter [] hc]

/-! ## 3. Blanks at the ends

Stripped text stays stripped in lower case because no other character turns into a blank. -/

/-- Neither the first nor the last character satisfies `p`. -/
def IsTrimmed (p : Char → Bool) (cs : List Char) : Prop :=
  (∀ c ∈ cs.head?, p c = false) ∧ ∀ c ∈ cs.getLast?, p c = false

theorem dropWhile_eq_self {p : Char → Bool} {cs : List Char} (h : ∀ c ∈ cs.head?, p c = false) :
    cs.dropWhile p = cs := by
  cases cs with
  | nil => rfl
  | cons c rest => exact List.dropWhile_cons_of_neg (by simp [h c rfl])

theorem trimWhile_of_isTrimmed {p : Char → Bool} {cs : List Char} (h : IsTrimmed p cs) :
    trimWhile p cs = cs := by
  unfold trimWhile
  rw [dropWhile_eq_self h.1, dropWhile_eq_self, List.reverse_reverse]
  intro c hc
  rw [List.head?_reverse] at hc
  exact h.2 c hc

theorem of_mem_head?_dropWhile {p : Char → Bool} {cs : List Char} :
    ∀ c ∈ (cs.dropWhile p).head?, p c = false := by
  intro c hc
  have hfirst := List.head?_dropWhile_not p cs
  rw [Option.mem_def.1 hc] at hfirst
  exact hfirst

theorem isTrimmed_trimWhile (p : Char → Bool) (cs : List Char) : IsTrimmed p (trimWhile p cs) := by
  unfold trimWhile
  constructor
  · -- dropping at the end leaves the front as it is, unless nothing is left
    intro c hc
    rw [List.head?_reverse] at hc
    obtain ⟨dropped, hsplit⟩ := List.dropWhile_suffix (l := (cs.dropWhile p).reverse) p
    have hfront : c ∈ (cs.dropWhile p).head? := by
      rw [← List.getLast?_reverse, ← hsplit]
      exact List.mem_getLast?_append_of_mem_getLast? hc
    exact of_mem_head?_dropWhile c hfront
  -- the other end was trimmed last
  · intro c hc
    rw [List.getLast?_reverse] at hc
    exact of_mem_head?_dropWhile c hc

/-- Stripping leaves a text as it is exactly when no blank stands at either end. -/
theorem strip_eq_self_iff {s : String} : strip s = s ↔ IsTrimmed isBlank s.toList := by
  constructor
  · intro h
    rw [← h, strip, String.toList_ofList]
    exact isTrimmed_trimWhile isBlank s.toList
  · intro h
    rw [strip, trimWhile_of_isTrimmed h, String.ofList_toList]

/-- No run holds a blank, and none leads to one. -/
theorem blanks_apart_from_runs : ∀ range ∈ blankRanges, ∀ run ∈ lowerRuns ++ upperRuns,
    (run.last < range.1 ∨ range.2 < run.first) ∧ run.passes (.keeping range) = true := by
  decide +kernel

/-- A blank stays where it is. -/
theorem not_holds_of_isBlank {c : Char} (h : isBlank c = true) :
    ∀ run ∈ lowerRuns ++ upperRuns, ¬ run.Holds c.toNat := by
  obtain ⟨range, hrange, hfrom, hto⟩ := inRanges_eq_true_iff.1 h
  rintro run hrun ⟨hfirst, hlast, -⟩
  have := (blanks_apart_from_runs range hrange run hrun).1
  omega

/-- No other character is taken to a blank. -/
theorem isBlank_mapByRuns {runs : List CaseRun} (hruns : ∀ run ∈ runs, run ∈ lowerRuns ++ upperRuns)
    {c : Char} (hc : isBlank c = false) : isBlank (mapByRuns runs c) = false := by
  rw [← Bool.not_eq_true] at hc ⊢
  intro hblank
  obtain ⟨range, hrange, hin⟩ := inRanges_eq_true_iff.1 hblank
  refine not_holds_mapByRuns (c := c) (fun run hrun => runs_leadToChars run (hruns run hrun))
    (fun run hrun => (blanks_apart_from_runs range hrange run (hruns run hrun)).2) ?_
    (CaseRun.holds_keeping.2 hin)
  intro _ hstays
  exact hc (inRanges_eq_true_iff.2 ⟨range, hrange, CaseRun.holds_keeping.1 hstays⟩)

/-- Nothing becomes a blank in lower case. -/
theorem isBlank_of_mem_lowerChar {c d : Char} (hc : isBlank c = false) (h : d ∈ lowerChar c) :
    isBlank d = false := by
  have hparts : isBlank 'i' = false ∧ isBlank '\u0307' = false := by
    decide
  unfold lowerChar at h
  split at h
  · rcases List.mem_pair.1 h with rfl | rfl
    · exact hparts.1
    · exact hparts.2
  · rw [List.mem_singleton.1 h]
    exact isBlank_mapByRuns (fun run => List.mem_append_left _) hc

/-- The first character gives one or two, and no blank unless it is one. -/
theorem exists_lowerCharsAfter_cons (before : List Char) (c : Char) (rest : List Char) :
    ∃ first, lowerCharsAfter before (c :: rest) = first ++ lowerCharsAfter (c :: before) rest ∧
      first ≠ [] ∧ (isBlank c = false → ∀ d ∈ first, isBlank d = false) := by
  -- neither form of sigma is a blank
  have hforms : isBlank '\u03C2' = false ∧ isBlank '\u03C3' = false := by
    decide
  refine ⟨_, rfl, ?_, fun hc d hd => ?_⟩
  · unfold lowerChar
    split
    · exact List.cons_ne_nil _ _
    · split <;> exact List.cons_ne_nil _ _
  · split at hd
    · rw [List.mem_singleton.1 hd]
      unfold lowerSigma
      split
      · exact hforms.1
      · exact hforms.2
    · exact isBlank_of_mem_lowerChar hc hd

theorem lowerCharsAfter_ne_nil {cs : List Char} (before : List Char) (h : cs ≠ []) :
    lowerCharsAfter before cs ≠ [] := by
  cases cs with
  | nil => exact absurd rfl h
  | cons c rest =>
    obtain ⟨first, hfirst, hne, -⟩ := exists_lowerCharsAfter_cons before c rest
    rw [hfirst]
    exact List.append_ne_nil_of_left_ne_nil hne _

theorem isTrimmed_lowerCharsAfter {cs : List Char} (before : List Char)
    (h : IsTrimmed isBlank cs) : IsTrimmed isBlank (lowerCharsAfter before cs) := by
  obtain ⟨hhead, hlast⟩ := h
  constructor
  -- at the front: the first character of the text gives the first of its lower case
  · cases cs with
    | nil => exact hhead
    | cons c rest =>
      obtain ⟨first, hfirst, hne, hkept⟩ := exists_lowerCharsAfter_cons before c rest
      intro d hd
      rw [hfirst, List.head?_append_of_ne_nil _ hne] at hd
      exact hkept (hhead c rfl) d (List.mem_of_mem_head? hd)
  -- at the end, character by character, since the final sigma looks at what stands before it
  · clear hhead
    induction cs generalizing before with
    | nil => exact hlast
    | cons c rest ih =>
      obtain ⟨first, hfirst, -, hkept⟩ := exists_lowerCharsAfter_cons before c rest
      intro d hd
      rw [hfirst] at hd
      cases rest with
      | nil =>
        rw [lowerCharsAfter, List.append_nil] at hd
        exact hkept (hlast c rfl) d (List.mem_of_mem_getLast? hd)
      | cons next others =>
        rw [List.getLast?_append_of_ne_nil _ (lowerCharsAfter_ne_nil _ (List.cons_ne_nil _ _))]
          at hd
        refine ih (c :: before) (fun e he => hlast e ?_) d hd
        rw [List.getLast?_cons_cons]
        exact he

/-- Stripping and lowering once is enough. -/
theorem strip_lower_strip (s : String) : strip (lower (strip s)) = lower (strip s) := by
  have htrimmed : IsTrimmed isBlank (lowerChars (trimWhile isBlank s.toList)) :=
    isTrimmed_lowerCharsAfter [] (isTrimmed_trimWhile isBlank s.toList)
  unfold strip lower
  simp only [String.toList_ofList]
  rw [trimWhile_of_isTrimmed htrimmed]

/-! ## 4. Upper case -/

/-- The character is its own upper case. -/
def KeepsUpper (c : Char) : Prop := upperChar c = [c]

theorem keepsUpper_of_not_holds {c : Char} (hsingle : ∀ entry ∈ upperExpansions, c.toNat ≠ entry.1)
    (h : ∀ run ∈ upperRuns, ¬ run.Holds c.toNat) : KeepsUpper c := by
  have hlookup : upperExpansions.lookup c.toNat = none := by
    rw [List.lookup_eq_none_iff]
    intro entry hentry
    exact bne_iff_ne.2 (hsingle entry hentry)
  unfold KeepsUpper upperChar
  rw [hlookup]
  dsimp only
  rw [mapByRuns_of_not_holds h]

/-- What becomes several characters is no blank, and no run leads to it. What it becomes is not
empty, has no blank in it, and is held neither by a run nor by the list itself. -/
theorem upperExpansions_apart : ∀ entry ∈ upperExpansions,
    (isBlank (Char.ofNat entry.1) = false ∧ entry.2 ≠ [] ∧
      ∀ run ∈ upperRuns, run.passes (.keeping (entry.1, entry.1)) = true) ∧
    ∀ code ∈ entry.2, code < 0xD800 ∧ isBlank (Char.ofNat code) = false ∧
      (∀ other ∈ upperExpansions, code ≠ other.1) ∧
      ∀ run ∈ upperRuns, (CaseRun.keeping (code, code)).passes run = true := by
  have hall : (upperExpansions.all fun entry =>
      (!isBlank (Char.ofNat entry.1) && !entry.2.isEmpty &&
        upperRuns.all fun run => run.passes (.keeping (entry.1, entry.1))) &&
      entry.2.all fun code => Nat.blt code 0xD800 && !isBlank (Char.ofNat code) &&
        (upperExpansions.all fun other => !Nat.beq code other.1) &&
        upperRuns.all fun run => (CaseRun.keeping (code, code)).passes run) = true := by
    decide +kernel
  have hne : ∀ a b : Nat, Nat.beq a b = false ↔ a ≠ b := fun a b => by
    rw [← Bool.not_eq_true, Nat.beq_eq]
  simpa only [List.all_eq_true, Bool.and_eq_true, Bool.not_eq_true', List.isEmpty_eq_false_iff,
    Nat.blt_eq, hne, and_assoc] using hall

/-- The parts of an upper case of several characters keep it. -/
theorem keepsUpper_of_mem_expansion {entry : Nat × List Nat} (hentry : entry ∈ upperExpansions)
    {code : Nat} (hcode : code ∈ entry.2) : KeepsUpper (Char.ofNat code) := by
  obtain ⟨hsmall, -, hsingle, hpast⟩ := (upperExpansions_apart entry hentry).2 code hcode
  have hvalid : (Char.ofNat code).toNat = code := toNat_ofNat (.inl hsmall)
  refine keepsUpper_of_not_holds (fun other hother => ?_) fun run hrun => ?_
  · rw [hvalid]
    exact hsingle other hother
  · rw [hvalid]
    exact CaseRun.not_holds_of_passes_keeping (hpast run hrun)

/-- The upper case of a character: several as listed for it, or one by the runs. -/
theorem upperChar_cases (c : Char) :
    (∃ codes, (c.toNat, codes) ∈ upperExpansions ∧ upperChar c = codes.map Char.ofNat) ∨
      (∀ entry ∈ upperExpansions, c.toNat ≠ entry.1) ∧ upperChar c = [mapByRuns upperRuns c] := by
  unfold upperChar
  -- a character with an expansion is looked up before the runs are
  cases hlookup : upperExpansions.lookup c.toNat with
  | some codes =>
    obtain ⟨before, after, hentries, -⟩ := List.lookup_eq_some_iff.1 hlookup
    refine .inl ⟨codes, ?_, rfl⟩
    rw [hentries]
    simp
  | none =>
    exact .inr ⟨fun entry hentry => bne_iff_ne.1 (List.lookup_eq_none_iff.1 hlookup entry hentry),
      rfl⟩

/-- The upper case of a character is made of characters that keep it. -/
theorem keepsUpper_of_mem_upperChar {c d : Char} (h : d ∈ upperChar c) : KeepsUpper d := by
  rcases upperChar_cases c with ⟨codes, hentry, heq⟩ | ⟨hnone, heq⟩
  · rw [heq] at h
    obtain ⟨code, hcode, rfl⟩ := List.mem_map.1 h
    exact keepsUpper_of_mem_expansion hentry hcode
  · rw [heq] at h
    rw [List.mem_singleton.1 h]
    -- the image of a run is in no run and has no expansion of its own
    refine keepsUpper_of_not_holds (fun entry hentry heq => ?_) fun other hother => ?_
    · refine not_holds_mapByRuns (c := c) upperRuns_leadToChars
        (upperExpansions_apart entry hentry).1.2.2 (fun _ hc => ?_)
        (CaseRun.holds_keeping_self.2 heq)
      exact hnone entry hentry (CaseRun.holds_keeping_self.1 hc)
    · exact not_holds_mapByRuns upperRuns_leadToChars
        (fun run hrun => upperRuns_pass hrun hother) fun hnone => hnone other hother

/-- A blank is its own upper case. -/
theorem keepsUpper_of_isBlank {c : Char} (h : isBlank c = true) : KeepsUpper c := by
  refine keepsUpper_of_not_holds (fun entry hentry heq => ?_) fun run hrun =>
    not_holds_of_isBlank h run (List.mem_append_right _ hrun)
  have hlisted := (upperExpansions_apart entry hentry).1.1
  rw [← heq, Char.ofNat_toNat, h] at hlisted
  cases hlisted

/-- Nothing becomes a blank in upper case. -/
theorem isBlank_of_mem_upperChar {c d : Char} (hc : isBlank c = false) (h : d ∈ upperChar c) :
    isBlank d = false := by
  rcases upperChar_cases c with ⟨codes, hentry, heq⟩ | ⟨-, heq⟩
  · rw [heq] at h
    obtain ⟨code, hcode, rfl⟩ := List.mem_map.1 h
    exact ((upperExpansions_apart _ hentry).2 code hcode).2.1
  · rw [heq] at h
    rw [List.mem_singleton.1 h]
    exact isBlank_mapByRuns (fun run => List.mem_append_right _) hc

theorem upperChar_ne_nil (c : Char) : upperChar c ≠ [] := by
  rcases upperChar_cases c with ⟨codes, hentry, heq⟩ | ⟨-, heq⟩
  · rw [heq]
    exact fun hnil => (upperExpansions_apart _ hentry).1.2.1 (List.map_eq_nil_iff.1 hnil)
  · rw [heq]
    exact List.cons_ne_nil _ _

theorem upperChars_eq_self {cs : List Char} (h : ∀ c ∈ cs, KeepsUpper c) : upperChars cs = cs := by
  unfold upperChars
  rw [List.flatMap_congr h]
  simp

theorem keepsUpper_of_mem_upperChars {cs : List Char} {d : Char} (h : d ∈ upperChars cs) :
    KeepsUpper d := by
  obtain ⟨c, -, hd⟩ := List.mem_flatMap.1 h
  exact keepsUpper_of_mem_upperChar hd

/-! ## 5. Words

To squeeze is to split into words and to join them with single spaces. Splitting what was joined
gives the words back, so squeezing once more changes nothing. -/

/-- The text is one word. -/
def IsWord (cs : List Char) : Prop := cs ≠ [] ∧ ∀ c ∈ cs, isBlank c = false

theorem splitFront_cons_of_isBlank {c : Char} (hc : isBlank c = true) (rest : List Char) :
    splitFront (c :: rest) = ([], words rest) := by
  unfold splitFront words
  simp only [hc, if_true]

theorem splitFront_cons_of_not_isBlank {c : Char} (hc : isBlank c = false) (rest : List Char) :
    splitFront (c :: rest) = (c :: (splitFront rest).1, (splitFront rest).2) := by
  rw [splitFront]
  simp [hc]

theorem splitFront_append {word : List Char} (hword : ∀ c ∈ word, isBlank c = false)
    (rest : List Char) :
    splitFront (word ++ rest) = (word ++ (splitFront rest).1, (splitFront rest).2) := by
  induction word with
  | nil => rfl
  | cons c word ih =>
    rw [List.cons_append, splitFront_cons_of_not_isBlank (hword c List.mem_cons_self),
      ih fun d hd => hword d (List.mem_cons_of_mem c hd)]
    rfl

/-- Words joined by single spaces are read back as they are. -/
theorem words_intersperse {texts : List (List Char)} (h : ∀ text ∈ texts, IsWord text) :
    words (texts.intersperse [' ']).flatten = texts := by
  induction texts with
  | nil => rfl
  | cons text rest ih =>
    obtain ⟨hne, hword⟩ := h text List.mem_cons_self
    have hrest := ih fun other hother => h other (List.mem_cons_of_mem text hother)
    -- the last word has no space behind it
    cases rest with
    | nil =>
      have hsplit := splitFront_append hword []
      rw [List.append_nil] at hsplit
      unfold words
      simp [hsplit, splitFront, hne]
    | cons next others =>
      have hspace : isBlank ' ' = true := by decide
      have hjoined : ((text :: next :: others).intersperse [' ']).flatten =
          text ++ ' ' :: ((next :: others).intersperse [' ']).flatten := by
        simp
      rw [hjoined, words, splitFront_append hword, splitFront_cons_of_isBlank hspace, hrest]
      simp [hne]

theorem mem_words {cs word : List Char} (h : word ∈ words cs) :
    word = (splitFront cs).1 ∧ word ≠ [] ∨ word ∈ (splitFront cs).2 := by
  unfold words at h
  dsimp only at h
  by_cases hempty : (splitFront cs).1.isEmpty = true
  · rw [if_pos hempty] at h
    exact .inr h
  · rw [if_neg hempty] at h
    rcases List.mem_cons.1 h with rfl | h
    · exact .inl ⟨rfl, fun hnil => hempty (List.isEmpty_iff.2 hnil)⟩
    · exact .inr h

/-- What is split off is made of characters of the text without the blanks. -/
theorem splitFront_parts (cs : List Char) :
    (∀ c ∈ (splitFront cs).1, isBlank c = false ∧ c ∈ cs) ∧
      ∀ word ∈ (splitFront cs).2, IsWord word ∧ ∀ c ∈ word, c ∈ cs := by
  induction cs with
  | nil => simp [splitFront]
  | cons c rest ih =>
    obtain ⟨hfront, hothers⟩ := ih
    have hlater : ∀ word ∈ (splitFront rest).2, IsWord word ∧ ∀ d ∈ word, d ∈ c :: rest :=
      fun word hword => (hothers word hword).imp_right fun hall d hd =>
        List.mem_cons_of_mem c (hall d hd)
    -- a blank ends a word, any other character belongs to the one that is open
    by_cases hc : isBlank c = true
    · rw [splitFront_cons_of_isBlank hc]
      refine ⟨fun d hd => absurd hd List.not_mem_nil, fun word hword => ?_⟩
      rcases mem_words hword with ⟨rfl, hne⟩ | hword
      · exact ⟨⟨hne, fun d hd => (hfront d hd).1⟩,
          fun d hd => List.mem_cons_of_mem c (hfront d hd).2⟩
      · exact hlater word hword
    · rw [Bool.not_eq_true] at hc
      rw [splitFront_cons_of_not_isBlank hc]
      refine ⟨fun d hd => ?_, hlater⟩
      rcases List.mem_cons.1 hd with rfl | hd
      · exact ⟨hc, List.mem_cons_self⟩
      · exact (hfront d hd).imp_right (List.mem_cons_of_mem c)

/-- The words of a text are words, of its own characters. -/
theorem of_mem_words {cs word : List Char} (h : word ∈ words cs) :
    IsWord word ∧ ∀ c ∈ word, c ∈ cs := by
  obtain ⟨hfront, hothers⟩ := splitFront_parts cs
  rcases mem_words h with ⟨rfl, hne⟩ | hword
  · exact ⟨⟨hne, fun c hc => (hfront c hc).1⟩, fun c hc => (hfront c hc).2⟩
  · exact hothers word hword

theorem squeeze_squeeze (s : String) : squeeze (squeeze s) = squeeze s := by
  unfold squeeze
  rw [String.toList_ofList, words_intersperse fun word hword => (of_mem_words hword).1]

theorem mem_intersperse {α : Type} {separator part : α} {parts : List α}
    (h : part ∈ parts.intersperse separator) : part = separator ∨ part ∈ parts := by
  induction parts with
  | nil => cases h
  | cons first rest ih =>
    cases rest with
    | nil => exact .inr h
    | cons next others =>
      rw [List.intersperse_cons_cons] at h
      rcases List.mem_cons.1 h with rfl | h
      · exact .inr List.mem_cons_self
      rcases List.mem_cons.1 h with rfl | h
      · exact .inl rfl
      · exact (ih h).imp_right (List.mem_cons_of_mem first)

/-- Squeezing adds no characters but spaces. -/
theorem of_mem_squeeze {s : String} {c : Char} (h : c ∈ (squeeze s).toList) :
    c = ' ' ∨ c ∈ s.toList := by
  unfold squeeze at h
  rw [String.toList_ofList] at h
  obtain ⟨part, hpart, hc⟩ := List.mem_flatten.1 h
  rcases mem_intersperse hpart with rfl | hword
  · exact .inl (List.mem_singleton.1 hc)
  · exact .inr ((of_mem_words hword).2 c hc)

/-- What was squeezed in upper case is its own upper case. -/
theorem upper_squeeze_upper (s : String) : upper (squeeze (upper s)) = squeeze (upper s) := by
  have hkept : ∀ c ∈ (squeeze (upper s)).toList, KeepsUpper c := by
    intro c hc
    rcases of_mem_squeeze hc with rfl | hc
    · exact keepsUpper_of_isBlank (by decide)
    · unfold upper at hc
      rw [String.toList_ofList] at hc
      exact keepsUpper_of_mem_upperChars hc
  rw [upper, upperChars_eq_self hkept, String.ofList_toList]

end Text

/-! ## 6. Role keys and privilege tokens -/

/-- A role key is the key of itself. -/
@[simp] theorem Role.key_key (role : String) : key (key role) = key role := by
  have hpublic : key publicKey = publicKey := by decide
  unfold key
  by_cases hfolded : Text.lower (Text.strip role) = "public"
  · rw [if_pos hfolded]
    exact hpublic
  · rw [if_neg hfolded, Text.strip_lower_strip, Text.lower_lower, if_neg hfolded]

/-- The key of a holding is the key of itself. -/
@[simp] theorem Holding.key_key (h : Holding) : Role.key h.key = h.key := Role.key_key _

namespace Privilege

theorem normalForm_aliases : normalForm all = all ∧ normalForm "ALL PRIVILEGES" = all ∧
    normalForm "TEMPORARY" = "TEMPORARY" ∧ normalForm "TEMP" = "TEMPORARY" := by
  decide +kernel

/-- The normal form of a token is in normal form. -/
theorem normalForm_normalForm (token : String) :
    normalForm (normalForm token) = normalForm token := by
  obtain ⟨hwhole, -, hproper, -⟩ := normalForm_aliases
  rw [show normalForm token = properName (Text.squeeze (Text.upper token)) from rfl]
  unfold properName
  split
  · exact hwhole
  · split
    · exact hproper
    · -- a token without alias is only squeezed in upper case, and stays so
      rename_i hall htemporary
      unfold normalForm properName
      rw [Text.upper_squeeze_upper, Text.squeeze_squeeze, if_neg hall, if_neg htemporary]

theorem normalForm_of_mem_normalize {tokens : List String} {token : String}
    (h : token ∈ normalize tokens) : normalForm token = token := by
  obtain ⟨given, -, rfl⟩ := List.mem_map.1 (TextSet.mem_ofList.1 h)
  exact normalForm_normalForm given

/-- Tokens in normal form are only put in a set. -/
theorem normalize_eq_ofList {tokens : List String}
    (h : ∀ token ∈ tokens, normalForm token = token) : normalize tokens = .ofList tokens := by
  rw [normalize, List.map_congr_left h, List.map_id']

end Privilege

end PgGrants
