/-
Spellings of one privilege token. A token may be written in capitals or in small letters, with
blanks around it and between its words, and by its alias; the spellings that are reached from each
other by such changes, in any order and any number, have one normal form.

The normal form is taken in upper case, and the words are found afterwards. Both orders give the
same: the blanks keep themselves in upper case, and nothing else becomes a blank.
-/
import Mathlib.Logic.Relation
import PgGrants.Proofs.NormalForms

set_option autoImplicit false

namespace PgGrants

namespace Text

/-! ## 1. Letters from A to Z -/

theorem toLower_cases (c : Char) : c.toLower = c ∨ ∃ n < 26, c = Char.ofNat (0x41 + n) := by
  by_cases hcapital : 0x41 ≤ c.toNat ∧ c.toNat ≤ 0x5A
  · refine .inr ⟨c.toNat - 0x41, by omega, ?_⟩
    rw [show 0x41 + (c.toNat - 0x41) = c.toNat by omega, Char.ofNat_toNat]
  · refine .inl ?_
    unfold Char.toLower
    rw [dif_neg]
    exact fun hletter =>
      hcapital ⟨UInt32.le_iff_toNat_le.1 hletter.1, UInt32.le_iff_toNat_le.1 hletter.2⟩

/-- To the case mappings, a letter from A to Z is the same as its small form. -/
theorem case_toLower (c : Char) : upperChar c.toLower = upperChar c ∧
    lowerChar c.toLower = lowerChar c ∧ (c.toLower = '\u03A3' ↔ c = '\u03A3') ∧
    inRanges caseIgnorableRanges c.toLower = inRanges caseIgnorableRanges c ∧
    inRanges casedRanges c.toLower = inRanges casedRanges c := by
  have hletters : ∀ n < 26,
      upperChar (Char.ofNat (0x41 + n)).toLower = upperChar (Char.ofNat (0x41 + n)) ∧
      lowerChar (Char.ofNat (0x41 + n)).toLower = lowerChar (Char.ofNat (0x41 + n)) ∧
      ((Char.ofNat (0x41 + n)).toLower = '\u03A3' ↔ Char.ofNat (0x41 + n) = '\u03A3') ∧
      inRanges casedRanges (Char.ofNat (0x41 + n)).toLower =
        inRanges casedRanges (Char.ofNat (0x41 + n)) := by
    decide +kernel
  have hcodes : ∀ n < 26, (Char.ofNat (0x41 + n)).toNat = 0x41 + n ∧
      (Char.ofNat (0x41 + n)).toLower.toNat = 0x61 + n := by
    decide
  have hapart : ∀ range ∈ caseIgnorableRanges,
      range.2 < 0x41 ∨ 0x5A < range.1 ∧ range.2 < 0x61 ∨ 0x7A < range.1 := by
    decide +kernel
  rcases toLower_cases c with hkept | ⟨n, hn, rfl⟩
  · rw [hkept]
    exact ⟨rfl, rfl, .rfl, rfl, rfl⟩
  · obtain ⟨hupper, hlower, hsigma, hcased⟩ := hletters n hn
    obtain ⟨hcapital, hsmall⟩ := hcodes n hn
    refine ⟨hupper, hlower, hsigma, Bool.eq_iff_iff.2 ?_, hcased⟩
    -- neither form is in one of the ranges
    simp only [inRanges_eq_true_iff, hcapital, hsmall]
    constructor <;>
      rintro ⟨range, hrange, hfrom, hto⟩ <;>
      have := hapart range hrange <;>
      omega

theorem toLower_eq_iff {s t : String} :
    s.toLower = t.toLower ↔ s.toList.map Char.toLower = t.toList.map Char.toLower := by
  unfold String.toLower
  rw [← String.toList_inj, String.toList_map, String.toList_map]

/-- Texts that differ in the case of letters from A to Z have one upper case. -/
theorem upper_eq_of_toLower_eq {s t : String} (h : s.toLower = t.toLower) :
    upper s = upper t := by
  have hsmall : ∀ cs : List Char, upperChars (cs.map Char.toLower) = upperChars cs := by
    intro cs
    unfold upperChars
    rw [List.flatMap_map]
    exact List.flatMap_congr fun c _ => (case_toLower c).1
  unfold upper
  rw [← hsmall s.toList, ← hsmall t.toList, toLower_eq_iff.1 h]

theorem startsCased_map_toLower (cs : List Char) :
    startsCased (cs.map Char.toLower) = startsCased cs := by
  have hignored : inRanges caseIgnorableRanges ∘ Char.toLower = inRanges caseIgnorableRanges :=
    funext fun c => (case_toLower c).2.2.2.1
  unfold startsCased
  rw [List.dropWhile_map, hignored]
  cases cs.dropWhile (inRanges caseIgnorableRanges) with
  | nil => rfl
  | cons c rest => exact (case_toLower c).2.2.2.2

theorem lowerCharsAfter_map_toLower (before cs : List Char) :
    lowerCharsAfter (before.map Char.toLower) (cs.map Char.toLower) =
      lowerCharsAfter before cs := by
  induction cs generalizing before with
  | nil => rfl
  | cons c rest ih =>
    obtain ⟨-, hlower, hsigma, -⟩ := case_toLower c
    -- whether a sigma is final depends on letters, not on their case
    have hplace : lowerSigma (before.map Char.toLower) (rest.map Char.toLower) =
        lowerSigma before rest := by
      unfold lowerSigma
      rw [startsCased_map_toLower, startsCased_map_toLower]
    have hrest := ih (c :: before)
    rw [List.map_cons] at hrest
    rw [List.map_cons, lowerCharsAfter, lowerCharsAfter, hplace, hlower, hrest]
    simp only [hsigma]

/-- Texts that differ in the case of letters from A to Z have one lower case. -/
theorem lower_eq_of_toLower_eq {s t : String} (h : s.toLower = t.toLower) :
    lower s = lower t := by
  have hsmall : ∀ cs : List Char, lowerChars (cs.map Char.toLower) = lowerChars cs :=
    lowerCharsAfter_map_toLower []
  unfold lower
  rw [← hsmall s.toList, ← hsmall t.toList, toLower_eq_iff.1 h]

/-! ## 2. Words in upper case -/

theorem isEmpty_upperChars (cs : List Char) : (upperChars cs).isEmpty = cs.isEmpty := by
  cases cs with
  | nil => rfl
  | cons c rest =>
    have hne := List.append_ne_nil_of_left_ne_nil (upperChar_ne_nil c) (upperChars rest)
    rw [show upperChars (c :: rest) = upperChar c ++ upperChars rest from rfl,
      List.isEmpty_eq_false_iff.2 hne]
    rfl

/-- What is split off at the front decides which words there are. -/
theorem words_upperChars_of_splitFront {cs : List Char} (h : splitFront (upperChars cs) =
    (upperChars (splitFront cs).1, (splitFront cs).2.map upperChars)) :
    words (upperChars cs) = (words cs).map upperChars := by
  unfold words
  simp only [h, isEmpty_upperChars]
  split <;> rfl

/-- What is split off in upper case is what is split off, in upper case. -/
theorem splitFront_upperChars (cs : List Char) : splitFront (upperChars cs) =
    (upperChars (splitFront cs).1, (splitFront cs).2.map upperChars) := by
  induction cs with
  | nil => rfl
  | cons c rest ih =>
    rw [show upperChars (c :: rest) = upperChar c ++ upperChars rest from rfl]
    by_cases hc : isBlank c = true
    · -- a blank is still one, and ends the word
      rw [show upperChar c = [c] from keepsUpper_of_isBlank hc, List.singleton_append,
        splitFront_cons_of_isBlank hc, splitFront_cons_of_isBlank hc,
        words_upperChars_of_splitFront ih]
      rfl
    · -- whatever the character becomes, all of it belongs to the word
      rw [Bool.not_eq_true] at hc
      rw [splitFront_append fun d hd => isBlank_of_mem_upperChar hc hd,
        splitFront_cons_of_not_isBlank hc, ih]
      rfl

/-- The words of a text in upper case are its words, in upper case. -/
theorem words_upperChars (cs : List Char) : words (upperChars cs) = (words cs).map upperChars :=
  words_upperChars_of_splitFront (splitFront_upperChars cs)

/-- Texts with the same words are squeezed to the same text in upper case. -/
theorem squeeze_upper_eq_of_words_eq {s t : String} (h : words s.toList = words t.toList) :
    squeeze (upper s) = squeeze (upper t) := by
  unfold squeeze upper
  rw [String.toList_ofList, String.toList_ofList, words_upperChars, words_upperChars, h]

end Text

/-! ## 3. Spellings of a token -/

namespace Privilege

/-- One change in the spelling of a token. -/
inductive Respells : String → String → Prop where
  /-- Other capitals among the letters from A to Z. -/
  | letters {s t : String} (h : s.toLower = t.toLower) : Respells s t
  /-- Other blanks around the words and between them. -/
  | blanks {s t : String} (h : Text.words s.toList = Text.words t.toList) : Respells s t
  | temporary : Respells "TEMP" "TEMPORARY"
  | allPrivileges : Respells "ALL PRIVILEGES" "ALL"

/-- The token is spelt in one way and in another, any number of changes apart. -/
def SameToken : String → String → Prop := Relation.EqvGen Respells

theorem Respells.normalForm_eq {s t : String} (h : Respells s t) :
    normalForm s = normalForm t := by
  -- one case for each way of respelling; the last two are the aliases
  cases h with
  | letters h =>
    unfold normalForm
    rw [Text.upper_eq_of_toLower_eq h]
  | blanks h =>
    unfold normalForm
    rw [Text.squeeze_upper_eq_of_words_eq h]
  | temporary =>
    obtain ⟨-, -, hproper, halias⟩ := normalForm_aliases
    rw [hproper, halias]
  | allPrivileges =>
    obtain ⟨hwhole, halias, -⟩ := normalForm_aliases
    exact halias.trans hwhole.symm

/-- A token has one normal form in all its spellings. -/
theorem SameToken.normalForm_eq {s t : String} (h : SameToken s t) :
    normalForm s = normalForm t := by
  induction h with
  | rel s t h => exact h.normalForm_eq
  | refl s => rfl
  | symm s t _ ih => exact ih.symm
  | trans s t u _ _ ihs iht => exact ihs.trans iht

/-- Lists with the same tokens, in any spelling, order and number, have one normal form. -/
theorem normalize_eq_of_sameToken {l m : List String} (hl : ∀ s ∈ l, ∃ t ∈ m, SameToken s t)
    (hm : ∀ t ∈ m, ∃ s ∈ l, SameToken s t) : normalize l = normalize m := by
  ext token
  simp only [normalize, TextSet.mem_ofList, List.mem_map]
  constructor
  · rintro ⟨s, hs, rfl⟩
    obtain ⟨t, ht, hsame⟩ := hl s hs
    exact ⟨t, ht, hsame.normalForm_eq.symm⟩
  · rintro ⟨t, ht, rfl⟩
    obtain ⟨s, hs, hsame⟩ := hm t ht
    exact ⟨s, hs, hsame.normalForm_eq⟩

end Privilege

end PgGrants
