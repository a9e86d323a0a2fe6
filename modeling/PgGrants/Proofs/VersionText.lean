/-
Versions in text. The parts of a version, written with dots between them, are found in any text that
holds no digit before them and goes on neither with a digit nor with one more part. Only parts of
too many digits are found and not read.

So the text in which a message shows a version is read back as that version, and a client that
expects it passes the gates like a client that asked a server with the number of that version.
-/
import Mathlib.Algebra.Ring.Nat
import PgGrants.Proofs.Gates
import PgGrants.Proofs.VersionOrder

set_option autoImplicit false

namespace PgGrants

/-! ## 1. Numbers in decimal -/

namespace Text

theorem digitValue?_of_isDigit {c : Char} (h : c.isDigit = true) :
    digitValue? c = some (c.toNat - '0'.toNat) := by
  have hrange : 0x30 ≤ c.toNat ∧ c.toNat < 0x30 + 10 := by
    have hdigit : '0'.toNat ≤ c.toNat ∧ c.toNat ≤ '9'.toNat := Char.isDigit_iff_toNat.1 h
    simp only [Char.reduceToNat] at hdigit
    omega
  -- these digits are the ones of the first script
  rw [digitValue?, zeroDigits, List.findSome?_cons, if_pos hrange]
  rfl

theorem isDigit_of_mem_toDigits {n : Nat} {c : Char} (h : c ∈ Nat.toDigits 10 n) :
    isDigit c = true := by
  rw [isDigit, digitValue?_of_isDigit (Nat.isDigit_of_mem_toDigits (by decide) (by decide) h)]
  rfl

theorem digitsValue_eq_ofDigitChars {cs : List Char} (h : ∀ c ∈ cs, c.isDigit = true) :
    digitsValue cs = Nat.ofDigitChars 10 cs 0 := by
  unfold digitsValue Nat.ofDigitChars
  refine List.foldl_ext _ _ _ fun n c hc => ?_
  rw [digitValue?_of_isDigit (h c hc), Option.getD_some, Nat.mul_comm]

theorem digitsValue_toDigits (n : Nat) : digitsValue (Nat.toDigits 10 n) = n := by
  rw [digitsValue_eq_ofDigitChars fun c hc =>
    Nat.isDigit_of_mem_toDigits (by decide) (by decide) hc]
  exact Nat.ofDigitChars_toDigits (by decide) (by decide)

theorem readRow_toDigits_of_lt {n : Nat} (h : n < 10 ^ maxDigits) :
    readRow (Nat.toDigits 10 n) = .ok n := by
  have hlength : (Nat.toDigits 10 n).length ≤ maxDigits :=
    (Nat.length_toDigits_le_iff (by decide) (by decide)).2 h
  rw [readRow, if_pos hlength, digitsValue_toDigits]

theorem readRow_toDigits_of_le {n : Nat} (h : 10 ^ maxDigits ≤ n) :
    readRow (Nat.toDigits 10 n) = .error (Nat.toDigits 10 n).length := by
  have hlength : ¬(Nat.toDigits 10 n).length ≤ maxDigits := fun hle =>
    Nat.not_le.2 ((Nat.length_toDigits_le_iff (by decide) (by decide)).1 hle) h
  rw [readRow, if_neg hlength]

end Text

namespace Version

open Text (isDigit maxDigits)

/-! ## 2. Parts in text -/

/-- The version with these parts. -/
def ofParts (parts : List Nat) : Version := ⟨parts.map Int.ofNat⟩

/-- The parts in decimal with dots between them. -/
def dotted (parts : List Nat) : List Char := ['.'].intercalate (parts.map (Nat.toDigits 10))

theorem toList_toText (parts : List Nat) : (ofParts parts).toText.toList = dotted parts := by
  rw [toText, ofParts, String.toList_intercalate, List.map_map, List.map_map]
  refine congrArg (List.intercalate ['.']) (List.map_congr_left fun n _ => ?_)
  exact Nat.toList_repr

theorem dotted_singleton (n : Nat) : dotted [n] = Nat.toDigits 10 n := by
  simp [dotted]

theorem dotted_cons_cons (n m : Nat) (parts : List Nat) :
    dotted (n :: m :: parts) = Nat.toDigits 10 n ++ '.' :: dotted (m :: parts) := by
  simp [dotted, List.intercalate_cons_cons]

theorem exists_dotted_cons (n : Nat) (parts : List Nat) :
    ∃ c rest, dotted (n :: parts) = c :: rest ∧ isDigit c = true := by
  obtain ⟨c, tail, hdigits⟩ := List.exists_cons_of_ne_nil (Nat.toDigits_ne_nil (n := n) (b := 10))
  have hc : isDigit c = true :=
    Text.isDigit_of_mem_toDigits (n := n) (by rw [hdigits]; exact List.mem_cons_self)
  cases parts with
  | nil => exact ⟨c, tail, by rw [dotted_singleton, hdigits], hc⟩
  | cons m parts =>
    exact ⟨c, tail ++ '.' :: dotted (m :: parts),
      by rw [dotted_cons_cons, hdigits, List.cons_append], hc⟩

/-- The text does not go on with a digit nor, where there is room for one, with another part. -/
structure Ends (room : Prop) (after : List Char) : Prop where
  digit : ∀ c rest, after = c :: rest → isDigit c = false
  part : room → ∀ c rest, after = '.' :: c :: rest → isDigit c = false

theorem takeWhile_toDigits_append {n : Nat} {after : List Char}
    (h : ∀ c rest, after = c :: rest → isDigit c = false) :
    (Nat.toDigits 10 n ++ after).takeWhile isDigit = Nat.toDigits 10 n := by
  rw [List.takeWhile_append_of_pos fun _ => Text.isDigit_of_mem_toDigits]
  cases after with
  | nil => exact List.append_nil _
  | cons c rest =>
    rw [List.takeWhile_cons_of_neg (by rw [h c rest rfl]; decide), List.append_nil]

theorem dropWhile_toDigits_append {n : Nat} {after : List Char}
    (h : ∀ c rest, after = c :: rest → isDigit c = false) :
    (Nat.toDigits 10 n ++ after).dropWhile isDigit = after := by
  rw [List.dropWhile_append_of_pos fun _ => Text.isDigit_of_mem_toDigits]
  cases after with
  | nil => rfl
  | cons c rest => exact List.dropWhile_cons_of_neg (by rw [h c rest rfl]; decide)

theorem digitRows_last {count n : Nat} {after : List Char} (h : Ends (0 < count) after) :
    digitRows (count + 1) (Nat.toDigits 10 n ++ after) = [Nat.toDigits 10 n] := by
  rw [digitRows, takeWhile_toDigits_append h.digit, dropWhile_toDigits_append h.digit]
  refine congrArg _ ?_
  split
  next c rest =>
    cases count with
    | zero => exact ite_self _
    | succ count => rw [if_neg (by rw [h.part (Nat.succ_pos count) c rest rfl]; decide)]
  next => rfl

theorem digitRows_cons {count n : Nat} {c : Char} {rest : List Char} (hc : isDigit c = true) :
    digitRows (count + 1) (Nat.toDigits 10 n ++ '.' :: c :: rest) =
      Nat.toDigits 10 n :: digitRows count (c :: rest) := by
  have hdot : ∀ c' rest', '.' :: c :: rest = c' :: rest' → isDigit c' = false := by
    rintro _ _ ⟨⟩
    decide
  rw [digitRows, takeWhile_toDigits_append hdot, dropWhile_toDigits_append hdot]
  exact congrArg _ (if_pos hc)

/-- The rows of digits are the parts, when there is room for as many. -/
theorem digitRows_dotted {count : Nat} {parts : List Nat} {after : List Char} (hparts : parts ≠ [])
    (hcount : parts.length ≤ count) (hends : Ends (parts.length < count) after) :
    digitRows count (dotted parts ++ after) = parts.map (Nat.toDigits 10) := by
  induction parts generalizing count with
  | nil => exact absurd rfl hparts
  | cons n parts ih =>
    obtain ⟨count, rfl⟩ := Nat.exists_eq_succ_of_ne_zero (Nat.ne_zero_of_lt hcount)
    simp only [List.length_cons, Nat.succ_eq_add_one, Nat.add_le_add_iff_right,
      Nat.add_lt_add_iff_right] at hcount hends
    -- the last part ends where the text goes on with something else
    cases parts with
    | nil =>
      rw [dotted_singleton]
      exact digitRows_last hends
    | cons m parts =>
      obtain ⟨c, rest, hdotted, hc⟩ := exists_dotted_cons m parts
      have hrows := ih (List.cons_ne_nil m parts) hcount hends
      rw [hdotted, List.cons_append] at hrows
      rw [dotted_cons_cons, hdotted, List.append_assoc, List.cons_append, List.cons_append,
        digitRows_cons hc, hrows]
      rfl

/-! ## 3. Finding versions

The first run of digits is looked for, and then up to two more behind dots. Reading them succeeds
unless one has too many digits. -/

/-- The version with these parts, unless one of them has too many digits. -/
def readable (parts : List Nat) : Except Fault Version :=
  match parts.find? fun n => 10 ^ maxDigits ≤ n with
  | none => .ok (ofParts parts)
  | some n => .error (.tooLong (Nat.toDigits 10 n).length)

theorem readable_of_lt {parts : List Nat} (h : ∀ n ∈ parts, n < 10 ^ maxDigits) :
    readable parts = .ok (ofParts parts) := by
  have hnone : (parts.find? fun n => 10 ^ maxDigits ≤ n) = none :=
    List.find?_eq_none.2 fun n hn => by simpa using h n hn
  rw [readable, hnone]

theorem readable_of_le {n : Nat} {parts : List Nat} (h : 10 ^ maxDigits ≤ n) :
    readable (n :: parts) = .error (.tooLong (Nat.toDigits 10 n).length) := by
  rw [readable, List.find?_cons_of_pos (by simpa using h)]

theorem mapM_readRow (parts : List Nat) :
    (parts.map (Nat.toDigits 10)).mapM Text.readRow =
      match parts.find? fun n => 10 ^ maxDigits ≤ n with
      | none => .ok parts
      | some n => .error (Nat.toDigits 10 n).length := by
  induction parts with
  | nil => rfl
  | cons n parts ih =>
    rw [List.map_cons, List.mapM_cons, ih]
    -- the first part that is too long is the one that is told
    rcases Nat.lt_or_ge n (10 ^ maxDigits) with hn | hn
    · rw [Text.readRow_toDigits_of_lt hn,
        List.find?_cons_of_neg (by simpa using hn)]
      cases parts.find? fun n => 10 ^ maxDigits ≤ n <;> rfl
    · rw [Text.readRow_toDigits_of_le hn, List.find?_cons_of_pos (by simpa using hn)]
      rfl

theorem dropWhile_before {before rest : List Char} {c : Char}
    (hbefore : ∀ c ∈ before, isDigit c = false) (hc : isDigit c = true) :
    (before ++ c :: rest).dropWhile (fun c => !isDigit c) = c :: rest := by
  rw [List.dropWhile_append_of_pos fun c hmem => by rw [hbefore c hmem]; rfl]
  exact List.dropWhile_cons_of_neg (by rw [hc]; decide)

/-- A version is found in whatever stands around it. -/
theorem find_of_ends {parts : List Nat} {before after : String} (hparts : parts ≠ [])
    (hlength : parts.length ≤ 3) (hbefore : ∀ c ∈ before.toList, isDigit c = false)
    (hends : Ends (parts.length < 3) after.toList) :
    find (before ++ (ofParts parts).toText ++ after) = readable parts := by
  obtain ⟨n, parts, rfl⟩ := List.exists_cons_of_ne_nil hparts
  obtain ⟨c, rest, hdotted, hc⟩ := exists_dotted_cons n parts
  -- what stands before is passed over, and the rows of digits are those of the parts
  have hrows := digitRows_dotted hparts hlength hends
  rw [hdotted, List.cons_append] at hrows
  rw [find, findIn, String.toList_append, String.toList_append, toList_toText, hdotted,
    List.append_assoc, List.cons_append, dropWhile_before hbefore hc]
  dsimp only
  rw [hrows, mapM_readRow, readable]
  cases (n :: parts).find? fun n => 10 ^ maxDigits ≤ n <;> rfl

theorem find_toText {parts : List Nat} (hparts : parts ≠ []) (hlength : parts.length ≤ 3) :
    find (ofParts parts).toText = readable parts := by
  have hends : Ends (parts.length < 3) "".toList := ⟨nofun, nofun⟩
  have hfound := @find_of_ends parts "" "" hparts hlength nofun hends
  rwa [String.empty_append, String.append_empty] at hfound

/-! ## 4. Versions of numbers in text -/

/-- The parts of the version of a number. -/
def partsOfNumber (n : Nat) : List Nat :=
  if n < 100000 then [n / 10000, n % 10000 / 100, n % 10000 % 100] else [n / 10000, n % 10000]

theorem ofNumber_natCast (n : Nat) : ofNumber n = ofParts (partsOfNumber n) := by
  unfold partsOfNumber
  split
  next hlt => exact ofNumber_of_lt (by omega)
  next hle => exact ofNumber_of_le (by omega)

theorem partsOfNumber_ne_nil (n : Nat) : partsOfNumber n ≠ [] := by
  unfold partsOfNumber
  split <;> exact List.cons_ne_nil _ _

theorem length_partsOfNumber_le (n : Nat) : (partsOfNumber n).length ≤ 3 := by
  unfold partsOfNumber
  split <;> simp

/-- The parts after the first one are short, so the number itself says whether all of them can be
read. -/
theorem find?_partsOfNumber (n : Nat) :
    ((partsOfNumber n).find? fun part => 10 ^ maxDigits ≤ part) =
      if n < 10 ^ (maxDigits + 4) then none else some (n / 10000) := by
  -- only the major part can be long, the others are below ten thousand
  have hshort (part : Nat) (h : part < 10000) :
      decide (10 ^ maxDigits ≤ part) = false := by
    have hpow : 10 ^ 4 ≤ 10 ^ maxDigits := Nat.pow_le_pow_right (by decide) (by decide)
    exact decide_eq_false (by omega)
  have hfirst : 10 ^ maxDigits ≤ n / 10000 ↔ ¬n < 10 ^ (maxDigits + 4) := by
    rw [Nat.le_div_iff_mul_le (by decide), Nat.pow_add, Nat.not_lt]
  have hrest (parts : List Nat) (hparts : ∀ part ∈ parts, part < 10000) :
      ((n / 10000 :: parts).find? fun part => 10 ^ maxDigits ≤ part) =
        if n < 10 ^ (maxDigits + 4) then none else some (n / 10000) := by
    split
    next hn =>
      rw [List.find?_eq_none]
      intro part hpart
      rcases List.mem_cons.1 hpart with rfl | hpart
      · simpa only [decide_eq_true_eq] using fun h => hfirst.1 h hn
      · rw [hshort part (hparts part hpart)]
        decide
    next hn => exact List.find?_cons_of_pos (decide_eq_true (hfirst.2 hn))
  unfold partsOfNumber
  split
  · refine hrest _ fun part hpart => ?_
    simp only [List.mem_cons, List.not_mem_nil, or_false] at hpart
    omega
  · refine hrest _ fun part hpart => ?_
    rw [List.mem_singleton.1 hpart]
    omega

theorem readable_partsOfNumber (n : Nat) :
    readable (partsOfNumber n) =
      if n < 10 ^ (maxDigits + 4) then .ok (ofNumber n)
      else .error (.tooLong (Nat.toDigits 10 (n / 10000)).length) := by
  rw [readable, find?_partsOfNumber, ofNumber_natCast]
  by_cases hn : n < 10 ^ (maxDigits + 4)
  · rw [if_pos hn, if_pos hn]
  · rw [if_neg hn, if_neg hn]

/-- The version of a number is read back from its text. -/
theorem ofText_ofNumber (n : Nat) :
    Version.ofText (.text (ofNumber n).toText) =
      if n < 10 ^ (maxDigits + 4) then .ok (ofNumber n)
      else .error (.tooManyDigits (Nat.toDigits 10 (n / 10000)).length) := by
  have hfind : find (Value.text (ofNumber n).toText).plain = readable (partsOfNumber n) := by
    rw [ofNumber_natCast]
    exact find_toText (partsOfNumber_ne_nil n) (length_partsOfNumber_le n)
  rw [Version.ofText, hfind, readable_partsOfNumber]
  by_cases hn : n < 10 ^ (maxDigits + 4)
  · rw [if_pos hn, if_pos hn]
  · rw [if_neg hn, if_neg hn]

end Version

/-! ## 5. Expected versions

A version that is expected leads to the same capabilities as a server that reports it, and gates
judge by capabilities alone. -/

section

open Call

variable {σ : Type} [Server σ] {caps : Capabilities} {c : Client σ}

/-- Once the version is found out, it alone decides what the gates say. -/
theorem exec_needAll_of_found (h : (Call.exec capabilities c).1 = .ok caps) (gates : List Gate) :
    (Call.exec (needAll gates) c).1 = caps.judge gates := by
  obtain ⟨outcome, first, c₁, hfound, hfinds⟩ := runs_findingOut c
  rw [hfound.exec] at h
  cases hfinds with
  | failed _ _ _ => cases h
  | found _ hknown =>
    cases h
    cases gates with
    | nil => rfl
    | cons gate rest =>
      rw [needAll_cons]
      have hjudged := runs_judge_of_known hknown (gate :: rest)
      rw [needAll_cons] at hjudged
      rw [(hfound.findingOutFirst hknown hjudged).exec]

theorem exec_capabilities_of_expected {text : String} {version : Version}
    (hc : c.capabilities = none) (hexpected : c.config.expectedVersion = some text)
    (hread : Version.ofText (.text text) = .ok version) :
    (Call.exec capabilities c).1 = .ok ⟨version⟩ := by
  unfold capabilities
  rw [Call.exec_bind_ok (Runs.get c).exec, hc]
  dsimp only
  rw [hexpected]
  dsimp only
  rw [hread]
  rfl

/-- Expected or asked for, the same version makes the same gates. -/
theorem exec_needAll_of_expected {n : Nat} {c d : Client σ} (hn : n < 10 ^ (Text.maxDigits + 4))
    (hc : c.capabilities = none)
    (hexpected : c.config.expectedVersion = some (Version.ofNumber n).toText)
    (hd : (Call.exec capabilities d).1 = .ok (Capabilities.ofNumber n)) (gates : List Gate) :
    (Call.exec (needAll gates) c).1 = (Call.exec (needAll gates) d).1 := by
  have hread : Version.ofText (.text (Version.ofNumber n).toText) = .ok (Version.ofNumber n) := by
    rw [Version.ofText_ofNumber, if_pos hn]
  rw [exec_needAll_of_found (exec_capabilities_of_expected hc hexpected hread) gates,
    exec_needAll_of_found hd gates]
  rfl

end

namespace Version

/-- A version of one to three parts is found whatever stands before and after it, as long as that
is neither a digit nor one more part, and is read unless a part has too many digits. The version of
a number is read back from its text, so a client that expects it passes the gates that a client
passes that was told the number. -/
theorem found_where_it_stands {σ : Type} [Server σ] :
    (∀ (parts : List Nat) (before after : String), parts ≠ [] → parts.length ≤ 3 →
      (∀ c ∈ before.toList, Text.isDigit c = false) →
      (∀ c rest, after.toList = c :: rest → Text.isDigit c = false) →
      (parts.length < 3 → ∀ c rest, after.toList = '.' :: c :: rest → Text.isDigit c = false) →
      find (before ++ (ofParts parts).toText ++ after) = readable parts) ∧
    (∀ n : Nat, Version.ofText (.text (ofNumber n).toText) =
      if n < 10 ^ (Text.maxDigits + 4) then .ok (ofNumber n)
      else .error (.tooManyDigits (Nat.toDigits 10 (n / 10000)).length)) ∧
    ∀ (n : Nat) (c d : Client σ), n < 10 ^ (Text.maxDigits + 4) → c.capabilities = none →
      c.config.expectedVersion = some (ofNumber n).toText →
      (Call.exec Call.capabilities d).1 = .ok (Capabilities.ofNumber n) →
      ∀ gates, (Call.exec (Call.needAll gates) c).1 = (Call.exec (Call.needAll gates) d).1 := by
  refine ⟨fun parts before after hparts hlength hbefore hdigit hpart => ?_, ofText_ofNumber,
    fun n c d hn hc hexpected hd => exec_needAll_of_expected hn hc hexpected hd⟩
  exact find_of_ends hparts hlength hbefore ⟨hdigit, hpart⟩

/-- A client of a server that says its version when it is asked. -/
def clientOf10_5 (expected : Option String) : Client Script :=
  Client.new ⟨"postgres", expected, "postgresql", "psycopg"⟩ ⟨[.rows [[.text "100005"]]]⟩

theorem found_in_what_a_server_says :
    find ("PostgreSQL " ++ (ofParts [9, 6, 5]).toText ++ ", compiled") = .ok (ofParts [9, 6, 5]) ∧
      (Call.exec (Call.needAll [⟨.procedure, "CALL"⟩]) (clientOf10_5 (some "10.5"))).1 =
        (Call.exec (Call.needAll [⟨.procedure, "CALL"⟩]) (clientOf10_5 none)).1 := by
  have hpow (k : Nat) (hk : k ≤ Text.maxDigits + 4) : 10 ^ k ≤ 10 ^ (Text.maxDigits + 4) :=
    Nat.pow_le_pow_right (by decide) hk
  constructor
  · refine Eq.trans (found_where_it_stands (σ := Script).1 [9, 6, 5] "PostgreSQL " ", compiled"
      (by decide) (by decide) ?_ ?_ fun h => absurd h (by decide)) (readable_of_lt ?_)
    · have hbefore : "PostgreSQL ".toList.all (fun c => !Text.isDigit c) = true := by decide
      intro c hc
      simpa using List.all_eq_true.1 hbefore c hc
    · rintro c rest h
      cases h
      decide
    · have hone : 10 ^ 1 ≤ 10 ^ Text.maxDigits := Nat.pow_le_pow_right (by decide) (by decide)
      intro part hpart
      simp only [List.mem_cons, List.not_mem_nil, or_false] at hpart
      omega
  · refine (found_where_it_stands (σ := Script)).2.2 100005 _ _ ?_ rfl ?_ ?_ _
    · exact Nat.lt_of_lt_of_le (by decide) (hpow 6 (by decide))
    · decide +kernel
    · rfl

/-- With one digit too many a part is found and not read. -/
theorem long_part_is_not_read :
    find (ofParts [10 ^ Text.maxDigits]).toText = .error (.tooLong (Text.maxDigits + 1)) := by
  have hlength : (Nat.toDigits 10 (10 ^ Text.maxDigits)).length = Text.maxDigits + 1 := by
    refine Nat.le_antisymm ((Nat.length_toDigits_le_iff (by decide) (by decide)).2 ?_)
      (Nat.not_le.1 fun hle => ?_)
    · exact Nat.pow_lt_pow_right (by decide) (Nat.lt_succ_self _)
    · exact Nat.lt_irrefl _ ((Nat.length_toDigits_le_iff (by decide) (by decide)).1 hle)
  rw [find_toText (List.cons_ne_nil _ _) (by simp), readable_of_le (Nat.le_refl _), hlength]

end Version

end PgGrants
