/-
The order of versions. A server reports its version as one number, which is decoded in one of two
ways, and the versions that come out are ordered as the numbers were, also where the two ways meet.

So what a server can do goes by the number alone. A feature that came to stay is there for every
greater number, and the one that went away was there for every smaller number from its first
version on.
-/
import PgGrants.Capability

set_option autoImplicit false

namespace PgGrants

/-! ## 1. Versions of numbers -/

namespace Version

theorem lt_iff {v w : Version} : v < w ↔ v.parts < w.parts := Iff.rfl

theorem lt_trans {u v w : Version} (h : u < v) (h' : v < w) : u < w := List.lt_trans h h'

theorem lt_irrefl (v : Version) : ¬v < v := List.lt_irrefl v.parts

theorem ofNumber_of_lt {n : Int} (h : n < 100000) :
    ofNumber n = ⟨[n / 10000, n % 10000 / 100, n % 10000 % 100]⟩ := by
  have hmajor : ¬10 ≤ n / 10000 := by omega
  unfold ofNumber
  simp only [Int.fdiv_eq_ediv_of_nonneg _ (show (0 : Int) ≤ 10000 by decide),
    Int.fmod_eq_emod_of_nonneg _ (show (0 : Int) ≤ 10000 by decide),
    Int.fdiv_eq_ediv_of_nonneg _ (show (0 : Int) ≤ 100 by decide),
    Int.fmod_eq_emod_of_nonneg _ (show (0 : Int) ≤ 100 by decide)]
  rw [if_neg hmajor]

theorem ofNumber_of_le {n : Int} (h : 100000 ≤ n) : ofNumber n = ⟨[n / 10000, n % 10000]⟩ := by
  have hmajor : 10 ≤ n / 10000 := by omega
  unfold ofNumber
  simp only [Int.fdiv_eq_ediv_of_nonneg _ (show (0 : Int) ≤ 10000 by decide),
    Int.fmod_eq_emod_of_nonneg _ (show (0 : Int) ≤ 10000 by decide)]
  rw [if_pos hmajor]

theorem ofNumber_lt {n m : Int} (h : n < m) : ofNumber n < ofNumber m := by
  rw [lt_iff]
  rcases Int.lt_or_le m 100000 with hm | hm
  · -- both have three parts
    rw [ofNumber_of_lt (Int.lt_trans h hm), ofNumber_of_lt hm]
    simp only [List.cons_lt_cons_iff, List.not_lt_nil, and_false, or_false]
    omega
  · rw [ofNumber_of_le hm]
    rcases Int.lt_or_le n 100000 with hn | hn
    · -- the major parts lie on either side of ten, so the numbers of parts do not matter
      rw [ofNumber_of_lt hn]
      exact List.cons_lt_cons_iff.2 (.inl (by omega))
    · rw [ofNumber_of_le hn]
      simp only [List.cons_lt_cons_iff, List.not_lt_nil, and_false, or_false]
      omega

theorem ofNumber_lt_iff {n m : Int} : ofNumber n < ofNumber m ↔ n < m := by
  refine ⟨fun h => Int.not_le.1 fun hle => ?_, ofNumber_lt⟩
  rcases Int.lt_or_eq_of_le hle with hlt | rfl
  · exact lt_irrefl _ (lt_trans h (ofNumber_lt hlt))
  · exact lt_irrefl _ h

/-- What the version of a number has reached, those of greater numbers have reached as well. -/
theorem not_ofNumber_lt_of_le {n m : Int} (h : n ≤ m) {v : Version} (hv : ¬ofNumber n < v) :
    ¬ofNumber m < v := by
  rcases Int.lt_or_eq_of_le h with hlt | rfl
  · exact fun hm => hv (lt_trans (ofNumber_lt hlt) hm)
  · exact hv

theorem ofNumber_lt_of_le {n m : Int} (h : n ≤ m) {v : Version} (hv : ofNumber m < v) :
    ofNumber n < v := by
  rcases Int.lt_or_eq_of_le h with hlt | rfl
  · exact lt_trans (ofNumber_lt hlt) hv
  · exact hv

/-- Version zero is before the version of every number but the negative ones, which no server
reports. -/
theorem ofNumber_lt_zero_iff {n : Int} : ofNumber n < ⟨[0]⟩ ↔ n < 0 := by
  rw [lt_iff]
  rcases Int.lt_or_le n 100000 with hn | hn
  · rw [ofNumber_of_lt hn]
    simp only [List.cons_lt_cons_iff, List.not_lt_nil, and_false, or_false]
    omega
  · rw [ofNumber_of_le hn]
    simp only [List.cons_lt_cons_iff, List.not_lt_nil, and_false, or_false]
    omega

end Version

/-! ## 2. Features of numbers -/

namespace Capabilities

/-- What a server can do that reports the number. -/
def ofNumber (n : Int) : Capabilities := ⟨.ofNumber n⟩

variable {caps : Capabilities} {feature : Feature}

theorem supports_of_no_limit (h : feature.until? = none) :
    caps.supports feature = true ↔ ¬caps.version < feature.since := by
  rw [supports, h]
  simp only [Bool.and_true, Bool.not_eq_true', decide_eq_false_iff_not]

theorem supports_of_limit {limit : Version} (h : feature.until? = some limit) :
    caps.supports feature = true ↔ ¬caps.version < feature.since ∧ caps.version < limit := by
  rw [supports, h]
  simp only [Bool.and_eq_true, Bool.not_eq_true', decide_eq_false_iff_not, decide_eq_true_eq]

/-- The identifier of a server process has the one name up to some version and the other one from
there on. -/
theorem supports_legacyProcpid_iff :
    caps.supports .legacyProcpid = true ↔
      ¬caps.version < ⟨[0]⟩ ∧ caps.supports .pid = false := by
  rw [supports_of_limit rfl, ← Bool.not_eq_true, supports_of_no_limit rfl,
    Decidable.not_not]
  rfl

/-- Reported numbers are ordered as the versions that they decode to, and features follow: those
that came to stay stay, the one that went away was there before it, and every server has one name
for the identifier of a process and not the other. -/
theorem follow_reported_numbers (n m : Int) :
    (Version.ofNumber n < Version.ofNumber m ↔ n < m) ∧
      (n ≤ m → ∀ feature : Feature,
        (feature.until? = none → (ofNumber n).supports feature = true →
          (ofNumber m).supports feature = true) ∧
        ∀ limit, feature.until? = some limit → Version.ofNumber m < limit →
          ¬Version.ofNumber n < feature.since → (ofNumber n).supports feature = true) ∧
      (((ofNumber n).supports .pid ^^ (ofNumber n).supports .legacyProcpid) = true ↔ 0 ≤ n) := by
  refine ⟨Version.ofNumber_lt_iff, fun hle feature => ⟨fun hstays hn => ?_,
    fun limit hlimit hm hn => ?_⟩, ?_⟩
  · rw [supports_of_no_limit hstays] at hn ⊢
    exact Version.not_ofNumber_lt_of_le hle hn
  · rw [supports_of_limit hlimit]
    exact ⟨hn, Version.ofNumber_lt_of_le hle hm⟩
  · have hlegacy : (ofNumber n).supports .legacyProcpid = true ↔
        0 ≤ n ∧ (ofNumber n).supports .pid = false := by
      rw [supports_legacyProcpid_iff, show (ofNumber n).version = Version.ofNumber n from rfl,
        Version.ofNumber_lt_zero_iff, Int.not_lt]
    have hpid : (ofNumber n).supports .pid = true → 0 ≤ n := fun h => by
      -- version 9.2 comes after version zero
      have hzero : (⟨[0]⟩ : Version) < Feature.since .pid := by decide
      rw [supports_of_no_limit rfl] at h
      exact Int.not_lt.1 fun hn =>
        h (Version.lt_trans (Version.ofNumber_lt_zero_iff.2 hn) hzero)
    cases hsupports : (ofNumber n).supports .pid with
    | true =>
      have hnone : (ofNumber n).supports .legacyProcpid = false :=
        Bool.eq_false_iff.2 fun h => by simpa [hsupports] using (hlegacy.1 h).2
      simp [hnone, hpid hsupports]
    | false => simp [hlegacy, hsupports]

/-- From 9.6.5 to 10 the encoding changes: extensions are there still, and the old name for the
identifier of a process is not there any more. -/
theorem from_9_6_5_to_10 :
    ((90605 : Int) < 100000 ∧ (90100 : Int) ≤ 90121 ∧
        (ofNumber 90605).supports .extension = true ∧ Version.ofNumber 90121 < ⟨[9, 2]⟩) ∧
      Version.ofNumber 90605 < Version.ofNumber 100000 ∧
      (ofNumber 100000).supports .extension = true ∧
      (ofNumber 90100).supports .legacyProcpid = true ∧
      ((ofNumber 90100).supports .pid ^^ (ofNumber 90100).supports .legacyProcpid) = true := by
  refine ⟨by decide, (follow_reported_numbers 90605 100000).1.2 (by decide),
    ((follow_reported_numbers 90605 100000).2.1 (by decide) .extension).1 rfl (by decide),
    ((follow_reported_numbers 90100 90121).2.1 (by decide) .legacyProcpid).2 ⟨[9, 2]⟩ rfl
      (by decide) (by decide),
    (follow_reported_numbers 90100 90121).2.2.2 (by decide)⟩

end Capabilities

end PgGrants
