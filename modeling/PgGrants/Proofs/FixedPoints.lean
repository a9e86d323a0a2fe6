/-
Which texts are in normal form. A role key is a text in lower case with no blank at either end, and
every such text but `public` is one. A privilege token in normal form is a text in upper case whose
words stand one space apart, and every such text but the two aliases is one. None of this mentions
the functions that bring a text to normal form; that they leave exactly these texts as they are is
what makes one normalisation enough, for names, for sets of tokens in whatever order they are gone
through, and for the keys of a policy.

One half is that normal forms are stable. The other half is that a text with the form is left as it
is, which for the words of a token takes an argument: they are found again where they stand.
-/
import Mathlib.Data.List.Chain
import PgGrants.Proofs.PolicyUnion
import PgGrants.Proofs.SpecNormalForm

set_option autoImplicit false

namespace PgGrants

namespace Text

/-! ## 1. Words one space apart -/

/-- No blank stands at either end, and those in between are spaces, one at a time. -/
structure IsSpaced (cs : List Char) : Prop where
  trimmed : IsTrimmed isBlank cs
  spaces : ∀ c ∈ cs, isBlank c = true → c = ' '
  single : cs.IsChain fun c d => isBlank c = false ∨ isBlank d = false

theorem isSpaced_nil : IsSpaced [] := ⟨⟨nofun, nofun⟩, nofun, List.isChain_nil⟩

/-- Joining is putting a space in front of every word but the first. -/
theorem flatten_intersperse_cons (word : List Char) (others : List (List Char)) :
    ((word :: others).intersperse [' ']).flatten = word ++ others.flatMap (' ' :: ·) := by
  induction others generalizing word with
  | nil => simp
  | cons next rest ih =>
    rw [List.intersperse_cons_cons, List.flatten_cons, List.flatten_cons, ih]
    simp

theorem IsWord.isSpaced {word : List Char} (h : IsWord word) : IsSpaced word where
  trimmed := ⟨fun c hc => h.2 c (List.mem_of_mem_head? hc),
    fun c hc => h.2 c (List.mem_of_mem_getLast? hc)⟩
  spaces := fun c hc hblank => by
    rw [h.2 c hc] at hblank
    cases hblank
  single := (List.pairwise_of_forall_mem_list fun c hc _ _ => .inl (h.2 c hc)).isChain

/-- A word may be put in front, one space before the rest. -/
theorem IsSpaced.cons_word {word rest : List Char} (hword : IsWord word) (hrest : IsSpaced rest)
    (hne : rest ≠ []) : IsSpaced (word ++ ' ' :: rest) where
  trimmed := by
    constructor
    · rw [List.head?_append_of_ne_nil _ hword.1]
      exact hword.isSpaced.trimmed.1
    · rw [List.getLast?_append_of_ne_nil _ (List.cons_ne_nil _ _), ← List.singleton_append,
        List.getLast?_append_of_ne_nil _ hne]
      exact hrest.trimmed.2
  spaces := fun c hc hblank => by
    rcases List.mem_append.1 hc with hc | hc
    · exact hword.isSpaced.spaces c hc hblank
    · rcases List.mem_cons.1 hc with rfl | hc
      · rfl
      · exact hrest.spaces c hc hblank
  single := by
    -- at the seam stands the last character of a word, which is not blank
    refine hword.isSpaced.single.append ?_ fun c hc _ _ => ?_
    · exact List.isChain_cons.2 ⟨fun d hd => .inr (hrest.trimmed.1 d hd), hrest.single⟩
    · exact .inl (hword.isSpaced.trimmed.2 c hc)

theorem isSpaced_joined {word : List Char} {others : List (List Char)} (hword : IsWord word)
    (hothers : ∀ other ∈ others, IsWord other) : IsSpaced (word ++ others.flatMap (' ' :: ·)) := by
  induction others generalizing word with
  | nil => simpa using hword.isSpaced
  | cons next rest ih =>
    have hnext : IsWord next := hothers next List.mem_cons_self
    have hrest := ih hnext fun other hother => hothers other (List.mem_cons_of_mem next hother)
    rw [List.flatMap_cons, List.cons_append]
    exact hrest.cons_word hword (List.append_ne_nil_of_left_ne_nil hnext.1 _)

/-- What was squeezed has its words one space apart. -/
theorem isSpaced_squeeze (s : String) : IsSpaced (squeeze s).toList := by
  have hwords : ∀ word ∈ words s.toList, IsWord word := fun word hword => (of_mem_words hword).1
  unfold squeeze
  rw [String.toList_ofList]
  cases hfound : words s.toList with
  | nil => exact isSpaced_nil
  | cons word others =>
    rw [hfound] at hwords
    rw [flatten_intersperse_cons]
    exact isSpaced_joined (hwords word List.mem_cons_self)
      fun other hother => hwords other (List.mem_cons_of_mem word hother)

/-- Where a text does not start with a blank, what is split off is its first word. -/
theorem words_cons_of_not_isBlank {c : Char} (hc : isBlank c = false) (rest : List Char) :
    words (c :: rest) = (splitFront (c :: rest)).1 :: (splitFront (c :: rest)).2 := by
  unfold words
  rw [splitFront_cons_of_not_isBlank hc]
  rfl

/-- Single spaces between words are all that splitting takes away, so putting them back gives the
text. The first character may still be a space here, for the induction comes past every one. -/
theorem splitFront_joined {cs : List Char} (hlast : ∀ c ∈ cs.getLast?, isBlank c = false)
    (hspaces : ∀ c ∈ cs, isBlank c = true → c = ' ')
    (hsingle : cs.IsChain fun c d => isBlank c = false ∨ isBlank d = false) :
    (splitFront cs).1 ++ (splitFront cs).2.flatMap (' ' :: ·) = cs := by
  induction cs with
  | nil => rfl
  | cons c rest ih =>
    obtain ⟨hnext, hsingle⟩ := List.isChain_cons.1 hsingle
    have hend : ∀ d ∈ rest.getLast?, isBlank d = false := by
      intro d hd
      refine hlast d ?_
      rw [← List.singleton_append]
      exact List.mem_getLast?_append_of_mem_getLast? hd
    have hrest := ih hend (fun d hd => hspaces d (List.mem_cons_of_mem c hd)) hsingle
    by_cases hc : isBlank c = true
    · -- a space is not the end, and the next character starts a word
      obtain rfl := hspaces c List.mem_cons_self hc
      rw [splitFront_cons_of_isBlank hc]
      cases rest with
      | nil =>
        have hspace := hlast ' ' rfl
        rw [hc] at hspace
        cases hspace
      | cons d others =>
        have hd : isBlank d = false := (hnext d rfl).resolve_left (by rw [hc]; exact nofun)
        rw [words_cons_of_not_isBlank hd, List.flatMap_cons, List.nil_append, List.cons_append,
          hrest]
    · rw [Bool.not_eq_true] at hc
      rw [splitFront_cons_of_not_isBlank hc, List.cons_append, hrest]

/-- Squeezing leaves a text as it is exactly when its words stand one space apart. -/
theorem squeeze_eq_self_iff {s : String} : squeeze s = s ↔ IsSpaced s.toList := by
  constructor
  · intro h
    rw [← h]
    exact isSpaced_squeeze s
  · intro h
    -- the words of a text that is spaced, joined by single spaces, are the text
    have hjoined : ((words s.toList).intersperse [' ']).flatten = s.toList := by
      have hparts := splitFront_joined h.trimmed.2 h.spaces h.single
      cases hs : s.toList with
      | nil => rfl
      | cons c rest =>
        have hc : isBlank c = false := h.trimmed.1 c (by rw [hs]; rfl)
        rw [hs] at hparts
        rw [words_cons_of_not_isBlank hc, flatten_intersperse_cons, hparts]
    rw [squeeze, hjoined, String.ofList_toList]

end Text

/-! ## 2. Role keys -/

/-- The text has the form of a role key: lower case, no blank at either end, and not the word that
stands for PUBLIC. -/
structure Role.IsKey (key : String) : Prop where
  lower : Text.lower key = key
  trimmed : Text.IsTrimmed Text.isBlank key.toList
  ne_public : key ≠ "public"

theorem Role.key_ne_public (role : String) : key role ≠ "public" := by
  unfold key
  by_cases hfolded : Text.lower (Text.strip role) = "public"
  · rw [if_pos hfolded]
    decide
  · rw [if_neg hfolded]
    exact hfolded

/-- The keys of roles are the texts that are their own keys. -/
theorem Role.key_eq_self_iff {role : String} : key role = role ↔ IsKey role := by
  constructor
  · intro h
    have hne : role ≠ "public" := h ▸ key_ne_public role
    by_cases hfolded : Text.lower (Text.strip role) = "public"
    · -- then the key is that of PUBLIC, which is the empty text
      have hempty : role = publicKey := by rw [← h, key, if_pos hfolded]
      subst hempty
      exact ⟨by decide, ⟨nofun, nofun⟩, hne⟩
    · have hkept : Text.lower (Text.strip role) = role := by rwa [key, if_neg hfolded] at h
      -- lower case is taken after stripping, and leaves nothing more to strip
      have hstripped : Text.strip role = role := by
        rw [← hkept]
        exact Text.strip_lower_strip role
      exact ⟨by rwa [hstripped] at hkept, Text.strip_eq_self_iff.1 hstripped, hne⟩
  · rintro ⟨hlower, htrimmed, hne⟩
    rw [key, Text.strip_eq_self_iff.2 htrimmed, hlower, if_neg hne]

/-! ## 3. Privilege tokens -/

namespace Privilege

/-- The token has the normal form: upper case, words one space apart, and a name of its own. -/
structure IsNormal (token : String) : Prop where
  upper : Text.upper token = token
  spaced : Text.IsSpaced token.toList
  ne_allPrivileges : token ≠ "ALL PRIVILEGES"
  ne_temp : token ≠ "TEMP"

theorem normalForm_of_isNormal {token : String} (h : IsNormal token) :
    normalForm token = token := by
  rw [normalForm, h.upper, Text.squeeze_eq_self_iff.2 h.spaced, properName,
    if_neg h.ne_allPrivileges, if_neg h.ne_temp]

/-- The tokens that have an alias are in normal form. -/
theorem isNormal_properNames : IsNormal all ∧ IsNormal "TEMPORARY" := by
  have hcase : Text.upper all = all ∧ Text.upper "TEMPORARY" = "TEMPORARY" ∧
      Text.squeeze all = all ∧ Text.squeeze "TEMPORARY" = "TEMPORARY" := by
    decide +kernel
  obtain ⟨hall, htemporary, hwhole, hproper⟩ := hcase
  exact ⟨⟨hall, Text.squeeze_eq_self_iff.1 hwhole, by decide, by decide⟩,
    ⟨htemporary, Text.squeeze_eq_self_iff.1 hproper, by decide, by decide⟩⟩

theorem isNormal_normalForm (token : String) : IsNormal (normalForm token) := by
  unfold normalForm properName
  split
  · exact isNormal_properNames.1
  · split
    · exact isNormal_properNames.2
    · rename_i hall htemp
      exact ⟨Text.upper_squeeze_upper token, Text.isSpaced_squeeze _, hall, htemp⟩

/-- The tokens in normal form are the texts that are their own normal forms. -/
theorem normalForm_eq_self_iff {token : String} : normalForm token = token ↔ IsNormal token :=
  ⟨fun h => h ▸ isNormal_normalForm token, normalForm_of_isNormal⟩

/-- A normal set of tokens, gone through in any order and repeated in part, is that set again. -/
theorem normalize_listed {tokens listed : List String}
    (h : TextSet.ofList listed = normalize tokens) : normalize listed = normalize tokens := by
  have hnormal : ∀ token ∈ listed, normalForm token = token := fun token htoken =>
    normalForm_of_mem_normalize (h ▸ TextSet.mem_ofList.2 htoken)
  rw [normalize_eq_ofList hnormal, h]

theorem isNormal_of_mem_normalize {tokens : List String} {token : String}
    (h : token ∈ normalize tokens) : IsNormal token :=
  normalForm_eq_self_iff.1 (normalForm_of_mem_normalize h)

/-- The tokens of a payload value are the normal forms of some texts. -/
theorem exists_normalize_of_normalizeValue {given : Value} {tokens : TextSet}
    (h : normalizeValue given = .ok tokens) : ∃ l, tokens = normalize l := by
  unfold normalizeValue at h
  obtain ⟨l, -, h⟩ := exists_of_bind_eq_ok h
  cases h
  exact ⟨l, rfl⟩

end Privilege

/-! ## 4. Keys of policies -/

namespace Policy

/-- A key of the policy is found under its own name, and what is found has that key. -/
theorem exists_get_of_mem_keys {p : Policy} {key : String} (h : key ∈ p.keys) :
    ∃ found, p.get key = .ok found ∧ found.key = key := by
  obtain ⟨found, hfound⟩ := Option.isSome_iff_exists.1 (find?_isSome_iff.2 h)
  refine ⟨found, get_eq_ok_iff.2 ?_, key_of_find? hfound⟩
  rwa [key_of_mem_keys h]

end Policy

/-! ## 5. One normalisation is enough -/

/-- The key of a role is its own key and is never `public`; the texts that are their own keys are
those that look like one. The tokens that a list or a payload value gives come out in normal form,
as a set that does not change when it is normalised again; the tokens that are their own normal
forms are those that look like one. Every key of a policy that is folded from built holdings names
an entry of that policy, which has this key and comes out the same when it is built again. -/
theorem normalising_once_is_enough :
    (∀ role, Role.key (Role.key role) = Role.key role ∧ Role.key role ≠ "public" ∧
      (Role.key role = role ↔ Role.IsKey role)) ∧
      (∀ token, Privilege.normalForm token = token ↔ Privilege.IsNormal token) ∧
      (∀ tokens, (∀ token ∈ Privilege.normalize tokens, Privilege.IsNormal token) ∧
        ∀ listed, TextSet.ofList listed = Privilege.normalize tokens →
          Privilege.normalize listed = Privilege.normalize tokens) ∧
      (∀ given tokens, Privilege.normalizeValue given = .ok tokens →
        (∀ token ∈ tokens, Privilege.IsNormal token) ∧
        ∀ listed, TextSet.ofList listed = tokens →
          Privilege.normalizeValue (.ofTexts listed) = .ok tokens) ∧
      ∀ holdings : List Holding, (∀ h ∈ holdings, h.IsBuilt) →
        ∃ p, Policy.fold holdings = .ok p ∧ ∀ key ∈ p.keys, Role.key key ∈ p.keys ∧
          ∃ found, p.get key = .ok found ∧ found.key = key ∧ found.IsAccepted := by
  refine ⟨fun role => ⟨Role.key_key role, Role.key_ne_public role, Role.key_eq_self_iff⟩,
    fun token => Privilege.normalForm_eq_self_iff,
    fun tokens => ⟨fun token => Privilege.isNormal_of_mem_normalize,
      fun listed => Privilege.normalize_listed⟩,
    fun given tokens hgiven => ?_, fun holdings hbuilt => ?_⟩
  · obtain ⟨l, rfl⟩ := Privilege.exists_normalize_of_normalizeValue hgiven
    refine ⟨fun token => Privilege.isNormal_of_mem_normalize, fun listed hlisted => ?_⟩
    rw [Privilege.normalizeValue_ofTexts, Privilege.normalize_listed hlisted]
  · have hnormal : ∀ h ∈ holdings, h.IsNormal := fun h hmem =>
      Holding.isBuilt_iff_isNormal.1 (hbuilt h hmem)
    refine ⟨.ofHoldings holdings, Policy.fold_eq hnormal, fun key hkey => ?_⟩
    obtain ⟨found, hfound, hfoundKey⟩ := Policy.exists_get_of_mem_keys hkey
    -- what is found under a key is in the policy, and everything in it is normal
    have hmem : found ∈ (Policy.ofHoldings holdings).holdings :=
      Policy.mem_of_find? (Policy.get_eq_ok_iff.1 hfound)
    refine ⟨by rwa [Policy.key_of_mem_keys hkey], found, hfound, hfoundKey, ?_⟩
    exact (Policy.isNormal_of_mem_ofHoldings hnormal hmem).isAccepted

/-- A name that ends in a capital sigma, before a wide blank. -/
def spelledName : String := "\u039F\u0394\u039F\u03A3\u3000"

/-- The key of the name, its sigma being a final one. -/
def spelledKey : String := "\u03BF\u03B4\u03BF\u03C2"

/-- Tokens that change their length, their blanks and their words on the way to normal form. -/
def spelledTokens : List String := ["o\uFB03ce\u00A0 key", "\u2003temp", "all \t privileges"]

/-- The same tokens in normal form, as a list of their set. -/
def listedTokens : List String := ["TEMPORARY", "OFFICE KEY", "ALL", "TEMPORARY"]

/-- A holding of the role with the name. -/
def spelledHolding : Holding :=
  ⟨spelledName, .singleton "TEMPORARY", ∅, fun _ h => absurd h (TextSet.not_mem_empty _)⟩

theorem normalising_once_spelled :
    (Role.key spelledName = spelledKey ∧ Role.key spelledKey = spelledKey) ∧
      (Privilege.normalize spelledTokens = .ofList listedTokens ∧
        Privilege.normalize listedTokens = .ofList listedTokens) ∧
      (Privilege.normalizeValue (.text "temp") = .ok (.ofList ["TEMPORARY"]) ∧
        Privilege.normalizeValue (.ofTexts ["TEMPORARY"]) = .ok (.ofList ["TEMPORARY"])) ∧
      (∀ h ∈ [spelledHolding], h.IsBuilt) ∧
      ∃ p found, Policy.fold [spelledHolding] = .ok p ∧ p.get spelledKey = .ok found ∧
        found.key = spelledKey := by
  obtain ⟨hroles, -, hlists, hvalues, hpolicies⟩ := normalising_once_is_enough
  have hkey : Role.key spelledName = spelledKey := by decide +kernel
  have htokens : Privilege.normalize spelledTokens = .ofList listedTokens := by decide +kernel
  have hgiven : Privilege.normalizeValue (.text "temp") = .ok (.ofList ["TEMPORARY"]) := by rfl
  have hnormal : ∀ h ∈ [spelledHolding], h.IsNormal := by
    have hheld : ∀ h ∈ [spelledHolding], ∀ token ∈ h.privileges.toList,
        Privilege.normalForm token = token := by
      decide +kernel
    exact hheld
  have hbuilt : ∀ h ∈ [spelledHolding], h.IsBuilt := fun h hmem =>
    Holding.isBuilt_iff_isNormal.2 (hnormal h hmem)
  obtain ⟨p, hfold, hkeys⟩ := hpolicies [spelledHolding] hbuilt
  -- the fold has one result, so the policy is the one whose keys can be computed
  have hp : p = .ofHoldings [spelledHolding] :=
    Except.ok.inj (hfold.symm.trans (Policy.fold_eq hnormal))
  have hmem : spelledKey ∈ p.keys := by
    rw [hp]
    decide +kernel
  obtain ⟨-, found, hfound, hfoundKey, -⟩ := hkeys spelledKey hmem
  refine ⟨⟨hkey, ?_⟩, ⟨htokens, ?_⟩, ⟨hgiven, ?_⟩, hbuilt, p, found, hfold, hfound, hfoundKey⟩
  · rw [← hkey]
    exact (hroles spelledName).1
  · rw [(hlists spelledTokens).2 listedTokens htokens.symm, htokens]
  · exact (hvalues _ _ hgiven).2 _ rfl

end PgGrants
