/-
Payloads that say the same. Two payloads for a grant, or for default privileges, may differ in the
spellings of the privilege tokens and of the kind, in the order of tokens and objects and in how
often each is given, and in whether a single one stands in a list. Whatever the one declares, the
other declares.

A payload is accepted in two steps: its fields make a request, and the request is checked. Fields
that say the same make the same request, so the checks need not be looked at.
-/
import PgGrants.Proofs.PublicSpellings
import PgGrants.Proofs.TokenSpellings

set_option autoImplicit false

namespace PgGrants

/-! ## 1. Payloads that say the same -/

namespace Value

/-- The texts that a value gives: a text is one, anything else is gone through. -/
def texts? : Value → Option (List String)
  | .text s => some [s]
  | v => v.items?.bind (List.mapM Value.text?)

/-- Both values give the same texts, up to `R`, in any order and any number. -/
inductive SameTexts (R : String → String → Prop) (v w : Value) : Prop where
  | same (h : v = w)
  | given (l m : List String) (hv : v.texts? = some l) (hw : w.texts? = some m)
      (hl : ∀ s ∈ l, ∃ t ∈ m, R s t) (hm : ∀ t ∈ m, ∃ s ∈ l, R s t)

/-- Both values are the same, or the same text in other capitals. -/
inductive SameLetters : Value → Value → Prop where
  | same (v : Value) : SameLetters v v
  | text {s t : String} (h : Text.lower s = Text.lower t) : SameLetters (.text s) (.text t)

theorem SameLetters.of_toLower_eq {s t : String} (h : s.toLower = t.toLower) :
    SameLetters (.text s) (.text t) :=
  .text (Text.lower_eq_of_toLower_eq h)

end Value

namespace Fields

/-- The two values say the same in the field. -/
def SaysSame (name : String) : Value → Value → Prop :=
  if name = "object_type" then Value.SameLetters
  else if name = "privileges" then Value.SameTexts Privilege.SameToken
  else if name = "objects" then Value.SameTexts Eq
  else Eq

/-- Both give the same fields, and say the same in each. -/
def Restates (given other : Fields) : Prop :=
  ∀ name, Option.Rel (SaysSame name) (given.lookup name) (other.lookup name)

theorem SaysSame.refl (name : String) (v : Value) : SaysSame name v v := by
  unfold SaysSame
  split
  · exact .same v
  split
  · exact .same rfl
  split
  · exact .same rfl
  · rfl

theorem Restates.nil : Restates [] [] := fun _ => .none

/-- Fields say the same, one after the other. -/
theorem Restates.cons {name : String} {v w : Value} {given other : Fields}
    (h : SaysSame name v w) (hrest : Restates given other) :
    Restates ((name, v) :: given) ((name, w) :: other) := by
  intro asked
  rw [List.lookup_cons, List.lookup_cons]
  by_cases hasked : asked = name
  · rw [hasked, beq_self_eq_true]
    exact .some h
  · rw [beq_false_of_ne hasked]
    exact hrest asked

section

variable {given other : Fields} (h : given.Restates other)
include h

/-- What is not given on one side is not given on the other. -/
theorem Restates.get (name : String) (default : Value) :
    SaysSame name (given.get name default) (other.get name default) := by
  have hfield := h name
  unfold Fields.get
  generalize given.lookup name = value at hfield ⊢
  generalize other.lookup name = value' at hfield ⊢
  cases hfield with
  | some hsame => exact hsame
  | none => exact .refl name default

theorem Restates.get_eq {name : String} (hname : name ∉ ["object_type", "privileges", "objects"])
    (default : Value) : given.get name default = other.get name default := by
  have hfield := h.get name default
  simp only [List.mem_cons, List.not_mem_nil, or_false, not_or] at hname
  rwa [SaysSame, if_neg hname.1, if_neg hname.2.1, if_neg hname.2.2] at hfield

theorem Restates.given_eq {name : String}
    (hname : name ∉ ["object_type", "privileges", "objects"]) :
    given.given name = other.given name :=
  h.get_eq hname .null

theorem Restates.flag_eq {name : String}
    (hname : name ∉ ["object_type", "privileges", "objects"]) :
    given.flag name = other.flag name :=
  congrArg Flag.mk (h.get_eq hname _)

theorem Restates.kind :
    (given.given "object_type").SameLetters (other.given "object_type") :=
  h.get "object_type" .null

theorem Restates.privileges : (given.get "privileges" (.list [])).SameTexts Privilege.SameToken
    (other.get "privileges" (.list [])) :=
  h.get "privileges" (.list [])

theorem Restates.objects :
    (given.get "objects" (.list [])).SameTexts Eq (other.get "objects" (.list [])) :=
  h.get "objects" (.list [])

end

theorem mem_names_iff {given : Fields} {name : String} :
    name ∈ given.names ↔ (given.lookup name).isSome = true := by
  rw [← Option.ne_none_iff_isSome, Ne, List.lookup_eq_none_iff]
  simp [names]

theorem Restates.mem_names {given other : Fields} (h : given.Restates other) (name : String) :
    name ∈ given.names ↔ name ∈ other.names := by
  have hfield := h name
  rw [mem_names_iff, mem_names_iff]
  generalize given.lookup name = value at hfield ⊢
  generalize other.lookup name = value' at hfield ⊢
  cases hfield <;> simp

end Fields

/-- Both payloads are records, and their fields say the same. -/
inductive Value.Restates : Value → Value → Prop where
  | intro {given other : Fields} (h : given.Restates other) :
      Restates (.record given) (.record other)

/-! ## 2. The same request -/

/-- The payload has every field that it must have, and no field that it cannot have. -/
theorem Declaration.fields_eq_ok_iff {d : Declaration} {payload : Value} {given : Fields} :
    d.fields payload = .ok given ↔ payload = .record given ∧
      (∀ name ∈ given.names, name ∈ d.signature.fieldNames) ∧
      ∀ name ∈ d.signature.required, name ∈ given.names := by
  have hunknown : ∀ given : Fields,
      (TextSet.ofList given.names \ .ofList d.signature.fieldNames).isEmpty = true ↔
        ∀ name ∈ given.names, name ∈ d.signature.fieldNames := by
    intro given
    rw [TextSet.isEmpty_iff, TextSet.ext_iff]
    simp
  have hmissing : ∀ given : Fields,
      (TextSet.ofList (d.signature.absent given)).isEmpty = true ↔
        ∀ name ∈ d.signature.required, name ∈ given.names := by
    intro given
    rw [TextSet.isEmpty_iff, TextSet.ext_iff]
    simp [Signature.absent]
  cases payload with
  | record own =>
    simp only [fields, Bool.not_eq_true', Value.record.injEq]
    rw [← hunknown, ← hmissing]
    constructor
    · intro h
      split at h
      · cases h
      split at h
      · cases h
      cases h
      simp_all
    · rintro ⟨rfl, hknown, hgiven⟩
      simp [hknown, hgiven]
  | _ => simp [fields]

/-- Fields that say the same are accepted together. -/
theorem Fields.Restates.fields_eq_ok {given other : Fields} (h : given.Restates other)
    {d : Declaration} {accepted : Fields} (haccepted : d.fields (.record given) = .ok accepted) :
    given = accepted ∧ d.fields (.record other) = .ok other := by
  obtain ⟨hrecord, hknown, hgiven⟩ := Declaration.fields_eq_ok_iff.1 haccepted
  cases hrecord
  refine ⟨rfl, Declaration.fields_eq_ok_iff.2 ⟨rfl, fun name hname => ?_, fun name hname => ?_⟩⟩
  · exact hknown name ((h.mem_names name).2 hname)
  · exact (h.mem_names name).1 (hgiven name hname)

theorem ObjectKind.ofValue_eq_ok_iff {v : Value} {kind : ObjectKind} :
    ofValue v = .ok kind ↔ ofName? (Text.lower v.plain) = some kind := by
  unfold ofValue
  cases ofName? (Text.lower v.plain) with
  | none => simp
  | some found => simp

/-- A kind is named in any capitals. -/
theorem Value.SameLetters.ofValue_eq_ok {v w : Value} (h : v.SameLetters w) {kind : ObjectKind}
    (hkind : ObjectKind.ofValue v = .ok kind) : ObjectKind.ofValue w = .ok kind := by
  cases h with
  | same => exact hkind
  | text h =>
    rw [ObjectKind.ofValue_eq_ok_iff] at hkind ⊢
    rw [← hkind]
    exact congrArg ObjectKind.ofName? h.symm

theorem Value.mapM_text?_map_text (l : List String) :
    (l.map Value.text).mapM Value.text? = some l := by
  induction l with
  | nil => rfl
  | cons s rest ih =>
    rw [List.map_cons, List.mapM_cons, ih]
    rfl

theorem Value.eq_map_text_of_mapM_text? {items : List Value} {l : List String}
    (h : items.mapM Value.text? = some l) : items = l.map Value.text := by
  induction items generalizing l with
  | nil =>
    cases h
    rfl
  | cons v rest ih =>
    rw [List.mapM_cons] at h
    obtain ⟨s, hs, h⟩ := Option.bind_eq_some_iff.1 h
    obtain ⟨others, hothers, h⟩ := Option.bind_eq_some_iff.1 h
    cases h
    cases v <;> cases hs
    rw [ih hothers]
    rfl

/-- A value that gives texts is a text, or is gone through and holds texts. -/
theorem Value.texts?_cases {v : Value} {l : List String} (h : v.texts? = some l) :
    (∃ s, v = .text s ∧ l = [s]) ∨
      (∀ s, v ≠ .text s) ∧ v.iterate = .ok (l.map Value.text) := by
  -- one text stands for the list of it alone; everything else is iterated over
  by_cases htext : ∃ s, v = .text s
  · obtain ⟨s, rfl⟩ := htext
    cases h
    exact .inl ⟨s, rfl, rfl⟩
  · have hno : ∀ s, v ≠ .text s := fun s hs => htext ⟨s, hs⟩
    refine .inr ⟨hno, ?_⟩
    have hitems : v.items?.bind (List.mapM Value.text?) = some l := by
      cases v with
      | text s => exact absurd rfl (hno s)
      | _ => exact h
    obtain ⟨items, hitems, htexts⟩ := Option.bind_eq_some_iff.1 hitems
    unfold iterate
    rw [hitems, eq_map_text_of_mapM_text? htexts]

/-- The tokens that are given are the texts. -/
theorem Privilege.givenTokens_of_texts? {v : Value} {l : List String} (h : v.texts? = some l) :
    givenTokens v = .ok l := by
  rcases Value.texts?_cases h with ⟨s, rfl, rfl⟩ | ⟨hno, hiterate⟩
  · rfl
  · unfold givenTokens
    split
    · rename_i s
      exact absurd rfl (hno s)
    · rw [hiterate]
      show Except.ok ((l.map Value.text).map Value.plain) = .ok l
      rw [List.map_map, show Value.plain ∘ Value.text = id from rfl, List.map_id]

/-- Values with the same tokens, in any spelling, have one normal form. -/
theorem Value.SameTexts.normalizeValue_eq {v w : Value} (h : v.SameTexts Privilege.SameToken w) :
    Privilege.normalizeValue v = Privilege.normalizeValue w := by
  cases h with
  | same h => rw [h]
  | given l m hv hw hl hm =>
    unfold Privilege.normalizeValue
    rw [Privilege.givenTokens_of_texts? hv, Privilege.givenTokens_of_texts? hw]
    exact congrArg Except.ok (Privilege.normalize_eq_of_sameToken hl hm)

/-- A set of texts is made of texts. -/
theorem Members.ofList_map_text (l : List String) :
    ofList (l.map Value.text) = .ok (.texts (.ofList l)) := by
  have hmembers : (l.map Value.text).find? (fun v => !v.canBeMember) = none := by
    rw [List.find?_eq_none]
    intro v hv
    obtain ⟨s, -, rfl⟩ := List.mem_map.1 hv
    simp [Value.canBeMember]
  unfold ofList
  rw [hmembers]
  dsimp only
  rw [Value.mapM_text?_map_text]

/-- The objects that are given are the texts, each once and in order. -/
theorem Declaration.objectsOf_of_texts? {v : Value} {l : List String} (h : v.texts? = some l) :
    objectsOf v = .ok (.texts (.ofList l)) := by
  rcases Value.texts?_cases h with ⟨s, rfl, rfl⟩ | ⟨hno, hiterate⟩
  · rfl
  · have hmembers : Members.ofValue v = .ok (.texts (.ofList l)) := by
      unfold Members.ofValue
      rw [hiterate]
      exact Members.ofList_map_text l
    unfold objectsOf
    split
    · rename_i s
      exact absurd rfl (hno s)
    · rw [hmembers]
      rfl

theorem Value.SameTexts.objectsOf_eq {v w : Value} (h : v.SameTexts Eq w) :
    Declaration.objectsOf v = Declaration.objectsOf w := by
  cases h with
  | same h => rw [h]
  | given l m hv hw hl hm =>
    -- the same texts in another order, or repeated, are one set
    have hset : TextSet.ofList l = .ofList m := by
      ext s
      rw [TextSet.mem_ofList, TextSet.mem_ofList]
      constructor
      · intro hs
        obtain ⟨t, ht, rfl⟩ := hl s hs
        exact ht
      · intro ht
        obtain ⟨t, hs, rfl⟩ := hm s ht
        exact hs
    rw [Declaration.objectsOf_of_texts? hv, Declaration.objectsOf_of_texts? hw, hset]

section Restated

variable {given other : Fields} (h : given.Restates other)
include h

theorem Fields.Restates.kindAndPrivileges_eq_ok {kind : ObjectKind} {privileges : TextSet}
    (hgiven : Declaration.kindAndPrivileges given = .ok (kind, privileges)) :
    Declaration.kindAndPrivileges other = .ok (kind, privileges) := by
  unfold Declaration.kindAndPrivileges at hgiven ⊢
  obtain ⟨found, hkind, hgiven⟩ := exists_of_bind_eq_ok hgiven
  have hother := h.kind.ofValue_eq_ok (eq_ok_of_mapError_eq_ok hkind)
  rw [hother, ← h.privileges.normalizeValue_eq]
  exact hgiven

/-- Fields that say the same make the same request for a grant. -/
theorem Fields.Restates.grantRequest_eq_ok {r : GrantRequest}
    (hgiven : GrantRequest.ofFields given = .ok r) : GrantRequest.ofFields other = .ok r := by
  unfold GrantRequest.ofFields at hgiven ⊢
  obtain ⟨⟨kind, privileges⟩, hkind, hgiven⟩ := exists_of_bind_eq_ok hgiven
  rw [h.kindAndPrivileges_eq_ok hkind, ← h.objects.objectsOf_eq, ← h.given_eq (by decide),
    ← h.given_eq (by decide), ← h.get_eq (by decide), ← h.flag_eq (by decide)]
  exact hgiven

/-- Fields that say the same make the same request for default privileges. -/
theorem Fields.Restates.defaultsRequest_eq_ok {r : DefaultsRequest}
    (hgiven : DefaultsRequest.ofFields given = .ok r) : DefaultsRequest.ofFields other = .ok r := by
  unfold DefaultsRequest.ofFields at hgiven ⊢
  obtain ⟨⟨kind, privileges⟩, hkind, hgiven⟩ := exists_of_bind_eq_ok hgiven
  rw [h.kindAndPrivileges_eq_ok hkind, ← h.given_eq (by decide), ← h.given_eq (by decide),
    ← h.given_eq (by decide), ← h.get_eq (by decide), ← h.flag_eq (by decide)]
  exact hgiven

end Restated

/-! ## 3. What a payload declares

Accepting a payload is three steps, each of which may refuse it: naming the fields, reading their
values, checking the declaration. Payloads that say the same pass the same steps. -/

/-- A payload is accepted when its fields make a request and the request keeps the rules. -/
theorem Declaration.accepted_iff {ρ α : Type} {d : Declaration} {make : Fields → Except Error ρ}
    {check : ρ → Except Invalid α} {payload : Value} {declared : α} :
    (do
      let given ← (d.fields payload).mapError Error.invalid
      let r ← make given
      (check r).mapError Error.invalid) = .ok declared ↔
    ∃ given r, d.fields payload = .ok given ∧ make given = .ok r ∧ check r = .ok declared := by
  constructor
  · intro h
    obtain ⟨given, hfields, h⟩ := exists_of_bind_eq_ok h
    obtain ⟨r, hr, h⟩ := exists_of_bind_eq_ok h
    exact ⟨given, r, eq_ok_of_mapError_eq_ok hfields, hr, eq_ok_of_mapError_eq_ok h⟩
  · rintro ⟨given, r, hfields, hr, hcheck⟩
    simp only [hfields, Except.mapError, bind, Except.bind, hr, hcheck]

theorem DeclaredGrant.ofPayload_eq_ok_iff {payload : Value} {declared : DeclaredGrant} :
    ofPayload payload = .ok declared ↔ ∃ given r, Declaration.grant.fields payload = .ok given ∧
      GrantRequest.ofFields given = .ok r ∧ r.check = .ok declared :=
  Declaration.accepted_iff

theorem DeclaredDefaults.ofPayload_eq_ok_iff {payload : Value} {declared : DeclaredDefaults} :
    ofPayload payload = .ok declared ↔ ∃ given r,
      Declaration.defaultPrivileges.fields payload = .ok given ∧
      DefaultsRequest.ofFields given = .ok r ∧ r.check = .ok declared :=
  Declaration.accepted_iff

/-- A payload that says the same declares the same grant. -/
theorem Value.Restates.grant_eq_ok {payload other : Value} (h : payload.Restates other)
    {declared : DeclaredGrant} (hdeclared : DeclaredGrant.ofPayload payload = .ok declared) :
    DeclaredGrant.ofPayload other = .ok declared := by
  cases h with
  | intro h =>
    obtain ⟨given, r, hfields, hr, hcheck⟩ := DeclaredGrant.ofPayload_eq_ok_iff.1 hdeclared
    obtain ⟨rfl, hother⟩ := h.fields_eq_ok hfields
    exact DeclaredGrant.ofPayload_eq_ok_iff.2 ⟨_, r, hother, h.grantRequest_eq_ok hr, hcheck⟩

/-- A payload that says the same declares the same default privileges. -/
theorem Value.Restates.defaults_eq_ok {payload other : Value} (h : payload.Restates other)
    {declared : DeclaredDefaults} (hdeclared : DeclaredDefaults.ofPayload payload = .ok declared) :
    DeclaredDefaults.ofPayload other = .ok declared := by
  cases h with
  | intro h =>
    obtain ⟨given, r, hfields, hr, hcheck⟩ := DeclaredDefaults.ofPayload_eq_ok_iff.1 hdeclared
    obtain ⟨rfl, hother⟩ := h.fields_eq_ok hfields
    exact DeclaredDefaults.ofPayload_eq_ok_iff.2 ⟨_, r, hother, h.defaultsRequest_eq_ok hr, hcheck⟩

end PgGrants
