/-
What a report of a grant shows. Reading condenses the targets into one set of privileges and one
flag: those of the first target that is not as declared, or those declared when there is none. The
decision whether to send anything looks at every target. So the report should say what is declared
exactly when nothing would be sent.

It does, but for one kind of drift. A target may have the declared privileges, some of them to be
granted on and some not, while no grant option is declared. The flag of the report has no value for
that: it is raised only when everything can be granted on, so the report says what is declared.
-/
import PgGrants.Proofs.Settling

set_option autoImplicit false

namespace PgGrants

/-- The report says what is declared, `ALL` standing for what it means. -/
def GrantReport.agreesWith (report : GrantReport) (declared : DeclaredGrant) (caps : Capabilities) :
    Bool :=
  report.grantOption.isSet == declared.grantOption.isSet &&
    Privilege.sameMeaning declared.kind report.privileges declared.privileges (some caps)

namespace Holding

/-- Some of the privileges that are held can be granted on, but not all of them. -/
def IsPartlyGrantable (h : Holding) : Prop := h.grantOptions ≠ ∅ ∧ h.grantOptions ≠ h.privileges

theorem isGrantable_iff {h : Holding} :
    h.isGrantable = true ↔ h.privileges ≠ ∅ ∧ h.grantOptions = h.privileges := by
  rw [isGrantable, Bool.and_eq_true, beq_iff_eq, Bool.not_eq_true', ← Bool.not_eq_true,
    TextSet.isEmpty_iff]

/-- Without privileges there is nothing to grant on. -/
theorem grantOptions_eq_empty {h : Holding} (hempty : h.privileges = ∅) : h.grantOptions = ∅ := by
  ext privilege
  refine ⟨fun hmem => ?_, fun hmem => absurd hmem (TextSet.not_mem_empty _)⟩
  have hheld := h.options_subset privilege hmem
  rw [hempty] at hheld
  exact hheld

end Holding

namespace DeclaredGrant

variable {declared : DeclaredGrant} {caps : Capabilities} {rows : List AclRow}

/-- The first target that is not as declared. -/
def firstUnmet (declared : DeclaredGrant) (caps : Capabilities) (rows : List AclRow) :
    Option AclRow :=
  rows.find? fun row => !declared.isMet caps row

/-- No grant option is declared, and the first target that is not as declared differs in nothing but
that some of the privileges on it can be granted on. -/
def HidesDrift (declared : DeclaredGrant) (caps : Capabilities) (rows : List AclRow) : Prop :=
  declared.grantOption.isSet = false ∧ ∃ row, declared.firstUnmet caps rows = some row ∧
    Privilege.sameMeaning declared.kind (row.policy.holdingOf declared.role).privileges
      declared.privileges (some caps) = true ∧
    (row.policy.holdingOf declared.role).IsPartlyGrantable

theorem firstUnmet_eq_none :
    declared.firstUnmet caps rows = none ↔ ∀ row ∈ rows, declared.isMet caps row = true := by
  simp [firstUnmet]

/-- When every target is as declared, the report says so. -/
theorem agrees_of_met (h : declared.firstUnmet caps rows = none) :
    (declared.state caps rows).agreesWith declared caps = true := by
  unfold firstUnmet at h
  rw [GrantReport.agreesWith, state, h]
  simp [Privilege.sameMeaning]

/-- Otherwise it says what the role holds on the first target that is not. -/
theorem agrees_of_unmet {row : AclRow} (h : declared.firstUnmet caps rows = some row) :
    (declared.state caps rows).agreesWith declared caps = true ↔
      (row.policy.holdingOf declared.role).isGrantable = declared.grantOption.isSet ∧
        Privilege.sameMeaning declared.kind (row.policy.holdingOf declared.role).privileges
          declared.privileges (some caps) = true := by
  unfold firstUnmet at h
  rw [GrantReport.agreesWith, state, h, Bool.and_eq_true, beq_iff_eq]
  rfl

/-- What the role holds on a target that is not as declared looks like what is declared only when a
part of it can be granted on and nothing of it should be. -/
theorem looks_declared_iff {row : AclRow} (hunmet : declared.isMet caps row = false)
    (hmeaning : Privilege.sameMeaning declared.kind
      (row.policy.holdingOf declared.role).privileges declared.privileges (some caps) = true) :
    (row.policy.holdingOf declared.role).isGrantable = declared.grantOption.isSet ↔
      declared.grantOption.isSet = false ∧
        (row.policy.holdingOf declared.role).IsPartlyGrantable := by
  rw [isMet, Holding.isAsDeclared, hmeaning, Bool.true_and] at hunmet
  generalize row.policy.holdingOf declared.role = h at hunmet hmeaning ⊢
  cases hoption : declared.grantOption.isSet with
  | true =>
    -- to be reported as granted with the option, all of it has to be, and then nothing is amiss
    rw [hoption, if_pos rfl, ← Bool.not_eq_true, beq_iff_eq] at hunmet
    constructor
    · intro hgrantable
      exact absurd (Holding.isGrantable_iff.1 hgrantable).2 hunmet
    · rintro ⟨hnone, -⟩
      exact absurd hnone Bool.noConfusion
  | false =>
    rw [hoption, if_neg Bool.false_ne_true, ← Bool.not_eq_true, TextSet.isEmpty_iff] at hunmet
    have hheld : h.privileges ≠ ∅ := fun hempty => hunmet (Holding.grantOptions_eq_empty hempty)
    rw [← Bool.not_eq_true, Holding.isGrantable_iff]
    constructor
    · intro hnot
      exact ⟨rfl, hunmet, fun hall => hnot ⟨hheld, hall⟩⟩
    · rintro ⟨-, -, hpart⟩ ⟨-, hall⟩
      exact hpart hall

/-- The report says what is declared when every target is as declared, or when it hides drift. -/
theorem agrees_iff : (declared.state caps rows).agreesWith declared caps = true ↔
    (∀ row ∈ rows, declared.isMet caps row = true) ∨ declared.HidesDrift caps rows := by
  cases hfirst : declared.firstUnmet caps rows with
  | none => exact iff_of_true (agrees_of_met hfirst) (.inl (firstUnmet_eq_none.1 hfirst))
  | some row =>
    have hunmet : declared.isMet caps row = false := by
      have hfound := List.find?_some hfirst
      rw [Bool.not_eq_true'] at hfound
      exact hfound
    have hnotAll : ¬∀ row ∈ rows, declared.isMet caps row = true := by
      intro hall
      rw [firstUnmet_eq_none.2 hall] at hfirst
      cases hfirst
    -- the report is about the first target that is not as declared, so that one decides
    rw [agrees_of_unmet hfirst]
    constructor
    · rintro ⟨hoption, hmeaning⟩
      obtain ⟨hnone, hpartly⟩ := (looks_declared_iff hunmet hmeaning).1 hoption
      exact .inr ⟨hnone, row, hfirst, hmeaning, hpartly⟩
    · rintro (hall | ⟨hnone, other, hother, hmeaning, hpartly⟩)
      · exact absurd hall hnotAll
      · rw [hfirst] at hother
        cases hother
        exact ⟨(looks_declared_iff hunmet hmeaning).2 ⟨hnone, hpartly⟩, hmeaning⟩

/-- Where drift is hidden, there is drift. -/
theorem not_met_of_hidesDrift (h : declared.HidesDrift caps rows) :
    ¬∀ row ∈ rows, declared.isMet caps row = true := by
  obtain ⟨-, row, hfirst, -⟩ := h
  intro hall
  rw [firstUnmet_eq_none.2 hall] at hfirst
  cases hfirst

/-- The statements to send are decided by every target. -/
theorem syncJob_eq_none_iff {σ : Type} [Server σ] {start c : Connection σ}
    (hstart : start.Knows caps)
    (hrows : (declared.readTargets (σ := σ)).exec start = (.ok rows, c)) :
    (declared.syncJob.exec start).1 = .ok none ↔ ∀ row ∈ rows, declared.isMet caps row = true := by
  -- the look-up decides by the entries, and the entries are those of the rows
  have hdecides := (DeclaredPrivileges.grant declared).decides hstart
  have hfound : ((DeclaredPrivileges.grant declared).entries.exec start).1 =
      .ok (declared.entriesOf rows) := by
    show (Session.exec (do return declared.entriesOf (← declared.readTargets)) start).1 = _
    rw [Session.exec_bind_ok hrows, Session.exec_pure]
  have hmet : (∀ entry ∈ declared.entriesOf rows, declared.wanted.isMetBy caps entry.2 = true) ↔
      ∀ row ∈ rows, declared.isMet caps row = true := List.forall_mem_map
  constructor
  · intro hnone
    by_contra hunmet
    obtain ⟨_, heq⟩ := hdecides.something _ hfound (fun hall => hunmet (hmet.1 hall)) _ hnone
    cases heq
  · intro hall
    exact hdecides.nothing _ hfound (hmet.2 hall)

/-- That the report says what is declared exactly when every target is as declared fails for hidden
drift, and for nothing else. Whether there is anything to send depends on every target alone. -/
theorem drift_shows_unless_partly_grantable (declared : DeclaredGrant) (caps : Capabilities)
    (rows : List AclRow) :
    (((declared.state caps rows).agreesWith declared caps = true ↔
        ∀ row ∈ rows, declared.isMet caps row = true) ↔
      ¬declared.HidesDrift caps rows) ∧
    ∀ (σ : Type) [Server σ] (start c : Connection σ), start.Knows caps →
      declared.readTargets.exec start = (.ok rows, c) →
        ((declared.syncJob.exec start).1 = .ok none ↔
          ∀ row ∈ rows, declared.isMet caps row = true) := by
  refine ⟨?_, fun σ _ start c hstart hrows => syncJob_eq_none_iff hstart hrows⟩
  rw [agrees_iff]
  constructor
  · intro hiff hhides
    exact not_met_of_hidesDrift hhides (hiff.1 (.inr hhides))
  · intro hshown
    -- when no drift is hidden, only the first half of the disjunction is left
    rw [or_iff_left hshown]

end DeclaredGrant

/-- A request for two privileges on a table, not to be granted on. -/
def usersRequest : GrantRequest where
  role := .text "reader"
  database := .text "app"
  kind := .table
  privileges := .ofList ["SELECT", "INSERT"]
  schema := .text "s"
  objects := .texts (.ofList ["users"])
  grantOption := .off

/-- What it declares. -/
def usersGrant : DeclaredGrant where
  role := "reader"
  database := "app"
  kind := .table
  privileges := .ofList ["SELECT", "INSERT"]
  schema := .text "s"
  objects := .ofList ["users"]
  grantOption := .off

/-- The table, on which the role holds both privileges and may grant one of them on. -/
def usersTable : AclRow where
  name := "users"
  owner := "owner_role"
  policy := .ofHoldings [⟨"reader", .ofList ["SELECT", "INSERT"], .ofList ["SELECT"], by decide⟩]

/-- The report of this table says what is declared, although the table is not as declared. -/
theorem DeclaredGrant.one_grant_option_of_two_is_hidden :
    usersRequest.check = .ok usersGrant ∧
      ¬((usersGrant.state ⟨⟨[16]⟩⟩ [usersTable]).agreesWith usersGrant ⟨⟨[16]⟩⟩ = true ↔
        ∀ row ∈ [usersTable], usersGrant.isMet ⟨⟨[16]⟩⟩ row = true) := by
  have hcheck : usersRequest.check = .ok usersGrant := by rfl
  have hagrees :
      (usersGrant.state ⟨⟨[16]⟩⟩ [usersTable]).agreesWith usersGrant ⟨⟨[16]⟩⟩ = true := by
    decide +kernel
  have hunmet : usersGrant.isMet ⟨⟨[16]⟩⟩ usersTable = false := by decide +kernel
  refine ⟨hcheck, fun hiff => ?_⟩
  have hmet := hiff.1 hagrees usersTable (List.mem_singleton.2 rfl)
  rw [hunmet] at hmet
  cases hmet

end PgGrants
