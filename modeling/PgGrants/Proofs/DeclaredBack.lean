/-
What is read back can be declared again. A holding on a schema is two sets of privileges, and a rule
for a schema is four flags; the one is made into the other in both directions. As long as the
privileges are those that a schema has, nothing is lost on the way: each rule of a report gives the
holding that it was made of, so the rules together give the policy that was read, in the same order
and under the same names, and only PUBLIC is spelt in one way afterwards.

To declare a report again is therefore to declare what is there. The owner is left out of both, so
there is nothing to send, and no role is asked about either.
-/
import PgGrants.Proofs.PolicyPartition
import PgGrants.Proofs.PublicSpellings
import PgGrants.Proofs.SchemaConverges
import PgGrants.Proofs.WritablePlans

set_option autoImplicit false

namespace PgGrants

/-! ## 1. Holdings that are there already -/

namespace Policy

/-- A holding whose key comes after all others is added at the end. -/
theorem addSorted_eq_append {h : Holding} {l : List Holding} (hl : ∀ k ∈ l, k.key < h.key) :
    addSorted h l = l ++ [h] := by
  induction l with
  | nil => rfl
  | cons k rest ih =>
    have hlt : k.key < h.key := hl k List.mem_cons_self
    have hnotBefore : ¬ h.key < k.key := fun hbefore =>
      String.lt_irrefl _ (String.lt_trans hlt hbefore)
    have hne : ¬ h.key = k.key := by
      intro heq
      rw [heq] at hlt
      exact String.lt_irrefl _ hlt
    -- it comes neither before the first nor in its place, so it goes behind it
    rw [addSorted, if_neg hnotBefore, if_neg hne,
      ih fun other hother => hl other (List.mem_cons_of_mem k hother)]
    rfl

/-- Holdings in ascending order of their keys are folded to just these. -/
theorem holdings_ofHoldings {l : List Holding} (hl : (l.map Holding.key).Pairwise (· < ·)) :
    (ofHoldings l).holdings = l := by
  -- the fold starts from any policy whose keys all come before those of the list
  suffices h : ∀ p : Policy, ((p.holdings ++ l).map Holding.key).Pairwise (· < ·) →
      (l.foldl add p).holdings = p.holdings ++ l from h ∅ hl
  clear hl
  induction l with
  | nil => exact fun p _ => (List.append_nil _).symm
  | cons h rest ih =>
    intro p hp
    have hlast : (p.add h).holdings = p.holdings ++ [h] := by
      refine addSorted_eq_append fun k hk => ?_
      rw [List.map_append, List.pairwise_append] at hp
      exact hp.2.2 _ (List.mem_map_of_mem hk) _ (List.mem_map_of_mem List.mem_cons_self)
    have hshift : p.holdings ++ h :: rest = (p.add h).holdings ++ rest := by
      rw [hlast, List.append_assoc, List.singleton_append]
    rw [hshift] at hp ⊢
    rw [List.foldl_cons]
    exact ih (p.add h) hp

end Policy

/-! ## 2. One holding

Four flags against two sets. On a schema there are two privileges, so a flag for each of them, with
the grant option or without it, says everything there is to say. -/

theorem SchemaRights.mem_grantOptions {rights : SchemaRights} {token : String} :
    token ∈ rights.grantOptions ↔ token = "CREATE" ∧ rights.createWithGrant.isSet = true ∨
      token = "USAGE" ∧ rights.usageWithGrant.isSet = true := by
  rw [grantOptions, TextSet.mem_ofList, List.mem_append, List.mem_ite_nil_right,
    List.mem_ite_nil_right, List.mem_singleton, List.mem_singleton]
  exact or_congr and_comm and_comm

theorem SchemaRights.mem_privileges_iff {rights : SchemaRights} {token : String} :
    token ∈ rights.privileges ↔
      token = "CREATE" ∧ (rights.create.isSet || rights.createWithGrant.isSet) = true ∨
        token = "USAGE" ∧ (rights.usage.isSet || rights.usageWithGrant.isSet) = true := by
  rw [privileges, TextSet.mem_ofList, List.mem_append, List.mem_ite_nil_right,
    List.mem_ite_nil_right, List.mem_singleton, List.mem_singleton]
  exact or_congr and_comm and_comm

namespace Holding

variable {h : Holding}

/-- The same rights under another name. -/
def spelt (h : Holding) (role : String) : Holding := { h with role := some role }

@[simp] theorem rights_spelt (h : Holding) (role : String) : (h.spelt role).rights = h.rights := rfl

/-- The holding under the name that its rule has. -/
def named (h : Holding) : Holding := h.spelt (SchemaRule.ofHolding h).role

theorem key_of_isPublic (hpublic : h.isPublic = true) : h.key = Role.publicKey := by
  rwa [isPublic, Role.isPublic, beq_iff_eq] at hpublic

/-- Every spelling of PUBLIC becomes the normal one. -/
theorem named_of_isPublic (hpublic : h.isPublic = true) : h.named = h.spelt Role.publicKey := by
  rw [named, SchemaRule.ofHolding, if_pos hpublic]

/-- A role that is not PUBLIC has a name, and keeps it. -/
theorem named_of_not_isPublic (hpublic : ¬ h.isPublic = true) : h.named = h := by
  rw [named, SchemaRule.ofHolding, if_neg hpublic]
  cases hrole : h.role with
  | none =>
    have hnobody : Role.isPublic (Role.orPublic .none) = true := by decide +kernel
    rw [isPublic, hrole] at hpublic
    exact absurd hnobody hpublic
  | some role => rw [Role.orPublic, Option.getD_some, spelt, ← hrole]

@[simp] theorem key_named (h : Holding) : h.named.key = h.key := by
  by_cases hpublic : h.isPublic = true
  · have hnormal : Role.key (Role.orPublic (some Role.publicKey)) = Role.publicKey := by
      decide +kernel
    rw [named_of_isPublic hpublic, key_of_isPublic hpublic, key, spelt, hnormal]
  · rw [named_of_not_isPublic hpublic]

/-- The second holding gives the same rights to the same role under the same name, but PUBLIC is in
its normal spelling. -/
def IsNamedAs (h k : Holding) : Prop :=
  k.rights = h.rights ∧ (k.role = h.role ∨ h.isPublic = true ∧ k.role = some Role.publicKey)

theorem isNamedAs_named (h : Holding) : h.IsNamedAs h.named := by
  refine ⟨rights_spelt h _, ?_⟩
  by_cases hpublic : h.isPublic = true
  · rw [named_of_isPublic hpublic]
    exact .inr ⟨hpublic, rfl⟩
  · rw [named_of_not_isPublic hpublic]
    exact .inl rfl

theorem isPublic_role_ofHolding (h : Holding) :
    Role.isPublic (SchemaRule.ofHolding h).role = h.isPublic := by
  have hkey : Role.key (SchemaRule.ofHolding h).role = h.key := h.key_named
  rw [Role.isPublic, hkey, isPublic, Role.isPublic, key]

/-- The flags say which grant options there are. -/
theorem IsForSchemas.grantOptions_eq (hschemas : h.IsForSchemas) :
    (SchemaRights.ofHolding h).grantOptions = h.grantOptions := by
  ext token
  rw [SchemaRights.mem_grantOptions]
  simp only [SchemaRights.ofHolding, Flag.isSet_ofBool, TextSet.contains_iff]
  constructor
  · rintro (⟨rfl, hmem⟩ | ⟨rfl, hmem⟩)
    · exact hmem
    · exact hmem
  · intro hmem
    refine (hschemas token (h.options_subset token hmem)).imp (fun heq => ?_) fun heq => ?_
    · exact ⟨heq, heq ▸ hmem⟩
    · exact ⟨heq, heq ▸ hmem⟩

/-- A privilege is held with a grant option or without one, and one of the flags says so. -/
theorem IsForSchemas.privileges_eq (hschemas : h.IsForSchemas) :
    (SchemaRights.ofHolding h).privileges = h.privileges := by
  -- a privilege is kept in one of two flags, with the grant option or without it
  have hflags : ∀ token : String,
      ((h.privileges.contains token && !h.grantOptions.contains token) ||
        h.grantOptions.contains token) = true ↔ token ∈ h.privileges := by
    intro token
    have hsubset := h.options_subset token
    by_cases hoption : token ∈ h.grantOptions
    · simp [TextSet.contains, hoption, hsubset hoption]
    · simp [TextSet.contains, hoption]
  ext token
  rw [SchemaRights.mem_privileges_iff]
  simp only [SchemaRights.ofHolding, Flag.isSet_ofBool, hflags]
  constructor
  · rintro (⟨rfl, hmem⟩ | ⟨rfl, hmem⟩)
    · exact hmem
    · exact hmem
  · intro hmem
    refine (hschemas token hmem).imp (fun heq => ?_) fun heq => ?_
    · exact ⟨heq, heq ▸ hmem⟩
    · exact ⟨heq, heq ▸ hmem⟩

/-- A rule that is made of a holding gives it back. -/
theorem IsForSchemas.holding_ofHolding (hschemas : h.IsForSchemas) :
    (SchemaRule.ofHolding h).holding = h.named := by
  unfold SchemaRule.holding SchemaRights.holding named spelt
  simp only [mk.injEq]
  refine ⟨trivial, ?_, ?_⟩
  · rw [SchemaRule.ofHolding, hschemas.privileges_eq]
  · rw [SchemaRule.ofHolding, hschemas.grantOptions_eq]

end Holding

/-! ## 3. A report, declared again -/

/-- The rule as a request. -/
def SchemaRule.request (rule : SchemaRule) : SchemaRuleRequest := ⟨.text rule.role, rule.rights⟩

/-- What is asked for with the rules of the report, when no owner is declared. -/
def PolicyReport.request (state : PolicyReport) : PolicyRequest where
  database := .text state.database
  schema := .text state.schema
  owner := .null
  rules := state.rules.map SchemaRule.request

theorem SchemaRule.holding_request (rule : SchemaRule) :
    rule.request.holding = .ok rule.holding := by
  have hname : Role.nameOfValue (.text rule.role) = .ok rule.role := by
    unfold Role.nameOfValue
    by_cases hempty : rule.role = ""
    · rw [hempty]
      rfl
    · rw [if_pos (by simpa [Value.isTrue] using hempty)]
  unfold request SchemaRuleRequest.holding
  rw [hname]
  rfl

namespace PolicyReport

variable {state : PolicyReport}

theorem map_holding_rules (hstate : state.policy.IsForSchemas) :
    state.rules.map SchemaRule.holding = state.policy.holdings.map Holding.named := by
  unfold rules
  rw [List.map_map]
  exact List.map_congr_left fun h hmem =>
    (hstate h.key h (Policy.find?_of_mem hmem)).holding_ofHolding

/-- The rules give one holding for each that was read, in the same order. -/
theorem holdings_ofRules (hstate : state.policy.IsForSchemas) :
    (Policy.ofHoldings (state.rules.map SchemaRule.holding)).holdings =
      state.policy.holdings.map Holding.named := by
  rw [map_holding_rules hstate]
  refine Policy.holdings_ofHoldings ?_
  have hkeys : Holding.key ∘ Holding.named = Holding.key := by
    funext h
    rw [Function.comp_apply, Holding.key_named]
  rw [List.map_map, hkeys]
  exact state.policy.ascending

theorem find?_ofRules (hstate : state.policy.IsForSchemas) (key : String) :
    (Policy.ofHoldings (state.rules.map SchemaRule.holding)).find? key =
      (state.policy.find? key).map Holding.named := by
  unfold Policy.find?
  rw [holdings_ofRules hstate, List.find?_map]
  simp only [Function.comp_def, Holding.key_named]

theorem held_ofRules (hstate : state.policy.IsForSchemas) (key : String) :
    (Policy.ofHoldings (state.rules.map SchemaRule.holding)).held key = state.policy.held key := by
  unfold Policy.held
  rw [find?_ofRules hstate, Option.map_map]
  rfl

/-- The rules fold to the policy that was read, but for the spelling of PUBLIC. -/
theorem fold_rules (hstate : state.policy.IsForSchemas) : ∃ holdings q,
    state.request.rules.mapM SchemaRuleRequest.holding = .ok holdings ∧
      Policy.fold holdings = .ok q ∧ state.policy.equal q = true ∧
      List.Forall₂ Holding.IsNamedAs state.policy.holdings q.holdings := by
  -- each rule is read back as the holding that it was made from
  have hholdings : state.request.rules.mapM SchemaRuleRequest.holding =
      .ok (state.rules.map SchemaRule.holding) := by
    unfold request
    rw [List.mapM_map]
    exact mapM_eq_ok_map fun rule _ => rule.holding_request
  refine ⟨_, _, hholdings, Policy.fold_eq fun h hmem => ?_, ?_, ?_⟩
  · obtain ⟨rule, -, rfl⟩ := List.mem_map.1 hmem
    exact rule.isNormal_holding
  · exact Policy.equal_iff.2 fun key => (held_ofRules hstate key).symm
  · rw [holdings_ofRules hstate, List.forall₂_map_right_iff, List.forall₂_same]
    exact fun h _ => h.isNamedAs_named

end PolicyReport

/-! ## 4. A report is accepted -/

/-- PUBLIC holds no grant option. -/
def Policy.PublicCannotGrant (p : Policy) : Prop :=
  ∀ h ∈ p.holdings, h.isPublic = true → h.grantOptions = ∅

theorem Policy.PublicCannotGrant.eraseAll {p : Policy} (h : p.PublicCannotGrant)
    (roles : List String) : (p.eraseAll roles).PublicCannotGrant :=
  fun held hmem => h held (List.mem_filter.1 hmem).1

/-- A name that was accepted is accepted again. -/
theorem Declaration.nameIn_of_nameIn {given : Value} {what name : String}
    (h : nameIn given what = .ok name) : nameIn (.text name) what = .ok name := by
  rw [← eq_text_of_nameIn h]
  exact h

/-- A rule that gives PUBLIC no grant option is accepted as it is. -/
theorem SchemaRule.check_request {rule : SchemaRule}
    (h : Role.isPublic rule.role = true → rule.rights.createWithGrant.isSet = false ∧
      rule.rights.usageWithGrant.isSet = false) : rule.request.check = .ok rule := by
  unfold request SchemaRuleRequest.check
  dsimp only
  by_cases hpublic : Role.isPublic rule.role = true
  · rw [(h hpublic).1, (h hpublic).2]
    rfl
  · rw [Bool.not_eq_true] at hpublic
    rw [hpublic, Bool.and_false, Bool.and_false]
    rfl

theorem SchemaRule.check_request_ofHolding {h : Holding}
    (hmodest : h.isPublic = true → h.grantOptions = ∅) :
    (ofHolding h).request.check = .ok (ofHolding h) := by
  refine check_request fun hpublic => ?_
  rw [h.isPublic_role_ofHolding] at hpublic
  simp [ofHolding, SchemaRights.ofHolding, TextSet.contains, hmodest hpublic]

/-- What the report declares when it is declared again. -/
def PolicyReport.declared (state : PolicyReport) : DeclaredPolicy where
  database := state.database
  schema := state.schema
  owner := none
  rules := state.rules

theorem PolicyReport.check_request {state : PolicyReport}
    (hdatabase : Declaration.nameIn (.text state.database) "database" = .ok state.database)
    (hschema : Declaration.nameIn (.text state.schema) "schema" = .ok state.schema)
    (hrules : state.policy.PublicCannotGrant) : state.request.check = .ok state.declared := by
  have haccepted : (state.rules.map SchemaRule.request).mapM SchemaRuleRequest.check =
      .ok state.rules := by
    unfold rules
    rw [List.map_map, List.mapM_map]
    exact mapM_eq_ok_map fun h hmem => SchemaRule.check_request_ofHolding (hrules h hmem)
  unfold request PolicyRequest.check
  dsimp only
  rw [hdatabase, hschema, haccepted]
  rfl

/-! ## 5. Nothing is left to send

The rules of a report give the rights that were read under the same keys. A difference goes by keys
and rights, so there is none. -/

/-- Where no role changes there is no statement, and no role is asked about. -/
theorem PolicyDelta.plan_of_isEmpty {m : Type → Type} [Monad m] [LawfulMonad m]
    {delta : PolicyDelta} (h : delta.isEmpty = true) (kind : ObjectKind) (name : Option String)
    (exists? : Option String → m Bool) : delta.plan kind name exists? = pure [] := by
  obtain ⟨dropped, added, updated, unchanged⟩ := delta
  simp only [isEmpty, Bool.and_eq_true, List.isEmpty_iff] at h
  obtain ⟨⟨rfl, rfl⟩, rfl⟩ := h
  unfold plan stillThere
  rw [pure_bind]
  rfl

theorem Policy.held_eraseAll (p : Policy) (roles : List String) (key : String) :
    (p.eraseAll roles).held key = if key ∈ roles.map Role.key then none else p.held key := by
  unfold held
  rw [find?_eraseAll]
  by_cases hkey : key ∈ roles.map Role.key
  · rw [if_pos hkey, if_pos hkey]
    rfl
  · rw [if_neg hkey, if_neg hkey]

namespace DeclaredPolicy

variable {declared : DeclaredPolicy} {row : AclRow}

/-- What is reported of a row differs in nothing from the row. -/
theorem isEmpty_diff_state (hrow : row.policy.IsForSchemas) :
    ((declared.state row).declared.diff row none).isEmpty = true := by
  have hstate : (declared.state row).policy.IsForSchemas := hrow.eraseAll _
  have howners : (declared.state row).declared.owners row = [row.owner] :=
    ((declared.state row).declared.ownerPlan_eq_nil (.inl rfl)).2
  unfold diff
  rw [howners]
  refine PolicyDelta.isEmpty_iff.2 fun key => ?_
  -- the report leaves the owner out, and so does the difference
  have hreport : (declared.state row).declared.policy.held key =
      (row.policy.eraseAll [Role.orPublic row.owner]).held key :=
    PolicyReport.held_ofRules hstate key
  rw [List.map_singleton, Policy.held_eraseAll, Policy.held_eraseAll, hreport,
    Policy.held_eraseAll, Option.getD_none]
  split <;> rfl

theorem statements_state (hrow : row.policy.IsForSchemas) (exists? : Option String → Bool) :
    (declared.state row).declared.statements row exists? = [] := by
  unfold statements
  rw [((declared.state row).declared.ownerPlan_eq_nil (.inl rfl)).1,
    PolicyDelta.plan_of_isEmpty (isEmpty_diff_state hrow)]
  rfl

/-- The look-up of the row is all that there is to do. -/
theorem exec_syncJob_state {σ : Type} [Server σ] (hrow : row.policy.IsForSchemas)
    {start next : Connection σ}
    (hread : (declared.state row).declared.readRow?.exec start = (.ok (some row), next)) :
    ((declared.state row).declared.syncJob none).exec start = (.ok none, next) := by
  unfold syncJob
  rw [Session.exec_bind_ok hread]
  dsimp only
  rw [((declared.state row).declared.ownerPlan_eq_nil (.inl rfl)).1,
    PolicyDelta.plan_of_isEmpty (isEmpty_diff_state hrow)]
  rfl

end DeclaredPolicy

/-! ## 6. What is read -/

section Reading

variable {σ α : Type} [Server σ]

/-- A transaction gives what the work in it gives, on the connection on which it starts. -/
theorem Session.exists_exec_of_transaction {work : Session σ α} {c c' : Connection σ} {a : α}
    (h : (transaction work).exec c = (.ok a, c')) : ∃ start, (work.exec start).1 = .ok a := by
  obtain ⟨outcome, c₁, hwork, h⟩ := exec_bind_eq_ok h
  rw [exec_attempt] at hwork
  cases hwork
  -- a transaction whose work failed does not give anything
  cases houtcome : (exec (do ensureTransaction; work) c).1 with
  | error error =>
    rw [houtcome] at h
    obtain ⟨_, _, -, h⟩ := exec_bind_eq_ok h
    rw [exec_throw] at h
    cases h
  | ok result =>
    rw [houtcome] at h
    obtain ⟨_, _, -, h⟩ := exec_bind_eq_ok h
    rw [exec_pure] at h
    cases h
    obtain ⟨_, start, -, hwork⟩ := exec_bind_eq_ok (Prod.ext houtcome rfl)
    exact ⟨start, congrArg Prod.fst hwork⟩

/-- A new connection gives what the work on it gives. -/
theorem Call.exists_exec_of_runSession {known : Option Capabilities} {work : Session σ α}
    {c c' : Client σ} {a : α} (h : (runSession known work).exec c = (.ok a, c')) :
    ∃ start c₁, work.exec start = (.ok a, c₁) := by
  have hrun : (Call.exec (do
      set { c with
        server := (work.exec ⟨c.server, c.log, false, known⟩).2.server
        log := (work.exec ⟨c.server, c.log, false, known⟩).2.log }
      ofOutcome (work.exec ⟨c.server, c.log, false, known⟩).1) c) = (.ok a, c') := by
    unfold runSession at h
    rwa [exec_bind_ok (Runs.get c).exec] at h
  have hgives : (work.exec ⟨c.server, c.log, false, known⟩).1 = .ok a := congrArg Prod.fst hrun
  exact ⟨_, _, Prod.ext hgives rfl⟩

/-- Work in a database gives what it gives on some connection. -/
theorem Call.exists_exec_of_inDatabase {database : Option String} {work : Session σ α}
    {c c' : Client σ} {a : α} (h : (inDatabase database work).exec c = (.ok a, c')) :
    ∃ start, (work.exec start).1 = .ok a := by
  obtain ⟨caps, _, -, h⟩ := exec_bind_eq_ok h
  obtain ⟨_, _, -, h⟩ := exec_bind_eq_ok h
  obtain ⟨_, _, -, h⟩ := exec_bind_eq_ok h
  -- between the opening and the closing of the connection
  obtain ⟨_, _, -, h⟩ := exec_bind_eq_ok h
  obtain ⟨_, _, -, h⟩ := exec_bind_eq_ok h
  obtain ⟨outcome, _, hwork, hclose⟩ := exec_bind_eq_ok h
  obtain ⟨_, _, -, houtcome⟩ := exec_bind_eq_ok hclose
  obtain rfl : outcome = .ok a := congrArg Prod.fst houtcome
  rw [exec_attempt] at hwork
  have hgives := Except.ok.inj (congrArg Prod.fst hwork)
  -- the work itself, on a connection that was made for it
  obtain ⟨_, _, -, hsession⟩ := exec_bind_eq_ok (Prod.ext hgives rfl)
  obtain ⟨_, _, htransaction⟩ := exists_exec_of_runSession hsession
  exact Session.exists_exec_of_transaction htransaction

/-- A report tells of a row that was found. -/
theorem PolicyRequest.exists_row_of_read {r : PolicyRequest} {c c' : Client σ}
    {report : PolicyReport} (h : r.read.exec c = (.ok (some report), c')) :
    ∃ declared row start, r.check = .ok declared ∧ declared.FindsRow (σ := σ) start row ∧
      report = declared.state row := by
  obtain ⟨declared, _, haccept, h⟩ := Call.exec_bind_eq_ok h
  -- the declaration that was read for is the one that the check accepted
  have hcheck : r.check = .ok declared := by
    obtain ⟨checked, _, hchecked, haccept⟩ := Call.exec_bind_eq_ok haccept
    obtain ⟨_, _, -, haccept⟩ := Call.exec_bind_eq_ok haccept
    cases haccept
    cases hr : r.check with
    | error fault =>
      rw [hr] at hchecked
      cases hchecked
    | ok accepted =>
      rw [hr] at hchecked
      cases hchecked
      rfl
  obtain ⟨there, _, -, h⟩ := Call.exec_bind_eq_ok h
  -- without a database, or without a row, there is no report
  cases there with
  | false => cases h
  | true =>
    obtain ⟨row?, _, hread, h⟩ := Call.exec_bind_eq_ok h
    obtain ⟨start, hfound⟩ := Call.exists_exec_of_inDatabase hread
    cases row? with
    | none => cases h
    | some row =>
      cases h
      exact ⟨declared, row, start, hcheck, hfound, rfl⟩

end Reading

/-! ## 7. To declare what is read -/

namespace PolicyReport

/-- A policy that is read back can be declared back. The rules of a report give the policy that it
tells of, role by role and under the same names but for spellings of PUBLIC. Where PUBLIC holds no
grant option, to ask for these rules without an owner is accepted, and on the schema that the report
was made of there is nothing to send: the call finds nothing to do as soon as it has read the row,
whatever the server. And a report is made of nothing but a row that was found. -/
theorem rules_can_be_declared :
    (∀ state : PolicyReport, state.policy.IsForSchemas → ∃ holdings q,
      state.request.rules.mapM SchemaRuleRequest.holding = .ok holdings ∧
        Policy.fold holdings = .ok q ∧ state.policy.equal q = true ∧
        List.Forall₂ Holding.IsNamedAs state.policy.holdings q.holdings) ∧
    (∀ (r : PolicyRequest) (declared : DeclaredPolicy) (row : AclRow), r.check = .ok declared →
      row.policy.IsForSchemas → row.policy.PublicCannotGrant → ∃ again : DeclaredPolicy,
        (declared.state row).request.check = .ok again ∧
          (∀ exists? : Option String → Bool, again.statements row exists? = []) ∧
          ∀ (σ : Type) [Server σ] (start next : Connection σ),
            again.readRow?.exec start = (.ok (some row), next) →
              (again.syncJob none).exec start = (.ok none, next)) ∧
    ∀ (σ : Type) [Server σ] (r : PolicyRequest) (c c' : Client σ) (report : PolicyReport),
      r.read.exec c = (.ok (some report), c') → ∃ declared row start,
        r.check = .ok declared ∧ declared.FindsRow (σ := σ) start row ∧
          report = declared.state row := by
  refine ⟨fun state hstate => fold_rules hstate, ?_, fun σ _ r c c' report hread =>
    PolicyRequest.exists_row_of_read hread⟩
  intro r declared row hcheck hrow hpublic
  -- the names were stripped when they were accepted, and are accepted again as they are
  obtain ⟨_, _, _, _, hdatabase, hschema, -, -, rfl⟩ := PolicyRequest.exists_of_check hcheck
  refine ⟨_, check_request (Declaration.nameIn_of_nameIn hdatabase)
    (Declaration.nameIn_of_nameIn hschema) (hpublic.eraseAll _), ?_, ?_⟩
  · exact fun exists? => DeclaredPolicy.statements_state hrow exists?
  · exact fun σ _ start next hread => DeclaredPolicy.exec_syncJob_state hrow hread

/-- A schema that a reader may use and pass on, and everybody may use. -/
def sampleRow : AclRow where
  name := some "s"
  owner := some "maker"
  policy := .ofAcl [.ofMarks "Reader" "maker" [("CREATE", false), ("USAGE", true)],
    .ofMarks "" "maker" [("USAGE", false)]]

/-- A client of a server that tells of such a schema. -/
def sampleClient : Client Script :=
  .new ⟨"postgres", some "16", "postgresql", "psycopg"⟩ ⟨[
    .rows [[.text "app", .text "postgres", .list []]],
    .rows [[.text "s", .text "maker", .list [.text "Reader=CU*/maker", .text "=U/maker"]]]]⟩

theorem sample_can_be_declared :
    (∃ again : DeclaredPolicy,
      ((⟨"app", "s", none, []⟩ : DeclaredPolicy).state sampleRow).request.check = .ok again ∧
        again.statements sampleRow (fun _ => true) = []) ∧
    (∃ holdings, ((⟨"app", "s", none, []⟩ : DeclaredPolicy).state sampleRow).request.rules.mapM
        SchemaRuleRequest.holding = .ok holdings ∧ ∃ q, Policy.fold holdings = .ok q) ∧
    ∃ declared row start, samplePolicyRequest.check = .ok declared ∧
      declared.FindsRow (σ := Script) start row := by
  have hrow : sampleRow.policy.IsForSchemas := by
    refine Policy.isForSchemas_ofHoldings ?_
    have htokens : ∀ h ∈ [AclItem.ofMarks "Reader" "maker" [("CREATE", false), ("USAGE", true)],
        AclItem.ofMarks "" "maker" [("USAGE", false)]].map AclItem.holding,
        ∀ token ∈ h.privileges.toList, token = "CREATE" ∨ token = "USAGE" := by
      decide +kernel
    exact htokens
  have hpublic : sampleRow.policy.PublicCannotGrant := by
    have hnothing : ∀ h ∈ sampleRow.policy.holdings, h.isPublic = true → h.grantOptions = ∅ := by
      decide +kernel
    exact hnothing
  have hreads : ((samplePolicyRequest.read.exec sampleClient).1.toOption.join).isSome = true := by
    decide +kernel
  -- each part of the theorem at the sample
  obtain ⟨hrules, hagain, hreport⟩ := rules_can_be_declared
  refine ⟨?_, ?_, ?_⟩
  · obtain ⟨again, hcheck, hstatements, -⟩ :=
      hagain ⟨.text "app", .text "s", .null, []⟩ _ sampleRow rfl hrow hpublic
    exact ⟨again, hcheck, hstatements _⟩
  · obtain ⟨holdings, q, hholdings, hfold, -⟩ :=
      hrules ((⟨"app", "s", none, []⟩ : DeclaredPolicy).state sampleRow) (hrow.eraseAll _)
    exact ⟨holdings, hholdings, q, hfold⟩
  · rcases hrun : samplePolicyRequest.read.exec sampleClient with ⟨outcome, after⟩
    rw [hrun] at hreads
    cases outcome with
    | error error => cases hreads
    | ok report? =>
      cases report? with
      | none => cases hreads
      | some report =>
        obtain ⟨declared, row, start, hcheck, hfound, -⟩ := hreport Script _ _ _ _ hrun
        exact ⟨declared, row, start, hcheck, hfound⟩

end PolicyReport

end PgGrants
