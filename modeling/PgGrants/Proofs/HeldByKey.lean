/-
Whose privileges count when a grant is skipped. The items of an access control list are joined by
role key, and what a role holds is looked up by its key again; but whether the role exists is asked
with its exact name, and statements name it so. Names that differ in case only have one key, and the
server has a role for each of them. So a grant is skipped when the roles of one key together hold
what is declared, whichever of them it is declared for. It is the declared role that holds it when
no other role with its key is on the list.
-/
import PgGrants.Proofs.PolicyUnion
import PgGrants.Proofs.Reports
import PgGrants.Proofs.SkipExactly

set_option autoImplicit false

namespace PgGrants

/-! ## 1. What is held by a key -/

namespace Policy

/-- A key has what the holdings with the key have, and nothing else. This is said of either part of
the rights, the privileges and the grant options. -/
theorem mem_acl_ofHoldings {part : Rights → TextSet} (hnone : part .none = ∅)
    (hadd : ∀ r s, part (r.add s) = part r ∪ part s) {l : List Holding} {key token : String} :
    token ∈ part ((ofHoldings l).acl key) ↔ ∃ h ∈ l, h.key = key ∧ token ∈ part h.rights := by
  have hsplits : SplitsJoin fun h => token ∈ part h.rights := by
    intro h k
    rw [← TextSet.mem_union, ← hadd]
    rfl
  rw [← exists_find?_ofHoldings hsplits, acl_apply]
  cases (ofHoldings l).find? key with
  | none => simp [hnone]
  | some found => simp

/-- A key has what the items for the key give. -/
theorem mem_acl_ofAcl {part : Rights → TextSet} (hnone : part .none = ∅)
    (hadd : ∀ r s, part (r.add s) = part r ∪ part s) {items : List AclItem} {key token : String} :
    token ∈ part ((ofAcl items).acl key) ↔
      ∃ item ∈ items, Role.key item.grantee = key ∧ token ∈ part item.holding.rights := by
  rw [ofAcl, mem_acl_ofHoldings hnone hadd]
  simp only [List.mem_map, exists_exists_and_eq_and]
  rfl

theorem rights_holdingOf (p : Policy) (role : String) :
    (p.holdingOf (some role)).rights = p.acl (Role.key role) := by
  have hlookup : p.holdingOf (some role) = (p.find? (Role.key role)).getD (.none role) := rfl
  rw [hlookup, acl_apply]
  cases p.find? (Role.key role) <;> rfl

end Policy

/-! ## 2. What the server shows -/

namespace Catalog

/-- The object in a row, by its name and the items of its access control list. -/
def rowItems (row : List Value) : Except Error (Option String × List AclItem) := do
  let (name, _, acl) ← threeCells row
  return (name.name?, ← cellAcl acl)

/-- The policy of an object is folded from its items. -/
theorem exists_rowItems {row : List Value} {object : AclRow} (h : rowObject row = .ok object) :
    ∃ items, rowItems row = .ok (object.name, items) ∧ object.policy = .ofAcl items := by
  unfold rowObject at h
  obtain ⟨⟨name, owner, acl⟩, hcells, h⟩ := exists_of_bind_eq_ok h
  obtain ⟨policy, hpolicy, h⟩ := exists_of_bind_eq_ok h
  obtain ⟨items, hitems, hfold⟩ := exists_of_bind_eq_ok hpolicy
  cases h
  cases hfold
  refine ⟨items, ?_, rfl⟩
  rw [rowItems, hcells]
  show (do return (name.name?, ← cellAcl acl)) = _
  rw [hitems]
  rfl

theorem exists_mapM_rowItems {rows : List (List Value)} {objects : List AclRow}
    (h : rows.mapM rowObject = .ok objects) :
    ∃ shown, rows.mapM rowItems = .ok shown ∧
      objects.map (fun object => (object.name, object.policy)) =
        shown.map fun entry => (entry.1, Policy.ofAcl entry.2) := by
  -- row by row: what reads the policy of a row has read its items first
  induction rows generalizing objects with
  | nil =>
    cases h
    exact ⟨[], rfl, rfl⟩
  | cons row rest ih =>
    rw [List.mapM_cons] at h
    obtain ⟨object, hobject, h⟩ := exists_of_bind_eq_ok h
    obtain ⟨others, hothers, h⟩ := exists_of_bind_eq_ok h
    cases h
    obtain ⟨items, hitems, hpolicy⟩ := exists_rowItems hobject
    obtain ⟨shown, hshown, heq⟩ := ih hothers
    refine ⟨(object.name, items) :: shown, ?_, ?_⟩
    · rw [List.mapM_cons, hitems, hshown]
      rfl
    · rw [List.map_cons, List.map_cons, heq, hpolicy]

end Catalog

section Learns

variable {σ α β : Type} [Server σ]

/-- A success of the work rests on an exchange that tells so. -/
def Learns (work : Session σ α) (told : α → Exchange → Prop) : Prop :=
  Hears work.run fun result exchanges => ∀ a, result = .ok a → ∃ x ∈ exchanges, told a x

namespace Learns

variable {told : α → Exchange → Prop}

/-- Questions that come before are of no matter. -/
theorem after {work : Session σ β} {next : β → Session σ α} (hwork : Asks work)
    (hnext : ∀ b, Learns (next b) told) : Learns (work >>= next) told := by
  refine Hears.bind_run hwork.hears (fun b exchanges _ => (hnext b).mono ?_)
    fun error exchanges _ _ h => nomatch h
  intro result rest hrest a ha
  obtain ⟨x, hx, htold⟩ := hrest a ha
  exact ⟨x, List.mem_append_right _ hx, htold⟩

/-- What was told is not forgotten when something is made of it. -/
theorem bind {work : Session σ β} {next : β → Session σ α} {first : β → Exchange → Prop}
    (hwork : Learns work first)
    (hnext : ∀ b, Hears (next b).run fun result _ =>
      ∀ a, result = .ok a → ∀ x, first b x → told a x) : Learns (work >>= next) told := by
  refine Hears.bind_run hwork (fun b exchanges hfirst => (hnext b).mono ?_)
    fun error exchanges _ _ h => nomatch h
  intro result rest hrest a ha
  obtain ⟨x, hx, htold⟩ := hfirst b rfl
  exact ⟨x, List.mem_append_left _ hx, hrest a ha x htold⟩

theorem ite {c : Prop} [Decidable c] {work other : Session σ α} (hwork : Learns work told)
    (hother : Learns other told) : Learns (if c then work else other) told := by
  split
  · exact hwork
  · exact hother

theorem ask (query : Query) :
    Learns (Session.ask query : Session σ (List (List Value))) fun rows x =>
      x.command? = some (.query query) ∧ x.reply = .rows rows := by
  refine Hears.send (fun sql reply _ rows hrows => ?_) fun fault _ _ h => nomatch h
  cases reply with
  | failed failure => cases hrows
  | rows given =>
    cases hrows
    exact ⟨_, List.mem_cons_self, rfl, rfl⟩

end Learns

end Learns

/-- The server is asked for these objects, and its answer shows them with these items. -/
def Exchange.ShowsObjects (kind : ObjectKind) (schema : Option String)
    (names : List (Option String)) (shown : List (Option String × List AclItem))
    (x : Exchange) : Prop :=
  (∃ limited, x.command? = some (.query (.objects kind schema names limited))) ∧
    ∃ rows, x.reply = .rows rows ∧ rows.mapM Catalog.rowItems = .ok shown

/-- These are the objects, and their policies are folded from these items. -/
def AreShownAs (objects : List AclRow) (shown : List (Option String × List AclItem)) : Prop :=
  objects.map (fun object => (object.name, object.policy)) =
    shown.map fun entry => (entry.1, Policy.ofAcl entry.2)

theorem AreShownAs.exists_entry {objects : List AclRow}
    {shown : List (Option String × List AclItem)} (h : AreShownAs objects shown) {object : AclRow}
    (hobject : object ∈ objects) : ∃ entry ∈ shown, entry.1 = object.name := by
  have hmem : (object.name, object.policy) ∈ objects.map fun object =>
      (object.name, object.policy) := List.mem_map_of_mem hobject
  rw [h] at hmem
  obtain ⟨entry, hentry, heq⟩ := List.mem_map.1 hmem
  exact ⟨entry, hentry, congrArg Prod.fst heq⟩

section Shown

variable {σ : Type} [Server σ]

open Session

/-- The objects that are read are those that the server shows. -/
theorem learns_aclRows (kind : ObjectKind) (schema : Option String)
    (names : List (Option String)) :
    Learns (aclRows (σ := σ) kind schema names) fun objects x =>
      ∃ shown, x.ShowsObjects kind schema names shown ∧ AreShownAs objects shown := by
  -- one question shows all objects; whether it is limited to the kind does not matter here
  have hasked : Learns (askObjects (σ := σ) kind schema names) fun rows x =>
      (∃ limited, x.command? = some (.query (.objects kind schema names limited))) ∧
        x.reply = .rows rows := by
    refine .after (asks_limitsKind trivial kind) fun limited => (Learns.ask _).mono ?_
    intro result exchanges hasked rows hrows
    obtain ⟨x, hx, hcommand, hreply⟩ := hasked rows hrows
    exact ⟨x, hx, ⟨limited, hcommand⟩, hreply⟩
  refine hasked.bind fun rows => .pure ?_
  rintro objects hobjects x ⟨hcommand, hreply⟩
  obtain ⟨shown, hshown, heq⟩ := Catalog.exists_mapM_rowItems hobjects
  exact ⟨shown, ⟨hcommand, rows, hreply, hshown⟩, heq⟩

namespace DeclaredGrant

/-- Every target is among the objects. -/
def IsCoveredBy (declared : DeclaredGrant) (shown : List (Option String × List AclItem)) : Prop :=
  ∀ target ∈ declared.targets, ∃ entry ∈ shown, entry.1 = some target

/-- The targets of a grant are all shown when they are read. -/
theorem learns_readTargets (declared : DeclaredGrant) :
    Learns (declared.readTargets (σ := σ)) fun rows x =>
      ∃ shown,
        x.ShowsObjects declared.kind declared.targetSchema (declared.targets.map some) shown ∧
          AreShownAs rows shown ∧ declared.IsCoveredBy shown := by
  have hrows : Learns (do
      let rows ← aclRows (σ := σ) declared.kind declared.targetSchema (declared.targets.map some)
      let missing := (TextSet.ofList declared.targets).filter fun name =>
        !rows.any fun row => row.name == some name
      unless missing.isEmpty do throw (.notFound declared.kind.phrase (Invalid.commaList missing))
      return rows) fun rows x => ∃ shown,
        x.ShowsObjects declared.kind declared.targetSchema (declared.targets.map some) shown ∧
          AreShownAs rows shown ∧ declared.IsCoveredBy shown := by
    refine (learns_aclRows _ _ _).bind fun rows => ?_
    dsimp only
    split
    · rename_i hmissing
      refine .pure ?_
      rintro _ ⟨⟩ x ⟨shown, hshows, heq⟩
      refine ⟨shown, hshows, heq, fun target htarget => ?_⟩
      -- a target without a row would be missing
      have hany : rows.any (fun row => row.name == some target) = true := by
        by_contra hnone
        refine TextSet.not_mem_empty target ?_
        rw [← TextSet.isEmpty_iff.1 hmissing, TextSet.mem_filter, Bool.not_eq_true']
        exact ⟨TextSet.mem_ofList.2 htarget, (Bool.not_eq_true _).mp hnone⟩
      obtain ⟨row, hrow, hname⟩ := List.any_eq_true.1 hany
      obtain ⟨entry, hentry, hsame⟩ := heq.exists_entry hrow
      exact ⟨entry, hentry, hsame.trans (beq_iff_eq.1 hname)⟩
    · exact .pure fun _ h => nomatch h
  refine .after (asks_needRole _) fun _ => ?_
  unfold targetRows
  exact .ite (.after (asks_needSchema _) fun _ => hrows) hrows

end DeclaredGrant

end Shown

/-! ## 3. When a grant is left alone -/

namespace DeclaredGrant

/-- The items of the declared role's key give, together, just what is declared. -/
structure IsHeldByKey (declared : DeclaredGrant) (caps : Capabilities) (items : List AclItem) :
    Prop where
  privileges : ∀ token,
    (∃ item ∈ items, Role.key item.grantee = Role.key declared.role ∧ token ∈ item.privileges) ↔
      token ∈ Privilege.expand declared.kind declared.privileges (some caps)
  grantOptions : ∀ token,
    (∃ item ∈ items, Role.key item.grantee = Role.key declared.role ∧ token ∈ item.grantOptions) ↔
      declared.grantOption.isSet = true ∧
        token ∈ Privilege.expand declared.kind declared.privileges (some caps)

/-- The items of the declared role itself, by its exact name, give all that is declared. -/
def IsHeldByRole (declared : DeclaredGrant) (caps : Capabilities) (items : List AclItem) : Prop :=
  ∀ token ∈ Privilege.expand declared.kind declared.privileges (some caps),
    ∃ item ∈ items, item.grantee = declared.role ∧ token ∈ item.privileges

/-- No other role with the declared role's key is on the list. -/
def IsAlone (declared : DeclaredGrant) (items : List AclItem) : Prop :=
  ∀ item ∈ items, Role.key item.grantee = Role.key declared.role → item.grantee = declared.role

theorem IsHeldByKey.isHeldByRole {declared : DeclaredGrant} {caps : Capabilities}
    {items : List AclItem} (h : declared.IsHeldByKey caps items) (halone : declared.IsAlone items) :
    declared.IsHeldByRole caps items := by
  intro token htoken
  obtain ⟨item, hitem, hkey, hheld⟩ := (h.privileges token).2 htoken
  exact ⟨item, hitem, halone item hitem hkey, hheld⟩

/-- To look the role up by its key is to put together what the items of the key give. -/
theorem isHeldByKey_iff {declared : DeclaredGrant} {caps : Capabilities} {items : List AclItem} :
    declared.IsHeldByKey caps items ↔
      ((Policy.ofAcl items).holdingOf declared.role).rights = declared.wanted.rights caps := by
  have hprivileges (token : String) := @Policy.mem_acl_ofAcl Rights.privileges rfl
    (fun _ _ => rfl) items (Role.key declared.role) token
  have hoptions (token : String) := @Policy.mem_acl_ofAcl Rights.grantOptions rfl
    (fun _ _ => rfl) items (Role.key declared.role) token
  have hwanted (token : String) : token ∈ (declared.wanted.rights caps).grantOptions ↔
      declared.grantOption.isSet = true ∧
        token ∈ Privilege.expand declared.kind declared.privileges (some caps) := by
    show token ∈ (if declared.grantOption.isSet then _ else ∅) ↔ _
    split
    · rename_i hset
      exact (and_iff_right hset).symm
    · rename_i hset
      exact iff_of_false (TextSet.not_mem_empty token) fun h => hset h.1
  -- both sides are equations of sets, one of privileges and one of grant options
  rw [Policy.rights_holdingOf, Rights.ext_iff, TextSet.ext_iff, TextSet.ext_iff]
  constructor
  · intro h
    refine ⟨fun token => ?_, fun token => ?_⟩
    · exact (hprivileges token).trans (h.privileges token)
    · exact (hoptions token).trans ((h.grantOptions token).trans (hwanted token).symm)
  · rintro ⟨hsame, hsameOptions⟩
    refine ⟨fun token => ?_, fun token => ?_⟩
    · exact (hprivileges token).symm.trans (hsame token)
    · exact (hoptions token).symm.trans ((hsameOptions token).trans (hwanted token))

end DeclaredGrant

/-! ## 4. Calls -/

section Calls

variable {σ : Type} [Server σ]

/-- When the targets were read, in the transaction that the call opened on its database, the server
showed these. -/
inductive DeclaredGrant.HasSeen (declared : DeclaredGrant) (c : Client σ)
    (shown : List (Option String × List AclItem)) : List Step → Prop where
  | intro {before asked rest : List Step} {start after : Connection σ} {rows : List AclRow}
      {x : Exchange}
      (hserver : Follows c.server
        (before ++ [⟨.connect declared.database, none⟩, ⟨.boundary .begin, none⟩]) start.server)
      (hread : Leads declared.readTargets.run start (.ok rows) asked after)
      (hexchange : x ∈ converse (asked.map Step.event) start.server)
      (hshows : x.ShowsObjects declared.kind declared.targetSchema (declared.targets.map some)
        shown) :
      HasSeen declared c shown
        (before ++ [⟨.connect declared.database, none⟩, ⟨.boundary .begin, none⟩] ++ rest)

/-- The entries that a call found are those of the targets that it has seen. -/
theorem DeclaredGrant.exists_shown_of_finds {declared : DeclaredGrant} {c c' : Client σ}
    {caps : Capabilities} {found : List (Place × Holding)} {steps : List Step}
    (h : (DeclaredPrivileges.grant declared).Finds c c' caps found steps) :
    ∃ rows shown, found = declared.entriesOf rows ∧ AreShownAs rows shown ∧
      declared.IsCoveredBy shown ∧ declared.HasSeen c shown steps := by
  cases h with
  | @intro before rest start hopens hopened hfound =>
    unfold DeclaredPrivileges.entries at hfound
    dsimp only at hfound
    rw [Session.exec_bind] at hfound
    split at hfound
    · rename_i rows after hrows
      cases hfound
      obtain ⟨result, asked, _, hleads, -, htold⟩ :=
        declared.learns_readTargets start hopened
      -- the run that found the rows is the one whose exchanges are known
      cases hleads.exec.symm.trans hrows
      obtain ⟨x, hx, shown, hshows, heq, hcovered⟩ := htold rows rfl
      exact ⟨rows, shown, rfl, heq, hcovered, .intro hopens.server hleads hx hshows⟩
    · cases hfound

/-- Whether what a call gives is kept makes no difference to its run. -/
theorem Runs.of_discarding {α : Type} {call : Call σ α} {c c' : Client σ}
    {outcome : Except Error Unit} {steps : List Step}
    (h : Runs (do let _ ← call) c outcome steps c') :
    ∃ outcome', Runs call c outcome' steps c' ∧ outcome = outcome'.map fun _ => () := by
  have hexec := h.exec
  rw [Call.exec_bind] at hexec
  split at hexec
  · rename_i a c₁ hcall
    cases hexec
    exact ⟨.ok a, ⟨hcall, h.log, h.server, h.config, h.known⟩, rfl⟩
  · rename_i error c₁ hcall
    cases hexec
    exact ⟨.error error, ⟨hcall, h.log, h.server, h.config, h.known⟩, rfl⟩

/-- The entries of the shown targets are as wanted when the roles of the key hold what is declared.
-/
theorem DeclaredGrant.isMetBy_iff_isHeldByKey {declared : DeclaredGrant} {caps : Capabilities}
    {rows : List AclRow} {shown : List (Option String × List AclItem)}
    (hshown : AreShownAs rows shown)
    (hconcrete : ∀ entry ∈ declared.entriesOf rows, entry.2.IsConcrete) :
    (∀ entry ∈ declared.entriesOf rows, declared.wanted.isMetBy caps entry.2 = true) ↔
      ∀ entry ∈ shown, declared.IsHeldByKey caps entry.2 := by
  -- rows and shown items agree object by object, in the policies that they come to
  have hentries : (declared.entriesOf rows).map Prod.snd =
      shown.map fun entry => (Policy.ofAcl entry.2).holdingOf declared.role := by
    have hmap := congrArg (List.map fun object : Option String × Policy =>
      object.2.holdingOf declared.role) hshown
    rw [List.map_map, List.map_map] at hmap
    rw [DeclaredGrant.entriesOf, List.map_map]
    exact hmap
  have hmet : (∀ entry ∈ declared.entriesOf rows, declared.wanted.isMetBy caps entry.2 = true) ↔
      ∀ held ∈ (declared.entriesOf rows).map Prod.snd,
        held.rights = declared.wanted.rights caps := by
    rw [List.forall_mem_map]
    exact forall₂_congr fun entry hentry => Wanted.isMetBy_iff (hconcrete entry hentry)
  rw [hmet, hentries, List.forall_mem_map]
  exact forall₂_congr fun entry _ => isHeldByKey_iff.symm

/-- Let a request for a grant keep the rules, and let the call succeed. The server has shown the
targets then, each with the items of its access control list.

Nothing is sent if and only if on every target the roles with the declared role's key hold together
just what is declared. So when nothing is sent, the declared role itself holds what is declared on
every target whose list names no other role with its key. -/
theorem GrantRequest.skipped_when_held_by_key {request : GrantRequest} {declared : DeclaredGrant}
    (h : request.check = .ok declared) (c : Client σ) :
    ∃ outcome steps c', Runs request.sync c outcome steps c' ∧
      ∀ report, outcome = .ok report →
        ∃ caps shown, c'.capabilities = some caps ∧ declared.HasSeen c shown steps ∧
          declared.IsCoveredBy shown ∧
          (Silent steps ↔ ∀ entry ∈ shown, declared.IsHeldByKey caps entry.2) ∧
          (Silent steps → ∀ entry ∈ shown, declared.IsAlone entry.2 →
            declared.IsHeldByRole caps entry.2) := by
  have hcheck : (PrivilegeRequest.grant request).check = .ok (.grant declared) := by
    rw [PrivilegeRequest.check, h]
    rfl
  obtain ⟨discarded, steps, c', hrun, hcomes⟩ := PrivilegeRequest.runs_sync hcheck c
  obtain ⟨outcome, hsync, rfl⟩ := Runs.of_discarding hrun
  refine ⟨outcome, steps, c', hsync, ?_⟩
  rintro report rfl
  obtain ⟨-, error, herror, -⟩ | ⟨caps, found, -, hfinds, hsettles⟩ := hcomes
  · cases herror
  · have hconcrete := hfinds.concrete
    have hcaps : c'.capabilities = some caps := by
      cases hfinds with
      | intro hopens _ _ => exact hopens.known
    obtain ⟨rows, shown, rfl, hshown, hcovered, hseen⟩ := DeclaredGrant.exists_shown_of_finds hfinds
    have hmet : _ ↔ ∀ entry ∈ shown, declared.IsHeldByKey caps entry.2 :=
      DeclaredGrant.isMetBy_iff_isHeldByKey hshown hconcrete
    -- a plan has at least one statement, so to send nothing is not to send the plan
    have hsilent : Silent steps ↔ ∀ entry ∈ shown, declared.IsHeldByKey caps entry.2 := by
      refine ⟨fun hquiet => ?_, fun hheld => hsettles.silent (hmet.2 hheld)⟩
      by_contra hheld
      have hsent := hsettles.complete rfl fun hall => hheld (hmet.1 hall)
      rw [hquiet.statements] at hsent
      exact (DeclaredPrivileges.grant declared).plan_ne_nil hsent.symm
    refine ⟨caps, shown, hcaps, hseen, hcovered, hsilent, fun hquiet entry hentry halone => ?_⟩
    exact (hsilent.1 hquiet entry hentry).isHeldByRole halone

end Calls

/-- A request that `Alice` may read a table. -/
def aliceRequest : GrantRequest where
  role := .text "Alice"
  database := .text "app"
  kind := .table
  privileges := .ofList ["SELECT"]
  schema := .text "s"
  objects := .texts (.ofList ["users"])
  grantOption := .off

/-- What it declares. -/
def aliceGrant : DeclaredGrant where
  role := "Alice"
  database := "app"
  kind := .table
  privileges := .ofList ["SELECT"]
  schema := .text "s"
  objects := .ofList ["users"]
  grantOption := .off

/-- The row of the table, which `alice` may read. -/
def usersRow : List Value :=
  [.text "users", .text "owner_role", .list [.text "alice=r/owner_role"]]

/-- A client of a server on which `Alice` exists, too. -/
def clientOfAlice : Client Script :=
  Client.new ⟨"postgres", some "16", "postgresql", "psycopg"⟩ ⟨[
    .rows [[.text "app", .text "postgres", .list []]],
    .rows [[.text "Alice", .int 16390, .bool false]],
    .rows [[.text "s", .text "owner_role", .list []]],
    .rows [usersRow],
    .rows [[.text "app", .text "postgres", .list []]],
    .rows [[.text "Alice", .int 16390, .bool false]],
    .rows [[.text "s", .text "owner_role", .list []]],
    .rows [usersRow]]⟩

/-- The request is met by this server: the call succeeds, and sends no statement. -/
theorem aliceRequest_sends_nothing :
    (Call.exec aliceRequest.sync clientOfAlice).1.isOk = true ∧
      ∀ event ∈ (Call.exec aliceRequest.sync clientOfAlice).2.log,
        (Step.statement? ⟨event, none⟩).isNone = true := by
  constructor
  · decide +kernel
  · decide +kernel

/-- Nothing is sent, so what is declared for `Alice` is held by roles with the key of `Alice`. -/
theorem GrantRequest.alice_reads_for_Alice :
    aliceRequest.check = .ok aliceGrant ∧ ∃ outcome steps c' caps shown,
      Runs aliceRequest.sync clientOfAlice outcome steps c' ∧ Silent steps ∧
        aliceGrant.HasSeen clientOfAlice shown steps ∧ aliceGrant.IsCoveredBy shown ∧
        ∀ entry ∈ shown, aliceGrant.IsHeldByKey caps entry.2 := by
  have hcheck : aliceRequest.check = .ok aliceGrant := by rfl
  obtain ⟨outcome, steps, c', hrun, hseen⟩ := skipped_when_held_by_key hcheck clientOfAlice
  obtain ⟨hok, hlog⟩ := aliceRequest_sends_nothing
  rw [hrun.exec] at hok hlog
  -- the log of this client tells that nothing was sent
  have hquiet : Silent steps := by
    intro step hstep
    have hevent : step.event ∈ c'.log := by
      rw [hrun.log]
      exact List.mem_append_right _ (List.mem_map_of_mem hstep)
    exact Option.isNone_iff_eq_none.1 (hlog _ hevent)
  cases outcome with
  | error error => cases hok
  | ok report =>
    obtain ⟨caps, shown, -, hshown, hcovered, hiff, -⟩ := hseen report rfl
    exact ⟨hcheck, _, steps, c', caps, shown, hrun, hquiet, hshown, hcovered, hiff.1 hquiet⟩

/-- But it is `alice` who holds it, and `Alice` holds nothing. -/
theorem GrantRequest.alice_is_taken_for_Alice :
    aliceRequest.check = .ok aliceGrant ∧
      (Call.exec aliceRequest.sync clientOfAlice).1.isOk = true ∧
      (∀ event ∈ (Call.exec aliceRequest.sync clientOfAlice).2.log,
        (Step.statement? ⟨event, none⟩).isNone = true) ∧
      ∃ items, Catalog.rowItems usersRow = .ok (some "users", items) ∧
        ¬aliceGrant.IsHeldByRole ⟨⟨[16]⟩⟩ items := by
  refine ⟨by rfl, aliceRequest_sends_nothing.1, aliceRequest_sends_nothing.2,
    [.ofMarks "alice" "owner_role" [("SELECT", false)]], by rfl, fun hheld => ?_⟩
  obtain ⟨item, hitem, hgrantee, -⟩ := hheld "SELECT" (by decide +kernel)
  rw [List.mem_singleton.1 hitem] at hgrantee
  exact absurd hgrantee (by decide)

end PgGrants
