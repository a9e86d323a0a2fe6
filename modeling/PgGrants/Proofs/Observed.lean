/-
What look-ups give. `Observes` says of some work that, inside a transaction on a connection to a
server of which it is known what it can do, the work leaves that known, and what it gives has a
property. The rules follow the ways in which work is put together.

They are used for one property. Access control lists name privileges by letters, and there is no
letter for `ALL`: what was read can stand for nothing but itself.
-/
import PgGrants.Converge.DefaultPrivileges
import PgGrants.Converge.Grant
import PgGrants.Proofs.Entry
import PgGrants.Proofs.ItemGrammar
import PgGrants.Proofs.Run

set_option autoImplicit false

namespace PgGrants

/-! ## 1. Rules -/

/-- A transaction is open, and it is known what the server can do. -/
structure Connection.Knows {σ : Type} (c : Connection σ) (caps : Capabilities) : Prop where
  inTransaction : c.inTransaction = true
  capabilities : c.capabilities = some caps

section Rules

variable {σ α β : Type} {caps : Capabilities}

/-- What is known is not asked for. -/
theorem exec_capabilities_of_knows [Server σ] {c : Connection σ} (hc : c.Knows caps) :
    Session.exec (Session.capabilities : Session σ Capabilities) c = (.ok caps, c) := by
  unfold Session.capabilities
  rw [Session.exec_bind_ok (Session.exec_get c), hc.capabilities, Session.exec_pure]

/-- The work leaves known what was known, and gives only what has the property. -/
def Observes (caps : Capabilities) (work : Session σ α) (good : α → Prop) : Prop :=
  ∀ c : Connection σ, c.Knows caps →
    (work.exec c).2.Knows caps ∧ ∀ a, (work.exec c).1 = .ok a → good a

namespace Observes

theorem ofOutcome {outcome : Except Error α} {good : α → Prop}
    (h : ∀ a, outcome = .ok a → good a) :
    Observes caps (Session.ofOutcome outcome : Session σ α) good :=
  fun _ hc => ⟨hc, h⟩

theorem pure {a : α} {good : α → Prop} (h : good a) :
    Observes caps (Pure.pure a : Session σ α) good := by
  refine ofOutcome fun b hb => ?_
  rw [← Except.ok.inj hb]
  exact h

theorem throw {error : Error} {good : α → Prop} :
    Observes caps (MonadExcept.throw error : Session σ α) good :=
  ofOutcome fun _ h => nomatch h

theorem bind {work : Session σ α} {next : α → Session σ β} {first : α → Prop} {good : β → Prop}
    (hwork : Observes caps work first) (hnext : ∀ a, first a → Observes caps (next a) good) :
    Observes caps (work >>= next) good := by
  intro c hc
  obtain ⟨hknows, hfirst⟩ := hwork c hc
  cases hexec : work.exec c with
  | mk outcome c' =>
    rw [hexec] at hknows hfirst
    -- when the first part fails the capabilities are still known, and there is no result
    cases outcome with
    | error error =>
      rw [Session.exec_bind_error hexec]
      exact ⟨hknows, fun _ h => nomatch h⟩
    | ok a =>
      rw [Session.exec_bind_ok hexec]
      exact hnext a (hfirst a rfl) c' hknows

theorem mono {work : Session σ α} {good good' : α → Prop} (h : Observes caps work good)
    (himp : ∀ a, good a → good' a) : Observes caps work good' :=
  fun c hc => ⟨(h c hc).1, fun a ha => himp a ((h c hc).2 a ha)⟩

theorem ite {p : Prop} [Decidable p] {work other : Session σ α} {good : α → Prop}
    (hwork : Observes caps work good) (hother : Observes caps other good) :
    Observes caps (if p then work else other) good := by
  split
  · exact hwork
  · exact hother

theorem capabilities [Server σ] :
    Observes caps (Session.capabilities : Session σ Capabilities) fun known => known = caps := by
  intro c hc
  rw [exec_capabilities_of_knows hc]
  exact ⟨hc, fun _ h => (Except.ok.inj h).symm⟩

theorem ask [Server σ] (query : Query) :
    Observes caps (Session.ask query : Session σ (List (List Value))) fun _ => True := by
  intro c hc
  refine ⟨?_, fun _ _ => trivial⟩
  unfold Session.ask
  cases hsql : (Command.query query).sql with
  | error fault =>
    rw [Session.exec_send_unwritable hsql]
    exact hc
  | ok sql =>
    rw [Session.exec_send hsql hc.inTransaction]
    exact ⟨hc.inTransaction, hc.capabilities⟩

end Observes

end Rules

/-! ## 2. Look-ups leave known what is known

A look-up may find the capabilities out, and then they are kept. Whatever runs after it finds them
known. -/

section LookUps

variable {σ : Type} [Server σ] {caps : Capabilities}

open Session

theorem observes_askObjects (kind : ObjectKind) (schema : Option String)
    (names : List (Option String)) :
    Observes caps (askObjects (σ := σ) kind schema names) fun _ => True := by
  have hlimited : Observes caps (limitsKind (σ := σ) kind) fun _ => True := by
    unfold limitsKind
    cases kind.catalog.kindColumn with
    | none => exact .pure trivial
    | some column =>
      exact .ite (Observes.capabilities.bind fun _ _ => .pure trivial) (.pure trivial)
  exact hlimited.bind fun _ _ => .ask _

theorem observes_hasRole (name : Option String) :
    Observes caps (hasRole (σ := σ) name) fun _ => True := by
  have hfind : Observes caps (findRole (σ := σ) name) fun _ => True := by
    refine (Observes.ask _).bind fun rows _ => ?_
    cases rows.head? with
    | none => exact .pure trivial
    | some row =>
      exact (Observes.ofOutcome fun _ _ => trivial).bind fun _ (_ : True) => .pure trivial
  have hlookUp : Observes caps (lookUpRole (σ := σ) name) fun _ => True :=
    .ite (.pure trivial) hfind
  exact hlookUp.bind fun _ _ => .pure trivial

theorem observes_needRole (role : String) :
    Observes caps (needRole (σ := σ) role) fun _ => True :=
  (observes_hasRole role).bind fun _ _ => .ite (.pure trivial) .throw

theorem observes_needSchema (schema : String) :
    Observes caps (needSchema (σ := σ) schema) fun _ => True := by
  have hhas : Observes caps (hasObject (σ := σ) .schema schema none) fun _ => True :=
    (observes_askObjects _ _ _).bind fun _ _ => .pure trivial
  exact hhas.bind fun _ _ => .ite (.pure trivial) .throw

theorem observes_needTarget (declared : DeclaredDefaults) :
    Observes caps (declared.needTarget (σ := σ)) fun _ => True := by
  refine (observes_needRole declared.role).bind fun _ _ => ?_
  refine (observes_needRole declared.owner).bind fun _ _ => ?_
  cases declared.schema with
  | none => exact .pure trivial
  | some schema => exact observes_needSchema schema

end LookUps

/-! ## 3. What was read names each privilege -/

/-- No privilege that is held is `ALL`. -/
def Holding.IsConcrete (h : Holding) : Prop := Privilege.all ∉ h.privileges

/-- No role holds `ALL`. -/
def Policy.IsConcrete (p : Policy) : Prop := ∀ key h, p.find? key = some h → h.IsConcrete

theorem Holding.isConcrete_none (role : Option String) : (Holding.none role).IsConcrete :=
  TextSet.not_mem_empty _

theorem Holding.IsConcrete.join {h k : Holding} (hh : h.IsConcrete) (hk : k.IsConcrete) :
    (h.join k).IsConcrete :=
  fun hmem => (TextSet.mem_union.1 hmem).elim hh hk

theorem Policy.isConcrete_empty : (∅ : Policy).IsConcrete := fun _ _ h => nomatch h

/-- What is true of all holdings in a policy and of the one that is added, and stays true when two
of them are joined, is true of all that is found then. -/
theorem Policy.forall_add {good : Holding → Prop}
    (hjoin : ∀ h k, good h → good k → good (h.join k)) {p : Policy} {h : Holding}
    (hp : ∀ key k, p.find? key = some k → good k) (hh : good h) :
    ∀ key k, (p.add h).find? key = some k → good k := by
  intro key found hfound
  rw [Policy.find?_add] at hfound
  split at hfound
  · -- the new holding alone, or joined to the one that was there
    cases hold : p.find? key with
    | none =>
      rw [hold] at hfound
      cases hfound
      exact hh
    | some k =>
      rw [hold] at hfound
      cases hfound
      exact hjoin k h (hp key k hold) hh
  · exact hp key found hfound

/-- What is true of all holdings that a policy is folded from, and stays true when two of them are
joined, is true of all that is found in the policy. -/
theorem Policy.forall_ofHoldings {good : Holding → Prop}
    (hjoin : ∀ h k, good h → good k → good (h.join k)) {l : List Holding}
    (hl : ∀ h ∈ l, good h) : ∀ key h, (Policy.ofHoldings l).find? key = some h → good h := by
  suffices h : ∀ p : Policy, (∀ key h, p.find? key = some h → good h) →
      ∀ key h, (l.foldl Policy.add p).find? key = some h → good h from
    h ∅ fun _ _ h => nomatch h
  induction l with
  | nil => exact fun _ hp => hp
  | cons h rest ih =>
    rw [List.forall_mem_cons] at hl
    exact fun p hp => ih hl.2 _ (Policy.forall_add hjoin hp hl.1)

theorem Policy.isConcrete_holdingOf {p : Policy} (hp : p.IsConcrete) (role : Option String) :
    (p.holdingOf role).IsConcrete := by
  unfold Policy.holdingOf
  cases hfound : role.bind p.lookup with
  | none => exact Holding.isConcrete_none role
  | some h =>
    obtain ⟨name, -, hlookup⟩ := Option.bind_eq_some_iff.1 hfound
    exact hp _ h hlookup

/-- There is no letter for `ALL`. -/
theorem AclItem.isConcrete_of_parse {text : String} {item : AclItem}
    (h : AclItem.parse text = .ok item) : item.holding.IsConcrete := by
  intro hmem
  have hletter := (AclItem.parse_has_letters h).2 _ hmem
  exact absurd hletter (by decide)

/-- What is read as an item is a text that writes one. -/
theorem AclItem.exists_parse_of_ofValue {value : Value} {item : AclItem}
    (h : AclItem.ofValue value = .ok item) : ∃ text, AclItem.parse text = .ok item := by
  unfold AclItem.ofValue at h
  split at h
  · rename_i text
    cases hparse : AclItem.parse text with
    | error fault =>
      rw [hparse] at h
      cases h
    | ok read =>
      rw [hparse] at h
      cases h
      exact ⟨text, hparse⟩
  -- a value that is no text gives no item
  all_goals cases h

/-- Whatever a list is mapped to comes from one of its members. -/
theorem exists_mem_of_mapM_eq_ok {ε α β : Type} {f : α → Except ε β} {l : List α} {m : List β}
    (h : l.mapM f = .ok m) {b : β} (hb : b ∈ m) : ∃ a ∈ l, f a = .ok b := by
  induction l generalizing m with
  | nil =>
    cases h
    exact absurd hb List.not_mem_nil
  | cons a rest ih =>
    rw [List.mapM_cons] at h
    obtain ⟨first, hfirst, h⟩ := exists_of_bind_eq_ok h
    obtain ⟨others, hothers, h⟩ := exists_of_bind_eq_ok h
    cases h
    rcases List.mem_cons.1 hb with rfl | hb
    · exact ⟨a, List.mem_cons_self, hfirst⟩
    · obtain ⟨a', ha', hfa'⟩ := ih hothers hb
      exact ⟨a', List.mem_cons_of_mem _ ha', hfa'⟩

namespace Catalog

/-- Every item in a cell was written by a text. -/
theorem exists_parse_of_cellAcl {cell : Value} {items : List AclItem} (h : cellAcl cell = .ok items)
    {item : AclItem} (hitem : item ∈ items) : ∃ text, AclItem.parse text = .ok item := by
  unfold cellAcl at h
  split at h
  · split at h
    · cases h
    · obtain ⟨value, -, hvalue⟩ := exists_mem_of_mapM_eq_ok h hitem
      exact AclItem.exists_parse_of_ofValue hvalue
  · cases h
    exact absurd hitem List.not_mem_nil

/-- The policy in a cell is folded from what was written there. -/
theorem forall_cellPolicy {good : Holding → Prop}
    (hjoin : ∀ h k, good h → good k → good (h.join k))
    (hparse : ∀ text item, AclItem.parse text = .ok item → good item.holding) {cell : Value}
    {p : Policy} (h : cellPolicy cell = .ok p) : ∀ key h, p.find? key = some h → good h := by
  unfold cellPolicy at h
  obtain ⟨items, hitems, h⟩ := exists_of_bind_eq_ok h
  cases h
  refine Policy.forall_ofHoldings hjoin fun holding hmem => ?_
  obtain ⟨item, hitem, rfl⟩ := List.mem_map.1 hmem
  obtain ⟨text, htext⟩ := exists_parse_of_cellAcl hitems hitem
  exact hparse text item htext

theorem isConcrete_cellPolicy {cell : Value} {p : Policy} (h : cellPolicy cell = .ok p) :
    p.IsConcrete :=
  forall_cellPolicy (fun _ _ hh hk => hh.join hk) (fun _ _ => AclItem.isConcrete_of_parse) h

theorem isConcrete_rowObject {row : List Value} {object : AclRow} (h : rowObject row = .ok object) :
    object.policy.IsConcrete := by
  unfold rowObject at h
  obtain ⟨⟨name, owner, acl⟩, -, h⟩ := exists_of_bind_eq_ok h
  obtain ⟨policy, hpolicy, h⟩ := exists_of_bind_eq_ok h
  cases h
  exact isConcrete_cellPolicy hpolicy

end Catalog

section Read

variable {σ : Type} [Server σ] {caps : Capabilities}

open Session

theorem observes_aclRows (kind : ObjectKind) (schema : Option String)
    (names : List (Option String)) :
    Observes caps (aclRows (σ := σ) kind schema names) fun rows =>
      ∀ row ∈ rows, row.policy.IsConcrete := by
  refine (observes_askObjects _ _ _).bind fun _ _ => .ofOutcome fun rows hrows row hrow => ?_
  obtain ⟨cells, -, hcells⟩ := exists_mem_of_mapM_eq_ok hrows hrow
  exact Catalog.isConcrete_rowObject hcells

theorem observes_targetRows (declared : DeclaredGrant) :
    Observes caps (declared.targetRows (σ := σ)) fun rows =>
      ∀ row ∈ rows, row.policy.IsConcrete := by
  -- the rows are read after the schema was looked up, if one is named
  have hrows : Observes caps (do
      let rows ← aclRows (σ := σ) declared.kind declared.targetSchema (declared.targets.map some)
      let missing := (TextSet.ofList declared.targets).filter fun name =>
        !rows.any fun row => row.name == some name
      unless missing.isEmpty do throw (.notFound declared.kind.phrase (Invalid.commaList missing))
      return rows) fun rows => ∀ row ∈ rows, row.policy.IsConcrete := by
    refine (observes_aclRows _ _ _).bind fun rows hrows => ?_
    exact .ite (.pure hrows) (Observes.throw.bind fun _ (h : False) => h.elim)
  unfold DeclaredGrant.targetRows
  exact .ite ((observes_needSchema _).bind fun _ _ => hrows) hrows

theorem observes_readHolding (declared : DeclaredDefaults) :
    Observes caps (declared.readHolding (σ := σ)) Holding.IsConcrete := by
  have hpolicy : Observes caps
      (defaultPolicy (σ := σ) declared.owner declared.kind declared.schema) Policy.IsConcrete := by
    refine (Observes.ask _).bind fun rows _ => .ite (.pure Policy.isConcrete_empty) ?_
    refine .ofOutcome fun p hp => ?_
    obtain ⟨cell, -, hcell⟩ := exists_of_bind_eq_ok hp
    exact Catalog.isConcrete_cellPolicy hcell
  exact hpolicy.bind fun p hp => .pure (Policy.isConcrete_holdingOf hp declared.role)

end Read

end PgGrants
