/-
Skipping is exact, and what is brought about stays. When grants or default privileges are brought
about, the test by which an entry is left alone and the plan that is carried out otherwise agree
with each other, although they share no code: an entry passes the test if and only if the plan would
not change it. So nothing is sent exactly when there is nothing to change, and a call that finds
what the plan leaves sends nothing.
-/
import PgGrants.Proofs.Settling

set_option autoImplicit false

namespace PgGrants

variable {σ : Type} [Server σ]

/-! ## 1. What the look-up decides is sent -/

section Carries

variable {lookUp : Session σ (Option Job)} {start : Connection σ} {outcome : Except Error Unit}
  {steps : List Step}

omit [Server σ] in
/-- A look-up that fails is all that happens. -/
theorem Carries.of_error {error : Error} (h : Carries lookUp start outcome steps)
    (hjob : (lookUp.exec start).1 = .error error) : Silent steps ∧ outcome = .error error := by
  -- the look-up has failed, so of the three ways only the first is left
  cases h with
  | unknown hfailed hasked =>
    rw [hjob] at hfailed
    cases hfailed
    exact ⟨hasked.silent, rfl⟩
  | nothing hnone _ =>
    rw [hjob] at hnone
    cases hnone
  | performed hsome _ _ =>
    rw [hjob] at hsome
    cases hsome

omit [Server σ] in
/-- Without a job nothing is sent. -/
theorem Carries.of_none (h : Carries lookUp start outcome steps)
    (hjob : (lookUp.exec start).1 = .ok none) : Silent steps := by
  cases h with
  | unknown _ hasked => exact hasked.silent
  | nothing _ hasked => exact hasked.silent
  | performed hsome _ _ =>
    rw [hjob] at hsome
    cases hsome

omit [Server σ] in
/-- A job that was carried out was sent whole, and nothing else was. -/
theorem Carries.of_some {plan : List Statement} (h : Carries lookUp start (.ok ()) steps)
    (hplan : ∀ job?, (lookUp.exec start).1 = .ok job? → ∃ owners, job? = some ⟨owners, plan⟩) :
    steps.filterMap Step.statement? = plan := by
  cases h with
  | nothing hnone _ =>
    obtain ⟨_, heq⟩ := hplan _ hnone
    cases heq
  | performed hsome hasked hlends =>
    obtain ⟨owners, heq⟩ := hplan _ hsome
    cases heq
    -- a success leaves only the case that the plan was sent to its end
    cases hlends with
    | done hbefore _ _ hworked hafter _ _ =>
      simp only [List.filterMap_append, hasked.silent.statements, hbefore.silent.statements,
        hafter.silent.statements, List.nil_append, List.append_nil]
      exact hworked.statements_of_ok

end Carries

/-! ## 2. The entries decide what a call sends

The work in the transaction either ends before the entries are known, and then nothing is sent, or
settles them as they were read. What surrounds it on the connection carries no statement, so the
same holds of the whole call. -/

namespace DeclaredPrivileges

variable {declared : DeclaredPrivileges} {caps : Capabilities} {found : List (Place × Holding)}
  {written outcome : Except Error Unit} {steps : List Step}

/-- What a call that found the entries sends. -/
structure Settles (declared : DeclaredPrivileges) (caps : Capabilities)
    (found : List (Place × Holding)) (outcome : Except Error Unit) (steps : List Step) : Prop where
  silent : (∀ entry ∈ found, declared.wanted.isMetBy caps entry.2 = true) → Silent steps
  complete : outcome = .ok () → (¬∀ entry ∈ found, declared.wanted.isMetBy caps entry.2 = true) →
    steps.filterMap Step.statement? = declared.plan

/-- Nothing is sent around it. -/
theorem Settles.around {before after : List Step} (h : declared.Settles caps found written steps)
    (hbefore : Silent before) (hafter : Silent after)
    (houtcome : outcome = .ok () → written = .ok ()) :
    declared.Settles caps found outcome (before ++ steps ++ after) where
  silent := by
    intro hmet
    have hsteps := h.silent hmet
    simp only [Silent, List.forall_mem_append]
    exact ⟨⟨hbefore, hsteps⟩, hafter⟩
  complete := by
    intro hok hunmet
    rw [List.filterMap_append, List.filterMap_append, hbefore.statements, hafter.statements,
      List.nil_append, List.append_nil]
    exact h.complete (houtcome hok) hunmet

/-- In the transaction the look-up fails, or the entries are found. -/
theorem settles_of_carries {start : Connection σ} (hstart : start.Knows caps)
    (h : Carries declared.syncJob start outcome steps) :
    (Silent steps ∧ ∃ error, outcome = .error error ∧
        (declared.entries.exec start).1 = .error error) ∨
      ∃ found, (declared.entries.exec start).1 = .ok found ∧
        declared.Settles caps found outcome steps := by
  have hdecides := declared.decides hstart
  -- the entries are what the look-up reads first, so it fails when reading them does
  cases hentries : (declared.entries.exec start).1 with
  | error error =>
    obtain ⟨hsilent, houtcome⟩ := h.of_error (hdecides.fails error hentries)
    exact .inl ⟨hsilent, error, houtcome, rfl⟩
  | ok found =>
    refine .inr ⟨found, rfl, fun hmet => ?_, fun hok hunmet => ?_⟩
    · exact h.of_none (hdecides.nothing found hentries hmet)
    · subst hok
      exact h.of_some (hdecides.something found hentries hunmet)

/-- What opens a connection to the database, and a transaction on it. -/
abbrev opening (declared : DeclaredPrivileges) : List Step :=
  [⟨.connect declared.database, none⟩, ⟨.boundary .begin, none⟩]

/-- These are the entries that a call found, in the transaction that it opened on its database. Only
preliminary questions came before, and what the server can do was known by then. -/
inductive Finds (declared : DeclaredPrivileges) (c c' : Client σ) (caps : Capabilities)
    (found : List (Place × Holding)) : List Step → Prop where
  | intro {before rest : List Step} {start : Connection σ}
      (hopens : c.Opens c' caps before declared.opening start)
      (hopened : start.inTransaction = true)
      (hfound : (declared.entries.exec start).1 = .ok found) :
      Finds declared c c' caps found (before ++ declared.opening ++ rest)

/-- Where a call fails that has found no entries, and with what error. -/
inductive FailsEarly (declared : DeclaredPrivileges) (c c' : Client σ) :
    Error → List Step → Prop where
  /-- The server's version was not found out, or does not have what is needed. -/
  | gates {error : Error} {steps : List Step}
      (hneeds : Runs declared.needs c (.error error) steps c') :
      FailsEarly declared c c' error steps
  /-- The database is not there, or could not be looked for. -/
  | database {c₁ : Client σ} {error : Error} {first steps : List Step}
      (hneeds : Runs declared.needs c (.ok ()) first c₁)
      (hdatabase : Runs (.holding declared.isShared .write (.needDatabase declared.database)) c₁
        (.error error) steps c') :
      FailsEarly declared c c' error (first ++ steps)
  /-- No connection to the database was opened. -/
  | connection {error : Error} {steps : List Step}
      (hmisses : c.Misses declared.database error steps) : FailsEarly declared c c' error steps
  /-- No transaction was opened on it. -/
  | transaction {before after : List Step} {caps : Capabilities} {start : Connection σ}
      {failure : Failure}
      (hopens : c.Opens c' caps before [⟨.connect declared.database, none⟩] start)
      (hbegin : (Server.bound .begin start.server).1 = some failure) :
      FailsEarly declared c c' failure.error
        (before ++ [⟨.connect declared.database, none⟩] ++ [⟨.boundary .begin, some failure⟩] ++
          after)
  /-- The entries could not be looked up. A failure to undo the transaction takes the place of the
  first error. -/
  | lookUp {before asked after : List Step} {caps : Capabilities} {start : Connection σ}
      {error : Error} {undone : Option Failure}
      (hopens : c.Opens c' caps before declared.opening start)
      (hopened : start.inTransaction = true)
      (hentries : (declared.entries.exec start).1 = .error error) :
      FailsEarly declared c c' (undone.elim error Failure.error)
        (before ++ declared.opening ++ (asked ++ ⟨.boundary .rollback, undone⟩ :: after))

/-- What every call comes to: it fails early and has sent nothing, or it finds entries and they
decide. -/
def FailsOrSettles (declared : DeclaredPrivileges) (c c' : Client σ) (outcome : Except Error Unit)
    (steps : List Step) : Prop :=
  (Silent steps ∧ ∃ error, outcome = .error error ∧ declared.FailsEarly c c' error steps) ∨
    ∃ caps found, declared.wanted.IsKnown caps ∧ declared.Finds c c' caps found steps ∧
      declared.Settles caps found outcome steps

/-- No entry that was found holds `ALL`. -/
theorem Finds.concrete {c c' : Client σ} (h : declared.Finds c c' caps found steps) :
    ∀ entry ∈ found, entry.2.IsConcrete := by
  cases h with
  | intro hopens hopened hfound =>
    exact (declared.decides ⟨hopened, hopens.capabilities⟩).concrete found hfound

/-- In a transaction that was begun the look-up fails, or the entries are found and decide. Where the
look-up fails the transaction is rolled back. -/
theorem settles_of_begun {c c' : Client σ} {before work after : List Step} {start : Connection σ}
    (hopens : c.Opens c' caps before declared.opening start)
    (hopened : start.inTransaction = true) (hknown : declared.wanted.IsKnown caps)
    (h : Carries declared.syncJob start written work) {mark : Boundary} {failure : Option Failure}
    (hafter : Silent after) (hok : outcome = .ok () → written = .ok ())
    (herror : ∀ error, written = .error error →
      mark = .rollback ∧ outcome = .error (failure.elim error Failure.error)) :
    declared.FailsOrSettles c c' outcome
      (before ++ declared.opening ++ (work ++ ⟨.boundary mark, failure⟩ :: after)) := by
  have hopening : Silent (before ++ declared.opening) :=
    hopens.mute.idle.silent.append (List.forall_mem_cons.2 ⟨rfl, List.forall_mem_singleton.2 rfl⟩)
  have hending : Silent (⟨.boundary mark, failure⟩ :: after) :=
    List.forall_mem_cons.2 ⟨rfl, hafter⟩
  obtain ⟨hsilent, error, hfailed, hentries⟩ | ⟨found, hfound, hsettles⟩ :=
    settles_of_carries ⟨hopened, hopens.capabilities⟩ h
  · obtain ⟨rfl, houtcome⟩ := herror error hfailed
    exact .inl ⟨hopening.append (hsilent.append hending), _, houtcome,
      .lookUp hopens hopened hentries⟩
  · have haround := hsettles.around hopening hending hok
    rw [List.append_assoc] at haround
    exact .inr ⟨caps, found, hknown, .intro hopens hopened hfound, haround⟩

/-- On an open connection the transaction or the look-up fails, or the entries are found and decide.
-/
theorem settles_of_carried {c c' : Client σ} {before worked after : List Step}
    {start : Connection σ}
    (hopens : c.Opens c' caps before [⟨.connect declared.database, none⟩] start)
    (hknown : declared.wanted.IsKnown caps) (h : Carried declared.syncJob start written worked)
    (hafter : Silent after) (herror : ∀ error, written = .error error → outcome = .error error) :
    declared.FailsOrSettles c c' outcome
      (before ++ [⟨.connect declared.database, none⟩] ++ worked ++ after) := by
  have hsteps (work : List Step) (mark : Boundary) (failure : Option Failure) :
      before ++ [⟨.connect declared.database, none⟩] ++
          (⟨.boundary .begin, none⟩ :: work ++ [⟨.boundary mark, failure⟩]) ++ after =
        before ++ declared.opening ++ (work ++ ⟨.boundary mark, failure⟩ :: after) := by
    simp only [List.append_assoc, List.cons_append, List.nil_append]
  -- refused at the beginning, committed, or rolled back
  cases h with
  | refused hbegin =>
    have hfirst : Silent (before ++ [⟨.connect declared.database, none⟩]) :=
      hopens.mute.idle.silent.append (List.forall_mem_singleton.2 rfl)
    refine .inl ⟨?_, _, herror _ rfl, .transaction hopens hbegin⟩
    exact (hfirst.append (List.forall_mem_singleton.2 rfl)).append hafter
  | committed failure hbegin h =>
    rw [hsteps]
    exact settles_of_begun (hopens.begin hbegin) rfl hknown h hafter (fun _ => rfl)
      fun _ h => nomatch h
  | rolledBack failure hbegin h =>
    rw [hsteps]
    have houtcome := herror _ rfl
    refine settles_of_begun (hopens.begin hbegin) rfl hknown h hafter (fun hok => ?_)
      fun error heq => ?_
    · rw [houtcome] at hok
      cases hok
    · cases heq
      exact ⟨rfl, houtcome⟩

/-- What the call does after its work is of no matter. -/
theorem settles_of_reaches {c c₁ c₂ : Client σ} {rest : List Step}
    (h : Reaches declared.database (Carried declared.syncJob) c c₁ written steps)
    (hcaps : c₁.capabilities = some caps) (hknown : declared.wanted.IsKnown caps)
    (hlater : ∀ caps, c₁.capabilities = some caps → c₂.capabilities = some caps)
    (hrest : Silent rest)
    (herror : ∀ error, written = .error error → outcome = .error error) :
    declared.FailsOrSettles c c₂ outcome (steps ++ rest) := by
  cases h with
  | @intro known before worked after start hopens hclosed hkind hafter =>
    obtain rfl : caps = known := Option.some.inj (hcaps.symm.trans hopens.known)
    -- after the connection is closed, nothing of what follows is a statement
    have hlast : Silent ([⟨.close, none⟩] ++ after ++ rest) := by
      refine List.forall_mem_append.2 ⟨List.forall_mem_cons.2 ⟨rfl, fun step hstep => ?_⟩, hrest⟩
      rw [Step.statement?, hafter step hstep]
      rfl
    have hsettles := settles_of_carried (hopens.later hlater) hknown hkind hlast herror
    simp only [List.append_assoc] at hsettles ⊢
    exact hsettles

end DeclaredPrivileges

/-! ## 3. Calls

From the transaction outwards: the look-up for the database, the lock, and reading back. Each may
end the call early or add steps that carry no statement. -/

section Calls

open Call

/-- To carry out a job in a transaction on an existing database, under a lock where there is one. -/
theorem runs_carrying {lookUp : Session σ (Option Job)} (hasks : Asks lookUp) (database : String)
    (shared : Bool) {caps : Capabilities} {c : Client σ} (hc : c.capabilities = some caps) :
    ∃ written steps c', Runs (Call.holding shared .write do
        needDatabase database
        inDatabase (some database) do Session.carryOut (← lookUp)) c written steps c' ∧
      ((∃ error, written = .error error ∧ Silent steps ∧
          Runs (Call.holding shared .write (needDatabase database)) c (.error error) steps c') ∨
        MissesOrReaches database (Carried lookUp) c c' written steps) := by
  -- the same without the lock
  have hwork {c : Client σ} (hc : c.capabilities = some caps) :
      ∃ written steps c', Runs (do
          needDatabase database
          inDatabase (some database) do Session.carryOut (← lookUp)) c written steps c' ∧
        ((∃ error, written = .error error ∧ Silent steps ∧
            Runs (needDatabase database) c (.error error) steps c') ∨
          MissesOrReaches database (Carried lookUp) c c' written steps) := by
    obtain ⟨outcome, first, c₁, hrun, hmute⟩ := inquires_needDatabase database c
    cases outcome with
    | error error =>
      exact ⟨_, _, _, hrun.bind_error, .inl ⟨error, rfl, hmute.idle.silent, hrun⟩⟩
    | ok _ =>
      obtain ⟨written, steps, c₂, hrun', hreaches⟩ := runs_connecting
        (fun _ hstart => leads_transaction hstart (leads_carryOut hasks rfl)) (some database)
        (hrun.known caps hc)
      exact ⟨_, _, _, hrun.bind hrun', .inr (hreaches.before hrun hmute)⟩
  unfold Call.holding
  split
  · obtain ⟨written, steps, c', hrun, hcomes⟩ := hwork (c := c.noted (.locked .write)) hc
    have hlocked : Runs (Call.record (.locked .write)) c (.ok ()) [⟨.locked .write, none⟩]
      (c.noted (.locked .write)) := .record c fun _ => rfl
    refine ⟨_, _, _, hrun.between (fun _ => rfl) (fun _ => rfl), ?_⟩
    rcases hcomes with ⟨error, rfl, hsilent, hdatabase⟩ | hreaches
    · refine .inl ⟨error, rfl, ?_, hdatabase.between (fun _ => rfl) (fun _ => rfl)⟩
      exact List.forall_mem_cons.2 ⟨rfl, hsilent.append (List.forall_mem_singleton.2 rfl)⟩
    · refine .inr (.before hlocked (.single rfl) (hreaches.after ?_ fun _ h => h))
      exact List.forall_mem_singleton.2 rfl
  · exact hwork hc

/-- What is written may be read back; that sends nothing, and happens only after a success. -/
theorem runs_thenReading {call next : Call σ Unit} {written : Except Error Unit}
    {steps : List Step} {c c₁ : Client σ} (hcall : Runs call c written steps c₁)
    (hnext : Inquires (fun _ => True) next) :
    ∃ outcome rest c₂, Runs (call >>= fun _ => next) c outcome (steps ++ rest) c₂ ∧ Silent rest ∧
      (∀ caps, c₁.capabilities = some caps → c₂.capabilities = some caps) ∧
      ∀ error, written = .error error → outcome = .error error := by
  -- an error ends the call; otherwise what was written is read back
  cases written with
  | error error =>
    refine ⟨.error error, [], c₁, ?_, Idle.nil.silent, fun _ h => h, fun _ h => ?_⟩
    · rw [List.append_nil]
      exact hcall.bind_error
    · rw [Except.error.inj h]
  | ok _ =>
    obtain ⟨outcome, rest, c₂, hrun, hmute⟩ := hnext c₁
    exact ⟨outcome, rest, c₂, hcall.bind hrun, hmute.idle.silent, hrun.known, fun _ h => nomatch h⟩

/-- Every call fails early and has sent nothing, or finds entries, and they decide. -/
theorem PrivilegeRequest.runs_sync {request : PrivilegeRequest} {declared : DeclaredPrivileges}
    (h : request.check = .ok declared) (c : Client σ) :
    ∃ outcome steps c', Runs request.sync c outcome steps c' ∧
      declared.FailsOrSettles c c' outcome steps := by
  rw [request.sync_eq h]
  obtain ⟨outcome, first, c₁, hneeds, hfirst⟩ := declared.inquires_needs c
  cases outcome with
  | error error =>
    exact ⟨_, _, _, hneeds.bind_error, .inl ⟨hfirst.idle.silent, error, rfl, .gates hneeds⟩⟩
  | ok _ =>
    -- what the server must be able to do was found out before everything else
    obtain ⟨caps, hcaps, hknown⟩ := declared.secures_needs c () c₁ hneeds.exec
    obtain ⟨written, body, c₂, hbody, hcomes⟩ :=
      runs_carrying declared.asks_syncJob declared.database declared.isShared hcaps
    rcases hcomes with ⟨error, rfl, hsilent, hdatabase⟩ | ⟨error, rfl, hmisses⟩ | hreaches
    · exact ⟨_, _, _, hneeds.bind hbody.bind_error, .inl ⟨hfirst.idle.silent.append hsilent, error,
        rfl, .database hneeds hdatabase⟩⟩
    · have hmisses := hmisses.before hneeds hfirst
      exact ⟨_, _, _, hneeds.bind hbody.bind_error, .inl ⟨hmisses.mute.idle.silent, error, rfl,
        .connection hmisses⟩⟩
    · obtain ⟨outcome, rest, c₃, hrun, hrest, hlater, herror⟩ :=
        runs_thenReading hbody request.inquires_readBack
      refine ⟨outcome, _, c₃, hneeds.bind hrun, ?_⟩
      rw [← List.append_assoc]
      exact DeclaredPrivileges.settles_of_reaches (hreaches.before hneeds hfirst)
        (hbody.known caps hcaps) hknown hlater hrest herror

end Calls

/-! ## 4. The plan decides

What is wanted holds in all entries exactly when the plan would leave them as they are. This turns
the test of the code into a statement on rights. -/

namespace DeclaredPrivileges

variable {declared : DeclaredPrivileges} {caps : Capabilities} {found : List (Place × Holding)}

/-- The plan would change none of the entries. -/
def LeavesAlone (declared : DeclaredPrivileges) (caps : Capabilities)
    (found : List (Place × Holding)) : Prop :=
  ∀ entry ∈ found, declared.after caps entry.1 entry.2.rights = entry.2.rights

/-- Every entry is what the plan leaves of some entry. -/
def HasLeft (declared : DeclaredPrivileges) (caps : Capabilities)
    (found : List (Place × Holding)) : Prop :=
  ∀ entry ∈ found, ∃ r, entry.2.rights = declared.after caps entry.1 r

/-- An entry passes the test if and only if the plan would not change it. -/
theorem leavesAlone_iff (hvalid : declared.wanted.IsValid) (hknown : declared.wanted.IsKnown caps)
    (hconcrete : ∀ entry ∈ found, entry.2.IsConcrete)
    (htargets : ∀ entry ∈ found, declared.IsTarget entry.1) :
    declared.LeavesAlone caps found ↔
      ∀ entry ∈ found, declared.wanted.isMetBy caps entry.2 = true := by
  refine forall₂_congr fun entry hentry => ?_
  rw [after_eq declared hvalid hknown (htargets entry hentry),
    Wanted.isMetBy_iff (hconcrete entry hentry)]
  exact eq_comm

/-- What the plan leaves, it would leave again. -/
theorem HasLeft.leavesAlone (hvalid : declared.wanted.IsValid)
    (hknown : declared.wanted.IsKnown caps)
    (htargets : ∀ entry ∈ found, declared.IsTarget entry.1) (h : declared.HasLeft caps found) :
    declared.LeavesAlone caps found := by
  intro entry hentry
  obtain ⟨r, hr⟩ := h entry hentry
  have htarget := htargets entry hentry
  rw [hr, after_eq declared hvalid hknown htarget, after_eq declared hvalid hknown htarget]

theorem plan_ne_nil (declared : DeclaredPrivileges) : declared.plan ≠ [] := by
  cases declared with
  | grant declared => exact List.cons_ne_nil _ _
  | defaults declared => exact List.cons_ne_nil _ _

end DeclaredPrivileges

/-- Let a request for grants or default privileges keep the rules.

On a server that has what is needed, the plan leaves on every target the privileges that are meant,
with grant options on all of them or on none. The test lets pass exactly the entries that have just
these rights.

A call fails before it has found anything and has sent nothing, or it finds an entry for each
target. When the plan would change none of them, nothing is sent; when it would and the call
succeeds, the plan is sent; and a call that finds what the plan has left sends nothing. -/
theorem PrivilegeRequest.skips_exactly_and_converges {request : PrivilegeRequest}
    {declared : DeclaredPrivileges} (h : request.check = .ok declared) :
    (∀ (caps : Capabilities) (c : Client σ), c.capabilities = some caps →
      (declared.needs.exec c).1 = .ok () → ∀ place, declared.IsTarget place → ∀ r,
        declared.after caps place r = declared.wanted.rights caps) ∧
    (∀ (caps : Capabilities) (held : Holding), Privilege.all ∉ held.privileges →
      (held.isAsDeclared declared.wanted.kind declared.wanted.privileges
          declared.wanted.grantOption (some caps) = true ↔
        held.rights = declared.wanted.rights caps)) ∧
    ∀ c : Client σ, ∃ outcome steps c', Runs request.sync c outcome steps c' ∧
      ((Silent steps ∧ ∃ error, outcome = .error error ∧ declared.FailsEarly c c' error steps) ∨
        ∃ caps found, declared.Finds c c' caps found steps ∧
          ((∀ entry ∈ found, declared.IsTarget entry.1) →
            (declared.LeavesAlone caps found → Silent steps) ∧
            (¬declared.LeavesAlone caps found → outcome = .ok () →
              steps.filterMap Step.statement? = declared.plan ∧ ¬Silent steps) ∧
            (declared.HasLeft caps found → Silent steps))) := by
  have hvalid := request.isValid_of_check h
  refine ⟨fun caps c hc hneeds place htarget r => ?_, fun caps held => Wanted.isMetBy_iff,
    fun c => ?_⟩
  · exact declared.after_eq hvalid (declared.isKnown_of_needs hc hneeds) htarget r
  · obtain ⟨outcome, steps, c', hrun, hcomes⟩ := request.runs_sync h c
    refine ⟨outcome, steps, c', hrun, ?_⟩
    obtain hfails | ⟨caps, found, hknown, hfinds, hsettles⟩ := hcomes
    · exact .inl hfails
    · refine .inr ⟨caps, found, hfinds, fun htargets => ?_⟩
      -- the test on the entries, said of the plan
      have hiff := declared.leavesAlone_iff hvalid hknown hfinds.concrete htargets
      refine ⟨fun halone => ?_, fun hchanges hok => ?_, fun hleft => ?_⟩
      · exact hsettles.silent (hiff.1 halone)
      · have hsent := hsettles.complete hok fun hmet => hchanges (hiff.2 hmet)
        refine ⟨hsent, fun hsilent => ?_⟩
        rw [hsilent.statements] at hsent
        exact declared.plan_ne_nil hsent.symm
      · exact hsettles.silent (hiff.1 (hleft.leavesAlone hvalid hknown htargets))

/-- A request for everything on a table, and `SELECT` besides, to be granted on. -/
def ordersRequest : PrivilegeRequest :=
  .grant {
    role := .text "Reader"
    database := .text "app"
    kind := .table
    privileges := .ofList ["ALL", "SELECT"]
    schema := .text "public"
    objects := .texts (.ofList ["orders"])
    grantOption := true }

/-- What it declares. -/
def ordersDeclared : DeclaredPrivileges :=
  .grant {
    role := "Reader"
    database := "app"
    kind := .table
    privileges := .ofList ["ALL", "SELECT"]
    schema := .text "public"
    objects := .ofList ["orders"]
    grantOption := true }

/-- What exists on a table before version 17. -/
def sevenPrivileges : TextSet :=
  .ofList ["SELECT", "INSERT", "UPDATE", "DELETE", "TRUNCATE", "REFERENCES", "TRIGGER"]

/-- A client of a server of version 16. -/
def clientOf16 : Client Script :=
  { Client.new ⟨"postgres", some "16", "postgresql", "psycopg"⟩ ⟨[]⟩ with
    capabilities := some ⟨⟨[16]⟩⟩ }

/-- Before version 17 the plan of this request gives the seven privileges that there are, with grant
options. -/
theorem PrivilegeRequest.orders_get_seven_privileges :
    ordersRequest.check = .ok ordersDeclared ∧
      ordersDeclared.after ⟨⟨[16]⟩⟩ (.object .table (some "public") (some "orders"))
          ⟨.ofList ["SELECT", "UPDATE"], .ofList ["UPDATE"]⟩ =
        ⟨sevenPrivileges, sevenPrivileges⟩ := by
  have hcheck : ordersRequest.check = .ok ordersDeclared := by rfl
  have hneeds : ((ordersDeclared.needs (σ := Script)).exec clientOf16).1 = .ok () := by rfl
  have htarget : ordersDeclared.IsTarget (.object .table (some "public") (some "orders")) :=
    ⟨some "orders", rfl, .inr (by decide)⟩
  have hsettles := PrivilegeRequest.skips_exactly_and_converges (σ := Script) hcheck
  refine ⟨hcheck, ?_⟩
  rw [hsettles.1 _ clientOf16 rfl hneeds _ htarget]
  decide +kernel

end PgGrants
