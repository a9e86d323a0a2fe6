/-
What is missing, by all three verbs. To bring privileges about, to read them and to take them away
begin by looking for the same things in the same order. When something is missing, the first
complains about it, the second reports nothing, and the third returns; and each of them does so only
then, since nothing that follows the search can be taken for it.
-/
import PgGrants.Proofs.Presence
import PgGrants.Proofs.PublicGrantee
import PgGrants.Proofs.Visits

set_option autoImplicit false

namespace PgGrants

variable {σ α β : Type} [Server σ]

/-! ## 1. How the work on a visit begins -/

section Begins

variable {caps : Capabilities} {server : σ} {looked : List Exchange} {verdict : Verdict}

open Session

/-- What was found is there to be reported. -/
theorem NeverMisses.found {work : Session σ α} (h : NeverMisses work) (f : α → β) :
    Does (do return some (f (← work)) : Session σ (Option β)).run fun outcome _ =>
      ¬ IsNotFound outcome ∧ outcome ≠ .ok none := by
  refine .bind_run h (fun a _ _ => Does.pure ⟨not_isNotFound_ok _, ?_⟩) fun error _ hnever => ?_
  · exact fun heq => nomatch Except.ok.inj heq
  · exact ⟨fun hmissing => hnever hmissing.of_error, fun heq => nomatch heq⟩

/-- A job with statements is not carried out silently. -/
theorem spoken_of_carryOut {owners : Session σ TextSet} (howners : Asks owners)
    {statements : List Statement} (hjob : statements ≠ []) :
    Does (do carryOut (some ⟨some (← owners), statements⟩) : Session σ Unit).run
      fun outcome steps => outcome = .ok () → Spoken steps := by
  refine .bind_run howners (fun resolved _ _ => ?_) fun _ _ _ heq => nomatch heq
  have hperform : Does (Job.perform ⟨some resolved, statements⟩ : Session σ Unit).run
      fun outcome steps => outcome = .ok () → Spoken steps := spoken_of_perform hjob
  refine hperform.mono fun outcome steps hspoken hok => ?_
  obtain ⟨step, hstep, hcommand⟩ := hspoken hok
  exact ⟨step, List.mem_append_right _ hstep, hcommand⟩

namespace DeclaredGrant

variable (declared : DeclaredGrant)

theorem begins_sync (hlooks : LooksUp (declared.lookUps caps) looked verdict)
    (hreplies : converse (looked.map Exchange.event) server = looked) :
    Begins caps (do carryOut (← declared.syncJob)) server looked verdict IsNotFound
      fun outcome steps => IsNotFound outcome → Spoken steps := by
  -- the job is found in three parts: the look-ups, the capabilities, the owners
  have hsync : (declared.syncJob : Session σ (Option Job)) = (do
      let rows ← declared.readTargets
      let caps ← Session.capabilities
      if rows.all (declared.isMet caps) then return none
      else return some ⟨some (← declared.owners rows), declared.plan⟩) := by
    unfold syncJob readTargets
    rw [bind_assoc]
  rw [hsync, bind_assoc]
  refine declared.seeks_readTargets.begins_of_raised hlooks hreplies fun rows => ?_
  refine missesAloud_carryOut (neverMisses_capabilities.bind fun caps => .ite (.pure none) ?_)
  exact (declared.neverMisses_owners rows).bind fun _ => .pure _

theorem begins_find (hlooks : LooksUp (declared.lookUps caps) looked verdict)
    (hreplies : converse (looked.map Exchange.event) server = looked) :
    Begins caps declared.find server looked verdict (· = .ok none)
      fun outcome _ => ¬ IsNotFound outcome ∧ outcome ≠ .ok none :=
  declared.seeks_targetRows?.begins_of_given hlooks hreplies rfl fun _ =>
    neverMisses_capabilities.found _

theorem begins_revoke (hlooks : LooksUp (declared.lookUps caps) looked verdict)
    (hreplies : converse (looked.map Exchange.event) server = looked) :
    Begins caps (do carryOut (← declared.revokeJob)) server looked verdict (· = .ok ())
      fun outcome steps => outcome = .ok () → Spoken steps := by
  unfold revokeJob
  rw [bind_assoc]
  refine declared.seeks_targetRows?.begins_of_given hlooks hreplies rfl fun rows => ?_
  rw [bind_assoc]
  exact spoken_of_carryOut (asks_owners declared rows) (List.cons_ne_nil _ _)

end DeclaredGrant

namespace DeclaredDefaults

variable (declared : DeclaredDefaults)

theorem begins_sync (hlooks : LooksUp declared.lookUps looked verdict)
    (hreplies : converse (looked.map Exchange.event) server = looked) :
    Begins caps (do carryOut (← declared.syncJob)) server looked verdict IsNotFound
      fun outcome steps => IsNotFound outcome → Spoken steps := by
  unfold syncJob
  rw [bind_assoc]
  refine declared.seeks_needTarget.begins_of_raised hlooks hreplies fun _ => ?_
  refine missesAloud_carryOut (declared.neverMisses_readHolding.bind fun _ => ?_)
  refine neverMisses_capabilities.bind fun _ => .ite (.pure none) ?_
  exact (neverMisses_namedOwners _).bind fun _ => .pure _

theorem begins_find (hlooks : LooksUp declared.lookUps looked verdict)
    (hreplies : converse (looked.map Exchange.event) server = looked) :
    Begins caps declared.find server looked verdict (· = .ok none)
      fun outcome _ => ¬ IsNotFound outcome ∧ outcome ≠ .ok none :=
  declared.seeks_needTarget.unlessMissing.begins_of_given hlooks hreplies rfl fun _ =>
    declared.neverMisses_readHolding.found _

theorem begins_revoke (hlooks : LooksUp declared.lookUps looked verdict)
    (hreplies : converse (looked.map Exchange.event) server = looked) :
    Begins caps (do carryOut (← declared.revokeJob)) server looked verdict (· = .ok ())
      fun outcome steps => outcome = .ok () → Spoken steps := by
  unfold revokeJob
  rw [bind_assoc]
  refine declared.seeks_needTarget.unlessMissing.begins_of_given hlooks hreplies rfl fun _ => ?_
  rw [bind_assoc]
  exact spoken_of_carryOut (asks_namedOwners _) (List.cons_ne_nil _ _)

end DeclaredDefaults

end Begins

/-! ## 2. The three verbs

Each verb is followed from the visit on: which look-ups it puts first, and what it makes of a
verdict that something is missing. A sync raises it, a revoke lets it pass and a read tells it. -/

/-- The request as one about rights. -/
def PrivilegeRequest.rights : PrivilegeRequest → RightsRequest
  | .grant r => .grant r
  | .defaults r => .defaults r

namespace DeclaredPrivileges

/-- The declaration as one of rights. -/
def rights : DeclaredPrivileges → DeclaredRights
  | .grant declared => .grant declared
  | .defaults declared => .defaults declared

/-- What is looked for: the database, and what the privileges are about inside it. -/
def lookUps (caps : Capabilities) : DeclaredPrivileges → List LookUp
  | .grant declared => .ofObject .database declared.database :: declared.lookUps caps
  | .defaults declared => .ofObject .database declared.database :: declared.lookUps

end DeclaredPrivileges

theorem PrivilegeRequest.check_rights {request : PrivilegeRequest} {declared : DeclaredPrivileges}
    (h : request.check = .ok declared) : request.rights.check = .ok declared.rights := by
  cases request with
  | grant r =>
    obtain ⟨checked, hcheck, rfl⟩ := exists_of_map_eq_ok h
    exact congrArg (Except.map DeclaredRights.grant) hcheck
  | defaults r =>
    obtain ⟨checked, hcheck, rfl⟩ := exists_of_map_eq_ok h
    exact congrArg (Except.map DeclaredRights.defaults) hcheck

/-- There was nothing to report. -/
def Report.isAbsent : Report → Bool
  | .done => false
  | .grant found => found.isNone
  | .defaults found => found.isNone
  | .policy found => found.isNone

/-- The outcome reports that there was nothing to report. -/
def IsAbsent (outcome : Except Error Report) : Prop :=
  ∃ report, outcome = .ok report ∧ report.isAbsent = true

/-- How an operation shows, after these look-ups, that something is missing. To bring it about is to
complain about it, having sent nothing else; to read is to report nothing; to take away is to return
when nothing was said after the look-ups but that the transaction is committed. -/
def Verb.ShowsMissing (looked : List Exchange) (outcome : Except Error Report)
    (heard : List Exchange) : Verb → Prop
  | .sync => IsNotFound outcome ∧ commandsOf heard = looked
  | .read => IsAbsent outcome
  | .revoke => outcome = .ok .done ∧ commandsOf heard = looked ∧
      lastSaid heard = [.ofBoundary .commit]

/-- The look-ups come first, and the operation shows that something is missing exactly when they say
so. -/
structure Verb.GoesBy (verb : Verb) (looked : List Exchange) (verdict : Verdict)
    (outcome : Except Error Report) (heard : List Exchange) : Prop where
  begins : looked <+: commandsOf heard
  shows : verb.ShowsMissing looked outcome heard ↔ verdict = .missing

section Verbs

variable {config : ClientConfig} {caps : Capabilities} {server : σ} {looked heard : List Exchange}
  {verdict : Verdict}

theorem Visited.map {f : α → β} {absent : Except Error α → Prop} {absent' : Except Error β → Prop}
    {rest : Except Error α → List Step → Prop} {rest' : Except Error β → List Step → Prop}
    {outcome : Except Error α} (h : Visited looked absent rest verdict outcome heard)
    (habsent : ∀ outcome, absent outcome → absent' (outcome.map f))
    (hrest : ∀ outcome steps, rest outcome steps → rest' (outcome.map f) steps) :
    Visited looked absent' rest' verdict (outcome.map f) heard := by
  -- what was looked up stays the same; only the outcome is renamed
  cases h with
  | found h hspoken hheard => exact .found (hrest _ _ h) hspoken hheard
  | missing h hne hheard hends =>
    refine .missing (habsent _ h) hne hheard fun b hok => ?_
    cases outcome with
    | ok a => exact hends a rfl
    | error error => cases hok
  | failed hplain hheard => exact .failed hplain hheard

theorem Tells.map {call : Call σ α} {f : α → β} {kind : Except Error β → List Exchange → σ → Prop}
    (h : Tells config caps server call fun outcome heard server' =>
      kind (outcome.map f) heard server') :
    Tells config caps server (do return f (← call)) kind := by
  refine h.bind (fun a heard server' hkind => ?_) fun error heard server' hkind => hkind
  refine Tells.ofOutcome ?_
  rw [List.append_nil]
  exact hkind

/-- In any case the look-ups come first. -/
theorem Visited.comesFirst {absent : Except Error α → Prop}
    {rest : Except Error α → List Step → Prop} {outcome : Except Error α}
    (h : Visited looked absent rest verdict outcome heard) :
    looked <+: commandsOf heard := by
  cases h with
  | found _ _ hheard => exact ⟨_, hheard.symm⟩
  | missing _ _ hheard _ => exact ⟨[], by rw [hheard, List.append_nil]⟩
  | failed _ hheard => exact ⟨[], by rw [hheard, List.append_nil]⟩

/-- Reading, once everything was found, finds something and misses nothing. -/
abbrev FindsSomething (outcome : Except Error Report) : Prop :=
  ¬ IsNotFound outcome ∧ ¬ IsAbsent outcome

theorem Visited.goesBy_read {outcome : Except Error Report}
    (h : Visited looked IsAbsent (fun outcome _ => FindsSomething outcome) verdict outcome heard) :
    Verb.GoesBy .read looked verdict outcome heard := by
  refine ⟨h.comesFirst, ?_⟩
  cases h with
  | found hfinds _ _ => exact iff_of_false hfinds.2 (by simp)
  | missing habsent _ _ _ => exact iff_of_true habsent rfl
  | failed _ _ =>
    refine iff_of_false ?_ (by simp)
    rintro ⟨_, h, _⟩
    cases h

theorem Visited.goesBy_revoke {outcome : Except Error Report}
    (h : Visited looked (· = .ok .done) (fun outcome steps => outcome = .ok .done → Spoken steps)
      verdict outcome heard) :
    Verb.GoesBy .revoke looked verdict outcome heard := by
  refine ⟨h.comesFirst, ?_⟩
  cases h with
  | found hrest hspoken hheard =>
    -- what is taken away is taken away by a statement
    refine iff_of_false ?_ (by simp)
    rintro ⟨hdone, hsame, -⟩
    rw [hheard] at hsame
    exact hspoken (hrest hdone) (List.append_right_eq_self.1 hsame)
  | missing habsent _ hheard hends =>
    exact iff_of_true ⟨habsent, hheard, hends _ habsent⟩ rfl
  | failed _ _ =>
    refine iff_of_false ?_ (by simp)
    rintro ⟨h, -⟩
    cases h

/-- What comes after something was brought about does not miss anything. -/
theorem Visited.tells_sync {call : Call σ Unit} {next : Call σ Report}
    (hcall : Tells config caps server call fun outcome heard _ =>
      Visited looked IsNotFound (fun outcome steps => IsNotFound outcome → Spoken steps) verdict
        outcome heard)
    (hnext : ∀ server, Tells config caps server next fun outcome _ _ => ¬ IsNotFound outcome) :
    Tells config caps server (do call; next) fun outcome heard _ =>
      Verb.GoesBy .sync looked verdict outcome heard := by
  refine hcall.bind (fun _ heard server' h => (hnext server').mono ?_) fun error heard _ h => ?_
  · intro outcome more _ hnever
    refine ⟨h.comesFirst.trans ?_, ?_⟩
    · rw [commandsOf_append]
      exact List.prefix_append _ _
    · cases h with
      | found _ _ _ => exact iff_of_false (fun hshows => hnever hshows.1) (by simp)
      | missing habsent _ _ _ => exact absurd habsent (not_isNotFound_ok ())
  · refine ⟨h.comesFirst, ?_⟩
    cases h with
    | found hrest hspoken hheard =>
      -- a role that is found missing later was there when it was looked for
      refine iff_of_false ?_ (by simp)
      rintro ⟨hmissing, hsame⟩
      rw [hheard] at hsame
      exact hspoken (hrest hmissing.of_error) (List.append_right_eq_self.1 hsame)
    | missing habsent _ hheard _ => exact iff_of_true ⟨habsent.of_error, hheard⟩ rfl
    | failed hplain _ =>
      exact iff_of_false (fun hshows => not_isNotFound_error hplain hshows.1) (by simp)

theorem Call.needDatabase_eq_visit (database : String) (work : Session σ α) :
    (do needDatabase database; inDatabase (some database) work : Call σ α) =
      visit database work (.error (.notFound "database" database)) := by
  unfold needDatabase visit
  rw [bind_assoc]
  refine bind_congr fun found => ?_
  cases found with
  | true => rfl
  | false => rfl

/-- What is reported of what was found. -/
theorem Tells.report {call : Call σ (Option α)} {wrap : Option α → Report}
    (hwrap : ∀ found, (wrap found).isAbsent = found.isNone)
    (h : Tells config caps server call fun outcome heard _ =>
      Visited looked (· = .ok none) (fun outcome _ => ¬ IsNotFound outcome ∧ outcome ≠ .ok none)
        verdict outcome heard) :
    Tells config caps server (do return wrap (← call)) fun outcome heard _ =>
      Visited looked IsAbsent (fun outcome _ => FindsSomething outcome) verdict outcome heard := by
  refine Tells.map (h.mono fun outcome heard _ hvisited => hvisited.map ?_ ?_)
  · rintro _ rfl
    exact ⟨wrap none, rfl, hwrap none⟩
  · rintro outcome - ⟨hnever, hfound⟩
    -- an error is no report, and what was found is one that is not absent
    cases outcome with
    | error error => exact ⟨fun hmissing => hnever hmissing.of_error, fun ⟨_, h, _⟩ => nomatch h⟩
    | ok found =>
      refine ⟨not_isNotFound_ok _, ?_⟩
      rintro ⟨_, hreport, hnone⟩
      cases hreport
      rw [hwrap, Option.isNone_iff_eq_none] at hnone
      exact hfound (congrArg Except.ok hnone)

/-- One search decides how the work of every verb goes. -/
theorem DeclaredPrivileges.exists_search (hbound : BoundariesHold σ) (config : ClientConfig)
    (caps : Capabilities) (server : σ) (declared : DeclaredPrivileges) :
    ∃ looked verdict,
      Searches config server declared.database (declared.lookUps caps) looked verdict ∧
      (Tells config caps server declared.rights.bringAbout fun outcome heard _ =>
        Visited looked IsNotFound (fun outcome steps => IsNotFound outcome → Spoken steps) verdict
          outcome heard) ∧
      (Tells config caps server declared.rights.takeAway fun outcome heard _ =>
        Visited looked (· = .ok ()) (fun outcome steps => outcome = .ok () → Spoken steps) verdict
          outcome heard) ∧
      Tells config caps server declared.rights.readBack fun outcome heard _ =>
        Visited looked IsAbsent (fun outcome _ => FindsSomething outcome) verdict outcome
          heard := by
  -- grants and default privileges look up different things and go the same way from there
  cases declared with
  | grant declared =>
    obtain ⟨looked, verdict, hsearches, hvisit⟩ :=
      exists_search_of_visits hbound config caps server declared.database
        (declared.lookUps caps)
    refine ⟨looked, verdict, hsearches, Tells.holding _ _ ?_, Tells.holding _ _ ?_,
      Tells.report (fun _ => rfl) (Tells.holding _ _ ?_)⟩
    · rw [Call.needDatabase_eq_visit]
      exact hvisit ⟨_, _, rfl⟩ fun _ _ _ => declared.begins_sync
    · exact hvisit rfl fun _ _ _ => declared.begins_revoke
    · exact hvisit rfl fun _ _ _ => declared.begins_find
  | defaults declared =>
    obtain ⟨looked, verdict, hsearches, hvisit⟩ :=
      exists_search_of_visits hbound config caps server declared.database declared.lookUps
    refine ⟨looked, verdict, hsearches, Tells.holding _ _ ?_, Tells.holding _ _ ?_,
      Tells.report (fun _ => rfl) ?_⟩
    · rw [Call.needDatabase_eq_visit]
      exact hvisit ⟨_, _, rfl⟩ fun _ _ _ => declared.begins_sync
    · exact hvisit rfl fun _ _ _ => declared.begins_revoke
    · exact hvisit rfl fun _ _ _ => declared.begins_find

/-- To read misses nothing, whatever there is. -/
theorem DeclaredPrivileges.tells_readBack (hbound : BoundariesHold σ) (config : ClientConfig)
    (caps : Capabilities) (server : σ) (declared : DeclaredPrivileges) :
    Tells config caps server declared.rights.readBack fun outcome _ _ => ¬ IsNotFound outcome := by
  obtain ⟨_, _, _, _, _, hread⟩ := declared.exists_search hbound config caps server
  refine hread.mono fun outcome heard _ h => ?_
  cases h with
  | found hfinds _ _ => exact hfinds.1
  | missing habsent _ _ _ =>
    obtain ⟨report, rfl, -⟩ := habsent
    exact not_isNotFound_ok report
  | failed hplain _ => exact not_isNotFound_error hplain

/-- Once the gates are passed, one search decides what each of the verbs shows. -/
theorem DeclaredPrivileges.exists_goesBy (hbound : BoundariesHold σ) (config : ClientConfig)
    (server : σ) {declared : DeclaredPrivileges}
    (hgates : ∀ gate ∈ declared.rights.gates .read, caps.supports gate.feature = true) :
    ∃ looked verdict,
      Searches config server declared.database (declared.lookUps caps) looked verdict ∧
      ∀ verb, Tells config caps server (declared.rights.body verb) fun outcome heard _ =>
        Verb.GoesBy verb looked verdict outcome heard := by
  obtain ⟨looked, verdict, hsearches, hsync, hrevoke, hread⟩ :=
    declared.exists_search hbound config caps server
  refine ⟨looked, verdict, hsearches, fun verb => ?_⟩
  -- a sync reads back after it has carried out; the other verbs are one visit
  cases verb with
  | sync =>
    exact Visited.tells_sync hsync fun server =>
      (Tells.needAll hgates).after fun _ _ => declared.tells_readBack hbound config caps server
  | read => exact hread.mono fun outcome heard _ => Visited.goesBy_read
  | revoke =>
    refine Tells.map (hrevoke.mono fun outcome heard _ h => (h.map ?_ ?_).goesBy_revoke)
    · rintro _ rfl
      rfl
    · intro outcome steps hrest hdone
      cases outcome with
      | ok _ => exact hrest rfl
      | error error => cases hdone

end Verbs

/-- The verbs agree on what is missing. When all of them pass the gates, and no boundary fails, all
of them put the same look-ups, hear the same, and show that something is missing exactly when the
look-ups say so. -/
theorem PrivilegeRequest.verbs_agree_on_missing {request : PrivilegeRequest}
    {declared : DeclaredPrivileges} (h : request.check = .ok declared) (hbound : BoundariesHold σ)
    (c : Client σ)
    (hgates : ∀ verb, (Call.exec (Call.needAll (declared.rights.gates verb)) c).1 = .ok ()) :
    ∃ caps asked c₁ looked verdict, Says Call.capabilities c (.ok caps) asked c₁ ∧
      Searches c.config c₁.server declared.database (declared.lookUps caps) looked verdict ∧
      ∀ verb, ∃ outcome heard c', Says (request.rights.run verb) c outcome (asked ++ heard) c' ∧
        verb.GoesBy looked verdict outcome heard := by
  -- all verbs pass their gates from the same client, so all know the same capabilities after it
  obtain ⟨caps, asked, c₁, hfound, hknown, hpassed⟩ :=
    exists_found_of_passed (fun verb => declared.rights.gates_ne_nil verb) hgates
  obtain ⟨looked, verdict, hsearches, hbody⟩ :=
    declared.exists_goesBy hbound c.config c₁.server (hpassed .read).2
  refine ⟨caps, _, c₁, looked, verdict, ⟨asked, hfound, rfl⟩, hsearches, fun verb => ?_⟩
  obtain ⟨outcome, heard, c', hsays, -, -, hgoesBy⟩ := hbody verb c₁ hfound.config hknown rfl
  refine ⟨outcome, heard, c', ?_, hgoesBy⟩
  rw [request.rights.run_eq (request.check_rights h)]
  exact Says.bind ⟨asked, (hpassed verb).1, rfl⟩ hsays

/-- A client of a server that has the database and the role, but not the schema. -/
def Client.withoutSchema : Client Script :=
  .new ⟨"app", some "16", "postgresql", "psycopg"⟩
    ⟨[.rows [[.text "app"]], .rows [[.text "reader", .int 16384, .bool false]], .rows []]⟩

example :
    let outcome verb := (Call.exec ((PrivilegeRequest.usersReadableBy "reader").rights.run verb)
      Client.withoutSchema).1
    outcome .sync = .error (.notFound "schema" "s") ∧ outcome .read = .ok (.grant none) ∧
      outcome .revoke = .ok .done :=
  ⟨rfl, rfl, rfl⟩

theorem PrivilegeRequest.verbs_agree_without_schema :
    (usersReadableBy "reader").check = .ok (.grant (usersGrantTo "reader")) ∧
      BoundariesHold Script ∧
      (∀ verb, (Call.exec (Call.needAll
        ((DeclaredPrivileges.grant (usersGrantTo "reader")).rights.gates verb))
          Client.withoutSchema).1 = .ok ()) ∧
      ∃ caps asked c₁ looked verdict,
        Says Call.capabilities Client.withoutSchema (.ok caps) asked c₁ ∧
          Searches Client.withoutSchema.config c₁.server
            (DeclaredPrivileges.grant (usersGrantTo "reader")).database
            ((DeclaredPrivileges.grant (usersGrantTo "reader")).lookUps caps) looked verdict ∧
          ∀ verb, ∃ outcome heard c',
            Says ((usersReadableBy "reader").rights.run verb) Client.withoutSchema outcome
              (asked ++ heard) c' ∧ verb.GoesBy looked verdict outcome heard := by
  have hcheck : (usersReadableBy "reader").check = .ok (.grant (usersGrantTo "reader")) := by rfl
  have hbound : BoundariesHold Script := fun _ _ => rfl
  have hgates (verb : Verb) : (Call.exec (Call.needAll
      ((DeclaredPrivileges.grant (usersGrantTo "reader")).rights.gates verb))
        Client.withoutSchema).1 = .ok () := by
    cases verb with
    | sync => rfl
    | read => rfl
    | revoke => rfl
  exact ⟨hcheck, hbound, hgates, verbs_agree_on_missing hcheck hbound _ hgates⟩

end PgGrants
