/-
Passing the gates. What an operation asks for is judged by what is known of the server, and for that
the server may be asked for its version, which is all that is sent before the gates. So an operation
is stopped there, by a complaint about a feature or because the version was not found out, or it
goes on and knows that the server has every feature that was asked for.

What follows the gates matches itself, for every declaration and by every spelling of PUBLIC. Put
together, this describes two runs of an operation at once.
-/
import PgGrants.Proofs.Operations

set_option autoImplicit false

namespace PgGrants

variable {spelling : Spelling} {caps : Capabilities} {σ : Type} [Server σ]

/-! ## 1. Asking for the version

Before the first gate the version is found out, if it is not known. All that can be sent by then is
the question for it. -/

/-- The steps of asking the server for its version. -/
def askingVersion (database : String) : List Step :=
  [⟨.connect database, none⟩, ⟨.boundary .begin, none⟩,
    ⟨.sent (.query .reportedVersion) "SHOW server_version_num", none⟩, ⟨.close, none⟩]

/-- Nothing happened, or the server was asked for its version, which was neither known nor expected.
-/
def FindsVersion (c : Client σ) (steps : List Step) : Prop :=
  steps = [] ∨ c.capabilities = none ∧ c.config.expectedVersion = none ∧
    steps = askingVersion c.config.database

omit [Server σ] in
theorem FindsVersion.mute {c : Client σ} {steps : List Step} (h : FindsVersion c steps) :
    Mute Query.IsPreliminary steps := by
  rcases h with rfl | ⟨-, -, rfl⟩
  · exact .nil
  · intro step hstep
    rcases List.mem_cons.1 hstep with rfl | hstep
    · exact .inl rfl
    rcases List.mem_cons.1 hstep with rfl | hstep
    · exact .inl rfl
    rcases List.mem_cons.1 hstep with rfl | hstep
    · exact .inr ⟨.reportedVersion, trivial, rfl⟩
    · rw [List.mem_singleton.1 hstep]
      exact .inl rfl

/-- How finding out what the server can do goes. -/
inductive FindsOut (c c' : Client σ) : Except Error Capabilities → List Step → Prop where
  | failed {error : Error} {steps : List Step} (hrefusal : error.isRefusal = false)
      (hmute : Mute Query.IsPreliminary steps) (hunknown : c'.capabilities = none) :
      FindsOut c c' (.error error) steps
  | found {caps : Capabilities} {steps : List Step} (hversion : FindsVersion c steps)
      (hknown : c'.capabilities = some caps) : FindsOut c c' (.ok caps) steps

/-- That there is no connection is not a matter of features. -/
theorem Unconnected.isRefusal {config : ClientConfig} {server : σ} {database : String}
    {error : Error} {steps : List Step} (h : Unconnected config server database error steps) :
    error.isRefusal = false := by
  cases h with
  | refused _ => exact Failure.isRefusal_error _
  | unknown _ hcheck => exact Call.Matches.isPlain_check config error hcheck

theorem AsksVersion.isPlain {outcome : Except Error Capabilities} {steps : List Step}
    (h : AsksVersion outcome steps) : IsPlain outcome := by
  cases h with
  | refused failure => exact .error failure.isRefusal_error
  | asked reply =>
    cases reply with
    | failed failure => exact .error failure.isRefusal_error
    | rows rows =>
      have hread := (onlyMisreads_firstCell rows).bind onlyMisreads_toInteger
      exact (hread.bind fun _ => .ok _).isPlain

open Call

/-- Nothing that finding the version out fails with is a matter of features. -/
theorem Client.Learns.isPlain {c : Client σ} {outcome : Except Error Capabilities}
    {steps : List Step} (h : c.Learns outcome steps) : IsPlain outcome := by
  cases h with
  | known _ => exact .ok _
  | expected _ => exact ((onlyMisreads_version _).bind fun _ => .ok _).isPlain
  | unconnected _ _ hunconnected => exact .error hunconnected.isRefusal
  | asked _ _ hasks => exact hasks.isPlain

theorem Client.Learns.findsVersion {c : Client σ} {outcome : Except Error Capabilities}
    {steps : List Step} (h : c.Learns outcome steps) (hok : outcome = .ok caps) :
    FindsVersion c steps := by
  cases h with
  | known _ => exact .inl rfl
  | expected _ => exact .inl rfl
  | unconnected _ _ _ => cases hok
  | asked hunknown hunexpected hasks =>
    rw [hasks.steps_of_ok hok]
    exact .inr ⟨hunknown, hunexpected, rfl⟩

/-- What the server can do is known, follows from the version that is expected, or is asked for. -/
theorem runs_findingOut (c : Client σ) :
    ∃ outcome steps c', Runs (Call.capabilities : Call σ Capabilities) c outcome steps c' ∧
      FindsOut c c' outcome steps := by
  obtain ⟨outcome, steps, c', hrun, hlearns, hkept, -⟩ := runs_learning c
  refine ⟨outcome, steps, c', hrun, ?_⟩
  cases outcome with
  | error error => exact .failed (hlearns.isPlain error rfl) hlearns.mute hkept
  | ok caps => exact .found (hlearns.findsVersion rfl) hkept

/-! ## 2. Being let through -/

/-- What becomes of gates by what is known of the server. -/
def Capabilities.judge (caps : Capabilities) : List Gate → Except Error Unit
  | [] => .ok ()
  | gate :: rest => do
    caps.need gate.feature gate.operation
    judge caps rest

theorem runs_judge_of_known {c : Client σ} (hc : c.capabilities = some caps) (gates : List Gate) :
    Runs (needAll gates : Call σ Unit) c (caps.judge gates) [] c := by
  induction gates with
  | nil => exact .pure () c
  | cons gate rest ih =>
    have hneed : Runs (needFeature gate.feature gate.operation : Call σ Unit) c
        (caps.need gate.feature gate.operation) [] c :=
      (runs_capabilities_of_known hc).bind (.ofOutcome _ c)
    rw [Capabilities.judge]
    cases hneeded : caps.need gate.feature gate.operation with
    | error error =>
      rw [hneeded] at hneed
      exact hneed.bind_error
    | ok _ =>
      rw [hneeded] at hneed
      exact hneed.bind ih

omit [Server σ] in
/-- All gates are passed, or the complaint is about the first that is not. -/
theorem Capabilities.judge_cases (caps : Capabilities) (gates : List Gate) :
    (∀ gate ∈ gates, caps.supports gate.feature = true) ∧ caps.judge gates = .ok () ∨
      ∃ gate ∈ gates, caps.supports gate.feature = false ∧
        caps.judge gates = .error (.unsupported gate.feature gate.operation caps.version) := by
  induction gates with
  | nil => exact .inl ⟨fun _ h => absurd h List.not_mem_nil, rfl⟩
  | cons gate rest ih =>
    rw [judge, need]
    cases hsupports : caps.supports gate.feature with
    | false => exact .inr ⟨gate, List.mem_cons_self, hsupports, rfl⟩
    | true =>
      -- the first gate that is not passed is in the rest
      rcases ih with ⟨hrest, hjudge⟩ | ⟨other, hother, hlacks, hjudge⟩
      · exact .inl ⟨List.forall_mem_cons.2 ⟨hsupports, hrest⟩, hjudge⟩
      · exact .inr ⟨other, List.mem_cons_of_mem gate hother, hlacks, hjudge⟩

/-- A client that knows the server is told at once. -/
theorem runs_needAll_of_known {c : Client σ} (hc : c.capabilities = some caps)
    (gates : List Gate) :
    (∀ gate ∈ gates, caps.supports gate.feature = true) ∧
        Runs (needAll gates : Call σ Unit) c (.ok ()) [] c ∨
      ∃ gate ∈ gates, caps.supports gate.feature = false ∧
        Runs (needAll gates : Call σ Unit) c
          (.error (.unsupported gate.feature gate.operation caps.version)) [] c := by
  have hrun := runs_judge_of_known hc gates
  rcases caps.judge_cases gates with ⟨hall, hjudge⟩ | ⟨gate, hgate, hlacks, hjudge⟩
  · rw [hjudge] at hrun
    exact .inl ⟨hall, hrun⟩
  · rw [hjudge] at hrun
    exact .inr ⟨gate, hgate, hlacks, hrun⟩

/-- How the gates turn a call away, or let it through. -/
inductive Admits (gates : List Gate) (c c' : Client σ) : Except Error Unit → List Step → Prop where
  | unknown {error : Error} {steps : List Step} (hrefusal : error.isRefusal = false)
      (hmute : Mute Query.IsPreliminary steps) (hunknown : c'.capabilities = none) :
      Admits gates c c' (.error error) steps
  | refused {caps : Capabilities} {gate : Gate} {steps : List Step}
      (hversion : FindsVersion c steps) (hknown : c'.capabilities = some caps)
      (hgate : gate ∈ gates) (hlacks : caps.supports gate.feature = false) :
      Admits gates c c' (.error (.unsupported gate.feature gate.operation caps.version)) steps
  | passed {caps : Capabilities} {steps : List Step} (hversion : FindsVersion c steps)
      (hknown : c'.capabilities = some caps)
      (hgates : ∀ gate ∈ gates, caps.supports gate.feature = true) :
      Admits gates c c' (.ok ()) steps

omit [Server σ] in
/-- At the gates nothing but the version is asked for. -/
theorem Admits.mute {gates : List Gate} {c c' : Client σ} {outcome : Except Error Unit}
    {steps : List Step} (h : Admits gates c c' outcome steps) : Mute Query.IsPreliminary steps := by
  cases h with
  | unknown _ hmute _ => exact hmute
  | refused hversion _ _ _ => exact hversion.mute
  | passed hversion _ _ => exact hversion.mute

theorem Call.needAll_cons (gate : Gate) (rest : List Gate) :
    (needAll (gate :: rest) : Call σ Unit) = (do
      let caps ← Call.capabilities
      Call.ofOutcome (caps.need gate.feature gate.operation)
      needAll rest) := by
  rw [needAll, needFeature, bind_assoc]

/-- At the first gate the version is found out, and the others go by it. -/
theorem runs_needAll_of_found {gates : List Gate} {c c₁ : Client σ} {outcome : Except Error Unit}
    {first : List Step} (hgates : gates ≠ [])
    (hfound : Runs Call.capabilities c (.ok caps) first c₁) (hknown : c₁.capabilities = some caps)
    (h : Runs (needAll gates : Call σ Unit) c₁ outcome [] c₁) :
    Runs (needAll gates : Call σ Unit) c outcome first c₁ := by
  obtain ⟨gate, rest, rfl⟩ := List.exists_cons_of_ne_nil hgates
  rw [needAll_cons] at h ⊢
  rw [← List.append_nil first]
  exact hfound.findingOutFirst hknown h

/-- Without the version no gate is passed. -/
theorem runs_needAll_of_failed {gates : List Gate} {c c₁ : Client σ} {error : Error}
    {first : List Step} (hgates : gates ≠ [])
    (hfound : Runs (Call.capabilities : Call σ Capabilities) c (.error error) first c₁) :
    Runs (needAll gates : Call σ Unit) c (.error error) first c₁ := by
  obtain ⟨gate, rest, rfl⟩ := List.exists_cons_of_ne_nil hgates
  rw [needAll_cons]
  exact hfound.bind_error

theorem runs_needAll {gates : List Gate} (hgates : gates ≠ []) (c : Client σ) :
    ∃ outcome steps c', Runs (needAll gates : Call σ Unit) c outcome steps c' ∧
      Admits gates c c' outcome steps := by
  obtain ⟨outcome, first, c₁, hfound, hfinds⟩ := runs_findingOut c
  cases hfinds with
  | failed hrefusal hmute hunknown =>
    exact ⟨_, first, c₁, runs_needAll_of_failed hgates hfound, .unknown hrefusal hmute hunknown⟩
  | found hversion hknown =>
    rcases runs_needAll_of_known hknown gates with ⟨hall, hrun⟩ | ⟨other, hother, hlacks, hrun⟩
    · exact ⟨_, first, c₁, runs_needAll_of_found hgates hfound hknown hrun,
        .passed hversion hknown hall⟩
    · exact ⟨_, first, c₁, runs_needAll_of_found hgates hfound hknown hrun,
        .refused hversion hknown hother hlacks⟩

/-- Gates that let a client through for every verb do so on the same finding. -/
theorem exists_found_of_passed {gates : Verb → List Gate} {c : Client σ}
    (hgates : ∀ verb, gates verb ≠ [])
    (hpassed : ∀ verb, ((needAll (gates verb) : Call σ Unit).exec c).1 = .ok ()) :
    ∃ caps first c₁, Runs (Call.capabilities : Call σ Capabilities) c (.ok caps) first c₁ ∧
      c₁.capabilities = some caps ∧
      ∀ verb, Runs (needAll (gates verb) : Call σ Unit) c (.ok ()) first c₁ ∧
        ∀ gate ∈ gates verb, caps.supports gate.feature = true := by
  have hok {verb : Verb} {outcome : Except Error Unit} {steps : List Step} {c' : Client σ}
      (h : Runs (needAll (gates verb) : Call σ Unit) c outcome steps c') : outcome = .ok () := by
    rw [← hpassed verb, h.exec]
  obtain ⟨outcome, first, c₁, hfound, hfinds⟩ := runs_findingOut c
  -- one verb is enough to see that the version was found out; it is the same for all of them
  cases hfinds with
  | failed _ _ _ => cases hok (runs_needAll_of_failed (hgates .read) hfound)
  | @found caps _ _ hknown =>
    refine ⟨caps, first, c₁, hfound, hknown, fun verb => ?_⟩
    rcases runs_needAll_of_known hknown (gates verb) with ⟨hall, hrun⟩ | ⟨_, _, _, hrun⟩
    · exact ⟨runs_needAll_of_found (hgates verb) hfound hknown hrun, hall⟩
    · cases hok (runs_needAll_of_found (hgates verb) hfound hknown hrun)

/-! ## 3. What follows the gates -/

theorem Call.Matches.needAll {gates : List Gate}
    (hgates : ∀ gate ∈ gates, caps.supports gate.feature = true) :
    Call.Matches spelling caps (needAll gates : Call σ Unit) (needAll gates) Eq := by
  induction gates with
  | nil => exact .pure rfl
  | cons gate rest ih =>
    rw [List.forall_mem_cons] at hgates
    rw [Call.needAll]
    have hneed : Call.Matches spelling caps
        (needFeature gate.feature gate.operation : Call σ Unit)
        (needFeature gate.feature gate.operation) Eq := by
      refine Call.Matches.capabilities.bind fun known known' hfound => ?_
      -- both clients know the same server
      obtain ⟨rfl, rfl⟩ := hfound
      rw [Capabilities.need, hgates.1]
      exact .pure rfl
    exact hneed.bind_eq fun _ => ih hgates.2

/-- The declarations differ in nothing but the spelling of roles. -/
inductive DeclaredRights.Alike (spelling : Spelling) : DeclaredRights → DeclaredRights → Prop where
  | grant {declared other : DeclaredGrant} (h : DeclaredGrant.Alike spelling declared other) :
      Alike spelling (.grant declared) (.grant other)
  | defaults {declared other : DeclaredDefaults}
      (h : DeclaredDefaults.Alike spelling declared other) :
      Alike spelling (.defaults declared) (.defaults other)
  | policy {declared other : DeclaredPolicy} (h : DeclaredPolicy.Alike spelling declared other)
      (previous : Option Policy) :
      Alike spelling (.policy declared previous) (.policy other previous)

/-- The reports differ in nothing but the spelling of the role. -/
inductive Report.Alike (spelling : Spelling) : Report → Report → Prop where
  | done : Alike spelling .done .done
  | grant {found found' : Option GrantReport}
      (h : Option.Rel (GrantReport.Alike spelling) found found') :
      Alike spelling (.grant found) (.grant found')
  | defaults {found found' : Option DefaultsReport}
      (h : Option.Rel (DefaultsReport.Alike spelling) found found') :
      Alike spelling (.defaults found) (.defaults found')
  | policy (found : Option PolicyReport) : Alike spelling (.policy found) (.policy found)

namespace DeclaredRights.Alike

variable {declared other : DeclaredRights}

theorem gates_eq (h : Alike spelling declared other) (verb : Verb) :
    declared.gates verb = other.gates verb := by
  cases h with
  | grant h =>
    obtain ⟨-⟩ := h
    cases verb <;> rfl
  | defaults h =>
    obtain ⟨-⟩ := h
    cases verb <;> rfl
  | policy h => cases verb <;> rfl

theorem isShared_eq (h : Alike spelling declared other) : declared.isShared = other.isShared := by
  cases h with
  | grant h =>
    obtain ⟨-⟩ := h
    rfl
  | _ => rfl

theorem database_eq (h : Alike spelling declared other) : declared.database = other.database := by
  cases h with
  | _ h =>
    obtain ⟨-⟩ := h
    rfl

theorem matches_syncJob (h : Alike spelling declared other) :
    PgGrants.Matches spelling caps (declared.syncJob : Session σ (Option Job)) other.syncJob
      (Option.Rel (Job.Alike spelling)) := by
  cases h with
  | grant h => exact h.matches_syncJob
  | defaults h => exact h.matches_syncJob
  | policy h previous => exact h.matches_syncJob previous

theorem matches_revokeJob (h : Alike spelling declared other) :
    PgGrants.Matches spelling caps (declared.revokeJob : Session σ (Option Job)) other.revokeJob
      (Option.Rel (Job.Alike spelling)) := by
  cases h with
  | grant h => exact h.matches_revokeJob
  | defaults h => exact h.matches_revokeJob
  | policy h => exact h.matches_revokeJob

theorem matches_bringAbout (hignored : spelling.IsIgnored σ) (h : Alike spelling declared other) :
    Call.Matches spelling caps (declared.bringAbout : Call σ Unit) other.bringAbout Eq := by
  unfold bringAbout
  rw [h.isShared_eq, h.database_eq]
  exact Call.Matches.holding _ _ ((Call.Matches.needDatabase _).bind_eq fun _ =>
    .inDatabase (.carryOut hignored h.matches_syncJob) _)

theorem matches_takeAway (hignored : spelling.IsIgnored σ) (h : Alike spelling declared other) :
    Call.Matches spelling caps (declared.takeAway : Call σ Unit) other.takeAway Eq := by
  unfold takeAway
  rw [h.isShared_eq, h.database_eq]
  exact Call.Matches.holding _ _ ((Call.Matches.hasDatabase _).bind_eq fun _ =>
    .ite (.inDatabase (.carryOut hignored h.matches_revokeJob) _) (.pure rfl))

end DeclaredRights.Alike

/-- Looking where there is a database to look in. -/
theorem Call.Matches.whenThere {α β : Type} {related : α → β → Prop} {look : Call σ (Option α)}
    {look' : Call σ (Option β)} (database : String)
    (h : Call.Matches spelling caps look look' (Option.Rel related)) :
    Call.Matches spelling caps (Call.whenThere database look) (Call.whenThere database look')
      (Option.Rel related) :=
  (hasDatabase database).bind_eq fun _ => .ite h (.pure .none)

theorem DeclaredGrant.Alike.matches_find {declared other : DeclaredGrant}
    (h : DeclaredGrant.Alike spelling declared other) :
    PgGrants.Matches spelling caps (declared.find : Session σ (Option GrantReport)) other.find
      (Option.Rel (GrantReport.Alike spelling)) := by
  refine h.matches_targetRows?.bind_eq fun rows? => ?_
  cases rows? with
  | none => exact .pure .none
  | some rows =>
    refine Matches.capabilities.bind fun known known' ⟨hknown, hknown'⟩ => ?_
    subst hknown hknown'
    exact .pure (.some (h.state _ rows))

theorem DeclaredDefaults.Alike.matches_find {declared other : DeclaredDefaults}
    (h : DeclaredDefaults.Alike spelling declared other) :
    PgGrants.Matches spelling caps (declared.find : Session σ (Option DefaultsReport)) other.find
      (Option.Rel (DefaultsReport.Alike spelling)) := by
  refine h.matches_needTarget.unlessMissing.bind fun found found' hfound => ?_
  cases hfound with
  | none => exact .pure .none
  | some _ => exact h.matches_readHolding.bind fun _ _ hheld => .pure (.some hheld.2)

theorem DeclaredRights.Alike.matches_readBack {declared other : DeclaredRights}
    (h : DeclaredRights.Alike spelling declared other) :
    Call.Matches spelling caps (declared.readBack : Call σ Report) other.readBack
      (Report.Alike spelling) := by
  cases h with
  | grant h =>
    have hfind : PgGrants.Matches spelling caps (σ := σ) _ _ _ := h.matches_find
    obtain ⟨-⟩ := h
    exact (Call.Matches.holding _ _ (.whenThere _ (.inDatabase hfind _))).bind fun _ _ hfound =>
      .pure (.grant hfound)
  | defaults h =>
    have hfind : PgGrants.Matches spelling caps (σ := σ) _ _ _ := h.matches_find
    obtain ⟨-⟩ := h
    exact (Call.Matches.whenThere _ (.inDatabase hfind _)).bind fun _ _ hfound =>
      .pure (.defaults hfound)
  | @policy declared _ h previous =>
    have hrow : PgGrants.Matches spelling caps (σ := σ) _ _ _ := h.matches_readRow?
    obtain ⟨-⟩ := h
    -- what is reported is read from the server, whatever was declared
    have hlook : Call.Matches spelling caps
        (Call.whenThere (σ := σ) declared.database do
          let row ← Call.inDatabase (some declared.database) declared.readRow?
          return row.map declared.state) _ Eq :=
      (Call.Matches.hasDatabase declared.database).bind_eq fun _ =>
        .ite ((Call.Matches.inDatabase hrow _).bind_eq fun _ => .pure rfl) (.pure rfl)
    exact hlook.bind_eq fun found => .pure (.policy found)

/-- Once the gates are passed, what is done matches, and no gate is closed any more. -/
theorem DeclaredRights.Alike.matches_body {declared other : DeclaredRights} {verb : Verb}
    (hignored : spelling.IsIgnored σ) (h : DeclaredRights.Alike spelling declared other)
    (hgates : ∀ gate ∈ declared.gates verb, caps.supports gate.feature = true) :
    Call.Matches spelling caps (declared.body verb : Call σ Report) (other.body verb)
      (Report.Alike spelling) := by
  cases verb with
  | read => exact h.matches_readBack
  | revoke => exact (h.matches_takeAway hignored).bind_eq fun _ => .pure .done
  | sync =>
    refine (h.matches_bringAbout hignored).bind_eq fun _ => ?_
    rw [← h.gates_eq]
    -- to bring something about asks for no less than to read it back
    have hread : ∀ gate ∈ declared.gates .read, caps.supports gate.feature = true :=
      fun gate hgate => hgates gate (declared.gates_read_subset .sync hgate)
    exact (Call.Matches.needAll hread).bind_eq fun _ => h.matches_readBack

/-! ## 4. Two runs of an operation

Two runs from one client, by two spellings of PUBLIC: they come to the same gates, and what follows
the gates matches. -/

/-- A declaration that breaks the rules is refused before anything happens. -/
theorem RightsRequest.runs_invalid {request : RightsRequest} {cause : Invalid}
    (h : request.check = .error cause) (verb : Verb) (c : Client σ) :
    Runs (request.run verb) c (.error (.invalid cause)) [] c := by
  have hrefused {δ : Type} {check : Except Invalid δ} {wrap : δ → DeclaredRights}
      (h : check.map wrap = .error cause) : Runs (Call.ofOutcome (check.mapError .invalid) :
        Call σ δ) c (.error (.invalid cause)) [] c := by
    cases check with
    | error cause' =>
      cases h
      exact .ofOutcome (.error (.invalid cause)) c
    | ok _ => cases h
  -- every verb checks the declaration before it does anything
  cases request with
  | grant r =>
    cases verb with
    | _ => exact (hrefused h).bind_error.bind_error
  | defaults r =>
    cases verb with
    | _ => exact (hrefused h).bind_error.bind_error.bind_error
  | policy r previous =>
    cases verb with
    | _ => exact (hrefused h).bind_error.bind_error.bind_error

/-- How two runs from one client go: they are stopped at the gates in the same way, or both go on
from there alike, knowing that the server has every feature that was asked for. -/
inductive Proceeds (spelling : Spelling) (gates : List Gate) (c c' d' : Client σ) :
    Except Error Report → Except Error Report → List Step → List Step → Prop where
  | stopped {error : Error} {steps : List Step} (h : Admits gates c c' (.error error) steps)
      (heq : c' = d') : Proceeds spelling gates c c' d' (.error error) (.error error) steps steps
  | passed {caps : Capabilities} {outcome outcome' : Except Error Report}
      {first rest rest' : List Step} (hversion : FindsVersion c first)
      (hgates : ∀ gate ∈ gates, caps.supports gate.feature = true) (hagrees : c'.Agrees caps d')
      (hrest : List.Forall₂ (Step.Alike spelling caps) rest rest')
      (hends : Ends spelling (Report.Alike spelling) outcome outcome') :
      Proceeds spelling gates c c' d' outcome outcome' (first ++ rest) (first ++ rest')

/-- For declarations that are alike an operation takes two runs that are alike. -/
theorem RightsRequest.runs_alike {request request' : RightsRequest}
    {declared other : DeclaredRights} (hignored : spelling.IsIgnored σ)
    (h : request.check = .ok declared) (h' : request'.check = .ok other)
    (halike : DeclaredRights.Alike spelling declared other) (verb : Verb) (c : Client σ) :
    ∃ outcome outcome' steps steps' c' d',
      Runs (request.run verb) c outcome steps c' ∧ Runs (request'.run verb) c outcome' steps' d' ∧
        Proceeds spelling (declared.gates verb) c c' d' outcome outcome' steps steps' := by
  rw [request.run_eq h, request'.run_eq h', ← halike.gates_eq verb]
  obtain ⟨asked, first, c₁, hneed, hadmits⟩ := runs_needAll (declared.gates_ne_nil verb) c
  cases hadmits with
  | unknown hrefusal hmute hunknown =>
    exact ⟨_, _, first, first, c₁, c₁, hneed.bind_error, hneed.bind_error,
      .stopped (.unknown hrefusal hmute hunknown) rfl⟩
  | refused hversion hknown hgate hlacks =>
    exact ⟨_, _, first, first, c₁, c₁, hneed.bind_error, hneed.bind_error,
      .stopped (.refused hversion hknown hgate hlacks) rfl⟩
  | passed hversion hknown hgates =>
    -- the client agrees with itself, so what follows matches
    obtain ⟨outcome, outcome', rest, rest', c', d', hrun, hrun', hrest, hagrees, hends⟩ :=
      halike.matches_body hignored hgates c₁ c₁ ⟨rfl, rfl, rfl, hknown, hknown⟩
    exact ⟨outcome, outcome', _, _, c', d', hneed.bind hrun, hneed.bind hrun',
      .passed hversion hgates hagrees hrest hends⟩

theorem DeclaredGrant.Alike.refl (declared : DeclaredGrant) :
    DeclaredGrant.Alike spelling declared declared := .intro (.refl _)

theorem DeclaredDefaults.Alike.refl (declared : DeclaredDefaults) :
    DeclaredDefaults.Alike spelling declared declared := .intro (.refl _)

theorem DeclaredPolicy.Alike.refl (declared : DeclaredPolicy) :
    DeclaredPolicy.Alike spelling declared declared :=
  .intro (List.forall₂_same.2 fun rule _ => .intro (.refl rule.role))

/-- A declaration differs from itself in nothing. -/
theorem DeclaredRights.Alike.refl (declared : DeclaredRights) :
    DeclaredRights.Alike spelling declared declared := by
  cases declared with
  | grant declared => exact .grant (.refl declared)
  | defaults declared => exact .defaults (.refl declared)
  | policy declared previous => exact .policy (.refl declared) previous

/-! ## 5. One run of an operation -/

/-- The server is given no question that it does not understand, none about PUBLIC, and not the one
for the version. -/
def Step.IsProper (caps : Capabilities) (step : Step) : Prop :=
  ∀ query, step.command? = some (.query query) → query.IsProper caps

theorem Step.Alike.isProper {step step' : Step} (h : Step.Alike spelling caps step step') :
    step.IsProper caps := by
  intro query hquery
  cases h with
  | quiet hquiet =>
    rw [hquiet] at hquery
    cases hquery
  | sent hcommand =>
    cases hcommand with
    | query hproper =>
      cases hquery
      exact hproper
    | _ => cases hquery

/-- How one run of an operation goes. It is stopped at the gates, having asked for the version at
most; or it passes them and sends nothing that the server does not understand, and what then goes
wrong is no refusal. -/
inductive Passes (gates : List Gate) (c c' : Client σ) :
    Except Error Report → List Step → Prop where
  | stopped {error : Error} {steps : List Step} (h : Admits gates c c' (.error error) steps) :
      Passes gates c c' (.error error) steps
  | passed {caps : Capabilities} {outcome : Except Error Report} {first rest : List Step}
      (hversion : FindsVersion c first) (hknown : c'.capabilities = some caps)
      (hgates : ∀ gate ∈ gates, caps.supports gate.feature = true)
      (hproper : ∀ step ∈ rest, step.IsProper caps) (hplain : IsPlain outcome) :
      Passes gates c c' outcome (first ++ rest)

theorem RightsRequest.runs_passes {request : RightsRequest} {declared : DeclaredRights}
    (h : request.check = .ok declared) (verb : Verb) (c : Client σ) :
    ∃ outcome steps c', Runs (request.run verb) c outcome steps c' ∧
      Passes (declared.gates verb) c c' outcome steps := by
  -- by the exact spelling a run is alike to itself
  obtain ⟨outcome, _, steps, _, c', _, hrun, _, hproceeds⟩ :=
    RightsRequest.runs_alike Spelling.isIgnored_exact h h (.refl declared) verb c
  refine ⟨outcome, steps, c', hrun, ?_⟩
  cases hproceeds with
  | stopped h heq => exact .stopped h
  | passed hversion hgates hagrees hrest hends =>
    have hproper := hrest.imp fun _ _ halike => And.intro halike.isProper halike
    exact .passed hversion hagrees.left hgates ((List.forall₂_and_left _ _).1 hproper).1
      hends.isPlain

/-- A call has one run from a client. -/
theorem Runs.unique {α : Type} {call : Call σ α} {c c₁ c₂ : Client σ}
    {outcome outcome' : Except Error α} {steps steps' : List Step}
    (h : Runs call c outcome steps c₁) (h' : Runs call c outcome' steps' c₂) :
    outcome = outcome' ∧ steps = steps' ∧ c₁ = c₂ := by
  obtain ⟨houtcome, hclient⟩ := Prod.mk.inj (h.exec.symm.trans h'.exec)
  subst hclient
  -- the events are in the log, and their failures are what the server says to them
  have hevents : steps.map Step.event = steps'.map Step.event :=
    List.append_cancel_left (h.log.symm.trans h'.log)
  have hreplayed : (steps, c₁.server) = (steps', c₁.server) := by
    rw [← h.server, ← h'.server, hevents]
  exact ⟨houtcome, congrArg Prod.fst hreplayed, rfl⟩

end PgGrants
