/-
What a client asks for and makes in one call. Before anything else is sent by a client that does not
know the server, it asks for the version, and whoever knows the server never asks. An engine is made
only for another database that the call connects to and that has none yet.

Both are said of the events of a call, of which the log gets one after the other. They hold of every
way to put calls together, so each operation is followed along its definition.
-/
import PgGrants.Proofs.KnownServer
import PgGrants.Proofs.Refusals
import PgGrants.Proofs.SentPlans

set_option autoImplicit false

namespace PgGrants

/-! ## 1. What a log tells

A log is read for four things: commands sent, engines made, engines given up, and databases
connected to. Each is a filter of the log, so it can be told of the parts of a run one after
another. -/

namespace Event

/-- The command that was sent. -/
def command? : Event → Option Command
  | .sent command _ => some command
  | _ => none

/-- The database for which an engine was made. -/
def made? : Event → Option String
  | .engine name => some name
  | _ => none

/-- The database whose engine was given up. -/
def givenUp? : Event → Option String
  | .dispose name => some name
  | _ => none

/-- The database to which a connection was asked for. -/
def connected? : Event → Option String
  | .connect name => some name
  | _ => none

end Event

/-- The commands that were sent, in their order. -/
def sentIn (events : List Event) : List Command := events.filterMap Event.command?

/-- The databases for which engines were made, in their order. -/
def madeIn (events : List Event) : List String := events.filterMap Event.made?

/-- The databases whose engines were given up, in their order. -/
def givenUpIn (events : List Event) : List String := events.filterMap Event.givenUp?

/-- The databases to which connections were asked for, in their order. -/
def connectedIn (events : List Event) : List String := events.filterMap Event.connected?

section Append

variable (first second : List Event)

@[simp] theorem sentIn_append : sentIn (first ++ second) = sentIn first ++ sentIn second :=
  List.filterMap_append

@[simp] theorem madeIn_append : madeIn (first ++ second) = madeIn first ++ madeIn second :=
  List.filterMap_append

@[simp] theorem givenUpIn_append :
    givenUpIn (first ++ second) = givenUpIn first ++ givenUpIn second :=
  List.filterMap_append

@[simp] theorem connectedIn_append :
    connectedIn (first ++ second) = connectedIn first ++ connectedIn second :=
  List.filterMap_append

end Append

/-- The events of work on a connection tell of nothing else. -/
structure Contained (events : List Event) : Prop where
  sent : Command.showVersion ∉ sentIn events
  made : madeIn events = []
  givenUp : givenUpIn events = []
  connected : connectedIn events = []

theorem Event.untold_of_isWork {event : Event} (h : event.isWork = true) :
    event.made? = none ∧ event.givenUp? = none ∧ event.connected? = none := by
  cases event with
  | engine | dispose | connect => cases h
  | _ => exact ⟨rfl, rfl, rfl⟩

theorem Contained.of_isWork {events : List Event}
    (h : ∀ event ∈ events, event.isWork = true) : Contained events where
  -- a command that is work is another one
  sent hmem := by
    obtain ⟨event, hevent, hcommand⟩ := List.mem_filterMap.1 hmem
    cases event with
    | sent command sql =>
      cases hcommand
      cases h _ hevent
    | _ => cases hcommand
  made := List.filterMap_eq_nil_iff.2 fun _ hevent => (Event.untold_of_isWork (h _ hevent)).1
  givenUp := List.filterMap_eq_nil_iff.2 fun _ hevent => (Event.untold_of_isWork (h _ hevent)).2.1
  connected :=
    List.filterMap_eq_nil_iff.2 fun _ hevent => (Event.untold_of_isWork (h _ hevent)).2.2

/-! ## 2. Asking for the version

`Consults` bounds what a client asks about the version by what it knows and was told beforehand.
Putting two calls after each other keeps the bound, since what the first finds out is kept for the
second. -/

variable {σ α β : Type}

/-- The client has to ask the server for its version. -/
def Client.MustAsk (c : Client σ) : Prop :=
  c.capabilities = none ∧ c.config.expectedVersion = none

/-- How the version is asked for among the commands of a call. -/
inductive Consults (c c' : Client σ) : Except Error α → List Command → Prop where
  /-- Nothing is sent, and nothing is found out. -/
  | idle {outcome : Except Error α} (hsame : c'.capabilities = c.capabilities) :
      Consults c c' outcome []
  /-- The version is known, or one is expected. -/
  | settled {outcome : Except Error α} {commands : List Command}
      (hsettled : c.capabilities ≠ none ∨ c.config.expectedVersion ≠ none)
      (hnever : Command.showVersion ∉ commands) : Consults c c' outcome commands
  /-- It was asked for in vain, and nothing else is sent. -/
  | failed {error : Error} (hmust : c.MustAsk) (hunknown : c'.capabilities = none) :
      Consults c c' (.error error) [.showVersion]
  /-- It was asked for first, and not again. -/
  | found {outcome : Except Error α} {caps : Capabilities} {rest : List Command}
      (hmust : c.MustAsk) (hnever : Command.showVersion ∉ rest)
      (hknown : c'.capabilities = some caps) : Consults c c' outcome (.showVersion :: rest)

namespace Consults

variable {c c₁ c₂ : Client σ} {commands first second : List Command}

/-- What follows a success goes by what it found out. -/
theorem bind {a : α} {outcome : Except Error β} (h : Consults c c₁ (.ok a) first)
    (h' : Consults c₁ c₂ outcome second) (hconfig : c₁.config = c.config)
    (hkept : ∀ caps, c.capabilities = some caps → c₁.capabilities = some caps)
    (hkept' : ∀ caps, c₁.capabilities = some caps → c₂.capabilities = some caps) :
    Consults c c₂ outcome (first ++ second) := by
  have hnever {first second : List Command} (h : Command.showVersion ∉ first)
      (h' : Command.showVersion ∉ second) : Command.showVersion ∉ first ++ second :=
    fun hmem => (List.mem_append.1 hmem).elim h h'
  cases h with
  | idle hsame =>
    rw [List.nil_append]
    have hmust' (h : c₁.MustAsk) : c.MustAsk := ⟨hsame ▸ h.1, hconfig ▸ h.2⟩
    cases h' with
    | idle hsame' => exact .idle (hsame'.trans hsame)
    | settled hsettled hnever =>
      rw [hsame, hconfig] at hsettled
      exact .settled hsettled hnever
    | failed hmust hunknown => exact .failed (hmust' hmust) hunknown
    | found hmust hnever hknown => exact .found (hmust' hmust) hnever hknown
  | settled hsettled hfirst =>
    -- the client still has no need to ask
    have hmust : ¬c₁.MustAsk := by
      rintro ⟨hunknown, hunexpected⟩
      rw [hconfig] at hunexpected
      rcases hsettled with hknown | hexpected
      · obtain ⟨caps, hcaps⟩ := Option.ne_none_iff_exists'.1 hknown
        rw [hkept caps hcaps] at hunknown
        cases hunknown
      · exact hexpected hunexpected
    cases h' with
    | idle _ =>
      rw [List.append_nil]
      exact .settled hsettled hfirst
    | settled _ hsecond => exact .settled hsettled (hnever hfirst hsecond)
    | failed h _ => exact absurd h hmust
    | found h _ _ => exact absurd h hmust
  | @found _ caps rest hmust hrest hknown =>
    have hsecond : Command.showVersion ∉ second := by
      cases h' with
      | idle _ => exact List.not_mem_nil
      | settled _ hsecond => exact hsecond
      | failed h _ => exact absurd (hknown.symm.trans h.1) (Option.some_ne_none caps)
      | found h _ _ => exact absurd (hknown.symm.trans h.1) (Option.some_ne_none caps)
    exact .found hmust (hnever hrest hsecond) (hkept' caps hknown)

/-- A failure is handed on. -/
theorem error {error : Error} (h : Consults c c₁ (.error error : Except Error α) commands) :
    Consults c c₁ (.error error : Except Error β) commands := by
  cases h with
  | idle hsame => exact .idle hsame
  | settled hsettled hnever => exact .settled hsettled hnever
  | failed hmust hunknown => exact .failed hmust hunknown
  | found hmust hnever hknown => exact .found hmust hnever hknown

/-- Other events than commands are of no matter. -/
theorem noted {outcome : Except Error α} {first last : Event}
    (h : Consults (c.noted first) c₁ outcome commands) :
    Consults c (c₁.noted last) outcome commands := by
  cases h with
  | idle hsame => exact .idle hsame
  | settled hsettled hnever => exact .settled hsettled hnever
  | failed hmust hunknown => exact .failed hmust hunknown
  | found hmust hnever hknown => exact .found hmust hnever hknown

end Consults

/-! ## 3. Making engines

`Supplies` accounts for the engines: each is made once, for a database that was asked for or
connected to, and none is given up. -/

/-- There is one engine for each of the databases that have one, and none for the client's own. -/
def Client.HasDistinctEngines (c : Client σ) : Prop :=
  c.engines.Nodup ∧ c.config.database ∉ c.engines

/-- The engine that a client has for the database. -/
def Client.place (c : Client σ) (name : String) : Engine :=
  if name = c.config.database then .own else .other (c.engines.idxOf name)

/-- The client with an engine for one more database. -/
def Client.equipped (c : Client σ) (name : String) : Client σ :=
  { c.noted (.engine name) with engines := c.engines ++ [name] }

theorem Client.place_equipped {c : Client σ} {name : String} (hother : name ≠ c.config.database)
    (hnew : name ∉ c.engines) : (c.equipped name).place name = .other c.engines.length := by
  refine (if_neg hother).trans (congrArg Engine.other ?_)
  show (c.engines ++ [name]).idxOf name = c.engines.length
  rw [List.idxOf_append_of_notMem hnew, List.idxOf_cons_self, Nat.add_zero]

/-- How a client is supplied with engines for the databases that were asked for and those that were
connected to. -/
structure Supplies (c c' : Client σ) (asked : List String) (events : List Event) : Prop where
  engines : c'.engines = c.engines ++ madeIn events
  distinct : c.HasDistinctEngines → c'.HasDistinctEngines
  kept : givenUpIn events = []
  /-- What is asked for or connected to has an engine afterwards. -/
  wanted : ∀ name ∈ asked ++ connectedIn events, name = c.config.database ∨ name ∈ c'.engines
  /-- Nothing else gets one. -/
  needed : ∀ name ∈ madeIn events, name ∈ asked ++ connectedIn events

namespace Supplies

variable {c c₁ c₂ : Client σ} {asked asked' : List String} {events first second : List Event}

/-- Nothing is made, and at most the client's own database is connected to. -/
theorem of_own (hengines : c₁.engines = c.engines) (hconfig : c₁.config = c.config)
    (hmade : madeIn events = []) (hkept : givenUpIn events = [])
    (hwanted : ∀ name ∈ connectedIn events, name = c.config.database) :
    Supplies c c₁ [] events where
  engines := by rw [hengines, hmade, List.append_nil]
  distinct h := by
    unfold Client.HasDistinctEngines
    rw [hengines, hconfig]
    exact h
  kept := hkept
  wanted name hname := .inl (hwanted name hname)
  needed name hname := by
    rw [hmade] at hname
    cases hname

theorem refl (c : Client σ) : Supplies c c [] [] :=
  .of_own rfl rfl rfl rfl fun _ h => absurd h List.not_mem_nil

/-- An engine that is there is not made. -/
theorem of_there {name : String} (h : name = c.config.database ∨ name ∈ c.engines) :
    Supplies c c [name] [] where
  engines := (List.append_nil _).symm
  distinct h := h
  kept := rfl
  wanted other hother := by rwa [List.mem_singleton.1 hother]
  needed _ h := absurd h List.not_mem_nil

/-- An engine that is not there is made. -/
theorem of_new {name : String} (hother : name ≠ c.config.database) (hnew : name ∉ c.engines) :
    Supplies c (c.equipped name) [name] [.engine name] where
  engines := rfl
  distinct h := by
    refine ⟨List.nodup_append.2 ⟨h.1, List.pairwise_singleton _ name, ?_⟩, fun hmem => ?_⟩
    · rintro _ hx _ hy rfl
      exact hnew (List.mem_singleton.1 hy ▸ hx)
    · exact (List.mem_append.1 hmem).elim h.2 fun hmem => hother (List.mem_singleton.1 hmem).symm
  kept := rfl
  wanted _ hname := .inr (List.mem_append_right _ hname)
  needed _ hname := hname

theorem trans (h : Supplies c c₁ asked first) (h' : Supplies c₁ c₂ asked' second)
    (hconfig : c₁.config = c.config) : Supplies c c₂ (asked ++ asked') (first ++ second) where
  engines := by rw [h'.engines, h.engines, madeIn_append, List.append_assoc]
  distinct := h'.distinct ∘ h.distinct
  kept := by rw [givenUpIn_append, h.kept, h'.kept, List.append_nil]
  wanted name hname := by
    have hlater (h : name ∈ c₁.engines) : name ∈ c₂.engines := by
      rw [h'.engines]
      exact List.mem_append_left _ h
    simp only [connectedIn_append, List.mem_append] at hname
    -- what was asked for and what was connected to, in either part
    have hcases : name ∈ asked ++ connectedIn first ∨ name ∈ asked' ++ connectedIn second := by
      simp only [List.mem_append]
      tauto
    rcases hcases with hfirst | hsecond
    · exact (h.wanted name hfirst).imp_right hlater
    · rw [← hconfig]
      exact h'.wanted name hsecond
  needed name hname := by
    rw [madeIn_append] at hname
    simp only [connectedIn_append, List.mem_append]
    rcases List.mem_append.1 hname with hfirst | hsecond
    · have := List.mem_append.1 (h.needed name hfirst)
      tauto
    · have := List.mem_append.1 (h'.needed name hsecond)
      tauto

/-- Whoever is connected to need not be asked for as well. -/
theorem forget (h : Supplies c c₁ asked events)
    (hasked : ∀ name ∈ asked, name ∈ connectedIn events) : Supplies c c₁ [] events where
  engines := h.engines
  distinct := h.distinct
  kept := h.kept
  wanted name hname := h.wanted name (List.mem_append_right _ hname)
  needed name hname := (List.mem_append.1 (h.needed name hname)).elim (hasked name) id

end Supplies

/-! ## 4. Thrifty calls

Both bounds together, for a call from any client. A rule goes with each way of putting calls
together, so an operation is thrifty when the calls in it are. -/

variable [Server σ]

/-- Whatever comes of the call, the version is asked for before anything else if it has to be asked
for at all, and engines are made only for new databases that are connected to. -/
def Call.IsThrifty (call : Call σ α) : Prop :=
  ∀ c, ∃ outcome steps c', Runs call c outcome steps c' ∧
    Consults c c' outcome (sentIn (steps.map Step.event)) ∧
    Supplies c c' [] (steps.map Step.event)

namespace Call.IsThrifty

theorem ofOutcome (outcome : Except Error α) : IsThrifty (Call.ofOutcome outcome : Call σ α) :=
  fun c => ⟨outcome, [], c, .ofOutcome outcome c, .idle rfl, .refl c⟩

theorem pure (a : α) : IsThrifty (Pure.pure a : Call σ α) := ofOutcome (.ok a)

theorem throw (error : Error) : IsThrifty (MonadExcept.throw error : Call σ α) :=
  ofOutcome (.error error)

theorem bind {call : Call σ α} {next : α → Call σ β} (hcall : IsThrifty call)
    (hnext : ∀ a, IsThrifty (next a)) : IsThrifty (call >>= next) := by
  intro c
  obtain ⟨outcome, first, c₁, hrun, hconsults, hsupplies⟩ := hcall c
  -- a call that fails may still have asked, or made an engine
  cases outcome with
  | error error =>
    exact ⟨.error error, first, c₁, hrun.bind_error, hconsults.error, hsupplies⟩
  | ok a =>
    obtain ⟨outcome, second, c₂, hrun', hconsults', hsupplies'⟩ := hnext a c₁
    refine ⟨outcome, first ++ second, c₂, hrun.bind hrun', ?_, ?_⟩
    · rw [List.map_append, sentIn_append]
      exact hconsults.bind hconsults' hrun.config hrun.known hrun'.known
    · rw [List.map_append]
      exact hsupplies.trans hsupplies' hrun.config

theorem ite {p : Prop} [Decidable p] {call other : Call σ α} (hcall : IsThrifty call)
    (hother : IsThrifty other) : IsThrifty (if p then call else other) := by
  split
  · exact hcall
  · exact hother

/-- Taking the lock and giving it back tells of nothing. -/
theorem filterMap_locked (tell : Event → Option β)
    (hlocked : ∀ access, tell (.locked access) = none)
    (hunlocked : ∀ access, tell (.unlocked access) = none) (access : Access) (steps : List Step) :
    (([Step.mk (.locked access) none] ++ (steps ++ ([Step.mk (.unlocked access) none] ++ []))).map
      Step.event).filterMap tell = (steps.map Step.event).filterMap tell := by
  rw [List.map_append, List.map_append, List.filterMap_append, List.filterMap_append,
    List.append_nil]
  simp only [List.map_cons, List.map_nil]
  rw [List.filterMap_cons_none (hlocked access), List.filterMap_cons_none (hunlocked access),
    List.filterMap_nil, List.nil_append, List.append_nil]

theorem holding {call : Call σ α} (shared : Bool) (access : Access) (h : IsThrifty call) :
    IsThrifty (Call.holding shared access call) := by
  unfold Call.holding
  split
  · intro c
    obtain ⟨outcome, steps, c', hrun, hconsults, hsupplies⟩ := h (c.noted (.locked access))
    -- the lock appears in the log and is none of the four things
    have hsent := filterMap_locked Event.command? (fun _ => rfl) (fun _ => rfl) access steps
    have hmade := filterMap_locked Event.made? (fun _ => rfl) (fun _ => rfl) access steps
    have hgivenUp := filterMap_locked Event.givenUp? (fun _ => rfl) (fun _ => rfl) access steps
    have hconnected := filterMap_locked Event.connected? (fun _ => rfl) (fun _ => rfl) access steps
    refine ⟨outcome, _, _, hrun.between (fun _ => rfl) (fun _ => rfl), ?_, ?_⟩
    · rw [sentIn, hsent]
      exact hconsults.noted
    · refine ⟨?_, hsupplies.distinct, ?_, ?_, ?_⟩
      · rw [madeIn, hmade]
        exact hsupplies.engines
      · rw [givenUpIn, hgivenUp]
        exact hsupplies.kept
      · rw [connectedIn, hconnected]
        exact hsupplies.wanted
      · rw [madeIn, connectedIn, hmade, hconnected]
        exact hsupplies.needed
  · exact h

end Call.IsThrifty

/-! ## 5. Clients that find out, make engines and connect

The three things a call does besides its work, each followed through all its cases: what is known or
expected already, which engines exist, and whether the connection opens. -/

section Clients

/-- Where no connection comes about, one was asked for. -/
theorem Unconnected.tells {config : ClientConfig} {server : σ} {database : String} {error : Error}
    {steps : List Step} (h : Unconnected config server database error steps) :
    sentIn (steps.map Step.event) = [] ∧ madeIn (steps.map Step.event) = [] ∧
      givenUpIn (steps.map Step.event) = [] ∧ connectedIn (steps.map Step.event) = [database] := by
  cases h <;> exact ⟨rfl, rfl, rfl, rfl⟩

/-- What the client says of the server was asked for only if it had to be. -/
theorem Client.Learns.consults {c c' : Client σ} {outcome : Except Error Capabilities}
    {steps : List Step} (h : c.Learns outcome steps) (hkept : c'.capabilities = outcome.toOption) :
    Consults c c' outcome (sentIn (steps.map Step.event)) := by
  cases h with
  | known hknown => exact .idle (hkept.trans hknown.symm)
  | @expected text hexpected =>
    -- an expected version is read from a text, and the server is not asked
    refine .settled (.inr ?_) List.not_mem_nil
    rw [hexpected]
    exact Option.some_ne_none text
  | unconnected hunknown _ hunconnected =>
    rw [hunconnected.tells.1]
    exact .idle (hkept.trans hunknown.symm)
  | asked hunknown hunexpected hasks =>
    -- the transaction was refused, or the question was put
    cases hasks with
    | refused failure => exact .idle (hkept.trans hunknown.symm)
    | asked reply =>
      revert hkept
      cases versionIn reply with
      | error error => exact .failed ⟨hunknown, hunexpected⟩
      | ok caps => exact .found ⟨hunknown, hunexpected⟩ List.not_mem_nil

/-- At most the client's own database is connected to, and that has an engine. -/
theorem Client.Learns.supplies {c c' : Client σ} {outcome : Except Error Capabilities}
    {steps : List Step} (h : c.Learns outcome steps) (hengines : c'.engines = c.engines)
    (hconfig : c'.config = c.config) : Supplies c c' [] (steps.map Step.event) := by
  have hown {events : List Event} (h : connectedIn events = [c.config.database]) :
      ∀ name ∈ connectedIn events, name = c.config.database := by
    rw [h]
    exact fun name hname => List.mem_singleton.1 hname
  cases h with
  | known _ => exact .of_own hengines hconfig rfl rfl fun _ h => absurd h List.not_mem_nil
  | expected _ => exact .of_own hengines hconfig rfl rfl fun _ h => absurd h List.not_mem_nil
  | unconnected _ _ hunconnected =>
    obtain ⟨-, hmade, hgivenUp, hconnected⟩ := hunconnected.tells
    exact .of_own hengines hconfig hmade hgivenUp (hown hconnected)
  | asked _ _ hasks =>
    cases hasks with
    | refused failure => exact .of_own hengines hconfig rfl rfl (hown rfl)
    | asked reply => exact .of_own hengines hconfig rfl rfl (hown rfl)

theorem runs_consulting (c : Client σ) :
    ∃ outcome steps c', Runs (Call.capabilities : Call σ Capabilities) c outcome steps c' ∧
      Consults c c' outcome (sentIn (steps.map Step.event)) ∧
      Supplies c c' [] (steps.map Step.event) ∧
      ∀ caps, outcome = .ok caps → c'.capabilities = some caps := by
  obtain ⟨outcome, steps, c', hrun, hlearns, hkept, hengines⟩ := runs_learning c
  refine ⟨outcome, steps, c', hrun, hlearns.consults hkept,
    hlearns.supplies hengines hrun.config, fun caps h => ?_⟩
  rw [hkept, h]
  rfl

/-- An engine is there, or is made. -/
theorem runs_supplying (database : Option String) (c : Client σ) :
    ∃ steps c', Runs (Call.engine database : Call σ Engine) c
        (.ok (c'.place (database.getD c.config.database))) steps c' ∧
      c'.capabilities = c.capabilities ∧ sentIn (steps.map Step.event) = [] ∧
      Supplies c c' database.toList (steps.map Step.event) := by
  simp only [Call.engine, Runs.get_bind]
  cases database with
  | none =>
    refine ⟨[], c, ?_, rfl, rfl, .refl c⟩
    rw [Option.getD_none, Client.place, if_pos rfl]
    exact Runs.pure Engine.own c
  | some name =>
    dsimp only [Option.getD_some]
    split
    next hown =>
      refine ⟨[], c, ?_, rfl, rfl, .of_there (.inl hown)⟩
      rw [Client.place, if_pos hown]
      exact Runs.pure Engine.own c
    next hother =>
      cases hplace : c.engines.idxOf? name with
      -- an engine that was made before is used again
      | some place =>
        have hidx : place < c.engines.length ∧ c.engines.idxOf name = place :=
          List.findIdx?_eq_some_iff_findIdx_eq.1 hplace
        have hmem : name ∈ c.engines := List.idxOf_lt_length_iff.1 (hidx.2.trans_lt hidx.1)
        refine ⟨[], c, ?_, rfl, rfl, .of_there (.inr hmem)⟩
        rw [Client.place, if_neg hother, hidx.2]
        exact Runs.pure (Engine.other place) c
      | none =>
        have hnew : name ∉ c.engines := List.idxOf?_eq_none_iff.1 hplace
        refine ⟨[⟨.engine name, none⟩], c.equipped name,
          ⟨?_, rfl, .single rfl, rfl, fun _ h => h⟩, rfl, rfl, .of_new hother hnew⟩
        rw [Client.place_equipped hother hnew]
        rfl

variable {work : Session σ α}

/-- Work on a connection is told what the client knows. -/
theorem runs_visiting (hwork : work.IsTold) {c : Client σ} {caps : Capabilities}
    (hc : c.capabilities = some caps) (database : String) :
    ∃ outcome steps c', Runs (Call.withConnection database (some caps) work) c outcome steps c' ∧
      c'.capabilities = some caps ∧ c'.engines = c.engines ∧
      Command.showVersion ∉ sentIn (steps.map Step.event) ∧ madeIn (steps.map Step.event) = [] ∧
      givenUpIn (steps.map Step.event) = [] ∧ connectedIn (steps.map Step.event) = [database] := by
  -- an attempt to connect is in the log once, whether it succeeds or not
  rcases unconnected_or c.config c.server database with
    ⟨error, steps, hunconnected⟩ | ⟨hconnect, hcheck⟩
  · obtain ⟨c', hrun, -, hcaps, hengines⟩ := Runs.withConnection_of_unconnected hunconnected
      (some caps) work
    obtain ⟨hsent, htold⟩ := hunconnected.tells
    refine ⟨_, _, c', hrun, hcaps.trans hc, hengines, ?_, htold⟩
    rw [hsent]
    exact List.not_mem_nil
  · obtain ⟨outcome, steps, connection, hleads, hsteps⟩ :=
      hwork (c.connection database (some caps)) caps rfl rfl
    -- the work itself connects to nothing and makes no engine
    have hcontained : Contained (steps.map Step.event) :=
      .of_isWork (List.forall_mem_map.2 hsteps)
    refine ⟨outcome, _, _, Runs.withConnection_of_opened hconnect hcheck hleads, hc, rfl, ?_, ?_,
      ?_, ?_⟩
    · rw [List.map_append, List.map_append, sentIn_append, sentIn_append]
      intro hmem
      rcases List.mem_append.1 hmem with hmem | hmem
      · exact (List.mem_append.1 hmem).elim List.not_mem_nil hcontained.sent
      · exact List.not_mem_nil hmem
    · rw [List.map_append, List.map_append, madeIn_append, madeIn_append, hcontained.made]
      rfl
    · rw [List.map_append, List.map_append, givenUpIn_append, givenUpIn_append,
        hcontained.givenUp]
      rfl
    · rw [List.map_append, List.map_append, connectedIn_append, connectedIn_append,
        hcontained.connected]
      rfl

end Clients

namespace Call.IsThrifty

theorem capabilities : IsThrifty (Call.capabilities : Call σ Capabilities) := by
  intro c
  obtain ⟨outcome, steps, c', hrun, hconsults, hsupplies, -⟩ := runs_consulting c
  exact ⟨outcome, steps, c', hrun, hconsults, hsupplies⟩

theorem connect {work : Session σ α} (hwork : work.IsTold) (database : Option String) :
    IsThrifty (Call.connect database work) := by
  intro c
  unfold Call.connect
  obtain ⟨found, first, c₁, hfound, hconsults, hsupplies, hcaps⟩ := runs_consulting c
  -- without capabilities the call is over before an engine is needed
  cases found with
  | error error => exact ⟨_, _, _, hfound.bind_error, hconsults.error, hsupplies⟩
  | ok caps =>
    obtain ⟨second, c₂, hengine, hsame, hsilent, hsupplies'⟩ := runs_supplying database c₁
    have hknown : c₁.capabilities = some caps := hcaps caps rfl
    obtain ⟨outcome, third, c₃, hvisit, hknown', hengines, hnever, hmade, hgivenUp, hconnected⟩ :=
      runs_visiting hwork (hsame.trans hknown) (database.getD c₂.config.database)
    have hconfig : c₂.config = c₁.config := hengine.config
    have hrest : Runs (do
        let _ ← Call.engine database
        let c ← get
        Call.withConnection (database.getD c.config.database) (some caps) work) c₁ outcome
        (second ++ third) c₃ := hengine.bind ((Runs.get c₂).bind hvisit)
    refine ⟨outcome, _, c₃, hfound.bind hrest, ?_, ?_⟩
    · rw [List.map_append, sentIn_append]
      refine hconsults.bind (.settled (.inl ?_) ?_) hfound.config hfound.known hrest.known
      · rw [hknown]
        exact Option.some_ne_none caps
      · rw [List.map_append, sentIn_append, hsilent, List.nil_append]
        exact hnever
    · -- the engine is for the database that is connected to
      have hvisited : Supplies c₂ c₃ [] (third.map Step.event) := by
        refine ⟨by rw [hengines, hmade, List.append_nil], ?_, hgivenUp, fun name hname => ?_, ?_⟩
        · unfold Client.HasDistinctEngines
          rw [hengines, hvisit.config]
          exact id
        · rw [List.nil_append, hconnected, List.mem_singleton] at hname
          subst hname
          rw [hengines, hconfig]
          cases database with
          | none => exact .inl rfl
          | some name => exact hsupplies'.wanted name (List.mem_append_left _ List.mem_cons_self)
        · rw [hmade]
          exact fun _ h => absurd h List.not_mem_nil
      -- the three parts together; what was asked for is what was connected to
      have hall := (hsupplies.trans (hsupplies'.trans hvisited hconfig) hfound.config)
      rw [← List.map_append, ← List.map_append] at hall
      refine hall.forget fun name hname => ?_
      rw [List.nil_append, List.append_nil, Option.mem_toList] at hname
      rw [List.map_append, List.map_append, connectedIn_append, connectedIn_append, hconnected,
        Option.mem_def.1 hname]
      exact List.mem_append_right _ (List.mem_append_right _ List.mem_cons_self)

end Call.IsThrifty

/-! ## 6. Every operation -/

namespace Call.IsThrifty

theorem needFeature (feature : Feature) (operation : String) :
    IsThrifty (Call.needFeature feature operation : Call σ Unit) :=
  capabilities.bind fun _ => .ofOutcome _

theorem needAll (gates : List Gate) : IsThrifty (Call.needAll gates : Call σ Unit) := by
  induction gates with
  | nil => exact .pure ()
  | cons gate rest ih => exact (needFeature _ _).bind fun _ => ih

/-- A look-up in a transaction of its own. -/
theorem lookUp {work : Session σ α} {related : α → α → Prop} (hasks : Asks work)
    (hmatches : ∀ caps, PgGrants.Matches .exact caps work work related)
    (database : Option String) : IsThrifty (Call.inDatabase database work) :=
  connect (hasks.isTold_transaction hmatches) database

/-- A job that is looked up and carried out. -/
theorem carryOut {lookUp : Session σ (Option Job)} (hasks : Asks lookUp)
    (hmatches : ∀ caps,
      PgGrants.Matches .exact caps lookUp lookUp (Option.Rel (Job.Alike .exact)))
    (database : Option String) :
    IsThrifty (Call.inDatabase database do Session.carryOut (← lookUp)) :=
  connect (hasks.isTold_carryOut hmatches) database

theorem hasDatabase (database : String) : IsThrifty (Call.hasDatabase database : Call σ Bool) :=
  lookUp (asks_hasObject trivial fun _ => trivial) (fun _ => matches_hasObject _ _ _) none

theorem needDatabase (database : String) : IsThrifty (Call.needDatabase database : Call σ Unit) :=
  (hasDatabase database).bind fun _ => .ite (.pure ()) (.throw _)

theorem whenThere {look : Call σ (Option α)} (database : String) (h : IsThrifty look) :
    IsThrifty (Call.whenThere database look) :=
  (hasDatabase database).bind fun _ => .ite h (.pure none)

end Call.IsThrifty

namespace DeclaredRights

open Call

theorem isThrifty_readBack (declared : DeclaredRights) :
    IsThrifty (declared.readBack : Call σ Report) := by
  -- each kind of declaration reads in its own way, and each only looks up
  cases declared with
  | grant declared =>
    have hfind : IsThrifty (Call.inDatabase (σ := σ) (some declared.database) declared.find) :=
      .lookUp declared.asks_find (fun _ => (DeclaredGrant.Alike.refl declared).matches_find) _
    exact (IsThrifty.holding _ _ (.whenThere _ hfind)).bind fun _ => .pure _
  | defaults declared =>
    have hfind : IsThrifty (Call.inDatabase (σ := σ) (some declared.database) declared.find) :=
      .lookUp declared.asks_find (fun _ => (DeclaredDefaults.Alike.refl declared).matches_find) _
    exact (IsThrifty.whenThere _ hfind).bind fun _ => .pure _
  | policy declared previous =>
    have hrow : IsThrifty (Call.inDatabase (σ := σ) (some declared.database) declared.readRow?) :=
      .lookUp (asks_readRow? declared)
        (fun _ => (DeclaredPolicy.Alike.refl declared).matches_readRow?) _
    exact (IsThrifty.whenThere _ (hrow.bind fun _ => .pure _)).bind fun _ => .pure _

theorem isThrifty_bringAbout (declared : DeclaredRights) :
    IsThrifty (declared.bringAbout : Call σ Unit) :=
  .holding _ _ ((IsThrifty.needDatabase _).bind fun _ =>
    .carryOut declared.asks_syncJob (fun _ => (Alike.refl declared).matches_syncJob) _)

theorem isThrifty_takeAway (declared : DeclaredRights) :
    IsThrifty (declared.takeAway : Call σ Unit) :=
  .holding _ _ ((IsThrifty.hasDatabase _).bind fun _ =>
    .ite (.carryOut declared.asks_revokeJob (fun _ => (Alike.refl declared).matches_revokeJob) _)
      (.pure ()))

theorem isThrifty_body (declared : DeclaredRights) (verb : Verb) :
    IsThrifty (declared.body verb : Call σ Report) := by
  cases verb with
  | read => exact declared.isThrifty_readBack
  | revoke => exact declared.isThrifty_takeAway.bind fun _ => .pure Report.done
  | sync =>
    exact declared.isThrifty_bringAbout.bind fun _ => (IsThrifty.needAll _).bind fun _ =>
      declared.isThrifty_readBack

end DeclaredRights

/-- A call that ends at once is thrifty. -/
theorem Call.IsThrifty.of_refused {call : Call σ α} {error : Error}
    (h : ∀ c, Runs call c (.error error) [] c) : IsThrifty call :=
  fun c => ⟨_, _, _, h c, .idle rfl, .refl c⟩

theorem RightsRequest.isThrifty (request : RightsRequest) (verb : Verb) :
    Call.IsThrifty (request.run verb : Call σ Report) := by
  cases hcheck : request.check with
  | error cause => exact .of_refused (request.runs_invalid hcheck verb)
  | ok declared =>
    rw [request.run_eq hcheck]
    exact (Call.IsThrifty.needAll _).bind fun _ => declared.isThrifty_body verb

theorem MembershipRequest.isThrifty (r : MembershipRequest) (verb : Verb) :
    Call.IsThrifty (r.run verb : Call σ Unit) := by
  -- reading is the last part of a sync as well
  have hread : Call.IsThrifty (r.read (σ := σ)) := by
    refine (Call.IsThrifty.ofOutcome _).bind fun declared => ?_
    have hobserve : Call.IsThrifty (Call.inDatabase (σ := σ) none declared.observe) :=
      .lookUp (asks_observe declared) (fun _ => declared.matches_observe) none
    exact (hobserve.holding true .read).bind fun _ => .pure _
  cases verb with
  | read => exact hread.bind fun _ => .pure ()
  | sync =>
    show Call.IsThrifty (do let _ ← r.sync)
    rw [r.sync_eq]
    refine Call.IsThrifty.bind ((Call.IsThrifty.ofOutcome _).bind fun declared => ?_) fun _ =>
      .pure ()
    exact (Call.IsThrifty.holding true .write (.carryOut declared.asks_syncJob
      (fun _ => declared.matches_syncJob) none)).bind fun _ => hread
  | revoke =>
    show Call.IsThrifty r.revoke
    rw [r.revoke_eq]
    refine (Call.IsThrifty.ofOutcome _).bind fun declared => ?_
    exact .holding true .write (.carryOut declared.asks_revokeJob
      (fun _ => declared.matches_revokeJob) none)

theorem Operation.isThrifty (operation : Operation) :
    Call.IsThrifty (operation.run : Call σ Unit) := by
  cases operation with
  | rights verb request => exact (request.isThrifty verb).bind fun _ => .pure ()
  | membership verb request => exact request.isThrifty verb

end PgGrants
