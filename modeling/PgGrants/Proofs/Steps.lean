/-
What happens during work on a connection, step by step. A step is an event of the log together with
how the server failed to do what was asked of it. The log holds the events only; since nothing else
reaches the server, asking it the same things again in the same order gives the failures as well.

`Leads` says of one run what its outcome is and which steps it takes; `Does` says of some work that
every run of it inside a transaction has an outcome and steps of a certain kind. The rules for
`Does` follow the ways in which work is put together, so a fact about all runs of an operation is
proved along its definition.
-/
import PgGrants.Proofs.Run

set_option autoImplicit false

namespace PgGrants

/-! ## Steps -/

/-- Something that happened, and how the server failed to do it, if it failed. -/
structure Step where
  event : Event
  failure : Option Failure

/-- The failure that a reply reports, if it reports one. -/
def Reply.failure? : Reply → Option Failure
  | .rows _ => none
  | .failed failure => some failure

/-- The server did everything that was asked of it. -/
abbrev Accepted (steps : List Step) : Prop := ∀ step ∈ steps, step.failure = none

theorem Accepted.nil : Accepted [] := fun _ h => absurd h List.not_mem_nil

theorem Accepted.append {first second : List Step} (hfirst : Accepted first)
    (hsecond : Accepted second) : Accepted (first ++ second) :=
  List.forall_mem_append.2 ⟨hfirst, hsecond⟩

section Replay

variable {σ : Type} [Server σ]

/-- How the server fails to do what an event asks of it, if it fails, and its state afterwards. Only
connections, commands and boundaries ask anything of it. -/
def Event.served (event : Event) (server : σ) : Option Failure × σ :=
  match event with
  | .sent command _ =>
    ((Server.answer command server).1.failure?, (Server.answer command server).2)
  | .boundary mark => Server.bound mark server
  | .connect database => Server.connect database server
  | _ => (none, server)

/-- The steps that a server takes along the events, and its state after them. -/
def replay : List Event → σ → List Step × σ
  | [], server => ([], server)
  | event :: rest, server =>
    let (failure, next) := event.served server
    let (steps, last) := replay rest next
    (⟨event, failure⟩ :: steps, last)

theorem replay_cons (event : Event) (rest : List Event) (server : σ) :
    replay (event :: rest) server =
      (⟨event, (event.served server).1⟩ :: (replay rest (event.served server).2).1,
        (replay rest (event.served server).2).2) := rfl

theorem replay_append (first second : List Event) (server : σ) :
    replay (first ++ second) server =
      ((replay first server).1 ++ (replay second (replay first server).2).1,
        (replay second (replay first server).2).2) := by
  -- the second half starts from the state that the first half leaves
  induction first generalizing server with
  | nil => rfl
  | cons event rest ih =>
    rw [List.cons_append, replay_cons, ih, replay_cons]
    rfl

/-- The steps lead the server from one state to another. -/
def Follows (server : σ) (steps : List Step) (server' : σ) : Prop :=
  replay (steps.map Step.event) server = (steps, server')

theorem Follows.nil (server : σ) : Follows server [] server := rfl

theorem Follows.append {s t u : σ} {first second : List Step} (hfirst : Follows s first t)
    (hsecond : Follows t second u) : Follows s (first ++ second) u := by
  unfold Follows at hfirst hsecond ⊢
  rw [List.map_append, replay_append, hfirst]
  dsimp only
  rw [hsecond]

theorem Follows.single {server : σ} {event : Event} {failure : Option Failure} {server' : σ}
    (h : event.served server = (failure, server')) :
    Follows server [⟨event, failure⟩] server' := by
  unfold Follows
  rw [List.map_cons, List.map_nil, replay_cons, h]
  rfl

end Replay

/-! ## One run -/

variable {σ α β : Type} [Server σ]

/-- From `c` the work ends in `c'` with the result, and the steps are what happens on the way. -/
structure Leads (work : Talk σ β) (c : Connection σ) (result : β) (steps : List Step)
    (c' : Connection σ) : Prop where
  exec : work.exec c = (result, c')
  log : c'.log = c.log ++ steps.map Step.event
  server : Follows c.server steps c'.server

namespace Leads

theorem pure (b : β) (c : Connection σ) : Leads (Pure.pure b) c b [] c :=
  ⟨Talk.exec_pure b c, (List.append_nil _).symm, Follows.nil _⟩

theorem bind {work : Talk σ α} {next : α → Talk σ β} {a : α} {b : β} {first second : List Step}
    {c c₁ c₂ : Connection σ} (hwork : Leads work c a first c₁)
    (hnext : Leads (next a) c₁ b second c₂) :
    Leads (work >>= next) c b (first ++ second) c₂ where
  exec := by rw [Talk.exec_bind_of hwork.exec, hnext.exec]
  log := by rw [hnext.log, hwork.log, List.map_append, List.append_assoc]
  server := hwork.server.append hnext.server

theorem bind_ok {work : Session σ α} {next : α → Session σ β} {a : α} {outcome : Except Error β}
    {first second : List Step} {c c₁ c₂ : Connection σ} (hwork : Leads work.run c (.ok a) first c₁)
    (hnext : Leads (next a).run c₁ outcome second c₂) :
    Leads (work >>= next).run c outcome (first ++ second) c₂ := by
  rw [ExceptT.run_bind]
  exact hwork.bind hnext

theorem bind_error {work : Session σ α} {next : α → Session σ β} {error : Error}
    {steps : List Step} {c c' : Connection σ} (hwork : Leads work.run c (.error error) steps c') :
    Leads (work >>= next).run c (.error error) steps c' :=
  ⟨Session.exec_bind_error hwork.exec, hwork.log, hwork.server⟩

theorem attempt {work : Session σ α} {outcome : Except Error α} {steps : List Step}
    {c c' : Connection σ} (hwork : Leads work.run c outcome steps c') :
    Leads (Session.attempt work).run c (.ok outcome) steps c' := by
  refine ⟨?_, hwork.log, hwork.server⟩
  rw [← Session.exec_eq, Session.exec_attempt, Session.exec_eq, hwork.exec]

/-- A run has one result and one sequence of steps. -/
theorem unique {work : Talk σ β} {c c' c'' : Connection σ} {b b' : β} {steps steps' : List Step}
    (h : Leads work c b steps c') (h' : Leads work c b' steps' c'') : b = b' ∧ steps = steps' := by
  obtain ⟨rfl, rfl⟩ := Prod.mk.inj (h.exec.symm.trans h'.exec)
  have hevents : steps.map Step.event = steps'.map Step.event :=
    List.append_cancel_left (h.log.symm.trans h'.log)
  -- the same events of the same server fail in the same way
  have hsame : (steps, c'.server) = (steps', c'.server) := by
    rw [← show replay (steps.map Step.event) c.server = (steps, c'.server) from h.server, hevents]
    exact h'.server
  exact ⟨rfl, (Prod.mk.inj hsame).1⟩

end Leads

/-! ## Every run inside a transaction -/

/-- Inside a transaction every run of the work ends with a result and steps of the given kind, and
the transaction is still open then. -/
def Does (work : Talk σ β) (kind : β → List Step → Prop) : Prop :=
  ∀ c : Connection σ, c.inTransaction = true → ∃ result steps c',
    Leads work c result steps c' ∧ c'.inTransaction = true ∧ kind result steps

namespace Does

theorem mono {work : Talk σ β} {kind kind' : β → List Step → Prop} (h : Does work kind)
    (himp : ∀ b steps, kind b steps → kind' b steps) : Does work kind' := by
  intro c hc
  obtain ⟨b, steps, c', hrun, hc', hkind⟩ := h c hc
  exact ⟨b, steps, c', hrun, hc', himp b steps hkind⟩

/-- Work that goes the same on every connection is of the same kind. -/
theorem congr {work work' : Talk σ β} {kind : β → List Step → Prop} (h : Does work kind)
    (heq : ∀ c, work'.exec c = work.exec c) : Does work' kind := by
  intro c hc
  obtain ⟨b, steps, c', hrun, hc', hkind⟩ := h c hc
  exact ⟨b, steps, c', ⟨(heq c).trans hrun.exec, hrun.log, hrun.server⟩, hc', hkind⟩

theorem pure {b : β} {kind : β → List Step → Prop} (h : kind b []) :
    Does (Pure.pure b : Talk σ β) kind :=
  fun c hc => ⟨b, [], c, Leads.pure b c, hc, h⟩

/-- The steps of the second half come after those of the first. -/
theorem bind {work : Talk σ α} {next : α → Talk σ β} {first : α → List Step → Prop}
    {kind : β → List Step → Prop} (hwork : Does work first)
    (hnext : ∀ a steps, first a steps → Does (next a) fun b rest => kind b (steps ++ rest)) :
    Does (work >>= next) kind := by
  intro c hc
  obtain ⟨a, steps, c₁, hrun, hc₁, hfirst⟩ := hwork c hc
  obtain ⟨b, rest, c₂, hrun', hc₂, hkind⟩ := hnext a steps hfirst c₁ hc₁
  exact ⟨b, steps ++ rest, c₂, hrun.bind hrun', hc₂, hkind⟩

theorem map {work : Talk σ α} {f : α → β} {kind : β → List Step → Prop}
    (h : Does work fun a steps => kind (f a) steps) : Does (f <$> work) kind := by
  intro c hc
  obtain ⟨a, steps, c', hrun, hc', hkind⟩ := h c hc
  refine ⟨f a, steps, c', ⟨?_, hrun.log, hrun.server⟩, hc', hkind⟩
  rw [Talk.exec_map, hrun.exec]

/-- What follows a success is the second half; a failure ends the run. -/
theorem bind_run {work : Session σ α} {next : α → Session σ β}
    {first : Except Error α → List Step → Prop} {kind : Except Error β → List Step → Prop}
    (hwork : Does work.run first)
    (hok : ∀ a steps, first (.ok a) steps →
      Does (next a).run fun outcome rest => kind outcome (steps ++ rest))
    (herror : ∀ error steps, first (.error error) steps → kind (.error error) steps) :
    Does (work >>= next).run kind := by
  rw [ExceptT.run_bind]
  refine hwork.bind fun outcome steps h => ?_
  -- after a failure the rest is skipped and adds no steps
  cases outcome with
  | ok a => exact hok a steps h
  | error error => exact pure (by rw [List.append_nil]; exact herror error steps h)

theorem attempt {work : Session σ α} {kind : Except Error α → List Step → Prop}
    (h : Does work.run kind) :
    Does (Session.attempt work).run fun outcome steps =>
      ∃ tried, outcome = .ok tried ∧ kind tried steps := by
  intro c hc
  obtain ⟨tried, steps, c', hrun, hc', hkind⟩ := h c hc
  refine ⟨.ok tried, steps, c', ⟨?_, hrun.log, hrun.server⟩, hc', tried, rfl, hkind⟩
  rw [← Session.exec_eq, Session.exec_attempt, Session.exec_eq, hrun.exec]

/-! ### Primitives -/

theorem record {event : Event} {kind : Except Error Unit → List Step → Prop}
    (hevent : ∀ server : σ, event.served server = (none, server))
    (h : kind (.ok ()) [⟨event, none⟩]) :
    Does (Session.record event : Session σ Unit).run kind := by
  intro c hc
  exact ⟨_, _, _, ⟨Session.exec_record event c, rfl, .single (hevent c.server)⟩, hc, h⟩

theorem boundary {mark : Boundary} {kind : Except Error Unit → List Step → Prop}
    (h : ∀ failure, kind (Session.outcomeOf failure) [⟨.boundary mark, failure⟩]) :
    Does (Session.boundary mark : Session σ Unit).run kind := by
  intro c hc
  exact ⟨_, _, _, ⟨Session.exec_boundary mark c, rfl, .single rfl⟩, hc, h _⟩

theorem send {command : Command} {kind : Except Error (List (List Value)) → List Step → Prop}
    (hrows : ∀ rows sql, kind (.ok rows) [⟨.sent command sql, none⟩])
    (hfailed : ∀ failure sql,
      kind (.error failure.error) [⟨.sent command sql, some failure⟩])
    (hunwritable : ∀ fault, kind (.error (.unwritable fault)) []) :
    Does (Session.send command : Session σ (List (List Value))).run kind := by
  intro c hc
  -- a command that cannot be written leaves no trace
  cases hsql : command.sql with
  | error fault =>
    exact ⟨_, [], c, ⟨Session.exec_send_unwritable hsql c, (List.append_nil _).symm, .nil _⟩, hc,
      hunwritable fault⟩
  | ok sql =>
    refine ⟨_, [⟨.sent command sql, _⟩], _, ⟨Session.exec_send hsql hc, rfl, .single rfl⟩, hc, ?_⟩
    cases (Server.answer command c.server).1 with
    | rows rows => exact hrows rows sql
    | failed failure => exact hfailed failure sql

theorem ensureTransaction {kind : Except Error Unit → List Step → Prop} (h : kind (.ok ()) []) :
    Does (Session.ensureTransaction : Session σ Unit).run kind :=
  fun c hc => ⟨_, [], c,
    ⟨Session.exec_ensureTransaction hc, (List.append_nil _).symm, .nil _⟩, hc, h⟩

end Does

end PgGrants
