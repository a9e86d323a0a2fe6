/-
What is said during work on a connection. A step of a run tells what was asked of the server and
whether it failed; an exchange tells the whole reply. As with failures, the log holds the events
only, and asking the server the same things again in the same order gives the replies as well.

`Hears` says of some work that every run of it inside a transaction has an outcome and exchanges of
a certain kind, and its rules follow the ways in which work is put together, as those of `Does` do.
`Throughout` says of everything in a list that it fits what came before it.
-/
import PgGrants.Proofs.Steps

set_option autoImplicit false

namespace PgGrants

/-! ## 1. Exchanges -/

/-- Something that happened, and what the server replied to it. -/
structure Exchange where
  event : Event
  reply : Reply

/-- The exchange as a step. -/
def Exchange.step (x : Exchange) : Step := ⟨x.event, x.reply.failure?⟩

/-- A reply without rows, to what can only fail or not. -/
def Reply.ofFailure (failure : Option Failure) : Reply := failure.elim (.rows []) .failed

theorem Reply.failure?_ofFailure (failure : Option Failure) :
    (ofFailure failure).failure? = failure := by
  cases failure <;> rfl

section Conversation

variable {σ : Type} [Server σ]

/-- The reply of a server to what an event asks of it, and its state afterwards. Only connections,
commands and boundaries ask anything of it. -/
def Event.replied (event : Event) (server : σ) : Reply × σ :=
  match event with
  | .sent command _ => Server.answer command server
  | .boundary mark => (.ofFailure (Server.bound mark server).1, (Server.bound mark server).2)
  | .connect database =>
    (.ofFailure (Server.connect database server).1, (Server.connect database server).2)
  | _ => (.rows [], server)

/-- The exchanges with a server along the events. -/
def converse : List Event → σ → List Exchange
  | [], _ => []
  | event :: rest, server =>
    ⟨event, (event.replied server).1⟩ :: converse rest (event.replied server).2

theorem replied_eq_served (event : Event) (server : σ) :
    (event.replied server).1.failure? = (event.served server).1 ∧
      (event.replied server).2 = (event.served server).2 := by
  cases event with
  | boundary | connect => exact ⟨Reply.failure?_ofFailure _, rfl⟩
  | _ => exact ⟨rfl, rfl⟩

/-- The exchanges are the steps, with the replies. -/
theorem map_step_converse (events : List Event) (server : σ) :
    (converse events server).map Exchange.step = (replay events server).1 := by
  induction events generalizing server with
  | nil => rfl
  | cons event rest ih =>
    obtain ⟨hfailure, hserver⟩ := replied_eq_served event server
    rw [converse, replay_cons, List.map_cons, ih, hserver, Exchange.step, hfailure]

theorem map_event_converse (events : List Event) (server : σ) :
    (converse events server).map Exchange.event = events := by
  induction events generalizing server with
  | nil => rfl
  | cons event rest ih => rw [converse, List.map_cons, ih]

/-- Exchanges that a server has had are a run of it. -/
theorem follows_of_converse {exchanges : List Exchange} {server : σ}
    (hreplies : converse (exchanges.map Exchange.event) server = exchanges) :
    Follows server (exchanges.map Exchange.step)
      (replay (exchanges.map Exchange.event) server).2 := by
  unfold Follows
  rw [List.map_map]
  show replay (exchanges.map Exchange.event) server = _
  exact Prod.ext (by rw [← map_step_converse, hreplies]) rfl

theorem converse_append (first second : List Event) (server : σ) :
    converse (first ++ second) server =
      converse first server ++ converse second (replay first server).2 := by
  -- the second half starts from the state that the first half leaves
  induction first generalizing server with
  | nil => rfl
  | cons event rest ih =>
    rw [List.cons_append, converse, converse, ih, replay_cons, (replied_eq_served event server).2]
    rfl

end Conversation

/-! ## 2. Every run inside a transaction -/

variable {σ α β : Type} [Server σ]

/-- Inside a transaction every run of the work ends with a result and exchanges of the given kind,
and the transaction is still open then. -/
def Hears (work : Talk σ β) (kind : β → List Exchange → Prop) : Prop :=
  ∀ c : Connection σ, c.inTransaction = true → ∃ result steps c',
    Leads work c result steps c' ∧ c'.inTransaction = true ∧
      kind result (converse (steps.map Step.event) c.server)

/-- What is known of all steps is known of all exchanges. -/
theorem Does.hears {work : Talk σ β} {kind : β → List Step → Prop} (h : Does work kind) :
    Hears work fun result exchanges => kind result (exchanges.map Exchange.step) := by
  intro c hc
  obtain ⟨result, steps, c', hrun, hc', hkind⟩ := h c hc
  refine ⟨result, steps, c', hrun, hc', ?_⟩
  have hsteps : replay (steps.map Step.event) c.server = (steps, c'.server) := hrun.server
  show kind result ((converse (steps.map Step.event) c.server).map Exchange.step)
  rw [map_step_converse, hsteps]
  exact hkind

/-- Exchanges of some kind are steps. -/
theorem Hears.does {work : Talk σ β} {kind : β → List Exchange → Prop} (h : Hears work kind) :
    Does work fun result steps => ∃ exchanges, steps = exchanges.map Exchange.step ∧
      kind result exchanges := by
  intro c hc
  obtain ⟨result, steps, c', hrun, hc', hkind⟩ := h c hc
  refine ⟨result, steps, c', hrun, hc', _, ?_, hkind⟩
  have hsteps : replay (steps.map Step.event) c.server = (steps, c'.server) := hrun.server
  rw [map_step_converse, hsteps]

namespace Hears

theorem mono {work : Talk σ β} {kind kind' : β → List Exchange → Prop} (h : Hears work kind)
    (himp : ∀ b exchanges, kind b exchanges → kind' b exchanges) : Hears work kind' := by
  intro c hc
  obtain ⟨b, steps, c', hrun, hc', hkind⟩ := h c hc
  exact ⟨b, steps, c', hrun, hc', himp b _ hkind⟩

/-- Work that goes the same on every connection is of the same kind. -/
theorem congr {work work' : Talk σ β} {kind : β → List Exchange → Prop} (h : Hears work kind)
    (heq : ∀ c, work'.exec c = work.exec c) : Hears work' kind := by
  intro c hc
  obtain ⟨b, steps, c', hrun, hc', hkind⟩ := h c hc
  exact ⟨b, steps, c', ⟨(heq c).trans hrun.exec, hrun.log, hrun.server⟩, hc', hkind⟩

theorem pure {b : β} {kind : β → List Exchange → Prop} (h : kind b []) :
    Hears (Pure.pure b : Talk σ β) kind :=
  fun c hc => ⟨b, [], c, Leads.pure b c, hc, h⟩

/-- The exchanges of the second half come after those of the first. -/
theorem bind {work : Talk σ α} {next : α → Talk σ β} {first : α → List Exchange → Prop}
    {kind : β → List Exchange → Prop} (hwork : Hears work first)
    (hnext : ∀ a exchanges, first a exchanges →
      Hears (next a) fun b rest => kind b (exchanges ++ rest)) :
    Hears (work >>= next) kind := by
  intro c hc
  obtain ⟨a, steps, c₁, hrun, hc₁, hfirst⟩ := hwork c hc
  obtain ⟨b, rest, c₂, hrun', hc₂, hkind⟩ := hnext a _ hfirst c₁ hc₁
  refine ⟨b, steps ++ rest, c₂, hrun.bind hrun', hc₂, ?_⟩
  have hsteps : replay (steps.map Step.event) c.server = (steps, c₁.server) := hrun.server
  rw [List.map_append, converse_append, hsteps]
  exact hkind

theorem map {work : Talk σ α} {f : α → β} {kind : β → List Exchange → Prop}
    (h : Hears work fun a exchanges => kind (f a) exchanges) : Hears (f <$> work) kind := by
  intro c hc
  obtain ⟨a, steps, c', hrun, hc', hkind⟩ := h c hc
  refine ⟨f a, steps, c', ⟨?_, hrun.log, hrun.server⟩, hc', hkind⟩
  rw [Talk.exec_map, hrun.exec]

/-- What follows a success is the second half; a failure ends the run. -/
theorem bind_run {work : Session σ α} {next : α → Session σ β}
    {first : Except Error α → List Exchange → Prop} {kind : Except Error β → List Exchange → Prop}
    (hwork : Hears work.run first)
    (hok : ∀ a exchanges, first (.ok a) exchanges →
      Hears (next a).run fun outcome rest => kind outcome (exchanges ++ rest))
    (herror : ∀ error exchanges, first (.error error) exchanges → kind (.error error) exchanges) :
    Hears (work >>= next).run kind := by
  rw [ExceptT.run_bind]
  refine hwork.bind fun outcome exchanges h => ?_
  -- after a failure the rest is skipped and adds nothing
  cases outcome with
  | ok a => exact hok a exchanges h
  | error error => exact pure (by rw [List.append_nil]; exact herror error exchanges h)

theorem attempt {work : Session σ α} {kind : Except Error α → List Exchange → Prop}
    (h : Hears work.run kind) :
    Hears (Session.attempt work).run fun outcome exchanges =>
      ∃ tried, outcome = .ok tried ∧ kind tried exchanges := by
  intro c hc
  obtain ⟨tried, steps, c', hrun, hc', hkind⟩ := h c hc
  refine ⟨.ok tried, steps, c', ⟨?_, hrun.log, hrun.server⟩, hc', tried, rfl, hkind⟩
  rw [← Session.exec_eq, Session.exec_attempt, Session.exec_eq, hrun.exec]

/-- A command is sent and answered, unless it cannot be written. -/
theorem send {command : Command} {kind : Except Error (List (List Value)) → List Exchange → Prop}
    (hsent : ∀ sql reply, command.sql = .ok sql →
      kind (Session.rowsOf reply) [⟨.sent command sql, reply⟩])
    (hunwritable : ∀ fault, command.sql = .error fault → kind (.error (.unwritable fault)) []) :
    Hears (Session.send command : Session σ (List (List Value))).run kind := by
  intro c hc
  -- only what can be written is sent and heard
  cases hsql : command.sql with
  | error fault =>
    exact ⟨_, [], c, ⟨Session.exec_send_unwritable hsql c, (List.append_nil _).symm, .nil _⟩, hc,
      hunwritable fault hsql⟩
  | ok sql =>
    exact ⟨_, [⟨.sent command sql, _⟩], _, ⟨Session.exec_send hsql hc, rfl, .single rfl⟩, hc,
      hsent sql _ hsql⟩

end Hears

/-! ## 3. What comes before -/

/-- Everything in the list is as it should be after what stands before it. -/
def Throughout {γ : Type} (fits : List γ → γ → Prop) (l : List γ) : Prop :=
  ∀ earlier x later, l = earlier ++ x :: later → fits earlier x

namespace Throughout

variable {γ : Type} {fits fits' : List γ → γ → Prop} {l m : List γ}

theorem of_forall (h : ∀ x ∈ l, ∀ earlier, fits earlier x) : Throughout fits l := by
  rintro earlier x later rfl
  exact h x (List.mem_append_right _ List.mem_cons_self) earlier

theorem nil : Throughout fits [] := of_forall (List.forall_mem_nil _)

theorem mono (h : Throughout fits l) (himp : ∀ earlier x, fits earlier x → fits' earlier x) :
    Throughout fits' l :=
  fun earlier x later heq => himp earlier x (h earlier x later heq)

theorem exists_of_mem (h : Throughout fits l) {x : γ} (hx : x ∈ l) :
    ∃ earlier, fits earlier x := by
  obtain ⟨earlier, later, heq⟩ := List.append_of_mem hx
  exact ⟨earlier, h earlier x later heq⟩

theorem single {x : γ} (h : fits [] x) : Throughout fits [x] := by
  intro earlier y later heq
  cases earlier with
  | nil =>
    obtain ⟨rfl, -⟩ := List.cons.inj heq
    exact h
  | cons z earlier => simp at heq

/-- Before the second half stands all of the first. -/
theorem append (hfirst : Throughout fits l)
    (hsecond : Throughout (fun earlier x => fits (l ++ earlier) x) m) :
    Throughout fits (l ++ m) := by
  intro earlier x later heq
  -- the exchange is in the second list or in the first
  rcases List.append_eq_append_iff.1 heq with ⟨between, rfl, hm⟩ | ⟨between, rfl, hrest⟩
  · exact hsecond between x later hm
  · cases between with
    | nil =>
      have hfits := hsecond [] x later hrest.symm
      rw [List.append_nil, List.append_nil] at hfits
      exact hfits
    | cons y between =>
      obtain ⟨rfl, -⟩ := List.cons.inj hrest
      exact hfirst earlier x between rfl

end Throughout

end PgGrants
