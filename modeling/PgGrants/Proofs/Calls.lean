/-
Calls of a client. A call is a function from the client to an outcome and the client afterwards. As
with work on one connection, a run is described by the steps it adds to the log; a client never
changes what it was made with, and does not forget what it knows of the server.

`Inquires` says that a call changes nothing on the server, whatever comes of it: every command that
it sends is a question.
-/
import PgGrants.Converge.Requirement
import PgGrants.Proofs.Lookups
import PgGrants.Proofs.Transaction

set_option autoImplicit false

namespace PgGrants

variable {σ α β : Type}

/-- The outcome of the call, and the client after it. -/
def Call.exec (call : Call σ α) (c : Client σ) : Except Error α × Client σ := call.run.run c

namespace Call

theorem exec_bind (call : Call σ α) (next : α → Call σ β) (c : Client σ) :
    exec (call >>= next) c =
      match exec call c with
      | (.ok a, c') => exec (next a) c'
      | (.error error, c') => (.error error, c') := by
  unfold exec
  rw [ExceptT.run_bind, StateT.run_bind]
  show (match call.run.run c with | (outcome, c') => _ : Except Error β × Client σ) = _
  rcases call.run.run c with ⟨_ | _, c'⟩ <;> rfl

theorem exec_bind_ok {call : Call σ α} {next : α → Call σ β} {c c' : Client σ} {a : α}
    (h : exec call c = (.ok a, c')) : exec (call >>= next) c = exec (next a) c' := by
  rw [exec_bind, h]

theorem exec_bind_error {call : Call σ α} {next : α → Call σ β} {c c' : Client σ}
    {error : Error} (h : exec call c = (.error error, c')) :
    exec (call >>= next) c = (.error error, c') := by
  rw [exec_bind, h]

/-- A call of two halves that succeeds has a first half that does. -/
theorem exec_bind_eq_ok {call : Call σ α} {next : α → Call σ β} {c c' : Client σ} {b : β}
    (hrun : exec (call >>= next) c = (.ok b, c')) :
    ∃ a c₁, exec call c = (.ok a, c₁) ∧ exec (next a) c₁ = (.ok b, c') := by
  rw [exec_bind] at hrun
  rcases hcall : exec call c with ⟨_ | a, c₁⟩
  · simp [hcall] at hrun
  · rw [hcall] at hrun
    exact ⟨a, c₁, rfl, hrun⟩

theorem exec_attempt (call : Call σ α) (c : Client σ) :
    exec (attempt call) c = (.ok (exec call c).1, (exec call c).2) := rfl

end Call

/-- The client after an event that asks nothing of the server. -/
def Client.noted (c : Client σ) (event : Event) : Client σ := { c with log := c.log ++ [event] }

variable [Server σ]

/-- The client after it has asked for a connection to the database. -/
def Client.asked (c : Client σ) (database : String) : Client σ :=
  { c.noted (.connect database) with server := (Server.connect database c.server).2 }

/-! ## One run -/

/-- From `c` the call ends in `c'` with the outcome, and the steps are what happens on the way. -/
structure Runs (call : Call σ α) (c : Client σ) (outcome : Except Error α) (steps : List Step)
    (c' : Client σ) : Prop where
  exec : call.exec c = (outcome, c')
  log : c'.log = c.log ++ steps.map Step.event
  server : Follows c.server steps c'.server
  config : c'.config = c.config
  known : ∀ caps, c.capabilities = some caps → c'.capabilities = some caps

namespace Runs

variable {c c₁ c₂ : Client σ} {first second : List Step}

theorem pure (a : α) (c : Client σ) : Runs (Pure.pure a) c (.ok a) [] c :=
  ⟨rfl, (List.append_nil _).symm, .nil _, rfl, fun _ h => h⟩

theorem ofOutcome (outcome : Except Error α) (c : Client σ) :
    Runs (Call.ofOutcome outcome) c outcome [] c :=
  ⟨rfl, (List.append_nil _).symm, .nil _, rfl, fun _ h => h⟩

theorem get (c : Client σ) : Runs (MonadState.get : Call σ (Client σ)) c (.ok c) [] c :=
  ⟨rfl, (List.append_nil _).symm, .nil _, rfl, fun _ h => h⟩

/-- An event that asks nothing of the server. -/
theorem record {event : Event} (c : Client σ)
    (hevent : ∀ server : σ, event.served server = (none, server)) :
    Runs (Call.record event) c (.ok ()) [⟨event, none⟩] (c.noted event) :=
  ⟨rfl, rfl, .single (hevent _), rfl, fun _ h => h⟩

theorem attempt {call : Call σ α} {outcome : Except Error α}
    (h : Runs call c outcome first c₁) :
    Runs (Call.attempt call) c (.ok outcome) first c₁ :=
  ⟨by rw [Call.exec_attempt, h.exec], h.log, h.server, h.config, h.known⟩

theorem bind {call : Call σ α} {next : α → Call σ β} {a : α} {outcome : Except Error β}
    (hcall : Runs call c (.ok a) first c₁) (hnext : Runs (next a) c₁ outcome second c₂) :
    Runs (call >>= next) c outcome (first ++ second) c₂ where
  exec := by rw [Call.exec_bind_ok hcall.exec, hnext.exec]
  log := by rw [hnext.log, hcall.log, List.map_append, List.append_assoc]
  server := hcall.server.append hnext.server
  config := hnext.config.trans hcall.config
  known caps h := hnext.known caps (hcall.known caps h)

theorem bind_error {call : Call σ α} {next : α → Call σ β} {error : Error}
    (hcall : Runs call c (.error error) first c₁) :
    Runs (call >>= next) c (.error error) first c₁ :=
  ⟨Call.exec_bind_error hcall.exec, hcall.log, hcall.server, hcall.config, hcall.known⟩

/-- To look at the client first is no step of its own. -/
theorem get_bind {next : Client σ → Call σ α} {outcome : Except Error α} :
    Runs (MonadState.get >>= next) c outcome first c₁ ↔ Runs (next c) c outcome first c₁ := by
  have hexec : Call.exec (MonadState.get >>= next) c = Call.exec (next c) c :=
    Call.exec_bind_ok (get c).exec
  constructor
  · exact fun h => ⟨hexec ▸ h.exec, h.log, h.server, h.config, h.known⟩
  · exact fun h => ⟨hexec.trans h.exec, h.log, h.server, h.config, h.known⟩

/-- Whatever the work comes to, the event follows it. -/
theorem followedBy {call : Call σ α} {outcome : Except Error α} {closing : Event}
    (hclosing : ∀ server : σ, closing.served server = (none, server))
    (h : Runs call c outcome first c₁) :
    Runs (Call.followedBy closing call) c outcome (first ++ ([⟨closing, none⟩] ++ []))
      (c₁.noted closing) :=
  h.attempt.bind ((record c₁ hclosing).bind (ofOutcome outcome _))

theorem between {call : Call σ α} {outcome : Except Error α} {opening closing : Event}
    (hopening : ∀ server : σ, opening.served server = (none, server))
    (hclosing : ∀ server : σ, closing.served server = (none, server))
    (h : Runs call (c.noted opening) outcome first c₁) :
    Runs (Call.between opening closing call) c outcome
      ([⟨opening, none⟩] ++ (first ++ ([⟨closing, none⟩] ++ [])))
      (c₁.noted closing) :=
  (record c hopening).bind (h.followedBy hclosing)

/-- A connection is asked for, and the server lets it be opened or does not. -/
theorem openConnection (database : String) (c : Client σ) :
    Runs (Call.openConnection database) c (Session.outcomeOf (Server.connect database c.server).1)
      [⟨.connect database, (Server.connect database c.server).1⟩] (c.asked database) where
  exec := by
    have hnoted : Call.exec (Call.record (.connect database)) c =
        (.ok (), c.noted (.connect database)) := rfl
    unfold Call.openConnection
    rw [Call.exec_bind_ok hnoted, Call.exec_bind_ok (get _).exec]
    unfold Client.asked Client.noted
    dsimp only
    -- the client keeps the server's new state whether the connection was opened or not
    rcases Server.connect database c.server with ⟨_ | failure, server⟩ <;> rfl
  log := rfl
  server := .single rfl
  config := rfl
  known _ h := h

/-- Work on a connection that the client opens for it. -/
theorem runSession {known : Option Capabilities} {work : Session σ α}
    {outcome : Except Error α} {connection : Connection σ}
    (h : Leads work.run ⟨c.server, c.log, false, known⟩ outcome first connection) :
    Runs (Call.runSession known work) c outcome first
      { c with server := connection.server, log := connection.log } where
  exec := by
    unfold Call.runSession
    rw [Call.exec_bind_ok (get c).exec]
    -- the client's own log and server are those of the connection while it is used
    show Call.exec (do
      set { c with
        server := (Talk.exec work.run ⟨c.server, c.log, false, known⟩).2.server
        log := (Talk.exec work.run ⟨c.server, c.log, false, known⟩).2.log }
      Call.ofOutcome (Talk.exec work.run ⟨c.server, c.log, false, known⟩).1) c = _
    rw [h.exec]
    rfl
  log := h.log
  server := h.server
  config := rfl
  known _ h := h

end Runs

/-! ## Calls that only ask -/

/-- Nothing is sent but such questions. -/
abbrev Mute (allowed : Query → Prop) (steps : List Step) : Prop :=
  ∀ step ∈ steps, step.command? = none ∨ step.Puts allowed

/-- Whatever comes of the call, it sends nothing but such questions. -/
def Inquires (allowed : Query → Prop) (call : Call σ α) : Prop :=
  ∀ c, ∃ outcome steps c', Runs call c outcome steps c' ∧ Mute allowed steps

section Mute

variable {allowed : Query → Prop} {first second : List Step}

theorem Mute.nil : Mute allowed [] := fun _ h => absurd h List.not_mem_nil

theorem Mute.append (hfirst : Mute allowed first) (hsecond : Mute allowed second) :
    Mute allowed (first ++ second) :=
  List.forall_mem_append.2 ⟨hfirst, hsecond⟩

theorem Mute.single {step : Step} (h : step.command? = none) : Mute allowed [step] :=
  List.forall_mem_singleton.2 (.inl h)

theorem Asked.mute {outcome : Except Error α} (h : Asked allowed outcome first) :
    Mute allowed first :=
  fun step hstep => .inr (h.questions step hstep)

/-- A transaction sends what the work in it sends. -/
theorem Transacts.mute {c : Connection σ} {inside : Except Error α → List Step → Prop}
    {outcome : Except Error α}
    (hinside : ∀ outcome steps, inside outcome steps → Mute allowed steps)
    (h : Transacts c inside outcome first) : Mute allowed first := by
  cases h with
  | refused => exact .single rfl
  | committed failure hbegin h =>
    exact ((Mute.single rfl).append (hinside _ _ h)).append (.single rfl)
  | rolledBack failure hbegin h =>
    exact ((Mute.single rfl).append (hinside _ _ h)).append (.single rfl)

end Mute

namespace Inquires

variable {allowed : Query → Prop}

theorem pure (a : α) : Inquires allowed (Pure.pure a : Call σ α) :=
  fun c => ⟨_, _, _, .pure a c, .nil⟩

theorem ofOutcome (outcome : Except Error α) :
    Inquires allowed (Call.ofOutcome outcome : Call σ α) :=
  fun c => ⟨_, _, _, .ofOutcome outcome c, .nil⟩

theorem throw (error : Error) : Inquires allowed (MonadExcept.throw error : Call σ α) :=
  ofOutcome (.error error)

theorem bind {call : Call σ α} {next : α → Call σ β} (hcall : Inquires allowed call)
    (hnext : ∀ a, Inquires allowed (next a)) : Inquires allowed (call >>= next) := by
  intro c
  obtain ⟨outcome, first, c₁, hrun, hfirst⟩ := hcall c
  cases outcome with
  | error error => exact ⟨_, _, _, hrun.bind_error, hfirst⟩
  | ok a =>
    obtain ⟨outcome, second, c₂, hrun', hsecond⟩ := hnext a c₁
    exact ⟨_, _, _, hrun.bind hrun', hfirst.append hsecond⟩

theorem ite {p : Prop} [Decidable p] {call other : Call σ α} (hcall : Inquires allowed call)
    (hother : Inquires allowed other) : Inquires allowed (if p then call else other) := by
  split
  · exact hcall
  · exact hother

theorem between {call : Call σ α} {opening closing : Event}
    (hopening : ∀ server : σ, opening.served server = (none, server))
    (hclosing : ∀ server : σ, closing.served server = (none, server))
    (hopening' : Step.command? ⟨opening, none⟩ = none)
    (hclosing' : Step.command? ⟨closing, none⟩ = none) (h : Inquires allowed call) :
    Inquires allowed (Call.between opening closing call) := by
  intro c
  obtain ⟨outcome, steps, c', hrun, hsteps⟩ := h _
  refine ⟨_, _, _, hrun.between hopening hclosing, ?_⟩
  exact (Mute.single hopening').append (hsteps.append ((Mute.single hclosing').append .nil))

theorem holding {call : Call σ α} (shared : Bool) (access : Access) (h : Inquires allowed call) :
    Inquires allowed (Call.holding shared access call) := by
  unfold Call.holding
  split
  · exact h.between (fun _ => rfl) (fun _ => rfl) rfl rfl
  · exact h

end Inquires

end PgGrants
