/-
Calls that match. Two clients of one server that know what it can do agree when they are made alike,
have the same engines and have led the server to the same state; their logs may differ in spelling.
From clients that agree matching calls run alike, in the sense in which work on connections does.
-/
import PgGrants.Proofs.Connecting
import PgGrants.Proofs.MatchedWork

set_option autoImplicit false

namespace PgGrants

variable {spelling : Spelling} {caps : Capabilities} {σ α β γ δ : Type}

/-- The clients are made alike, have the same engines, and know that the server, which is in the
same state for both, has these capabilities. -/
structure Client.Agrees (caps : Capabilities) (c d : Client σ) : Prop where
  config : c.config = d.config
  server : c.server = d.server
  engines : c.engines = d.engines
  left : c.capabilities = some caps
  right : d.capabilities = some caps

theorem Client.Agrees.noted {c d : Client σ} (h : c.Agrees caps d) (event : Event) :
    (c.noted event).Agrees caps (d.noted event) :=
  ⟨h.config, h.server, h.engines, h.left, h.right⟩

namespace Call

variable [Server σ]

/-- From these two clients both calls take steps that are alike, come to related outcomes and leave
clients that agree. -/
def MatchesFrom (spelling : Spelling) (caps : Capabilities) (call : Call σ α) (other : Call σ β)
    (related : α → β → Prop) (c d : Client σ) : Prop :=
  ∃ outcome outcome' steps steps' c' d',
    Runs call c outcome steps c' ∧ Runs other d outcome' steps' d' ∧
      List.Forall₂ (Step.Alike spelling caps) steps steps' ∧ c'.Agrees caps d' ∧
      Ends spelling related outcome outcome'

/-- From all clients that agree they do so. -/
def Matches (spelling : Spelling) (caps : Capabilities) (call : Call σ α) (other : Call σ β)
    (related : α → β → Prop) : Prop :=
  ∀ c d : Client σ, c.Agrees caps d → MatchesFrom spelling caps call other related c d

namespace Matches

variable {call : Call σ α} {other : Call σ β} {related : α → β → Prop}

/-! ## 1. Rules

A rule goes with each way of putting calls together. Two calls that match are run from two
connections in the same state, and leave them in the same state. -/

theorem ofOutcome {outcome : Except Error α} {outcome' : Except Error β}
    (h : Ends spelling related outcome outcome') :
    Matches spelling caps (Call.ofOutcome outcome : Call σ α) (Call.ofOutcome outcome') related :=
  fun c d hcd => ⟨_, _, [], [], c, d, .ofOutcome outcome c, .ofOutcome outcome' d, .nil, hcd, h⟩

theorem pure {a : α} {b : β} (h : related a b) :
    Matches spelling caps (Pure.pure a : Call σ α) (Pure.pure b) related :=
  ofOutcome (.ok h)

theorem throw {e f : Error} (h : Error.Alike spelling e f) (hrefusal : e.isRefusal = false) :
    Matches spelling caps (MonadExcept.throw e : Call σ α) (MonadExcept.throw f : Call σ β)
      related :=
  ofOutcome (.error h hrefusal)

theorem bind {next : α → Call σ γ} {next' : β → Call σ δ} {related' : γ → δ → Prop}
    (h : Matches spelling caps call other related)
    (hnext : ∀ a b, related a b → Matches spelling caps (next a) (next' b) related') :
    Matches spelling caps (call >>= next) (other >>= next') related' := by
  intro c d hcd
  obtain ⟨outcome, outcome', first, first', c₁, d₁, hcall, hother, hfirst, hcd₁, hends⟩ := h c d hcd
  -- when the first calls fail they fail in the same way, and nothing follows
  cases hends with
  | error hef hrefusal =>
    exact ⟨_, _, first, first', c₁, d₁, hcall.bind_error, hother.bind_error, hfirst, hcd₁,
      .error hef hrefusal⟩
  | ok hab =>
    obtain ⟨outcome, outcome', second, second', c₂, d₂, hcall', hother', hsecond, hcd₂, hends⟩ :=
      hnext _ _ hab c₁ d₁ hcd₁
    exact ⟨outcome, outcome', _, _, c₂, d₂, hcall.bind hcall', hother.bind hother',
      List.rel_append hfirst hsecond, hcd₂, hends⟩

theorem bind_eq {call other : Call σ α} {next : α → Call σ γ} {next' : α → Call σ δ}
    {related' : γ → δ → Prop} (h : Matches spelling caps call other Eq)
    (hnext : ∀ a, Matches spelling caps (next a) (next' a) related') :
    Matches spelling caps (call >>= next) (other >>= next') related' :=
  h.bind fun a b hab => by
    subst hab
    exact hnext a

theorem ite {p : Prop} [Decidable p] {call' : Call σ α} {other' : Call σ β}
    (h : Matches spelling caps call other related)
    (h' : Matches spelling caps call' other' related) :
    Matches spelling caps (if p then call else call') (if p then other else other') related := by
  split
  · exact h
  · exact h'

/-- What follows may look at the client. -/
theorem get_bind {next : Client σ → Call σ α} {next' : Client σ → Call σ β}
    (h : ∀ c d : Client σ, c.Agrees caps d →
      MatchesFrom spelling caps (next c) (next' d) related c d) :
    Matches spelling caps (get >>= next) (get >>= next') related := by
  intro c d hcd
  obtain ⟨outcome, outcome', steps, steps', c', d', hcall, hother, hrest⟩ := h c d hcd
  exact ⟨outcome, outcome', steps, steps', c', d', (Runs.get c).bind hcall,
    (Runs.get d).bind hother, hrest⟩

/-- An event that asks nothing of the server. -/
theorem record {event : Event} (hevent : ∀ server : σ, event.served server = (none, server))
    (hquiet : Step.command? ⟨event, none⟩ = none) :
    Matches spelling caps (Call.record event : Call σ Unit) (Call.record event) Eq :=
  fun c d hcd => ⟨_, _, _, _, _, _, .record c hevent, .record d hevent, .cons (.quiet hquiet) .nil,
    hcd.noted event, .ok rfl⟩

/-- The event follows both calls, whatever they come to. -/
theorem followedBy {closing : Event}
    (hclosing : ∀ server : σ, closing.served server = (none, server))
    (hquiet : Step.command? ⟨closing, none⟩ = none)
    (h : Matches spelling caps call other related) :
    Matches spelling caps (Call.followedBy closing call) (Call.followedBy closing other)
      related := by
  intro c d hcd
  obtain ⟨outcome, outcome', steps, steps', c', d', hcall, hother, hsteps, hcd', hends⟩ := h c d hcd
  exact ⟨outcome, outcome', _, _, _, _, hcall.followedBy hclosing, hother.followedBy hclosing,
    List.rel_append hsteps (.cons (.quiet hquiet) .nil), hcd'.noted closing, hends⟩

/-- Two events around the calls, which ask nothing of the server. -/
theorem between {opening closing : Event}
    (hopening : ∀ server : σ, opening.served server = (none, server))
    (hclosing : ∀ server : σ, closing.served server = (none, server))
    (hopening' : Step.command? ⟨opening, none⟩ = none)
    (hclosing' : Step.command? ⟨closing, none⟩ = none)
    (h : Matches spelling caps call other related) :
    Matches spelling caps (Call.between opening closing call) (Call.between opening closing other)
      related :=
  (record hopening hopening').bind_eq fun _ => h.followedBy hclosing hclosing'

theorem holding (shared : Bool) (access : Access) (h : Matches spelling caps call other related) :
    Matches spelling caps (Call.holding shared access call) (Call.holding shared access other)
      related := by
  unfold Call.holding
  exact .ite (h.between (fun _ => rfl) (fun _ => rfl) rfl rfl) h

/-! ## 2. Connections -/

theorem capabilities :
    Matches spelling caps (Call.capabilities : Call σ Capabilities) Call.capabilities
      fun a b => a = caps ∧ b = caps := by
  refine get_bind fun c d hcd => ?_
  rw [hcd.left, hcd.right]
  exact ⟨_, _, [], [], c, d, .pure caps c, .pure caps d, .nil, hcd, .ok ⟨rfl, rfl⟩⟩

/-- Clients with the same engines pick, or make, the same one. -/
theorem engine (database : Option String) :
    Matches spelling caps (Call.engine database : Call σ Engine) (Call.engine database) Eq := by
  refine get_bind fun c d hcd => ?_
  have hfound (place : Engine) : MatchesFrom spelling caps (Pure.pure place : Call σ Engine)
      (Pure.pure place) Eq c d :=
    ⟨_, _, [], [], c, d, .pure place c, .pure place d, .nil, hcd, .ok rfl⟩
  rw [hcd.config, hcd.engines]
  cases database with
  | none => exact hfound .own
  | some name =>
    dsimp only
    split
    · exact hfound .own
    -- both clients know the same engines, so both find one or both make one
    · cases d.engines.idxOf? name with
      | some place => exact hfound (.other place)
      | none =>
        refine ⟨.ok (.other d.engines.length), .ok (.other d.engines.length),
          [⟨.engine name, none⟩], [⟨.engine name, none⟩],
          { c.noted (.engine name) with engines := c.engines ++ [name] },
          { d.noted (.engine name) with engines := d.engines ++ [name] },
          ⟨rfl, rfl, .single rfl, rfl, fun _ h => h⟩, ⟨rfl, rfl, .single rfl, rfl, fun _ h => h⟩,
          .cons (.quiet rfl) .nil, ?_, .ok rfl⟩
        exact ⟨hcd.config, hcd.server, congrArg (· ++ [name]) hcd.engines, hcd.left, hcd.right⟩

variable {work : Session σ α} {work' : Session σ β}

/-- A new connection knows what its client knows. -/
theorem runSession (h : PgGrants.Matches spelling caps work work' related) :
    Matches spelling caps (Call.runSession (some caps) work) (Call.runSession (some caps) work')
      related := by
  intro c d hcd
  obtain ⟨outcome, outcome', steps, steps', c', d', hwork, hwork', hsteps, hcd', hends⟩ :=
    h ⟨c.server, c.log, false, some caps⟩ ⟨d.server, d.log, false, some caps⟩
      ⟨hcd.server, rfl, rfl, rfl⟩
  exact ⟨outcome, outcome', steps, steps', _, _, .runSession hwork, .runSession hwork', hsteps,
    ⟨hcd.config, hcd'.server, hcd.engines, hcd.left, hcd.right⟩, hends⟩

theorem isPlain_check (config : ClientConfig) : IsPlain config.check := by
  unfold ClientConfig.check
  split
  · exact .error rfl
  · split
    · exact .ok ()
    · exact .error rfl

/-- One server lets both connections be opened, or neither. -/
theorem openConnection (database : String) :
    Matches spelling caps (Call.openConnection database : Call σ Unit)
      (Call.openConnection database) Eq := by
  intro c d hcd
  -- the servers are in one state, so they answer alike whether they let the client in
  have hsame : Server.connect database d.server = Server.connect database c.server := by
    rw [hcd.server]
  refine ⟨_, _, _, _, _, _, .openConnection database c, .openConnection database d, ?_, ?_, ?_⟩
  · rw [hsame]
    exact .cons (.quiet rfl) .nil
  · exact ⟨hcd.config, (congrArg Prod.snd hsame).symm, hcd.engines, hcd.left, hcd.right⟩
  · rw [hsame]
    exact .outcomeOf _

theorem withConnection (h : PgGrants.Matches spelling caps work work' related)
    (database : String) :
    Matches spelling caps (Call.withConnection database (some caps) work)
      (Call.withConnection database (some caps) work') related := by
  refine (openConnection database).bind_eq fun _ => get_bind fun c d hcd => ?_
  rw [hcd.config]
  have hbody : Matches spelling caps
      (do Call.ofOutcome d.config.check; Call.runSession (some caps) work)
      (do Call.ofOutcome d.config.check; Call.runSession (some caps) work') related :=
    (ofOutcome (isPlain_check d.config).ends).bind_eq fun _ => .runSession h
  exact hbody.followedBy (fun _ => rfl) rfl c d hcd

theorem connect (h : PgGrants.Matches spelling caps work work' related)
    (database : Option String) :
    Matches spelling caps (Call.connect database work) (Call.connect database work') related := by
  refine capabilities.bind fun known known' ⟨hknown, hknown'⟩ => ?_
  subst hknown hknown'
  refine (engine database).bind_eq fun _ => get_bind fun c d hcd => ?_
  rw [hcd.config]
  exact withConnection h _ c d hcd

/-- Matching work in a transaction of its own. -/
theorem inDatabase (h : PgGrants.Matches spelling caps work work' related)
    (database : Option String) :
    Matches spelling caps (Call.inDatabase database work) (Call.inDatabase database work')
      related :=
  connect h.transaction database

theorem hasDatabase (database : String) :
    Matches spelling caps (Call.hasDatabase database : Call σ Bool) (Call.hasDatabase database)
      Eq :=
  connect (matches_hasObject _ _ _).transaction none

theorem needDatabase (database : String) :
    Matches spelling caps (Call.needDatabase database : Call σ Unit) (Call.needDatabase database)
      Eq :=
  (hasDatabase database).bind_eq fun _ => .ite (.pure rfl) (.throw (.refl _) rfl)

end Matches

end Call

end PgGrants
