/-
What is said to the server. Of all that happens during a call only connections, commands and the
boundaries of transactions reach the server; locks and engines do not, and neither does closing a
connection. `Tells` describes a call by what is said and heard, from every client that is made in
one way and has led the server to one state, whatever else its log shows. So calls under different
locks can be compared.
-/
import PgGrants.Proofs.Gates
import PgGrants.Proofs.Observed
import PgGrants.Proofs.Transcript

set_option autoImplicit false

namespace PgGrants

variable {σ α β : Type} [Server σ]

/-! ## 1. Exchanges with the server -/

/-- The event is a command or a boundary, or asks for a connection. -/
def Event.isSaid : Event → Bool
  | .connect _ => true
  | .sent _ _ => true
  | .boundary _ => true
  | _ => false

/-- What is said during the steps, with the replies. -/
def said (steps : List Step) (server : σ) : List Exchange :=
  (converse (steps.map Step.event) server).filter fun x => x.event.isSaid

theorem said_append {first second : List Step} {s t : σ} (hfirst : Follows s first t) :
    said (first ++ second) s = said first s ++ said second t := by
  have hleft : (replay (first.map Step.event) s).2 = t := congrArg Prod.snd hfirst
  unfold said
  rw [List.map_append, converse_append, List.filter_append, hleft]

/-- What is not said does not reach the server. -/
theorem said_eq_nil {steps : List Step} (h : ∀ step ∈ steps, step.event.isSaid = false) {s t : σ}
    (hfollows : Follows s steps t) : said steps s = [] ∧ t = s := by
  -- event by event, none of which the server is told
  have hquiet : ∀ events : List Event, (∀ event ∈ events, event.isSaid = false) →
      (converse events s).filter (fun x => x.event.isSaid) = [] ∧ (replay events s).2 = s := by
    intro events hevents
    induction events with
    | nil => exact ⟨rfl, rfl⟩
    | cons event rest ih =>
      obtain ⟨hevent, hrest⟩ := List.forall_mem_cons.1 hevents
      have hserved : (event.replied s).2 = s ∧ (event.served s).2 = s := by
        cases event with
        | connect | sent | boundary => cases hevent
        | _ => exact ⟨rfl, rfl⟩
      rw [converse, replay_cons, hserved.1, hserved.2, List.filter_cons_of_neg (by simp [hevent])]
      exact ih hrest
  obtain ⟨hsaid, hserver⟩ := hquiet (steps.map Step.event) fun event hevent => by
    obtain ⟨step, hstep, rfl⟩ := List.mem_map.1 hevent
    exact h step hstep
  exact ⟨hsaid, (congrArg Prod.snd hfollows).symm.trans hserver⟩

/-- The run of a call from the client, by what is said. -/
def Says (call : Call σ α) (c : Client σ) (outcome : Except Error α) (heard : List Exchange)
    (c' : Client σ) : Prop :=
  ∃ steps, Runs call c outcome steps c' ∧ said steps c.server = heard

theorem Says.bind {call : Call σ α} {next : α → Call σ β} {a : α} {outcome : Except Error β}
    {first second : List Exchange} {c c₁ c₂ : Client σ} (hcall : Says call c (.ok a) first c₁)
    (hnext : Says (next a) c₁ outcome second c₂) :
    Says (call >>= next) c outcome (first ++ second) c₂ := by
  obtain ⟨steps, hrun, rfl⟩ := hcall
  obtain ⟨steps', hrun', rfl⟩ := hnext
  exact ⟨_, hrun.bind hrun', said_append hrun.server⟩

theorem Says.bind_error {call : Call σ α} {next : α → Call σ β} {error : Error}
    {heard : List Exchange} {c c' : Client σ} (hcall : Says call c (.error error) heard c') :
    Says (call >>= next) c (.error error) heard c' := by
  obtain ⟨steps, hrun, hsaid⟩ := hcall
  exact ⟨steps, hrun.bind_error, hsaid⟩

/-! ## 2. Calls whatever the log shows -/

/-- From every client that is made like this, knows the server and has led it to this state, the
call has an outcome and says something of this kind. -/
def Tells (config : ClientConfig) (caps : Capabilities) (server : σ) (call : Call σ α)
    (kind : Except Error α → List Exchange → σ → Prop) : Prop :=
  ∀ c : Client σ, c.config = config → c.capabilities = some caps → c.server = server →
    ∃ outcome heard c', Says call c outcome heard c' ∧ c'.config = config ∧
      c'.capabilities = some caps ∧ kind outcome heard c'.server

/-- The call succeeds with such a result and says nothing. -/
def Silently (server : σ) (good : α → Prop) (outcome : Except Error α) (heard : List Exchange)
    (server' : σ) : Prop :=
  (∃ a, outcome = .ok a ∧ good a) ∧ heard = [] ∧ server' = server

/-- A boundary that succeeded. -/
def Exchange.ofBoundary (mark : Boundary) : Exchange := ⟨.boundary mark, .rows []⟩

/-- A connection that was opened. -/
def Exchange.ofConnect (database : String) : Exchange := ⟨.connect database, .rows []⟩

/-- What is said over a connection that is opened for one transaction, with this between the
boundaries. -/
def overConnection (database : String) (said : List Exchange) (mark : Boundary) : List Exchange :=
  .ofConnect database :: .ofBoundary .begin :: said ++ [.ofBoundary mark]

/-- How a transaction ends, by the outcome of the work in it. -/
def Boundary.ending {α : Type} : Except Error α → Boundary
  | .ok _ => .commit
  | .error _ => .rollback

/-- No boundary fails. -/
def BoundariesHold (σ : Type) [Server σ] : Prop :=
  ∀ (mark : Boundary) (server : σ), (Server.bound mark server).1 = none

theorem said_boundary (hbound : BoundariesHold σ) (mark : Boundary)
    (failure : Option Failure) (server : σ) :
    said [⟨.boundary mark, failure⟩] server = [.ofBoundary mark] := by
  show [Exchange.mk (.boundary mark) (.ofFailure (Server.bound mark server).1)] = _
  rw [hbound]
  rfl

theorem said_connect {database : String} {server : σ} {failure : Option Failure}
    (hconnect : (Server.connect database server).1 = none) :
    said [⟨.connect database, failure⟩] server = [.ofConnect database] := by
  show [Exchange.mk (.connect database) (.ofFailure (Server.connect database server).1)] = _
  rw [hconnect]
  rfl

/-- On a connection that is opened and closed, all is said between the boundaries. -/
theorem said_overConnection (hbound : BoundariesHold σ) {c : Client σ} {database : String}
    {known : Option Capabilities} (hconnect : (Server.connect database c.server).1 = none)
    {steps : List Step} {server : σ}
    (hworked : Follows (c.connection database known).opened.server steps server) (mark : Boundary)
    (failure : Option Failure) :
    said ([⟨.connect database, none⟩] ++
        (⟨.boundary .begin, none⟩ :: steps ++ [⟨.boundary mark, failure⟩]) ++ [⟨.close, none⟩])
        c.server =
      overConnection database (said steps (c.connection database known).opened.server) mark := by
  have hopened : Follows c.server [Step.mk (.connect database) none]
      (c.connection database known).server := .single (Prod.ext hconnect rfl)
  have hbegun : Follows (c.connection database known).server [Step.mk (.boundary .begin) none]
      (c.connection database known).opened.server := follows_opened (hbound .begin _)
  -- closing the connection is not said
  have hended (s : σ) :
      said [⟨.boundary mark, failure⟩, ⟨.close, none⟩] s = [.ofBoundary mark] :=
    said_boundary hbound mark failure s
  have hsteps : [⟨.connect database, none⟩] ++
        (⟨.boundary .begin, none⟩ :: steps ++ [⟨.boundary mark, failure⟩]) ++ [⟨.close, none⟩] =
      [Step.mk (.connect database) none] ++ ([Step.mk (.boundary .begin) none] ++ (steps ++
        [⟨.boundary mark, failure⟩, ⟨.close, none⟩])) := by
    simp only [List.append_assoc, List.cons_append, List.nil_append]
  rw [hsteps, said_append hopened, said_append hbegun, said_append hworked, said_connect hconnect,
    said_boundary hbound, hended]
  rfl

namespace Tells

variable {config : ClientConfig} {caps : Capabilities} {server : σ}
  {kind kind' : Except Error α → List Exchange → σ → Prop}

theorem mono {call : Call σ α} (h : Tells config caps server call kind)
    (himp : ∀ outcome heard server, kind outcome heard server → kind' outcome heard server) :
    Tells config caps server call kind' := by
  intro c hconfig hknown hserver
  obtain ⟨outcome, heard, c', hsays, hconfig', hknown', hkind⟩ := h c hconfig hknown hserver
  exact ⟨outcome, heard, c', hsays, hconfig', hknown', himp _ _ _ hkind⟩

theorem ofOutcome {outcome : Except Error α} (h : kind outcome [] server) :
    Tells config caps server (Call.ofOutcome outcome) kind := by
  intro c hconfig hknown hserver
  subst hserver
  exact ⟨outcome, [], c, ⟨[], .ofOutcome outcome c, rfl⟩, hconfig, hknown, h⟩

theorem bind {call : Call σ β} {next : β → Call σ α}
    {first : Except Error β → List Exchange → σ → Prop}
    (hcall : Tells config caps server call first)
    (hok : ∀ b heard server', first (.ok b) heard server' → Tells config caps server' (next b)
      fun outcome more => kind outcome (heard ++ more))
    (herror : ∀ error heard server', first (.error error) heard server' →
      kind (.error error) heard server') :
    Tells config caps server (call >>= next) kind := by
  intro c hconfig hknown hserver
  obtain ⟨outcome, heard, c₁, hsays, hconfig₁, hknown₁, hfirst⟩ := hcall c hconfig hknown hserver
  -- what was heard in both parts is heard in this order
  cases outcome with
  | error error =>
    exact ⟨_, heard, c₁, hsays.bind_error, hconfig₁, hknown₁, herror _ _ _ hfirst⟩
  | ok b =>
    obtain ⟨outcome, more, c₂, hsays', hconfig₂, hknown₂, hkind⟩ :=
      hok b heard c₁.server hfirst c₁ hconfig₁ hknown₁ rfl
    exact ⟨outcome, _, c₂, hsays.bind hsays', hconfig₂, hknown₂, hkind⟩

/-- What comes after silence is all that is said. -/
theorem after {call : Call σ β} {next : β → Call σ α} {good : β → Prop}
    (hcall : Tells config caps server call (Silently server good))
    (hnext : ∀ b, good b → Tells config caps server (next b) kind) :
    Tells config caps server (call >>= next) kind := by
  refine hcall.bind ?_ ?_
  · rintro b heard server' ⟨⟨_, hok, hgood⟩, rfl, rfl⟩
    cases hok
    exact hnext b hgood
  · rintro error heard server' ⟨⟨_, h, -⟩, -⟩
    cases h

/-- Gates that are open say nothing. -/
theorem needAll {gates : List Gate}
    (hgates : ∀ gate ∈ gates, caps.supports gate.feature = true) :
    Tells config caps server (Call.needAll gates) (Silently server fun _ => True) := by
  intro c hconfig hknown hserver
  subst hserver
  rcases runs_needAll_of_known hknown gates with ⟨-, hrun⟩ | ⟨gate, hgate, hlacks, -⟩
  · exact ⟨.ok (), [], c, ⟨[], hrun, rfl⟩, hconfig, hknown, ⟨(), rfl, trivial⟩, rfl, rfl⟩
  · rw [hgates gate hgate] at hlacks
    cases hlacks

/-- A lock is not said. -/
theorem holding {call : Call σ α} (shared : Bool) (access : Access)
    (h : Tells config caps server call kind) :
    Tells config caps server (Call.holding shared access call) kind := by
  unfold Call.holding
  split
  · intro c hconfig hknown hserver
    obtain ⟨outcome, heard, c', ⟨steps, hrun, hsaid⟩, hconfig', hknown', hkind⟩ :=
      h (c.noted (.locked access)) hconfig hknown hserver
    refine ⟨outcome, heard, c'.noted (.unlocked access),
      ⟨_, hrun.between (fun _ => rfl) (fun _ => rfl), ?_⟩, hconfig', hknown', hkind⟩
    have hopening : Follows c.server [Step.mk (.locked access) none] c.server := .single rfl
    have hworked : Follows c.server steps c'.server := hrun.server
    -- taking and releasing the lock is not said to the server
    have hnothing (s : σ) : said ([Step.mk (.unlocked access) none] ++ []) s = [] := rfl
    rw [said_append hopening, said_append hworked, hnothing, List.append_nil]
    exact hsaid
  · exact h

/-- What follows may look at what the client is made with. -/
theorem get_bind {next : Client σ → Call σ α}
    (h : ∀ c : Client σ, c.config = config → Tells config caps server (next c) kind) :
    Tells config caps server (get >>= next) kind := by
  intro c hconfig hknown hserver
  obtain ⟨outcome, heard, c', ⟨steps, hrun, hsaid⟩, hrest⟩ :=
    h c hconfig c hconfig hknown hserver
  exact ⟨outcome, heard, c', ⟨steps, (Runs.get c).bind hrun, hsaid⟩, hrest⟩

theorem capabilities :
    Tells config caps server (Call.capabilities : Call σ Capabilities)
      (Silently server (· = caps)) := by
  intro c hconfig hknown hserver
  subst hserver
  exact ⟨.ok caps, [], c, ⟨[], runs_capabilities_of_known hknown, rfl⟩, hconfig, hknown,
    ⟨caps, rfl, rfl⟩, rfl, rfl⟩

/-- To make an engine says nothing. -/
theorem engine (database : Option String) :
    Tells config caps server (Call.engine database : Call σ Engine)
      (Silently server fun _ => True) := by
  intro c hconfig hknown hserver
  subst hserver
  obtain ⟨place, steps, c', hrun, hsteps, hsame⟩ := runs_engine database c
  -- making an engine contacts nobody
  have hquiet : ∀ step ∈ steps, step.event.isSaid = false := fun step hstep => by
    obtain ⟨name, hname⟩ := hsteps step hstep
    rw [hname]
    rfl
  obtain ⟨hsaid, hserver⟩ := said_eq_nil hquiet hrun.server
  exact ⟨.ok place, [], c', ⟨steps, hrun, hsaid⟩, hrun.config.trans hconfig, hsame.trans hknown,
    ⟨place, rfl, trivial⟩, rfl, hserver⟩

/-- What is said to connect, and on the connection, is all that is said. -/
theorem connect {work : Session σ α} (database : Option String)
    (h : Tells config caps server
      (Call.withConnection (database.getD config.database) (some caps) work) kind) :
    Tells config caps server (Call.connect database work) kind := by
  refine capabilities.after fun known hknown => ?_
  subst hknown
  refine (engine database).after fun _ _ => get_bind fun c hconfig => ?_
  rw [hconfig]
  exact h

/-- Without a connection nothing more is said. -/
theorem inDatabase_of_unconnected {work : Session σ α} {error : Error} {steps : List Step}
    (database : Option String)
    (hunconnected : Unconnected config server (database.getD config.database) error steps)
    (h : kind (.error error) (said steps server)
      (Server.connect (database.getD config.database) server).2) :
    Tells config caps server (Call.inDatabase database work) kind := by
  refine connect database fun c hconfig hknown hserver => ?_
  subst hconfig hserver
  obtain ⟨c', hrun, hserver, hsame, -⟩ :=
    Runs.withConnection_of_unconnected hunconnected (some caps) (Session.transaction work)
  refine ⟨_, _, c', ⟨_, hrun, rfl⟩, hrun.config, hsame.trans hknown, ?_⟩
  rw [hserver]
  exact h

/-- A transaction says how it begins and ends, and what is said in it. -/
theorem inDatabase {work : Session σ α} (hbound : BoundariesHold σ) (database : Option String)
    (hconnect : (Server.connect (database.getD config.database) server).1 = none)
    (hcheck : config.check = .ok ())
    (hwork : ∀ c : Connection σ, c.Knows caps →
      c.server = (Server.bound .begin (Server.connect (database.getD config.database) server).2).2 →
      ∃ outcome steps c', Leads work.run c outcome steps c' ∧ c'.inTransaction = true ∧
        kind outcome
          (overConnection (database.getD config.database) (said steps c.server) (.ending outcome))
          (Server.bound (.ending outcome) c'.server).2) :
    Tells config caps server (Call.inDatabase database work) kind := by
  refine connect database fun c hconfig hknown hserver => ?_
  subst hconfig hserver
  let start : Connection σ := c.connection (database.getD c.config.database) (some caps)
  obtain ⟨outcome, steps, c', hrun, hc', hkind⟩ := hwork start.opened ⟨rfl, rfl⟩ rfl
  -- the transaction ends by how the work has ended
  have hexec : Session.exec (Session.transaction work) start =
      (outcome, Session.closed c' (.ending outcome)) := by
    cases outcome with
    | ok a =>
      rw [Session.exec_transaction_of_ok rfl (hbound _ _) hrun.exec hc', hbound]
      rfl
    | error error =>
      rw [Session.exec_transaction_of_error rfl (hbound _ _) hrun.exec hc', hbound]
      rfl
  have hleads := hrun.between_boundaries (hbound .begin start.server) (.ending outcome) hexec
  refine ⟨outcome, _, _, ⟨_, Runs.withConnection_of_opened hconnect hcheck hleads, rfl⟩, rfl,
    hknown, ?_⟩
  rw [said_overConnection hbound hconnect hrun.server]
  exact hkind

end Tells

end PgGrants
