/-
Connecting to a database. Before a client connects it may have to find the server's version out, and
an operation may have to see whether its database exists; all of that only asks. `Connects`
describes a call that does some work on one connection to a database: what comes before the
connection and after it changes nothing, and the connection on which the work starts is told by what
came before.
-/
import PgGrants.Proofs.Calls

set_option autoImplicit false

namespace PgGrants

variable {σ α β : Type} [Server σ]

/-- A question about the server's version, or about a database. -/
def Query.IsPreliminary : Query → Prop
  | .reportedVersion => True
  | .objects kind _ _ _ => kind = .database
  | _ => False

/-! ## 1. Opening a connection

An attempt to connect ends in one of three ways: the server does not let the client in, the
connection is opened but the version of the library is not accepted, or the work starts on it. The
first two are `Unconnected`; after them nothing but the attempt is in the log, and the connection is
closed if there was one. -/

/-- No work is done on a connection to the database. The server does not let it be opened, or it is
opened and then the kind of server or the library turns out to be unknown. -/
inductive Unconnected (config : ClientConfig) (server : σ) (database : String) :
    Error → List Step → Prop where
  | refused {failure : Failure} (hconnect : (Server.connect database server).1 = some failure) :
      Unconnected config server database failure.error [⟨.connect database, some failure⟩]
  | unknown {error : Error} (hconnect : (Server.connect database server).1 = none)
      (hcheck : config.check = .error error) :
      Unconnected config server database error [⟨.connect database, none⟩, ⟨.close, none⟩]

/-- Otherwise the connection is opened, and everything about it is known. -/
theorem unconnected_or (config : ClientConfig) (server : σ) (database : String) :
    (∃ error steps, Unconnected config server database error steps) ∨
      (Server.connect database server).1 = none ∧ config.check = .ok () := by
  cases hconnect : (Server.connect database server).1 with
  | some failure => exact .inl ⟨_, _, .refused hconnect⟩
  | none =>
    cases hcheck : config.check with
    | error error => exact .inl ⟨_, _, .unknown hconnect hcheck⟩
    | ok _ => exact .inr ⟨rfl, rfl⟩

theorem Unconnected.mute {config : ClientConfig} {server : σ} {database : String} {error : Error}
    {steps : List Step} {allowed : Query → Prop}
    (h : Unconnected config server database error steps) : Mute allowed steps := by
  cases h with
  | refused _ => exact .single rfl
  | unknown _ _ => exact (Mute.single rfl).append (.single rfl)

/-- The connection on which work in the database starts, told what is known of the server. -/
def Client.connection (c : Client σ) (database : String) (known : Option Capabilities) :
    Connection σ where
  server := (Server.connect database c.server).2
  log := c.log ++ [.connect database]
  inTransaction := false
  capabilities := known

namespace Runs

variable {c : Client σ} {known : Option Capabilities} {work : Session σ α} {database : String}

/-- A connection that was not opened is not closed either. -/
theorem withConnection_of_unconnected {error : Error} {steps : List Step}
    (h : Unconnected c.config c.server database error steps) (known : Option Capabilities)
    (work : Session σ α) :
    ∃ c', Runs (Call.withConnection database known work) c (.error error) steps c' ∧
      c'.server = (Server.connect database c.server).2 ∧ c'.capabilities = c.capabilities ∧
      c'.engines = c.engines := by
  have hasked := openConnection database c
  cases h with
  | refused hconnect =>
    rw [hconnect] at hasked
    exact ⟨_, hasked.bind_error, rfl, rfl, rfl⟩
  | unknown hconnect hcheck =>
    rw [hconnect] at hasked
    -- the library is looked at only on the open connection, which is closed again
    have hbody : Runs (do
          Call.ofOutcome (c.asked database).config.check
          Call.runSession known work)
        (c.asked database) (.error error) [] (c.asked database) := by
      rw [show (c.asked database).config.check = .error error from hcheck]
      exact (ofOutcome (.error error) _).bind_error
    exact ⟨_, hasked.bind ((get _).bind (hbody.followedBy fun _ => rfl)), rfl, rfl, rfl⟩

/-- The work starts where opening the connection has led, and the client goes on from its end. -/
theorem withConnection_of_opened {outcome : Except Error α} {steps : List Step}
    {connection : Connection σ} (hconnect : (Server.connect database c.server).1 = none)
    (hcheck : c.config.check = .ok ())
    (hwork : Leads work.run (c.connection database known) outcome steps connection) :
    Runs (Call.withConnection database known work) c outcome
      ([⟨.connect database, none⟩] ++ steps ++ [⟨.close, none⟩])
      ({ c with server := connection.server, log := connection.log }.noted .close) := by
  have hasked := openConnection database c
  rw [hconnect] at hasked
  have hbody : Runs (do Call.ofOutcome (c.asked database).config.check; Call.runSession known work)
      (c.asked database) outcome steps
      { c with server := connection.server, log := connection.log } := by
    rw [show (c.asked database).config.check = .ok () from hcheck]
    exact (ofOutcome (.ok ()) _).bind (runSession hwork)
  exact hasked.bind ((get _).bind (hbody.followedBy fun _ => rfl))

/-- Either no work is done, or it is done between the opening and the closing. -/
theorem withConnection {kind : Except Error α → List Step → Prop} (c : Client σ)
    (database : String)
    (hwork : ∃ outcome steps connection,
      Leads work.run (c.connection database known) outcome steps connection ∧
        kind outcome steps) :
    (∃ error steps c', Runs (Call.withConnection database known work) c (.error error) steps c' ∧
        c'.capabilities = c.capabilities ∧ Unconnected c.config c.server database error steps) ∨
      ∃ outcome steps c', Runs (Call.withConnection database known work) c outcome
        ([⟨.connect database, none⟩] ++ steps ++ [⟨.close, none⟩]) c' ∧
        c'.capabilities = c.capabilities ∧ (Server.connect database c.server).1 = none ∧
        kind outcome steps := by
  rcases unconnected_or c.config c.server database with ⟨error, steps, h⟩ | ⟨hconnect, hcheck⟩
  · obtain ⟨c', hrun, -, hcaps, -⟩ := withConnection_of_unconnected h known work
    exact .inl ⟨error, steps, c', hrun, hcaps, h⟩
  · obtain ⟨outcome, steps, connection, hleads, hkind⟩ := hwork
    exact .inr ⟨outcome, steps, _, withConnection_of_opened hconnect hcheck hleads, rfl, hconnect,
      hkind⟩

end Runs

/-! ## 2. Reaching the work

How a call gets to its connection is described once, by `Opens`, and the other relations hold it.
What comes before the call or after it extends the same description, so none of them is taken apart
when calls are put together. -/

/-- The steps `before` and then `opening` have led from `c` to the connection. Only preliminary
questions came before the opening, and what the server can do was known by then, as it still is in
`c'`. -/
structure Client.Opens (c c' : Client σ) (caps : Capabilities) (before opening : List Step)
    (start : Connection σ) : Prop where
  mute : Mute Query.IsPreliminary before
  server : Follows c.server (before ++ opening) start.server
  log : start.log = c.log ++ (before ++ opening).map Step.event
  capabilities : start.capabilities = some caps
  known : c'.capabilities = some caps

/-- The work was done on one connection to a database. It started outside any transaction, and
nothing was sent after it. -/
inductive Reaches (database : String) (kind : Connection σ → Except Error α → List Step → Prop)
    (c c' : Client σ) : Except Error α → List Step → Prop where
  | intro {outcome : Except Error α} {caps : Capabilities} {before worked after : List Step}
      {start : Connection σ}
      (hopens : c.Opens c' caps before [⟨.connect database, none⟩] start)
      (hclosed : start.inTransaction = false) (hkind : kind start outcome worked)
      (hafter : ∀ step ∈ after, step.command? = none) :
      Reaches database kind c c' outcome
        (before ++ [⟨.connect database, none⟩] ++ worked ++ [⟨.close, none⟩] ++ after)

/-- The work was not done, since there was no connection to the database to do it on. -/
inductive Client.Misses (c : Client σ) (database : String) (error : Error) : List Step → Prop where
  | intro {before opening after : List Step} {server : σ} (hmute : Mute Query.IsPreliminary before)
      (hserver : Follows c.server before server)
      (hopening : Unconnected c.config server database error opening)
      (hafter : ∀ step ∈ after, step.command? = none) :
      c.Misses database error (before ++ opening ++ after)

/-- There was no connection to do the work on, or it was done. -/
def MissesOrReaches (database : String) (kind : Connection σ → Except Error α → List Step → Prop)
    (c c' : Client σ) (outcome : Except Error α) (steps : List Step) : Prop :=
  (∃ error, outcome = .error error ∧ c.Misses database error steps) ∨
    Reaches database kind c c' outcome steps

/-- Some work on one connection to a database, if it comes to that. -/
inductive Connects (database : String) (kind : Connection σ → Except Error α → List Step → Prop)
    (c c' : Client σ) : Except Error α → List Step → Prop where
  /-- Only preliminary questions were asked. -/
  | notConnected {outcome : Except Error α} {steps : List Step}
      (hmute : Mute Query.IsPreliminary steps) : Connects database kind c c' outcome steps
  | connected {outcome : Except Error α} {steps : List Step}
      (hreaches : Reaches database kind c c' outcome steps) :
      Connects database kind c c' outcome steps

/-- What asks the server for nothing is mute. -/
theorem Mute.of_command {allowed : Query → Prop} {steps : List Step}
    (h : ∀ step ∈ steps, step.command? = none) : Mute allowed steps :=
  fun step hstep => .inl (h step hstep)

/-- Everything that is said before a transaction on a new connection is opened, and its opening. -/
theorem Client.Opens.begin {c c' : Client σ} {caps : Capabilities} {before : List Step}
    {database : String} {start : Connection σ}
    (h : c.Opens c' caps before [⟨.connect database, none⟩] start)
    (hbegin : (Server.bound .begin start.server).1 = none) :
    c.Opens c' caps before [⟨.connect database, none⟩, ⟨.boundary .begin, none⟩] start.opened where
  mute := h.mute
  server := by
    have hserver := h.server.append (follows_opened hbegin)
    rw [List.append_assoc] at hserver
    exact hserver
  log := by
    show start.log ++ [Event.boundary .begin] = _
    -- two single events are told apart from the log in front of them
    rw [h.log, List.map_append, List.map_append, ← List.append_assoc, ← List.append_assoc,
      List.append_assoc]
    rfl
  capabilities := h.capabilities
  known := h.known

section Connects

variable {database : String} {kind : Connection σ → Except Error α → List Step → Prop}
  {c c₁ c₂ : Client σ} {outcome : Except Error α} {error : Error} {first steps : List Step}

/-- Preliminary questions before. -/
theorem Client.Opens.before {call : Call σ β} {b : β} {caps : Capabilities}
    {before opening : List Step} {start : Connection σ} (hfirst : Runs call c (.ok b) first c₁)
    (hmute : Mute Query.IsPreliminary first) (h : c₁.Opens c₂ caps before opening start) :
    c.Opens c₂ caps (first ++ before) opening start where
  mute := hmute.append h.mute
  server := by
    rw [List.append_assoc]
    exact hfirst.server.append h.server
  log := by
    rw [h.log, hfirst.log, List.append_assoc c.log, ← List.map_append, ← List.append_assoc first]
  capabilities := h.capabilities
  known := h.known

/-- A client that knows the server no less. -/
theorem Client.Opens.later {caps : Capabilities} {before opening : List Step}
    {start : Connection σ} (h : c.Opens c₁ caps before opening start)
    (hknown : ∀ caps, c₁.capabilities = some caps → c₂.capabilities = some caps) :
    c.Opens c₂ caps before opening start :=
  ⟨h.mute, h.server, h.log, h.capabilities, hknown caps h.known⟩

theorem Reaches.before {call : Call σ β} {b : β} (hfirst : Runs call c (.ok b) first c₁)
    (hmute : Mute Query.IsPreliminary first) (h : Reaches database kind c₁ c₂ outcome steps) :
    Reaches database kind c c₂ outcome (first ++ steps) := by
  cases h with
  | intro hopens hclosed hkind hafter =>
    simp only [← List.append_assoc]
    exact .intro (hopens.before hfirst hmute) hclosed hkind hafter

theorem Reaches.after {rest : List Step} (h : Reaches database kind c c₁ outcome steps)
    (hrest : ∀ step ∈ rest, step.command? = none)
    (hknown : ∀ caps, c₁.capabilities = some caps → c₂.capabilities = some caps) :
    Reaches database kind c c₂ outcome (steps ++ rest) := by
  cases h with
  | intro hopens hclosed hkind hafter =>
    rw [List.append_assoc _ _ rest]
    exact .intro (hopens.later hknown) hclosed hkind (List.forall_mem_append.2 ⟨hafter, hrest⟩)

theorem Client.Misses.mute (h : c.Misses database error steps) :
    Mute Query.IsPreliminary steps := by
  cases h with
  | intro hmute _ hopening hafter => exact (hmute.append hopening.mute).append (.of_command hafter)

theorem Client.Misses.before {call : Call σ β} {b : β} (hfirst : Runs call c (.ok b) first c₁)
    (hmute : Mute Query.IsPreliminary first) (h : c₁.Misses database error steps) :
    c.Misses database error (first ++ steps) := by
  cases h with
  | intro hbefore hserver hopening hafter =>
    rw [hfirst.config] at hopening
    simp only [← List.append_assoc]
    exact .intro (hmute.append hbefore) (hfirst.server.append hserver) hopening hafter

theorem Client.Misses.after {rest : List Step} (h : c.Misses database error steps)
    (hrest : ∀ step ∈ rest, step.command? = none) :
    c.Misses database error (steps ++ rest) := by
  cases h with
  | intro hmute hserver hopening hafter =>
    rw [List.append_assoc _ _ rest]
    exact .intro hmute hserver hopening (List.forall_mem_append.2 ⟨hafter, hrest⟩)

theorem MissesOrReaches.connects (h : MissesOrReaches database kind c c₁ outcome steps) :
    Connects database kind c c₁ outcome steps := by
  rcases h with ⟨_, _, hmisses⟩ | hreaches
  · exact .notConnected hmisses.mute
  · exact .connected hreaches

theorem MissesOrReaches.before {call : Call σ β} {b : β} (hfirst : Runs call c (.ok b) first c₁)
    (hmute : Mute Query.IsPreliminary first)
    (h : MissesOrReaches database kind c₁ c₂ outcome steps) :
    MissesOrReaches database kind c c₂ outcome (first ++ steps) := by
  rcases h with ⟨error, houtcome, hmisses⟩ | hreaches
  · exact .inl ⟨error, houtcome, hmisses.before hfirst hmute⟩
  · exact .inr (hreaches.before hfirst hmute)

theorem MissesOrReaches.after {rest : List Step}
    (h : MissesOrReaches database kind c c₁ outcome steps)
    (hrest : ∀ step ∈ rest, step.command? = none)
    (hknown : ∀ caps, c₁.capabilities = some caps → c₂.capabilities = some caps) :
    MissesOrReaches database kind c c₂ outcome (steps ++ rest) := by
  rcases h with ⟨error, houtcome, hmisses⟩ | hreaches
  · exact .inl ⟨error, houtcome, hmisses.after hrest⟩
  · exact .inr (hreaches.after hrest hknown)

theorem Connects.before {call : Call σ β} {b : β} (hfirst : Runs call c (.ok b) first c₁)
    (hmute : Mute Query.IsPreliminary first) (h : Connects database kind c₁ c₂ outcome steps) :
    Connects database kind c c₂ outcome (first ++ steps) := by
  cases h with
  | notConnected hsteps => exact .notConnected (hmute.append hsteps)
  | connected hreaches => exact .connected (hreaches.before hfirst hmute)

theorem Connects.after {rest : List Step} (h : Connects database kind c c₁ outcome steps)
    (hrest : ∀ step ∈ rest, step.command? = none)
    (hknown : ∀ caps, c₁.capabilities = some caps → c₂.capabilities = some caps) :
    Connects database kind c c₂ outcome (steps ++ rest) := by
  cases h with
  | notConnected hsteps => exact .notConnected (hsteps.append (.of_command hrest))
  | connected hreaches => exact .connected (hreaches.after hrest hknown)

end Connects

/-! ## 3. The server's version, and engines

Whatever is known is not asked for. Otherwise the version is expected, and read from a text, or the
server is asked for it on a connection of its own, in a transaction that the question opens for
itself. -/

section Preparing

open Call Session

/-- What was sent to find the version out. -/
def askedVersion (failure : Option Failure) : List Step :=
  [⟨.boundary .begin, none⟩,
    ⟨.sent (.query .reportedVersion) "SHOW server_version_num", failure⟩]

theorem mute_askedVersion (failure : Option Failure) :
    Mute Query.IsPreliminary (askedVersion failure) :=
  (Mute.single rfl).append (List.forall_mem_singleton.2 (.inr ⟨.reportedVersion, trivial, rfl⟩))

/-- The question for the version opens a transaction for itself. -/
theorem leads_askVersion {c : Connection σ} (hc : c.inTransaction = false) :
    (∃ failure c', Leads (ask .reportedVersion : Session σ _).run c (.error failure.error)
        [⟨.boundary .begin, some failure⟩] c') ∨
      ∃ reply c', Leads (ask .reportedVersion : Session σ _).run c (rowsOf reply)
        (askedVersion reply.failure?) c' := by
  have hsql : (Command.query .reportedVersion).sql = .ok "SHOW server_version_num" := rfl
  -- no transaction is open, so the question opens one, or fails to
  cases hbegin : (Server.bound .begin c.server).1 with
  | some failure =>
    exact .inl ⟨failure, _, exec_send_of_refused hsql hc hbegin, rfl, .single (Prod.ext hbegin rfl)⟩
  | none =>
    refine .inr ⟨(Server.answer (.query .reportedVersion) c.opened.server).1, _,
      (exec_send_of_opened hsql hc hbegin).trans (exec_send hsql rfl), ?_,
      (follows_opened hbegin).append (.single rfl)⟩
    exact List.append_assoc c.log _ _

/-- What the reply to the question says. -/
def versionIn (reply : Reply) : Except Error Capabilities :=
  (rowsOf reply >>= fun rows => do (← Catalog.firstCell rows).toInteger).map fun number =>
    ⟨.ofNumber number⟩

/-- How asking for the version goes. -/
inductive AsksVersion : Except Error Capabilities → List Step → Prop where
  | refused (failure : Failure) :
      AsksVersion (.error failure.error) [⟨.boundary .begin, some failure⟩]
  | asked (reply : Reply) : AsksVersion (versionIn reply) (askedVersion reply.failure?)

theorem AsksVersion.mute {outcome : Except Error Capabilities} {steps : List Step}
    (h : AsksVersion outcome steps) : Mute Query.IsPreliminary steps := by
  cases h with
  | refused failure => exact .single rfl
  | asked reply => exact mute_askedVersion _

/-- A version is found out by these two steps only. -/
theorem AsksVersion.steps_of_ok {outcome : Except Error Capabilities} {steps : List Step}
    {caps : Capabilities} (h : AsksVersion outcome steps) (hok : outcome = .ok caps) :
    steps = askedVersion none := by
  cases h with
  | refused failure => cases hok
  | asked reply =>
    cases reply with
    | failed failure => cases hok
    | rows rows => rfl

/-- The version is asked for outside any transaction. -/
theorem leads_fingerprint {c : Connection σ} (hc : c.inTransaction = false) :
    ∃ outcome steps c', Leads (fingerprint : Session σ Capabilities).run c outcome steps c' ∧
      AsksVersion outcome steps := by
  rcases leads_askVersion hc with ⟨failure, c', hask⟩ | ⟨reply, c', hask⟩
  · exact ⟨_, _, c', hask.bind_error.bind_error, .refused failure⟩
  · refine ⟨_, _, c', ?_, .asked reply⟩
    cases reply with
    | failed failure => exact hask.bind_error.bind_error
    | rows rows =>
      -- the reply is read without anything happening
      have hread : Leads (reportedVersion : Session σ Int).run c
          (do (← Catalog.firstCell rows).toInteger) (askedVersion none ++ []) c' :=
        hask.bind_ok (.pure _ c')
      rw [List.append_nil] at hread
      show Leads _ c (Except.map _ (do (← Catalog.firstCell rows).toInteger)) (askedVersion none) c'
      cases hnumber : (do (← Catalog.firstCell rows).toInteger : Except Error Int) with
      | error error =>
        rw [hnumber] at hread
        exact hread.bind_error
      | ok number =>
        rw [hnumber] at hread
        rw [← List.append_nil (askedVersion none)]
        exact hread.bind_ok (.pure _ c')

/-- What the version that is expected says of the server. -/
def versionExpected (text : String) : Except Error Capabilities :=
  (Version.ofText (.text text)).map fun version => ⟨version⟩

/-- Where a client has from what it says of the server, and what has happened for that. -/
inductive Client.Learns (c : Client σ) : Except Error Capabilities → List Step → Prop where
  | known {caps : Capabilities} (hknown : c.capabilities = some caps) : c.Learns (.ok caps) []
  | expected {text : String} (hexpected : c.config.expectedVersion = some text) :
      c.Learns (versionExpected text) []
  /-- There was no connection to ask for the version on. -/
  | unconnected {error : Error} {steps : List Step} (hunknown : c.capabilities = none)
      (hunexpected : c.config.expectedVersion = none)
      (hunconnected : Unconnected c.config c.server c.config.database error steps) :
      c.Learns (.error error) steps
  | asked {outcome : Except Error Capabilities} {steps : List Step}
      (hunknown : c.capabilities = none) (hunexpected : c.config.expectedVersion = none)
      (hasks : AsksVersion outcome steps) :
      c.Learns outcome ([⟨.connect c.config.database, none⟩] ++ steps ++ [⟨.close, none⟩])

theorem Client.Learns.mute {c : Client σ} {outcome : Except Error Capabilities} {steps : List Step}
    (h : c.Learns outcome steps) : Mute Query.IsPreliminary steps := by
  cases h with
  | known _ => exact .nil
  | expected _ => exact .nil
  | unconnected _ _ hunconnected => exact hunconnected.mute
  | asked _ _ hasks => exact ((Mute.single rfl).append hasks.mute).append (.single rfl)

/-- The client once it keeps what was found out. -/
def Client.keeping (c : Client σ) : Except Error Capabilities → Client σ
  | .ok caps => { c with capabilities := some caps }
  | .error _ => c

omit [Server σ] in
theorem Client.capabilities_keeping {c : Client σ} (hc : c.capabilities = none)
    (outcome : Except Error Capabilities) :
    (c.keeping outcome).capabilities = outcome.toOption := by
  cases outcome with
  | error _ => exact hc
  | ok _ => rfl

omit [Server σ] in
theorem Client.engines_keeping (c : Client σ) (outcome : Except Error Capabilities) :
    (c.keeping outcome).engines = c.engines := by
  cases outcome <;> rfl

/-- What was found out is kept. -/
theorem Runs.keeping {find : Call σ Capabilities} {outcome : Except Error Capabilities}
    {steps : List Step} {c c' : Client σ} (hc : c.capabilities = none)
    (hrun : Runs find c outcome steps c') :
    Runs (do
        let caps ← find
        modify fun c => { c with capabilities := some caps }
        return caps) c outcome steps (c'.keeping outcome) := by
  cases outcome with
  | error error => exact hrun.bind_error
  | ok caps =>
    refine ⟨Call.exec_bind_ok hrun.exec, hrun.log, hrun.server, hrun.config, fun _ h => ?_⟩
    rw [hc] at h
    cases h

/-- A version that is neither known nor expected is asked for in the client's own database. -/
theorem runs_fingerprint {c : Client σ} (hunknown : c.capabilities = none)
    (hunexpected : c.config.expectedVersion = none) :
    ∃ outcome steps c',
      Runs (withConnection c.config.database none fingerprint : Call σ _) c outcome steps c' ∧
        c.Learns outcome steps ∧ c'.capabilities = none ∧ c'.engines = c.engines := by
  rcases unconnected_or c.config c.server c.config.database with
    ⟨error, steps, hunconnected⟩ | ⟨hconnect, hcheck⟩
  · obtain ⟨c', hrun, -, hcaps, hengines⟩ :=
      Runs.withConnection_of_unconnected hunconnected none fingerprint
    exact ⟨_, _, c', hrun, .unconnected hunknown hunexpected hunconnected, hcaps.trans hunknown,
      hengines⟩
  · obtain ⟨outcome, steps, connection, hleads, hasks⟩ :=
      leads_fingerprint (c := c.connection c.config.database none) rfl
    exact ⟨outcome, _, _, Runs.withConnection_of_opened hconnect hcheck hleads,
      .asked hunknown hunexpected hasks, hunknown, rfl⟩

/-- Everything a client does to find out what the server can do. It keeps exactly what it says. -/
theorem runs_learning (c : Client σ) :
    ∃ outcome steps c', Runs (Call.capabilities : Call σ Capabilities) c outcome steps c' ∧
      c.Learns outcome steps ∧ c'.capabilities = outcome.toOption ∧ c'.engines = c.engines := by
  simp only [Call.capabilities, Runs.get_bind]
  -- known already, expected by the client, or asked for once
  cases hknown : c.capabilities with
  | some caps => exact ⟨.ok caps, [], c, .pure caps c, .known hknown, hknown, rfl⟩
  | none =>
    dsimp only
    cases hexpected : c.config.expectedVersion with
    | some text =>
      dsimp only
      rw [← bind_assoc]
      have hrun : Runs (do pure ⟨← ofOutcome (Version.ofText (.text text))⟩ : Call σ Capabilities) c
          (versionExpected text) [] c := by
        unfold versionExpected
        cases Version.ofText (.text text) with
        | error error => exact (Runs.ofOutcome _ c).bind_error
        | ok version => exact (Runs.ofOutcome _ c).bind (.pure _ c)
      exact ⟨_, [], _, hrun.keeping hknown, .expected hexpected,
        Client.capabilities_keeping hknown _, Client.engines_keeping c _⟩
    | none =>
      dsimp only
      obtain ⟨outcome, steps, c', hrun, hlearns, hunknown, hengines⟩ :=
        runs_fingerprint hknown hexpected
      exact ⟨outcome, steps, _, hrun.keeping hknown, hlearns,
        Client.capabilities_keeping hunknown outcome,
        (Client.engines_keeping c' outcome).trans hengines⟩

/-- The version is expected, or the server is asked for it on the client's own database. -/
theorem runs_capabilities (c : Client σ) :
    ∃ outcome steps c', Runs (Call.capabilities : Call σ Capabilities) c outcome steps c' ∧
      Mute Query.IsPreliminary steps ∧
      ∀ caps, outcome = .ok caps → c'.capabilities = some caps := by
  obtain ⟨outcome, steps, c', hrun, hlearns, hkept, -⟩ := runs_learning c
  refine ⟨outcome, steps, c', hrun, hlearns.mute, fun caps h => ?_⟩
  rw [hkept, h]
  rfl

/-- What is known is not asked for. -/
theorem runs_capabilities_of_known {c : Client σ} {caps : Capabilities}
    (hc : c.capabilities = some caps) :
    Runs (Call.capabilities : Call σ Capabilities) c (.ok caps) [] c := by
  refine ⟨?_, (List.append_nil _).symm, .nil _, rfl, fun _ h => h⟩
  unfold Call.capabilities
  rw [Call.exec_bind_ok (Runs.get c).exec, hc]
  rfl

/-- What was found out first need not be found out later. -/
theorem Runs.findingOutFirst {next : Capabilities → Call σ α} {caps : Capabilities}
    {c c₁ c₂ : Client σ} {outcome : Except Error α} {first steps : List Step}
    (hfound : Runs Call.capabilities c (.ok caps) first c₁) (hknown : c₁.capabilities = some caps)
    (h : Runs (Call.capabilities >>= next) c₁ outcome steps c₂) :
    Runs (Call.capabilities >>= next) c outcome (first ++ steps) c₂ := by
  have hexec := h.exec
  rw [Call.exec_bind_ok (runs_capabilities_of_known hknown).exec] at hexec
  exact hfound.bind ⟨hexec, h.log, h.server, h.config, h.known⟩

/-- At most an engine is made. -/
theorem runs_engine (database : Option String) (c : Client σ) :
    ∃ place steps c', Runs (engine database : Call σ Engine) c (.ok place) steps c' ∧
      (∀ step ∈ steps, ∃ name, step.event = .engine name) ∧ c'.capabilities = c.capabilities := by
  have hfound (place : Engine) : ∃ place' steps c',
      Runs (Pure.pure place : Call σ Engine) c (.ok place') steps c' ∧
      (∀ step ∈ steps, ∃ name, step.event = .engine name) ∧ c'.capabilities = c.capabilities :=
    ⟨place, [], c, .pure place c, fun _ h => absurd h List.not_mem_nil, rfl⟩
  simp only [engine, Runs.get_bind]
  -- only a database that is not the client's own, and was not connected to before, needs an engine
  cases database with
  | none => exact hfound .own
  | some name =>
    dsimp only
    split
    · exact hfound .own
    · cases c.engines.idxOf? name with
      | some place => exact hfound (.other place)
      | none =>
        refine ⟨.other c.engines.length, [⟨.engine name, none⟩],
          { c.noted (.engine name) with engines := c.engines ++ [name] },
          ⟨rfl, rfl, .single rfl, rfl, fun _ h => h⟩, List.forall_mem_singleton.2 ⟨name, rfl⟩, rfl⟩

end Preparing

/-! ## 4. Work on one connection

The rules are put together here: to connect is to find the version out, to have an engine, and to do
the work. Finding out and connecting may fail, and then the work is not done. -/

section Connecting

open Call

variable {work : Session σ α} {kind : Connection σ → Except Error α → List Step → Prop}

theorem runs_withConnection
    (hwork : ∀ start : Connection σ, start.inTransaction = false →
      ∃ outcome steps connection, Leads work.run start outcome steps connection ∧
        kind start outcome steps)
    {caps : Capabilities} {c : Client σ} (hc : c.capabilities = some caps) (database : String) :
    ∃ outcome steps c', Runs (withConnection database (some caps) work) c outcome steps c' ∧
      MissesOrReaches database kind c c' outcome steps := by
  obtain ⟨error, steps, c', hrun, -, hunconnected⟩ |
      ⟨outcome, steps, c', hrun, hknown, hconnect, hkind⟩ :=
    Runs.withConnection c database (hwork (c.connection database (some caps)) rfl)
  · refine ⟨_, _, _, hrun, .inl ⟨error, rfl, ?_⟩⟩
    have hmisses : c.Misses database error ([] ++ steps ++ []) :=
      .intro .nil (.nil _) hunconnected fun _ h => absurd h List.not_mem_nil
    rw [List.append_nil] at hmisses
    exact hmisses
  · refine ⟨_, _, _, hrun, .inr ?_⟩
    -- nothing came before; what does is put in front later
    have hopens : c.Opens c' caps [] [⟨.connect database, none⟩]
        (c.connection database (some caps)) :=
      ⟨.nil, .single (Prod.ext hconnect rfl), rfl, rfl, hknown.trans hc⟩
    have hreaches := Reaches.intro hopens rfl hkind fun _ h => absurd h List.not_mem_nil
    rw [List.append_nil] at hreaches
    exact hreaches

/-- A client that knows the server connects at once, but for making an engine. -/
theorem runs_connecting
    (hwork : ∀ start : Connection σ, start.inTransaction = false →
      ∃ outcome steps connection, Leads work.run start outcome steps connection ∧
        kind start outcome steps)
    (database : Option String) {caps : Capabilities} {c : Client σ}
    (hc : c.capabilities = some caps) :
    ∃ outcome steps c', Runs (connect database work) c outcome steps c' ∧
      MissesOrReaches (database.getD c.config.database) kind c c' outcome steps := by
  obtain ⟨place, first, c₁, hengine, hfirst, hsame⟩ := runs_engine database c
  obtain ⟨outcome, steps, c', hrun, hreaches⟩ :=
    runs_withConnection hwork (hsame.trans hc) (database.getD c₁.config.database)
  refine ⟨outcome, first ++ steps, c',
    (runs_capabilities_of_known hc).bind (hengine.bind ((Runs.get c₁).bind hrun)), ?_⟩
  -- the client looks its own database up only now, and making an engine has not changed it
  rw [hengine.config] at hreaches
  have hquiet : Mute Query.IsPreliminary first := .of_command fun step hstep => by
    obtain ⟨name, hname⟩ := hfirst step hstep
    rw [Step.command?, hname]
  exact hreaches.before hengine hquiet

/-- To connect is to find out what the server can do, and then to do the work on a connection. -/
theorem runs_connect
    (hwork : ∀ start : Connection σ, start.inTransaction = false →
      ∃ outcome steps connection, Leads work.run start outcome steps connection ∧
        kind start outcome steps)
    (database : Option String) (c : Client σ) :
    ∃ outcome steps c', Runs (connect database work) c outcome steps c' ∧
      Connects (database.getD c.config.database) kind c c' outcome steps := by
  obtain ⟨found, first, c₁, hfound, hfirst, hknown⟩ := runs_capabilities c
  cases found with
  | error error => exact ⟨_, _, _, hfound.bind_error, .notConnected hfirst⟩
  | ok caps =>
    -- from here on the client knows the server, as if it had known it from the start
    obtain ⟨outcome, steps, c', hrun, hreaches⟩ := runs_connecting hwork database (hknown caps rfl)
    rw [hfound.config] at hreaches
    exact ⟨outcome, _, c', hfound.findingOutFirst (hknown caps rfl) hrun,
      hreaches.connects.before hfound hfirst⟩

/-- What connects for work that only asks only asks. -/
theorem Connects.mute {allowed : Query → Prop} {database : String} {c c' : Client σ}
    {outcome : Except Error α} {steps : List Step}
    (hallowed : ∀ query, Query.IsPreliminary query → allowed query)
    (hkind : ∀ start outcome steps, kind start outcome steps → Mute allowed steps)
    (h : Connects database kind c c' outcome steps) : Mute allowed steps := by
  have hweaker {steps : List Step} (h : Mute Query.IsPreliminary steps) : Mute allowed steps :=
    fun step hstep => (h step hstep).imp_right fun ⟨query, hquery, hcommand⟩ =>
      ⟨query, hallowed query hquery, hcommand⟩
  rcases h with hmute | ⟨hopens, _, hworked, hafter⟩
  · exact hweaker hmute
  · refine .append (.append (.append (.append (hweaker hopens.mute) (.single rfl)) ?_)
      (.single rfl)) (.of_command hafter)
    exact hkind _ _ _ hworked

/-- A transaction of questions in a database only asks. -/
theorem inquires_inDatabase {allowed : Query → Prop}
    (hallowed : ∀ query, Query.IsPreliminary query → allowed query) (hwork : AsksOnly allowed work)
    (database : Option String) : Inquires allowed (inDatabase database work) := by
  intro c
  obtain ⟨outcome, steps, c', hrun, hconnects⟩ := runs_connect
    (fun start hstart => leads_transaction hstart (hwork start.opened rfl)) database c
  refine ⟨outcome, steps, c', hrun, hconnects.mute hallowed fun start outcome steps h => ?_⟩
  exact h.mute fun _ _ hasked => hasked.mute

theorem inquires_hasDatabase (database : String) :
    Inquires Query.IsPreliminary (hasDatabase database : Call σ Bool) :=
  inquires_inDatabase (fun _ h => h) (asks_hasObject trivial fun _ => rfl) none

theorem inquires_needDatabase (database : String) :
    Inquires Query.IsPreliminary (needDatabase database : Call σ Unit) :=
  (inquires_hasDatabase database).bind fun _ => .ite (.pure ()) (.throw _)

theorem inquires_capabilities :
    Inquires Query.IsPreliminary (Call.capabilities : Call σ Capabilities) := by
  intro c
  obtain ⟨outcome, steps, c', hrun, hmute, _⟩ := runs_capabilities c
  exact ⟨outcome, steps, c', hrun, hmute⟩

theorem inquires_needFeature (feature : Feature) (operation : String) :
    Inquires Query.IsPreliminary (needFeature feature operation : Call σ Unit) :=
  inquires_capabilities.bind fun _ => .ofOutcome _

theorem inquires_needPrivileges (kind : ObjectKind) (privileges : TextSet) (operation : String) :
    Inquires Query.IsPreliminary (needPrivileges kind privileges operation : Call σ Unit) := by
  have hmaintain : Inquires Query.IsPreliminary (do
      if privileges.contains "MAINTAIN" then
        needFeature .maintainPrivilege "The MAINTAIN privilege" : Call σ Unit) :=
    .ite (inquires_needFeature _ _) (.pure ())
  refine (inquires_needFeature _ _).bind fun _ => ?_
  dsimp only
  exact .ite ((inquires_needFeature _ _).bind fun _ => hmaintain) hmaintain

end Connecting

end PgGrants
