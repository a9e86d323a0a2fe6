/-
Two runs side by side. Two pieces of work on connections that agree match when they take the same
steps up to the spelling of PUBLIC, end on connections that agree again, and come to the same, up to
that spelling as well. The rules follow the ways in which work is put together.

Two more things are carried along, since they concern every step in the same way. Each question that
is put is one that the server understands, and none is about PUBLIC or for the version; and no
failure is a refusal, that is a complaint about the declaration or about a missing feature. By the
exact spelling the two runs are one, so these are facts about every run.
-/
import PgGrants.Proofs.Lookups
import PgGrants.Proofs.Spelling
import PgGrants.Proofs.Transaction

set_option autoImplicit false

namespace PgGrants

/-! ## 1. Steps -/

/-- The server understands the question, and the question is neither about PUBLIC nor for the
version, which is known. -/
def Query.IsProper (caps : Capabilities) : Query → Prop
  | .reportedVersion => False
  | .role name => Role.isPublic (Role.orPublic name) = false
  | .isMember _ _ settable => settable = true → caps.supports .membershipSetOption = true
  | .objects kind _ _ byKind =>
    byKind = true → kind.catalog.kindColumn = some "prokind" → caps.supports .prokind = true
  | _ => True

/-- The same command, or statements that differ in spelling only. -/
inductive Command.Alike (spelling : Spelling) (caps : Capabilities) : Command → Command → Prop where
  | query {query : Query} (h : query.IsProper caps) :
      Alike spelling caps (.query query) (.query query)
  | statement {s t : Statement} (h : Statement.Alike spelling s t) :
      Alike spelling caps (.statement s) (.statement t)
  | grantRole (role member : Option String) :
      Alike spelling caps (.grantRole role member) (.grantRole role member)
  | revokeRole (role member : Option String) :
      Alike spelling caps (.revokeRole role member) (.revokeRole role member)

/-- The same step, or the sending of commands that differ in spelling only, with the same text and
the same failure. -/
inductive Step.Alike (spelling : Spelling) (caps : Capabilities) : Step → Step → Prop where
  | quiet {step : Step} (h : step.command? = none) : Alike spelling caps step step
  | sent {a b : Command} (h : Command.Alike spelling caps a b) (sql : String)
      (failure : Option Failure) :
      Alike spelling caps ⟨.sent a sql, failure⟩ ⟨.sent b sql, failure⟩

variable {spelling : Spelling} {caps : Capabilities}

theorem Command.Alike.sql_eq {a b : Command} (h : Alike spelling caps a b) : a.sql = b.sql := by
  cases h with
  | statement h => exact h.sql_eq
  | _ => rfl

/-! ## 2. Outcomes

Errors that are alike read the same and are caught in the same places. So whatever a call makes of
an error, it makes on both sides. -/

/-- The complaint is about the declaration, or about a feature that the server does not have. -/
def Error.isRefusal : Error → Bool
  | .invalid _ => true
  | .unsupported _ _ _ => true
  | _ => false

@[simp] theorem Failure.isRefusal_error (failure : Failure) : failure.error.isRefusal = false := by
  cases failure <;> rfl

/-- The errors differ in nothing but the spelling of the grantee of a statement. -/
inductive Error.Alike (spelling : Spelling) : Error → Error → Prop where
  | refl (error : Error) : Alike spelling error error
  | rejected {s t : Statement} (h : Statement.Alike spelling s t)
      (description target reason : String) :
      Alike spelling (.rejected s description target reason) (.rejected t description target reason)
  | notJoined {e f : Error} (roles : List String) (user : Option String) (h : Alike spelling e f) :
      Alike spelling (.notJoined roles user e) (.notJoined roles user f)
  | notUndone {e f : Error} (granted : List String) (user : Option String)
      (h : Alike spelling e f) :
      Alike spelling (.notUndone granted user e) (.notUndone granted user f)
  | notUndoneAfter {e f e' f' : Error} (granted : List String) (user : Option String)
      (hearlier : Alike spelling e f) (hcause : Alike spelling e' f') :
      Alike spelling (.notUndoneAfter granted user e e') (.notUndoneAfter granted user f f')

namespace Error.Alike

variable {e f : Error}

theorem isNotFound_eq (h : Alike spelling e f) : e.isNotFound = f.isNotFound := by
  cases h <;> rfl

/-- The caller reads the same complaint. -/
theorem message_eq (h : Alike spelling e f) : e.message = f.message := by
  -- the error inside may be alike only, so the message is followed down to it
  induction h with
  | refl => rfl
  | rejected => rw [message.eq_def, message.eq_def]
  | notJoined roles user _ ih =>
    rw [message.eq_def, message.eq_def (.notJoined roles user _)]
    dsimp only
    rw [ih]
  | notUndone granted user _ ih =>
    rw [message.eq_def, message.eq_def (.notUndone granted user _)]
    dsimp only
    rw [ih]
  | notUndoneAfter granted user _ _ ihearlier ihcause =>
    rw [message.eq_def, message.eq_def (.notUndoneAfter granted user _ _)]
    dsimp only
    rw [ihearlier, ihcause]

theorem eq_of_exact (h : Alike .exact e f) : e = f := by
  -- the spelling is an index of the relation, so it has to be a variable for the induction
  generalize hspelling : Spelling.exact = spelling at h
  induction h with
  | refl => rfl
  | rejected h =>
    subst hspelling
    rw [h.eq_of_exact]
  | notJoined roles user _ ih => rw [ih]
  | notUndone granted user _ ih => rw [ih]
  | notUndoneAfter granted user _ _ ihearlier ihcause => rw [ihearlier, ihcause]

end Error.Alike

section Ends

variable {α β : Type}

/-- Both succeed, with results that are related, or both fail, with errors that are alike and are no
refusals. -/
inductive Ends (spelling : Spelling) (related : α → β → Prop) :
    Except Error α → Except Error β → Prop where
  | ok {a : α} {b : β} (h : related a b) : Ends spelling related (.ok a) (.ok b)
  | error {e f : Error} (h : Error.Alike spelling e f) (hrefusal : e.isRefusal = false) :
      Ends spelling related (.error e) (.error f)

/-- The outcome is no refusal. -/
def IsPlain (outcome : Except Error α) : Prop :=
  ∀ error, outcome = .error error → error.isRefusal = false

theorem IsPlain.ok (a : α) : IsPlain (.ok a) := fun _ h => nomatch h

theorem IsPlain.error {error : Error} (h : error.isRefusal = false) :
    IsPlain (.error error : Except Error α) := by
  intro _ heq
  cases heq
  exact h

theorem IsPlain.ends {outcome : Except Error α} (h : IsPlain outcome) :
    Ends spelling Eq outcome outcome := by
  cases outcome with
  | ok a => exact .ok rfl
  | error error => exact .error (.refl error) (h error rfl)

/-- One failure, or none, on both sides. -/
theorem Ends.outcomeOf (failure : Option Failure) :
    Ends spelling Eq (Session.outcomeOf failure) (Session.outcomeOf failure) := by
  cases failure with
  | none => exact .ok rfl
  | some failure => exact .error (.refl _) failure.isRefusal_error

theorem Ends.isPlain {related : α → β → Prop} {outcome : Except Error α}
    {outcome' : Except Error β} (h : Ends spelling related outcome outcome') :
    IsPlain outcome := by
  cases h with
  | ok _ => exact .ok _
  | error _ hrefusal => exact .error hrefusal

end Ends

/-! ## 3. Runs

`Matches` relates two pieces of work from connections in the same state. Their steps are alike one
by one, which is why two such connections stay in the same state. -/

/-- The connections are to servers in the same state, which can do the same, as is known, and a
transaction is open on both or on none. -/
structure Connection.Agrees {σ : Type} (caps : Capabilities) (c d : Connection σ) : Prop where
  server : c.server = d.server
  inTransaction : c.inTransaction = d.inTransaction
  left : c.capabilities = some caps
  right : d.capabilities = some caps

namespace Session

variable {σ : Type} [Server σ]

/-- Sends a text, in a transaction that is open already. -/
def transmit (command : Command) (sql : String) : Session σ (List (List Value)) := do
  record (.sent command sql)
  let c ← get
  let (reply, server) := Server.answer command c.server
  set { c with server := server }
  match reply with
  | .rows rows => return rows
  | .failed failure => throw failure.error

theorem exec_transmit (command : Command) (sql : String) (c : Connection σ) :
    exec (transmit command sql) c =
      (rowsOf (Server.answer command c.server).1,
        logged c (.sent command sql) (Server.answer command c.server).2) := by
  unfold transmit
  rw [exec_bind_ok (exec_record _ _), exec_bind_ok (exec_get _)]
  dsimp only
  rw [exec_bind_ok (exec_set _ _)]
  rcases Server.answer command c.server with ⟨_ | failure, server⟩ <;> rfl

/-- A command is sent in a transaction, which is opened when there is none. -/
theorem send_eq {command : Command} {sql : String} (hsql : command.sql = .ok sql) :
    (send command : Session σ (List (List Value))) = (do
      ensureTransaction
      transmit command sql) := by
  unfold send
  rw [hsql]
  rfl

end Session

variable {σ α β γ δ : Type} [Server σ]

/-- From connections that agree, both ways to work take steps that are alike, come to related
results and leave connections that agree. -/
def Likens (spelling : Spelling) (caps : Capabilities) (work : Talk σ α) (other : Talk σ β)
    (related : α → β → Prop) : Prop :=
  ∀ c d : Connection σ, c.Agrees caps d → ∃ a b steps steps' c' d',
    Leads work c a steps c' ∧ Leads other d b steps' d' ∧
      List.Forall₂ (Step.Alike spelling caps) steps steps' ∧ c'.Agrees caps d' ∧ related a b

/-- The same of work that can fail. -/
def Matches (spelling : Spelling) (caps : Capabilities) (work : Session σ α) (other : Session σ β)
    (related : α → β → Prop) : Prop :=
  Likens spelling caps work.run other.run (Ends spelling related)

section Likens

variable {work : Talk σ α} {other : Talk σ β} {related related' : α → β → Prop}

theorem Likens.mono (h : Likens spelling caps work other related)
    (himp : ∀ a b, related a b → related' a b) : Likens spelling caps work other related' := by
  intro c d hcd
  obtain ⟨a, b, steps, steps', c', d', hwork, hother, hsteps, hcd', hrelated⟩ := h c d hcd
  exact ⟨a, b, steps, steps', c', d', hwork, hother, hsteps, hcd', himp a b hrelated⟩

theorem Likens.pure {a : α} {b : β} (h : related a b) :
    Likens spelling caps (Pure.pure a : Talk σ α) (Pure.pure b) related :=
  fun c d hcd => ⟨a, b, [], [], c, d, .pure a c, .pure b d, .nil, hcd, h⟩

theorem Likens.bind {next : α → Talk σ γ} {next' : β → Talk σ δ} {related' : γ → δ → Prop}
    (h : Likens spelling caps work other related)
    (hnext : ∀ a b, related a b → Likens spelling caps (next a) (next' b) related') :
    Likens spelling caps (work >>= next) (other >>= next') related' := by
  intro c d hcd
  obtain ⟨a, b, first, first', c₁, d₁, hwork, hother, hfirst, hcd₁, hab⟩ := h c d hcd
  obtain ⟨a', b', second, second', c₂, d₂, hwork', hother', hsecond, hcd₂, hab'⟩ :=
    hnext a b hab c₁ d₁ hcd₁
  exact ⟨a', b', _, _, c₂, d₂, hwork.bind hwork', hother.bind hother',
    List.rel_append hfirst hsecond, hcd₂, hab'⟩

end Likens

namespace Matches

variable {work : Session σ α} {other : Session σ β} {related related' : α → β → Prop}

/-! ### Rules -/

theorem mono (h : Matches spelling caps work other related)
    (himp : ∀ a b, related a b → related' a b) : Matches spelling caps work other related' :=
  Likens.mono h fun _ _ hends => by
    cases hends with
    | ok h => exact .ok (himp _ _ h)
    | error h hrefusal => exact .error h hrefusal

theorem ofOutcome {outcome : Except Error α} {outcome' : Except Error β}
    (h : Ends spelling related outcome outcome') :
    Matches spelling caps (Session.ofOutcome outcome : Session σ α) (Session.ofOutcome outcome')
      related :=
  Likens.pure h

theorem pure {a : α} {b : β} (h : related a b) :
    Matches spelling caps (Pure.pure a : Session σ α) (Pure.pure b) related :=
  ofOutcome (.ok h)

theorem throw {e f : Error} (h : Error.Alike spelling e f) (hrefusal : e.isRefusal = false) :
    Matches spelling caps (MonadExcept.throw e : Session σ α) (MonadExcept.throw f : Session σ β)
      related :=
  ofOutcome (.error h hrefusal)

theorem bind {next : α → Session σ γ} {next' : β → Session σ δ} {related' : γ → δ → Prop}
    (h : Matches spelling caps work other related)
    (hnext : ∀ a b, related a b → Matches spelling caps (next a) (next' b) related') :
    Matches spelling caps (work >>= next) (other >>= next') related' := by
  unfold Matches
  rw [ExceptT.run_bind, ExceptT.run_bind]
  refine Likens.bind h fun outcome outcome' hends => ?_
  cases hends with
  | ok hab => exact hnext _ _ hab
  | error hef hrefusal => exact .pure (.error hef hrefusal)

/-- What the first halves come to is the same, so one second half follows it. -/
theorem bind_eq {work other : Session σ α} {next : α → Session σ γ} {next' : α → Session σ δ}
    {related' : γ → δ → Prop} (h : Matches spelling caps work other Eq)
    (hnext : ∀ a, Matches spelling caps (next a) (next' a) related') :
    Matches spelling caps (work >>= next) (other >>= next') related' :=
  h.bind fun a b hab => by
    subst hab
    exact hnext a

theorem attempt (h : Matches spelling caps work other related) :
    Matches spelling caps (Session.attempt work) (Session.attempt other)
      (Ends spelling related) := by
  intro c d hcd
  obtain ⟨a, b, steps, steps', c', d', hwork, hother, hsteps, hcd', hends⟩ := h c d hcd
  refine ⟨.ok a, .ok b, steps, steps', c', d', ⟨?_, hwork.log, hwork.server⟩,
    ⟨?_, hother.log, hother.server⟩, hsteps, hcd', .ok hends⟩
  · rw [← Session.exec_eq, Session.exec_attempt, Session.exec_eq, hwork.exec]
  · rw [← Session.exec_eq, Session.exec_attempt, Session.exec_eq, hother.exec]

theorem lift {work : Talk σ α} {other : Talk σ β} (h : Likens spelling caps work other related) :
    Matches spelling caps (ExceptT.lift work) (ExceptT.lift other) related := by
  intro c d hcd
  obtain ⟨a, b, steps, steps', c', d', hwork, hother, hsteps, hcd', hab⟩ := h c d hcd
  refine ⟨.ok a, .ok b, steps, steps', c', d', ⟨?_, hwork.log, hwork.server⟩,
    ⟨?_, hother.log, hother.server⟩, hsteps, hcd', .ok hab⟩
  · rw [← Session.exec_eq, Session.exec_lift, hwork.exec]
  · rw [← Session.exec_eq, Session.exec_lift, hother.exec]

theorem ite {p : Prop} [Decidable p] {work' : Session σ α} {other' : Session σ β}
    (h : Matches spelling caps work other related)
    (h' : Matches spelling caps work' other' related) :
    Matches spelling caps (if p then work else work') (if p then other else other') related := by
  split
  · exact h
  · exact h'

/-! ### Primitives -/

/-- An event that asks nothing of the server. -/
theorem record {event : Event} (hevent : ∀ server : σ, event.served server = (none, server))
    (hquiet : Step.command? ⟨event, none⟩ = none) :
    Matches spelling caps (Session.record event : Session σ Unit) (Session.record event) Eq := by
  intro c d hcd
  refine ⟨.ok (), .ok (), [⟨event, none⟩], [⟨event, none⟩], _, _,
    ⟨Session.exec_record event c, rfl, .single (hevent c.server)⟩,
    ⟨Session.exec_record event d, rfl, .single (hevent d.server)⟩, .cons (.quiet hquiet) .nil, ?_,
    .ok rfl⟩
  exact ⟨hcd.server, hcd.inTransaction, hcd.left, hcd.right⟩

theorem isInTransaction :
    Matches spelling caps (Session.isInTransaction : Session σ Bool)
      Session.isInTransaction Eq := by
  intro c d hcd
  refine ⟨.ok c.inTransaction, .ok d.inTransaction, [], [], c, d,
    ⟨rfl, (List.append_nil _).symm, .nil _⟩, ⟨rfl, (List.append_nil _).symm, .nil _⟩, .nil, hcd, ?_⟩
  rw [hcd.inTransaction]
  exact .ok rfl

theorem setInTransaction (open? : Bool) :
    Matches spelling caps (Session.setInTransaction open? : Session σ Unit)
      (Session.setInTransaction open?) Eq :=
  fun c d hcd => ⟨.ok (), .ok (), [], [], { c with inTransaction := open? },
    { d with inTransaction := open? }, ⟨rfl, (List.append_nil _).symm, .nil _⟩,
    ⟨rfl, (List.append_nil _).symm, .nil _⟩, .nil, ⟨hcd.server, rfl, hcd.left, hcd.right⟩, .ok rfl⟩

theorem capabilities :
    Matches spelling caps (Session.capabilities : Session σ Capabilities) Session.capabilities
      fun a b => a = caps ∧ b = caps := by
  intro c d hcd
  have hknown {c : Connection σ} (hc : c.capabilities = some caps) :
      Leads (Session.capabilities : Session σ Capabilities).run c (.ok caps) [] c := by
    refine ⟨?_, (List.append_nil _).symm, .nil _⟩
    show Session.exec Session.capabilities c = _
    unfold Session.capabilities
    rw [Session.exec_bind_ok (Session.exec_get c), hc, Session.exec_pure]
  exact ⟨_, _, [], [], c, d, hknown hcd.left, hknown hcd.right, .nil, hcd, .ok ⟨rfl, rfl⟩⟩

theorem boundary (mark : Boundary) :
    Matches spelling caps (Session.boundary mark : Session σ Unit) (Session.boundary mark) Eq := by
  intro c d hcd
  refine ⟨_, _, [⟨.boundary mark, _⟩], [⟨.boundary mark, _⟩], _, _,
    ⟨Session.exec_boundary mark c, rfl, .single rfl⟩,
    ⟨Session.exec_boundary mark d, rfl, .single rfl⟩, ?_, ?_, ?_⟩
  · rw [hcd.server]
    exact .cons (.quiet rfl) .nil
  · exact ⟨congrArg (fun server => (Server.bound mark server).2) hcd.server, hcd.inTransaction,
      hcd.left, hcd.right⟩
  · rw [hcd.server]
    exact .outcomeOf _

theorem ensureTransaction :
    Matches spelling caps (Session.ensureTransaction : Session σ Unit) Session.ensureTransaction
      Eq := by
  unfold Session.ensureTransaction
  refine isInTransaction.bind_eq fun opened => ?_
  cases opened with
  | true => exact .pure rfl
  | false => exact (boundary .begin).bind_eq fun _ => setInTransaction true

/-- Commands that are alike are sent alike when the server answers both in the same way. -/
theorem send {a b : Command} (h : Command.Alike spelling caps a b)
    (hanswer : ∀ server : σ, Server.answer a server = Server.answer b server) :
    Matches spelling caps (Session.send a : Session σ (List (List Value))) (Session.send b) Eq := by
  have hends (reply : Reply) : Ends spelling (Eq : List (List Value) → _ → Prop)
      (Session.rowsOf reply) (Session.rowsOf reply) := by
    cases reply with
    | rows rows => exact .ok rfl
    | failed failure => exact .error (.refl _) failure.isRefusal_error
  cases hsql : a.sql with
  | error fault =>
    -- what cannot be written is not sent
    have hsql' : b.sql = .error fault := h.sql_eq ▸ hsql
    intro c d hcd
    exact ⟨_, _, [], [], c, d,
      ⟨Session.exec_send_unwritable hsql c, (List.append_nil _).symm, .nil _⟩,
      ⟨Session.exec_send_unwritable hsql' d, (List.append_nil _).symm, .nil _⟩, .nil, hcd,
      .error (.refl _) rfl⟩
  | ok sql =>
    have hsql' : b.sql = .ok sql := h.sql_eq ▸ hsql
    rw [Session.send_eq hsql, Session.send_eq hsql']
    refine ensureTransaction.bind_eq fun _ => ?_
    intro c d hcd
    refine ⟨_, _, [⟨.sent a sql, _⟩], [⟨.sent b sql, _⟩], _, _,
      ⟨Session.exec_transmit a sql c, rfl, .single rfl⟩,
      ⟨Session.exec_transmit b sql d, rfl, .single rfl⟩, ?_, ?_, ?_⟩
    · rw [hcd.server, hanswer]
      exact .cons (.sent h sql _) .nil
    · refine ⟨?_, hcd.inTransaction, hcd.left, hcd.right⟩
      show (Server.answer a c.server).2 = (Server.answer b d.server).2
      rw [hcd.server, hanswer]
    · rw [hcd.server, hanswer]
      exact hends _

end Matches

end PgGrants
