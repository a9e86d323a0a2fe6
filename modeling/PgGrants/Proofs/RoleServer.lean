/-
A server that keeps memberships. It knows a fixed set of roles and who is a member of whom; every
command and every boundary may be refused, and which ones are is chosen beforehand, as any sequence.
A refused command changes nothing. Rolling back, to a savepoint or altogether, brings back the
memberships of then, and a transaction that cannot be committed is rolled back.

`Transforms` describes work on such a server by the memberships before it and after it. Work inside
a transaction leaves the transaction open, and leaves no savepoint behind.
-/
import PgGrants.Proofs.Lookups

set_option autoImplicit false

namespace PgGrants

/-- Who is a member of whom: the role comes first, then the member. -/
abbrev Memberships := String → String → Bool

namespace Memberships

/-- With one more membership. -/
def insert (members : Memberships) (role member : String) : Memberships :=
  fun r m => if r = role ∧ m = member then true else members r m

/-- Without one of the memberships. -/
def erase (members : Memberships) (role member : String) : Memberships :=
  fun r m => if r = role ∧ m = member then false else members r m

end Memberships

/-- The roles of a server, and its version. -/
structure Roles where
  /-- The connecting role. -/
  user : String
  /-- The role with exactly this name, if there is one. -/
  identity? : String → Option ServerRole
  version : Int

namespace Roles

/-- The role with this name, PUBLIC in any spelling. -/
def find (roles : Roles) (name : String) : Option ServerRole :=
  if Role.isPublic name then some .publicRole else roles.identity? name

/-- The row of the catalog for a role. -/
def row (identity : ServerRole) : List Value :=
  [.ofName identity.name, .int identity.oid, .bool identity.isSuperuser]

/-- The answer to a question, which is none where roles have no part in it. -/
def answer (roles : Roles) (members : Memberships) : Query → List (List Value)
  | .reportedVersion => [[.int roles.version]]
  | .connectingRole => [[.text roles.user]]
  | .role (some name) => (roles.identity? name).toList.map row
  | .isMember (some role) (some member) _ => [[.bool (members role member)]]
  | _ => []

theorem answer_role (roles : Roles) (members : Memberships) (name : String) :
    roles.answer members (.role (some name)) = (roles.identity? name).toList.map row := rfl

end Roles

/-- The rows that come back for a command; only questions get any. -/
def Roles.reply (roles : Roles) (members : Memberships) : Command → List (List Value)
  | .query query => roles.answer members query
  | _ => []

/-- What a command does to memberships. -/
def Command.change : Command → Memberships → Memberships
  | .grantRole (some role) (some member), members => members.insert role member
  | .revokeRole (some role) (some member), members => members.erase role member
  | .statement (.membership ⟨direction, some member, some role, _⟩), members =>
    if direction.isGrant then members.insert role member else members.erase role member
  | _, members => members

/-- A server with these roles. -/
structure RoleServer (roles : Roles) where
  members : Memberships
  /-- The memberships at the savepoints that are set, the latest first. -/
  saved : List Memberships
  /-- The memberships when the transaction was opened. -/
  begun : Memberships
  /-- What the request with this number is refused with, if it is refused. A connection, a command
  and a boundary are requests. -/
  refusal? : Nat → Option Failure
  /-- How many requests there were so far. -/
  count : Nat

namespace RoleServer

variable {roles : Roles}

/-- The server after one more request. -/
def next (s : RoleServer roles) : RoleServer roles := { s with count := s.count + 1 }

/-- The reply to a command. -/
def answer (command : Command) (s : RoleServer roles) : Reply × RoleServer roles :=
  match s.refusal? s.count with
  | some failure => (.failed failure, s.next)
  | none =>
    (.rows (roles.reply s.members command),
      { s.next with members := command.change s.members })

/-- What a boundary does. -/
def pass (mark : Boundary) (s : RoleServer roles) : RoleServer roles :=
  match mark with
  | .begin => { s with begun := s.members, saved := [] }
  | .commit => s
  | .rollback => { s with members := s.begun }
  | .savepoint => { s with saved := s.members :: s.saved }
  | .release => { s with saved := s.saved.tail }
  | .rollbackTo => { s with members := s.saved.headD s.members, saved := s.saved.tail }

/-- What becomes of a boundary that is refused. A transaction ends all the same, undone, and a
savepoint that could not be released or rolled back to is given up. -/
def deny (mark : Boundary) (s : RoleServer roles) : RoleServer roles :=
  match mark with
  | .commit => { s with members := s.begun }
  | .rollback => { s with members := s.begun }
  | .release => { s with saved := s.saved.tail }
  | .rollbackTo => { s with saved := s.saved.tail }
  | _ => s

/-- The server tells a boundary. -/
def bound (mark : Boundary) (s : RoleServer roles) : Option Failure × RoleServer roles :=
  match s.refusal? s.count with
  | some failure => (some failure, deny mark s.next)
  | none => (none, pass mark s.next)

instance : Server (RoleServer roles) where
  connect _ s := (s.refusal? s.count, s.next)
  answer := answer
  bound := bound

end RoleServer

theorem RoleServer.answer_of_pass {roles : Roles} {s : RoleServer roles} (command : Command)
    (h : s.refusal? s.count = none) :
    Server.answer command s = (.rows (roles.reply s.members command),
      { s.next with members := command.change s.members }) := by
  show RoleServer.answer command s = _
  unfold RoleServer.answer
  rw [h]

theorem RoleServer.answer_of_deny {roles : Roles} {s : RoleServer roles} {failure : Failure}
    (command : Command) (h : s.refusal? s.count = some failure) :
    Server.answer command s = (.failed failure, s.next) := by
  show RoleServer.answer command s = _
  unfold RoleServer.answer
  rw [h]

theorem RoleServer.bound_of_pass {roles : Roles} {s : RoleServer roles} (mark : Boundary)
    (h : s.refusal? s.count = none) : Server.bound mark s = (none, pass mark s.next) := by
  show RoleServer.bound mark s = _
  unfold RoleServer.bound
  rw [h]

theorem RoleServer.bound_of_deny {roles : Roles} {s : RoleServer roles} {failure : Failure}
    (mark : Boundary) (h : s.refusal? s.count = some failure) :
    Server.bound mark s = (some failure, deny mark s.next) := by
  show RoleServer.bound mark s = _
  unfold RoleServer.bound
  rw [h]

/-! ## Work on memberships -/

section Transforms

variable {roles : Roles} {α β : Type}

/-- The transaction is still open, and so are exactly the savepoints that were. -/
structure Steady (c c' : Connection (RoleServer roles)) : Prop where
  inTransaction : c'.inTransaction = true
  saved : c'.server.saved = c.server.saved
  begun : c'.server.begun = c.server.begun

theorem Steady.trans {c c₁ c₂ : Connection (RoleServer roles)} (h : Steady c c₁)
    (h' : Steady c₁ c₂) : Steady c c₂ :=
  ⟨h'.inTransaction, h'.saved.trans h.saved, h'.begun.trans h.begun⟩

/-- Inside a transaction, the work takes the memberships before it to those after it in this way. -/
def Transforms (work : Talk (RoleServer roles) β) (change : Memberships → β → Memberships → Prop) :
    Prop :=
  ∀ c, c.inTransaction = true → ∃ b c', work.exec c = (b, c') ∧ Steady c c' ∧
    change c.server.members b c'.server.members

namespace Transforms

variable {change : Memberships → β → Memberships → Prop}

theorem mono {work : Talk (RoleServer roles) β} {change' : Memberships → β → Memberships → Prop}
    (h : Transforms work change) (himp : ∀ now b now', change now b now' → change' now b now') :
    Transforms work change' := by
  intro c hc
  obtain ⟨b, c', hrun, hsteady, hchange⟩ := h c hc
  exact ⟨b, c', hrun, hsteady, himp _ _ _ hchange⟩

theorem pure {b : β} (h : ∀ now, change now b now) :
    Transforms (Pure.pure b : Talk (RoleServer roles) β) change :=
  fun c hc => ⟨b, c, rfl, ⟨hc, rfl, rfl⟩, h _⟩

/-- The second half starts from the memberships that the first half leaves. -/
theorem bind {work : Talk (RoleServer roles) α} {next : α → Talk (RoleServer roles) β}
    {first : Memberships → α → Memberships → Prop} (hwork : Transforms work first)
    (hnext : ∀ a, Transforms (next a) fun middle b last =>
      ∀ now, first now a middle → change now b last) :
    Transforms (work >>= next) change := by
  intro c hc
  obtain ⟨a, c₁, hrun, hsteady, hfirst⟩ := hwork c hc
  obtain ⟨b, c₂, hrun', hsteady', hchange⟩ := hnext a c₁ hsteady.inTransaction
  refine ⟨b, c₂, ?_, hsteady.trans hsteady', hchange _ hfirst⟩
  rw [Talk.exec_bind_of hrun, hrun']

theorem lift {work : Talk (RoleServer roles) β}
    {change : Memberships → Except Error β → Memberships → Prop}
    (h : Transforms work fun now b now' => change now (.ok b) now') :
    Transforms (ExceptT.lift work : Session (RoleServer roles) β).run change := by
  intro c hc
  obtain ⟨b, c', hrun, hsteady, hchange⟩ := h c hc
  refine ⟨.ok b, c', ?_, hsteady, hchange⟩
  rw [← Session.exec_eq, Session.exec_lift, hrun]

/-- What follows a success is the second half; a failure ends the work. -/
theorem bind_run {work : Session (RoleServer roles) α} {next : α → Session (RoleServer roles) β}
    {first : Memberships → Except Error α → Memberships → Prop}
    {change : Memberships → Except Error β → Memberships → Prop}
    (hwork : Transforms work.run first)
    (hok : ∀ a, Transforms (next a).run fun middle outcome last =>
      ∀ now, first now (.ok a) middle → change now outcome last)
    (herror : ∀ error now middle, first now (.error error) middle →
      change now (.error error) middle) :
    Transforms (work >>= next).run change := by
  rw [ExceptT.run_bind]
  refine hwork.bind fun outcome => ?_
  -- the second part runs on the memberships that the first has left
  cases outcome with
  | ok a => exact hok a
  | error error => exact pure fun middle now h => herror error now middle h

theorem attempt {work : Session (RoleServer roles) α}
    {change : Memberships → Except Error α → Memberships → Prop} (h : Transforms work.run change) :
    Transforms (Session.attempt work).run fun now outcome now' =>
      ∃ tried, outcome = .ok tried ∧ change now tried now' :=
  lift (h.mono fun _ tried _ hchange => ⟨tried, rfl, hchange⟩)

/-- What a look-up finds is known to be found. -/
theorem bind_found {work : Session (RoleServer roles) α} {next : α → Session (RoleServer roles) β}
    {found : α → Prop} {change : Memberships → Except Error β → Memberships → Prop}
    (hwork : Transforms work.run fun now outcome now' =>
      now' = now ∧ ∀ a, outcome = .ok a → found a)
    (hok : ∀ a, found a → Transforms (next a).run change)
    (herror : ∀ error now, change now (.error error) now) :
    Transforms (work >>= next).run change := by
  intro c hc
  obtain ⟨outcome, c₁, hrun, hsteady, hmembers, hfound⟩ := hwork c hc
  cases outcome with
  | error error =>
    refine ⟨.error error, c₁, Session.exec_bind_error hrun, hsteady, ?_⟩
    rw [hmembers]
    exact herror error _
  | ok a =>
    obtain ⟨outcome, c₂, hrun', hsteady', hchange⟩ := hok a (hfound a rfl) c₁ hsteady.inTransaction
    -- the look-up has not moved the memberships, so the rest starts from the given ones
    rw [hmembers] at hchange
    refine ⟨outcome, c₂, ?_, hsteady.trans hsteady', hchange⟩
    rw [← Session.exec_eq, Session.exec_bind_ok hrun]
    exact hrun'

end Transforms

/-! ### Commands -/

open Session Catalog

/-- A command that is accepted changes the memberships as it says, and is answered as they are; one
that is refused, or cannot be written, changes nothing. -/
theorem transforms_send (command : Command) :
    Transforms (send command : Session (RoleServer roles) _).run fun now outcome now' =>
      match outcome with
      | .ok rows => now' = command.change now ∧ rows = roles.reply now command
      | .error _ => now' = now := by
  intro c hc
  -- a command that cannot be written is not sent, so the server does not count it
  cases hsql : command.sql with
  | error fault => exact ⟨_, c, exec_send_unwritable hsql c, ⟨hc, rfl, rfl⟩, rfl⟩
  | ok sql =>
    have hrun := exec_send hsql hc
    cases hrefusal : c.server.refusal? c.server.count with
    | some failure =>
      rw [RoleServer.answer_of_deny command hrefusal] at hrun
      exact ⟨_, _, hrun, ⟨hc, rfl, rfl⟩, rfl⟩
    | none =>
      rw [RoleServer.answer_of_pass command hrefusal] at hrun
      exact ⟨_, _, hrun, ⟨hc, rfl, rfl⟩, rfl, rfl⟩

/-- A question changes nothing, and is answered as the roles and the memberships are; so what is
made of the answer is known as well. -/
theorem transforms_ask {query : Query} {next : List (List Value) → Session (RoleServer roles) α}
    {read : List (List Value) → Except Error α}
    (hnext : ∀ rows, next rows = ofOutcome (read rows)) :
    Transforms (ask query >>= next).run fun now outcome now' =>
      now' = now ∧ ∀ a, outcome = .ok a → read (roles.answer now query) = .ok a := by
  refine (transforms_send (.query query)).bind_run (fun rows => ?_) ?_
  · rw [hnext]
    refine .pure fun middle now h => ⟨h.1, fun a ha => ?_⟩
    rw [← ha, h.2]
    rfl
  · exact fun error now middle h => ⟨h, fun _ h => nomatch h⟩

/-- How a command that changes memberships goes. -/
abbrev Changes (change : Memberships → Memberships) (now : Memberships)
    (outcome : Except Error Unit) (now' : Memberships) : Prop :=
  match outcome with
  | .ok _ => now' = change now
  | .error _ => now' = now

theorem transforms_grantRole (role member : String) :
    Transforms (grantRole role member : Session (RoleServer roles) Unit).run
      (Changes (·.insert role member)) := by
  refine (transforms_send (.grantRole role member)).bind_run ?_ fun _ _ _ h => h
  exact fun _ => .pure fun _ _ h => h.1

theorem transforms_revokeRole (role member : String) :
    Transforms (revokeRole role member : Session (RoleServer roles) Unit).run
      (Changes (·.erase role member)) := by
  refine (transforms_send (.revokeRole role member)).bind_run ?_ fun _ _ _ h => h
  exact fun _ => .pure fun _ _ h => h.1

/-! ### Look-ups -/

/-- Questions leave the memberships alone. -/
theorem replay_of_questions {events : List Event} (s : RoleServer roles)
    (h : ∀ event ∈ events, ∃ query sql, event = .sent (.query query) sql) :
    (replay events s).2.members = s.members ∧ (replay events s).2.saved = s.saved ∧
      (replay events s).2.begun = s.begun := by
  induction events generalizing s with
  | nil => exact ⟨rfl, rfl, rfl⟩
  | cons event rest ih =>
    obtain ⟨query, sql, rfl⟩ := h event List.mem_cons_self
    -- refused or not, a question leaves the three lists alone
    have hone : ((Event.sent (.query query) sql).served s).2.members = s.members ∧
        ((Event.sent (.query query) sql).served s).2.saved = s.saved ∧
        ((Event.sent (.query query) sql).served s).2.begun = s.begun := by
      show (RoleServer.answer (.query query) s).2.members = _ ∧
        (RoleServer.answer (.query query) s).2.saved = _ ∧
        (RoleServer.answer (.query query) s).2.begun = _
      unfold RoleServer.answer
      cases s.refusal? s.count <;> exact ⟨rfl, rfl, rfl⟩
    obtain ⟨hmembers, hsaved, hbegun⟩ := ih ((Event.sent (.query query) sql).served s).2
      fun event hevent => h event (List.mem_cons_of_mem _ hevent)
    rw [replay_cons]
    exact ⟨hmembers.trans hone.1, hsaved.trans hone.2.1, hbegun.trans hone.2.2⟩

/-- Whatever is looked up, the memberships stay as they are. -/
theorem transforms_of_asks {work : Session (RoleServer roles) α} (h : Asks work) :
    Transforms work.run fun now _ now' => now' = now := by
  intro c hc
  obtain ⟨outcome, steps, c', hleads, hc', hasked⟩ := h c hc
  -- the steps of a look-up are questions, so their events are
  have hquestions : ∀ event ∈ steps.map Step.event, ∃ query sql,
      event = .sent (.query query) sql := by
    intro event hevent
    obtain ⟨step, hstep, rfl⟩ := List.mem_map.1 hevent
    obtain ⟨query, _, hquery⟩ := hasked.questions step hstep
    obtain ⟨event, failure⟩ := step
    cases event with
    | sent command sql => exact ⟨query, sql, by rw [Option.some.inj hquery]⟩
    | _ => cases hquery
  obtain ⟨hmembers, hsaved, hbegun⟩ := replay_of_questions c.server hquestions
  have hserver : (replay (steps.map Step.event) c.server).2 = c'.server :=
    congrArg Prod.snd hleads.server
  rw [hserver] at hmembers hsaved hbegun
  exact ⟨outcome, c', hleads.exec, ⟨hc', hsaved, hbegun⟩, hmembers⟩

/-- The role in the first row, if there is a row. -/
def firstRole (rows : List (List Value)) : Except Error (Option ServerRole) :=
  rows.head?.elim (.ok none) fun row => (rowRole row).map some

/-- A role is found as the server has it. -/
theorem transforms_findRole (name : String) :
    Transforms (findRole name : Session (RoleServer roles) _).run fun now outcome now' =>
      now' = now ∧ ∀ found, outcome = .ok found → found = roles.identity? name := by
  have hasked : Transforms (findRole name : Session (RoleServer roles) _).run
      fun now outcome now' => now' = now ∧ ∀ found, outcome = .ok found →
        firstRole (roles.answer now (.role name)) = .ok found := by
    unfold findRole
    refine transforms_ask fun rows => ?_
    unfold firstRole
    cases rows.head? with
    | none => rfl
    | some row =>
      dsimp only [Option.elim]
      cases rowRole row <;> rfl
  refine hasked.mono fun now outcome now' h => ⟨h.1, fun found hfound => ?_⟩
  have hrows := h.2 found hfound
  rw [Roles.answer_role] at hrows
  cases hidentity : roles.identity? name with
  | none =>
    rw [hidentity] at hrows
    exact (Except.ok.inj hrows).symm
  | some identity =>
    rw [hidentity] at hrows
    -- a name that is stored is read back as it is, also when there is none
    rcases identity with ⟨_ | _, _, _⟩ <;> exact (Except.ok.inj hrows).symm

theorem transforms_lookUpRole (name : String) :
    Transforms (lookUpRole name : Session (RoleServer roles) _).run fun now outcome now' =>
      now' = now ∧ ∀ found, outcome = .ok found → found = roles.find name := by
  unfold lookUpRole Roles.find
  show Transforms (ExceptT.run (if Role.isPublic name = true then _ else _)) _
  split
  · refine .pure fun now => ⟨rfl, fun found hfound => ?_⟩
    rw [Except.ok.inj hfound]
  · exact transforms_findRole name

/-- A membership is found as the server has it. -/
theorem transforms_isMember (role member : String) :
    Transforms (isMember role member : Session (RoleServer roles) _).run fun now outcome now' =>
      now' = now ∧ ∀ flag : Flag, outcome = .ok flag → flag.isSet = now role member := by
  refine (transforms_of_asks (asks_capabilities trivial)).bind_run ?_ ?_
  · intro caps
    have hread (rows : List (List Value)) : (do return ⟨← ofOutcome (firstCell rows)⟩ :
        Session (RoleServer roles) Flag) = ofOutcome ((firstCell rows).map Flag.mk) := by
      cases firstCell rows <;> rfl
    refine (transforms_ask hread).mono fun middle outcome last h now hnow => ?_
    subst hnow
    refine ⟨h.1, fun flag hflag => ?_⟩
    rw [← Except.ok.inj (h.2 flag hflag)]
    rfl
  · exact fun error now middle h => ⟨h, fun _ h => nomatch h⟩

theorem transforms_connectingRole :
    Transforms (connectingRole : Session (RoleServer roles) _).run fun now outcome now' =>
      now' = now ∧ ∀ user, outcome = .ok user → user = some roles.user := by
  have hread (rows : List (List Value)) : (do return (← ofOutcome (firstCell rows)).name? :
      Session (RoleServer roles) (Option String)) =
      ofOutcome ((firstCell rows).map Value.name?) := by
    cases firstCell rows <;> rfl
  refine (transforms_ask hread).mono fun now outcome now' h => ⟨h.1, fun user huser => ?_⟩
  exact (Except.ok.inj (h.2 user huser)).symm

end Transforms

end PgGrants
