/-
A server on which memberships carry an option: the admin option, say, or whether the role can be
taken on. What a new membership carries, and which memberships count when the server is asked who is
a member of whom, are parameters. A membership that is granted again carries what a new one carries,
and one that is revoked is gone with its option. As on the server without options, any command and
any boundary may be refused, and rolling back brings back the memberships of then.

What is proved here is about success: a look-up that succeeds found what the server has, and a
command that succeeds did what it says.
-/
import PgGrants.Impersonation
import PgGrants.Proofs.RoleServer

set_option autoImplicit false

namespace PgGrants

/-! ## 1. Memberships with options -/

/-- Who is a member of whom, the role coming first, and what each membership carries. -/
abbrev Enrolments (γ : Type) := String → String → Option γ

namespace Enrolments

variable {γ : Type}

/-- With one membership made or made anew. -/
def insert (members : Enrolments γ) (role member : String) (carried : γ) : Enrolments γ :=
  fun r m => if r = role ∧ m = member then some carried else members r m

/-- Without one of the memberships. -/
def erase (members : Enrolments γ) (role member : String) : Enrolments γ :=
  fun r m => if r = role ∧ m = member then none else members r m

end Enrolments

/-- The part that options play on a server. -/
structure OptionRules (γ : Type) where
  /-- What a membership carries that is granted with the admin option, or without it. -/
  granted : Bool → γ
  /-- The membership counts for a question about members, which may be meant only for roles that
  can be taken on. -/
  counts : Bool → γ → Bool

variable {γ : Type}

/-- The memberships that count. -/
def OptionRules.counted (rules : OptionRules γ) (settable : Bool) (members : Enrolments γ) :
    Memberships :=
  fun role member => (members role member).any (rules.counts settable)

/-- The question is meant only for roles that can be taken on. -/
def Query.isOnSettable : Query → Bool
  | .isMember _ _ settable => settable
  | _ => false

/-- The rows that come back for a command; only questions get any. -/
def OptionRules.reply (rules : OptionRules γ) (roles : Roles) (members : Enrolments γ) :
    Command → List (List Value)
  | .query query => roles.answer (rules.counted query.isOnSettable members) query
  | _ => []

/-- What a command does to memberships. -/
def OptionRules.change (rules : OptionRules γ) : Command → Enrolments γ → Enrolments γ
  | .grantRole (some role) (some member), members =>
    members.insert role member (rules.granted false)
  | .revokeRole (some role) (some member), members => members.erase role member
  | .statement (.membership ⟨direction, some member, some role, adminOption⟩), members =>
    if direction.isGrant then members.insert role member (rules.granted adminOption.isSet)
    else members.erase role member
  | _, members => members

/-- A server with these roles and rules. -/
structure OptionServer (roles : Roles) (rules : OptionRules γ) where
  members : Enrolments γ
  /-- The memberships at the savepoints that are set, the latest first. -/
  saved : List (Enrolments γ)
  /-- The memberships when the transaction was opened. -/
  begun : Enrolments γ
  /-- What the request with this number is refused with, if it is refused. A connection, a command
  and a boundary are requests. -/
  refusal? : Nat → Option Failure
  /-- How many requests there were so far. -/
  count : Nat

variable {roles : Roles} {rules : OptionRules γ}

namespace OptionServer

/-- The server after one more request. -/
def next (s : OptionServer roles rules) : OptionServer roles rules :=
  { s with count := s.count + 1 }

/-- The reply to a command. -/
def answer (command : Command) (s : OptionServer roles rules) :
    Reply × OptionServer roles rules :=
  match s.refusal? s.count with
  | some failure => (.failed failure, s.next)
  | none =>
    (.rows (rules.reply roles s.members command),
      { s.next with members := rules.change command s.members })

/-- What a boundary does. -/
def pass (mark : Boundary) (s : OptionServer roles rules) : OptionServer roles rules :=
  match mark with
  | .begin => { s with begun := s.members, saved := [] }
  | .commit => s
  | .rollback => { s with members := s.begun }
  | .savepoint => { s with saved := s.members :: s.saved }
  | .release => { s with saved := s.saved.tail }
  | .rollbackTo => { s with members := s.saved.headD s.members, saved := s.saved.tail }

/-- What becomes of a boundary that is refused. A transaction ends all the same, undone, and a
savepoint that could not be released or rolled back to is given up. -/
def deny (mark : Boundary) (s : OptionServer roles rules) : OptionServer roles rules :=
  match mark with
  | .commit => { s with members := s.begun }
  | .rollback => { s with members := s.begun }
  | .release => { s with saved := s.saved.tail }
  | .rollbackTo => { s with saved := s.saved.tail }
  | _ => s

/-- The server tells a boundary. -/
def bound (mark : Boundary) (s : OptionServer roles rules) :
    Option Failure × OptionServer roles rules :=
  match s.refusal? s.count with
  | some failure => (some failure, deny mark s.next)
  | none => (none, pass mark s.next)

instance : Server (OptionServer roles rules) where
  connect _ s := (s.refusal? s.count, s.next)
  answer := answer
  bound := bound

/-- A command that is answered changed the memberships as it says, and was answered as they are. -/
theorem answer_eq_rows {command : Command} {s s' : OptionServer roles rules}
    {rows : List (List Value)} (h : Server.answer command s = (.rows rows, s')) :
    rows = rules.reply roles s.members command ∧ s'.members = rules.change command s.members := by
  have hanswer : answer command s = (.rows rows, s') := h
  unfold answer at hanswer
  -- rows come only from a command that is not refused
  cases hrefusal : s.refusal? s.count with
  | some failure =>
    rw [hrefusal] at hanswer
    cases hanswer
  | none =>
    rw [hrefusal] at hanswer
    cases hanswer
    exact ⟨rfl, rfl⟩

/-- To set a savepoint or to release one moves no membership, refused or not. -/
theorem members_of_bound {mark : Boundary} (h : mark = .savepoint ∨ mark = .release)
    (s : OptionServer roles rules) : (Server.bound mark s).2.members = s.members := by
  show (bound mark s).2.members = s.members
  unfold bound
  rcases h with rfl | rfl <;> cases s.refusal? s.count <;> rfl

end OptionServer

/-! ## 2. Commands and boundaries that succeed

Runs are read backwards here: from the fact that a call has returned follow its answer and the
memberships behind it, whatever else the server may have refused. -/

section Success

open Session Catalog

variable {α : Type}

/-- Questions about members are meant only for roles that can be taken on, on this connection. -/
def Connection.settable (c : Connection (OptionServer roles rules)) : Bool :=
  (c.capabilities.getD ⟨.ofNumber roles.version⟩).supports .membershipSetOption

/-- These are the memberships in the end; the transaction is open, and questions about members are
meant as before. -/
structure Arrives (c : Connection (OptionServer roles rules)) (members : Enrolments γ)
    (c' : Connection (OptionServer roles rules)) : Prop where
  inTransaction : c'.inTransaction = true
  settable : c'.settable = c.settable
  members : c'.server.members = members

theorem Arrives.refl {c : Connection (OptionServer roles rules)} (hc : c.inTransaction = true) :
    Arrives c c.server.members c := ⟨hc, rfl, rfl⟩

theorem Arrives.trans {c c₁ c₂ : Connection (OptionServer roles rules)}
    {members members' : Enrolments γ} (h : Arrives c members c₁) (h' : Arrives c₁ members' c₂) :
    Arrives c members' c₂ :=
  ⟨h'.inTransaction, h'.settable.trans h.settable, h'.members⟩

/-- A savepoint that is left with success was released, after work that had succeeded. -/
theorem Session.exec_leaveSavepoint_eq_ok {σ : Type} [Server σ] {entered : Except Error α} {a : α}
    {c c' : Connection σ} (h : exec (leaveSavepoint entered) c = (.ok a, c')) :
    entered = .ok a ∧ exec (boundary .release) c = (.ok (), c') := by
  unfold leaveSavepoint at h
  cases entered with
  | error error =>
    -- what failed is handed on once the savepoint is rolled back to
    obtain ⟨_, _, -, hthrow⟩ := exec_bind_eq_ok h
    rw [exec_throw] at hthrow
    cases hthrow
  | ok given =>
    obtain ⟨_, _, hrelease, hpure⟩ := exec_bind_eq_ok h
    rw [exec_pure] at hpure
    cases hpure
    exact ⟨rfl, hrelease⟩

namespace OptionServer

variable {c c' : Connection (OptionServer roles rules)}

/-- A command that succeeds did what it says, and the rows are the answer to it. -/
theorem of_exec_send {command : Command} {rows : List (List Value)}
    (hc : c.inTransaction = true) (h : exec (send command) c = (.ok rows, c')) :
    rows = rules.reply roles c.server.members command ∧
      Arrives c (rules.change command c.server.members) c' := by
  -- a command that cannot be written never reaches the server
  cases hsql : command.sql with
  | error fault =>
    rw [exec_send_unwritable hsql] at h
    cases h
  | ok sql =>
    rw [exec_send hsql hc] at h
    rcases hanswer : Server.answer command c.server with ⟨given | failure, s'⟩
    · rw [hanswer] at h
      cases h
      obtain ⟨hrows, hmembers⟩ := answer_eq_rows hanswer
      exact ⟨hrows, hc, rfl, hmembers⟩
    · rw [hanswer] at h
      cases h

/-- So does one of which the rows do not matter. -/
theorem of_exec_tell {command : Command} {u : Unit} (hc : c.inTransaction = true)
    (h : exec (do let _ ← send command) c = (.ok u, c')) :
    Arrives c (rules.change command c.server.members) c' := by
  obtain ⟨rows, c₁, hsend, hrest⟩ := exec_bind_eq_ok h
  rw [exec_pure] at hrest
  cases hrest
  exact (of_exec_send hc hsend).2

theorem of_exec_grantRole {role member : String} {u : Unit} (hc : c.inTransaction = true)
    (h : exec (grantRole role member) c = (.ok u, c')) :
    Arrives c (c.server.members.insert role member (rules.granted false)) c' := of_exec_tell hc h

theorem of_exec_revokeRole {role member : String} {u : Unit} (hc : c.inTransaction = true)
    (h : exec (revokeRole role member) c = (.ok u, c')) :
    Arrives c (c.server.members.erase role member) c' := of_exec_tell hc h

/-- So does a statement of a plan. -/
theorem of_exec_perform {statement : Statement} {u : Unit} (hc : c.inTransaction = true)
    (h : exec (perform statement) c = (.ok u, c')) :
    Arrives c (rules.change (.statement statement) c.server.members) c' := by
  unfold perform at h
  dsimp only at h
  split at h
  · rw [exec_throw] at h
    cases h
  · rw [exec_bind_ok (exec_attempt _ c)] at h
    rcases hsend : exec (send (.statement statement)) c with ⟨error | rows, c₁⟩
    · -- whatever the error is, it comes out
      rw [hsend] at h
      cases error <;> cases h
    · rw [hsend] at h
      cases h
      exact (of_exec_send hc hsend).2

/-- A savepoint is set or released. -/
theorem of_exec_boundary {mark : Boundary} (hmark : mark = .savepoint ∨ mark = .release)
    {outcome : Except Error Unit} (hc : c.inTransaction = true)
    (h : exec (boundary mark) c = (outcome, c')) : Arrives c c.server.members c' := by
  rw [exec_boundary] at h
  cases h
  exact ⟨hc, rfl, members_of_bound hmark c.server⟩

theorem of_exec_enterSavepoint {outcome : Except Error Unit} (hc : c.inTransaction = true)
    (h : exec enterSavepoint c = (outcome, c')) : Arrives c c.server.members c' := by
  unfold enterSavepoint at h
  rw [exec_bind_ok (exec_ensureTransaction hc)] at h
  exact of_exec_boundary (.inl rfl) hc h

/-! ## 3. Look-ups that succeed -/

/-- A question that succeeds is answered as the roles and the memberships are, and what is made of
the answer is known as well. -/
theorem of_exec_ask {query : Query}
    {next : List (List Value) → Session (OptionServer roles rules) α}
    {read : List (List Value) → Except Error α} {a : α}
    (hnext : ∀ rows, next rows = ofOutcome (read rows)) (hc : c.inTransaction = true)
    (h : exec (ask query >>= next) c = (.ok a, c')) :
    read (roles.answer (rules.counted query.isOnSettable c.server.members) query) = .ok a ∧
      Arrives c c.server.members c' := by
  obtain ⟨rows, c₁, hask, hrest⟩ := exec_bind_eq_ok h
  obtain ⟨hrows, harrives⟩ := of_exec_send hc hask
  rw [hnext, exec_ofOutcome] at hrest
  obtain ⟨hread, rfl⟩ := Prod.mk.inj hrest
  subst hrows
  exact ⟨hread, harrives⟩

theorem of_exec_findRole {name : String} {found : Option ServerRole}
    (hc : c.inTransaction = true) (h : exec (findRole name) c = (.ok found, c')) :
    found = roles.identity? name ∧ Arrives c c.server.members c' := by
  obtain ⟨hread, harrives⟩ : firstRole (roles.answer (rules.counted
      (Query.isOnSettable (.role name)) c.server.members) (.role name)) = .ok found ∧
        Arrives c c.server.members c' := by
    refine of_exec_ask (fun rows => ?_) hc h
    unfold firstRole
    cases rows.head? with
    | none => rfl
    | some row =>
      dsimp only [Option.elim]
      cases rowRole row <;> rfl
  refine ⟨?_, harrives⟩
  rw [Roles.answer_role] at hread
  cases hidentity : roles.identity? name with
  | none =>
    rw [hidentity] at hread
    exact (Except.ok.inj hread).symm
  | some identity =>
    rw [hidentity] at hread
    -- a name that is stored is read back as it is, also when there is none
    rcases identity with ⟨_ | _, _, _⟩ <;> exact (Except.ok.inj hread).symm

/-- A role is found as the server has it. -/
theorem of_exec_lookUpRole {name : String} {found : Option ServerRole}
    (hc : c.inTransaction = true) (h : exec (lookUpRole name) c = (.ok found, c')) :
    found = roles.find name ∧ Arrives c c.server.members c' := by
  unfold lookUpRole at h
  unfold Roles.find
  -- PUBLIC is not asked for
  by_cases hpublic : Role.isPublic name = true
  · rw [if_pos (show Role.isPublic (Role.orPublic name) = true from hpublic), exec_pure] at h
    cases h
    rw [if_pos hpublic]
    exact ⟨rfl, .refl hc⟩
  · rw [if_neg (show ¬ Role.isPublic (Role.orPublic name) = true from hpublic)] at h
    rw [if_neg hpublic]
    exact of_exec_findRole hc h

theorem of_exec_hasRole {name : String} {found : Bool}
    (hc : c.inTransaction = true) (h : exec (hasRole name) c = (.ok found, c')) :
    found = (roles.find name).isSome ∧ Arrives c c.server.members c' := by
  obtain ⟨identity, c₁, hlook, hrest⟩ := exec_bind_eq_ok h
  rw [exec_pure] at hrest
  obtain ⟨hfound, rfl⟩ := Prod.mk.inj hrest
  obtain ⟨hidentity, harrives⟩ := of_exec_lookUpRole hc hlook
  rw [hidentity] at hfound
  exact ⟨(Except.ok.inj hfound).symm, harrives⟩

theorem of_exec_connectingRole {user : Option String}
    (hc : c.inTransaction = true) (h : exec connectingRole c = (.ok user, c')) :
    user = some roles.user ∧ Arrives c c.server.members c' := by
  have hnext : ∀ rows : List (List Value),
      (do return (← ofOutcome (firstCell rows)).name? :
        Session (OptionServer roles rules) (Option String)) =
      ofOutcome ((firstCell rows).map Value.name?) := by
    intro rows
    cases firstCell rows <;> rfl
  obtain ⟨hread, harrives⟩ := of_exec_ask hnext hc h
  exact ⟨(Except.ok.inj hread).symm, harrives⟩

/-- What the server can do is what is known of it, or else what its version says. -/
theorem of_exec_capabilities {caps : Capabilities} (hc : c.inTransaction = true)
    (h : exec Session.capabilities c = (.ok caps, c')) :
    caps.supports .membershipSetOption = c.settable ∧ Arrives c c.server.members c' := by
  unfold Session.capabilities at h
  rw [exec_bind_ok (exec_get c)] at h
  -- known capabilities are taken as they are; otherwise the server is asked for its version
  cases hknown : c.capabilities with
  | some known =>
    rw [hknown] at h
    dsimp only at h
    rw [exec_pure] at h
    cases h
    refine ⟨?_, .refl hc⟩
    unfold Connection.settable
    rw [hknown]
    rfl
  | none =>
    rw [hknown] at h
    dsimp only at h
    obtain ⟨found, c₁, hfingerprint, hrest⟩ := exec_bind_eq_ok h
    obtain ⟨number, c₂, hversion, hfound⟩ := exec_bind_eq_ok hfingerprint
    obtain ⟨hread, harrives⟩ := of_exec_ask (fun _ => rfl) hc hversion
    rw [exec_pure] at hfound
    cases hfound
    -- what the server answers is its version, by which the connection was judged
    have hnumber : number = roles.version := (Except.ok.inj hread).symm
    obtain ⟨hcaps, rfl⟩ : (Except.ok (⟨.ofNumber number⟩ : Capabilities) : Except Error _) =
        .ok caps ∧ { c₁ with capabilities := some ⟨.ofNumber number⟩ } = c' := Prod.mk.inj hrest
    cases hcaps
    have hsettable : (⟨.ofNumber number⟩ : Capabilities).supports .membershipSetOption =
        c.settable := by
      unfold Connection.settable
      rw [hknown, hnumber]
      rfl
    exact ⟨hsettable, harrives.inTransaction, hsettable, harrives.members⟩

/-- A membership is found when the server has one that counts. -/
theorem of_exec_isMember {role member : String} {flag : Flag}
    (hc : c.inTransaction = true) (h : exec (isMember role member) c = (.ok flag, c')) :
    flag.isSet = rules.counted c.settable c.server.members role member ∧
      Arrives c c.server.members c' := by
  obtain ⟨caps, c₁, hcaps, hrest⟩ := exec_bind_eq_ok h
  obtain ⟨hsettable, hfirst⟩ := of_exec_capabilities hc hcaps
  -- reading the flag decides nothing more than the first cell does
  have hnext : ∀ rows : List (List Value),
      (do return ⟨← ofOutcome (firstCell rows)⟩ : Session (OptionServer roles rules) Flag) =
        ofOutcome ((firstCell rows).map Flag.mk) := by
    intro rows
    cases firstCell rows <;> rfl
  obtain ⟨hread, hsecond⟩ := of_exec_ask hnext hfirst.inTransaction hrest
  rw [hfirst.members] at hread hsecond
  refine ⟨?_, hfirst.trans hsecond⟩
  rw [← Except.ok.inj hread, ← hsettable]
  rfl

end OptionServer

/-! ## 4. Roles that have to be joined -/

/-- The user has to join the role: another role, which exists, is no superuser, and does not count
the user as a member. -/
def OptionRules.mustJoin (rules : OptionRules γ) (roles : Roles) (settable : Bool)
    (members : Enrolments γ) (role : String) : Bool :=
  role != roles.user && (roles.find role).any (!·.isSuperuser) &&
    !rules.counted settable members role roles.user

theorem OptionRules.mustJoin_iff {settable : Bool} {members : Enrolments γ} {role : String} :
    rules.mustJoin roles settable members role = true ↔
      role ≠ roles.user ∧
        (∃ identity, roles.find role = some identity ∧ identity.isSuperuser = false) ∧
        rules.counted settable members role roles.user = false := by
  unfold OptionRules.mustJoin
  rw [Bool.and_eq_true, Bool.and_eq_true, bne_iff_ne, Option.any_eq_true, Bool.not_eq_true',
    and_assoc]
  simp only [Bool.not_eq_true']

namespace OptionServer

variable {c c' : Connection (OptionServer roles rules)}

theorem of_exec_mustJoin {role : String} {needed : Bool} (hc : c.inTransaction = true)
    (h : exec (mustJoin roles.user role) c = (.ok needed, c')) :
    needed = rules.mustJoin roles c.settable c.server.members role ∧
      Arrives c c.server.members c' := by
  unfold mustJoin at h
  unfold OptionRules.mustJoin
  by_cases hsame : role = roles.user
  · rw [if_pos (congrArg some hsame), exec_pure] at h
    cases h
    rw [hsame, bne_self_eq_false]
    exact ⟨rfl, .refl hc⟩
  · rw [if_neg fun heq => hsame (Option.some.inj heq)] at h
    rw [bne_iff_ne.2 hsame, Bool.true_and]
    obtain ⟨found, c₁, hlook, hrest⟩ := exec_bind_eq_ok h
    obtain ⟨hfound, hfirst⟩ := of_exec_lookUpRole hc hlook
    rw [← hfound]
    cases found with
    | none =>
      rw [exec_throw] at hrest
      cases hrest
    | some identity =>
      dsimp only at hrest
      rw [Option.any_some]
      -- neither the connecting role nor a superuser's is joined; of the others, the server is asked
      by_cases hsuperuser : identity.isSuperuser = true
      · rw [if_pos hsuperuser, exec_pure] at hrest
        cases hrest
        rw [hsuperuser]
        exact ⟨rfl, hfirst⟩
      · rw [if_neg hsuperuser] at hrest
        rw [Bool.eq_false_iff.2 hsuperuser, Bool.not_false, Bool.true_and]
        obtain ⟨flag, c₂, hmember, hflag⟩ := exec_bind_eq_ok hrest
        obtain ⟨hcounted, hsecond⟩ := of_exec_isMember hfirst.inTransaction hmember
        rw [hfirst.members] at hcounted hsecond
        rw [exec_pure] at hflag
        cases hflag
        rw [hcounted, hfirst.settable]
        exact ⟨rfl, hfirst.trans hsecond⟩

/-- A role leaves the user when its membership counts. -/
theorem of_exec_leave {role : String} {left : Bool} (hc : c.inTransaction = true)
    (h : exec (leave roles.user role) c = (.ok left, c')) :
    left = rules.counted c.settable c.server.members roles.user role ∧
      Arrives c (if left then c.server.members.erase roles.user role else c.server.members) c' := by
  obtain ⟨flag, c₁, hmember, hrest⟩ := exec_bind_eq_ok h
  obtain ⟨hcounted, hfirst⟩ := of_exec_isMember hc hmember
  rw [← hcounted]
  -- a membership that the server does not count is left alone
  by_cases hflag : flag.isSet = true
  · rw [if_pos hflag] at hrest
    obtain ⟨u, c₂, hrevoke, hpure⟩ := exec_bind_eq_ok hrest
    have hsecond := of_exec_revokeRole hfirst.inTransaction hrevoke
    rw [hfirst.members] at hsecond
    rw [exec_pure] at hpure
    cases hpure
    exact ⟨hflag.symm, hfirst.trans hsecond⟩
  · rw [if_neg hflag, exec_pure] at hrest
    cases hrest
    exact ⟨(Bool.eq_false_iff.2 hflag).symm, hfirst⟩

end OptionServer

end Success

/-! ## 5. A sample -/

/-- The connecting role is `app`, and no role is a superuser. -/
def plainRoles : Roles := ⟨"app", fun name => some ⟨some name, 10, false⟩, 160000⟩

/-- A schema is handed over to `owner`. -/
def schemaHandOver : List Statement := [.schemaOwner ⟨some "sales", some "owner", some "app"⟩]

end PgGrants
