/-
Looking whether everything is there. What an operation on a grant or on default privileges is about
may be missing, and it puts its questions in an order, up to the first that does not find what it
asks for. Here the questions are data: `LooksUp` says how a list of them can go, whatever the server
replies, and nothing in it depends on the operation that puts them.

That an operation begins by putting its questions is said by `Seeks`, whose rules follow the ways in
which work is put together. It speaks of the state of the server and not of the log, so two
operations that begin alike hear the same from the same server.
-/
import PgGrants.Proofs.Lookups
import PgGrants.Proofs.Observed
import PgGrants.Proofs.Transcript

set_option autoImplicit false

namespace PgGrants

/-! ## 1. Questions and how they go -/

/-- A question whether something is there. -/
structure LookUp where
  query : Query
  /-- What the rows of a reply say: it is there or it is not, unless they cannot be read. -/
  judge : List (List Value) → Except Error Bool

/-- What a search comes to. -/
inductive Verdict where
  | found
  | missing
  | failed (error : Error)

/-- The verdict of one question. -/
def Verdict.of : Except Error Bool → Verdict
  | .ok true => .found
  | .ok false => .missing
  | .error error => .failed error

/-- What a reply to the question comes to. -/
def LookUp.verdict (look : LookUp) (reply : Reply) : Verdict :=
  .of (Session.rowsOf reply >>= look.judge)

/-- A command was sent. -/
abbrev Spoken (steps : List Step) : Prop := ∃ step ∈ steps, step.command?.isSome = true

/-- The exchange sends a command. -/
def Exchange.isCommand (x : Exchange) : Bool := x.step.command?.isSome

/-- How the questions go: one after the other, up to the first that does not find what it asks for.
-/
inductive LooksUp : List LookUp → List Exchange → Verdict → Prop where
  | nothing : LooksUp [] [] .found
  | unwritable {look : LookUp} {rest : List LookUp} {fault : Unwritable}
      (hsql : look.query.sql = .error fault) :
      LooksUp (look :: rest) [] (.failed (.unwritable fault))
  | stops {look : LookUp} {rest : List LookUp} {sql : String} {reply : Reply}
      (hsql : look.query.sql = .ok sql) (h : look.verdict reply ≠ .found) :
      LooksUp (look :: rest) [⟨.sent (.query look.query) sql, reply⟩] (look.verdict reply)
  | goesOn {look : LookUp} {rest : List LookUp} {sql : String} {reply : Reply}
      {looked : List Exchange} {verdict : Verdict} (hsql : look.query.sql = .ok sql)
      (h : look.verdict reply = .found) (hrest : LooksUp rest looked verdict) :
      LooksUp (look :: rest) (⟨.sent (.query look.query) sql, reply⟩ :: looked) verdict

namespace LooksUp

variable {first second : List LookUp} {looked more : List Exchange} {verdict : Verdict}

/-- One question, and its reply. -/
theorem single {look : LookUp} {sql : String} (hsql : look.query.sql = .ok sql) (reply : Reply) :
    LooksUp [look] [⟨.sent (.query look.query) sql, reply⟩] (look.verdict reply) := by
  by_cases h : look.verdict reply = .found
  · rw [h]
    exact .goesOn hsql h .nothing
  · exact .stops hsql h

/-- Further questions are put when everything was found. -/
theorem append (h : LooksUp first looked .found) (hsecond : LooksUp second more verdict) :
    LooksUp (first ++ second) (looked ++ more) verdict := by
  -- the verdict is an index of the relation, so it has to be a variable for the induction
  generalize hfound : Verdict.found = ended at h
  induction h with
  | nothing => exact hsecond
  | unwritable => cases hfound
  | stops _ h => exact absurd hfound.symm h
  | goesOn hsql h _ ih => exact .goesOn hsql h (ih hfound)

/-- Nothing is asked after something was not found. -/
theorem stop (h : LooksUp first looked verdict) (hverdict : verdict ≠ .found) :
    LooksUp (first ++ second) looked verdict := by
  induction h with
  | nothing => exact absurd rfl hverdict
  | unwritable hsql => exact .unwritable hsql
  | stops hsql h => exact .stops hsql h
  | goesOn hsql h _ ih => exact .goesOn hsql h (ih hverdict)

theorem isCommand (h : LooksUp first looked verdict) : ∀ x ∈ looked, x.isCommand = true := by
  induction h with
  | nothing => exact List.forall_mem_nil _
  | unwritable => exact List.forall_mem_nil _
  | stops => exact List.forall_mem_singleton.2 rfl
  | goesOn _ _ _ ih => exact List.forall_mem_cons.2 ⟨rfl, ih⟩

/-- What is missing was asked for. -/
theorem ne_nil_of_missing (h : LooksUp first looked .missing) : looked ≠ [] := by
  generalize hmissing : Verdict.missing = ended at h
  cases h with
  | nothing => cases hmissing
  | unwritable => cases hmissing
  | stops => exact List.cons_ne_nil _ _
  | goesOn => exact List.cons_ne_nil _ _

end LooksUp

/-! ## 2. Work that goes the same whatever the log says

What a look-up comes to depends on the server and on what is known of it. So a run of it can be told
from the server alone, and its exchanges are those that anybody would hear who asked the same. -/

variable {σ α β : Type} [Server σ] {caps : Capabilities}

/-- In a transaction with a server that is in this state and known, the work has this outcome and
these exchanges, and leaves the server in that state. -/
structure Course (caps : Capabilities) (work : Session σ α) (server : σ)
    (outcome : Except Error α) (said : List Exchange) (server' : σ) : Prop where
  leads : ∀ c : Connection σ, c.Knows caps → c.server = server → ∃ c',
    Leads work.run c outcome (said.map Exchange.step) c' ∧ c'.Knows caps ∧ c'.server = server'
  replies : converse (said.map Exchange.event) server = said

namespace Course

variable {work : Session σ α} {next : α → Session σ β} {s t u : σ} {first second : List Exchange}

/-- The exchanges lead the server to the state in which the work leaves it. -/
theorem follows {outcome : Except Error α} (h : Course caps work s outcome first t) :
    replay (first.map Exchange.event) s = (first.map Exchange.step, t) := by
  obtain ⟨c, hrun, -, rfl⟩ := h.leads ⟨s, [], true, some caps⟩ ⟨rfl, rfl⟩ rfl
  have hfollows := hrun.server
  unfold Follows at hfollows
  rwa [List.map_map] at hfollows

theorem ofOutcome (outcome : Except Error α) (server : σ) :
    Course caps (Session.ofOutcome outcome) server outcome [] server :=
  ⟨fun c hc hserver => ⟨c, .pure outcome c, hc, hserver⟩, rfl⟩

theorem bind_ok {a : α} {outcome : Except Error β} (hwork : Course caps work s (.ok a) first t)
    (hnext : Course caps (next a) t outcome second u) :
    Course caps (work >>= next) s outcome (first ++ second) u where
  leads c hc hserver := by
    obtain ⟨c₁, hrun, hc₁, hserver₁⟩ := hwork.leads c hc hserver
    obtain ⟨c₂, hrun', hc₂, hserver₂⟩ := hnext.leads c₁ hc₁ hserver₁
    refine ⟨c₂, ?_, hc₂, hserver₂⟩
    rw [List.map_append]
    exact hrun.bind_ok hrun'
  replies := by
    -- what is said second is said in the state that the first half leaves
    rw [List.map_append, converse_append, hwork.replies, hwork.follows, hnext.replies]

/-- Nothing more is done. -/
theorem bind_outcome {a : α} {outcome : Except Error β}
    (hwork : Course caps work s (.ok a) first t) (hnext : next a = Session.ofOutcome outcome) :
    Course caps (work >>= next) s outcome first t := by
  rw [← first.append_nil]
  refine hwork.bind_ok ?_
  rw [hnext]
  exact .ofOutcome outcome t

theorem bind_error {error : Error} (hwork : Course caps work s (.error error) first t) :
    Course caps (work >>= next) s (.error error) first t where
  leads c hc hserver := by
    obtain ⟨c₁, hrun, hc₁, hserver₁⟩ := hwork.leads c hc hserver
    exact ⟨c₁, hrun.bind_error, hc₁, hserver₁⟩
  replies := hwork.replies

theorem attempt {outcome : Except Error α} (hwork : Course caps work s outcome first t) :
    Course caps (Session.attempt work) s (.ok outcome) first t where
  leads c hc hserver := by
    obtain ⟨c₁, hrun, hc₁, hserver₁⟩ := hwork.leads c hc hserver
    refine ⟨c₁, ⟨?_, hrun.log, hrun.server⟩, hc₁, hserver₁⟩
    rw [← Session.exec_eq, Session.exec_attempt, Session.exec_eq, hrun.exec]
  replies := hwork.replies

theorem unlessMissing_ok {a : α} (hwork : Course caps work s (.ok a) first t) :
    Course caps (Session.unlessMissing work) s (.ok (some a)) first t :=
  hwork.attempt.bind_outcome rfl

theorem unlessMissing_error {error : Error} (hwork : Course caps work s (.error error) first t) :
    Course caps (Session.unlessMissing work) s
      (if error.isNotFound then .ok none else .error error) first t := by
  refine hwork.attempt.bind_outcome ?_
  dsimp only
  split
  · rfl
  · rfl

theorem ask {query : Query} {sql : String} (hsql : query.sql = .ok sql) (server : σ) :
    Course caps (Session.ask query) server
      (Session.rowsOf (Server.answer (.query query) server).1)
      [⟨.sent (.query query) sql, (Server.answer (.query query) server).1⟩]
      (Server.answer (.query query) server).2 where
  leads c hc hserver := by
    subst hserver
    have hcommand : (Command.query query).sql = .ok sql := hsql
    exact ⟨_, ⟨Session.exec_send hcommand hc.inTransaction, rfl, .single rfl⟩,
      ⟨hc.inTransaction, hc.capabilities⟩, rfl⟩
  replies := rfl

theorem ask_unwritable {query : Query} {fault : Unwritable} (hsql : query.sql = .error fault)
    (server : σ) :
    Course caps (Session.ask query) server (.error (.unwritable fault)) [] server where
  leads c hc hserver := by
    have hcommand : (Command.query query).sql = .error fault := hsql
    exact ⟨c, ⟨Session.exec_send_unwritable hcommand c, (List.append_nil _).symm, .nil _⟩, hc,
      hserver⟩
  replies := rfl

/-- What is known is not asked for. -/
theorem capabilities (server : σ) :
    Course caps (Session.capabilities : Session σ Capabilities) server (.ok caps) [] server :=
  ⟨fun c hc hserver => ⟨c, ⟨exec_capabilities_of_knows hc, (List.append_nil _).symm, .nil _⟩, hc,
    hserver⟩, rfl⟩

end Course

/-! ## 3. Work that looks for something

A search is a list of look-ups, of which the first that finds nothing, or fails, is the last one
that is put. How the operations react to it differs, and the relation `shows` says how: raised, told
as a Boolean, or given as no result. -/

/-- The verdict as the outcome of work that complains. -/
def Verdict.IsRaised {α : Type} : Verdict → Except Error α → Prop
  | .found, outcome => ∃ a, outcome = .ok a
  | .missing, outcome => ∃ what name, outcome = .error (.notFound what name)
  | .failed error, outcome => outcome = .error error ∧ error.isNotFound = false

/-- The verdict as the outcome of work that tells. -/
def Verdict.IsTold : Verdict → Except Error Bool → Prop
  | .found, outcome => outcome = .ok true
  | .missing, outcome => outcome = .ok false
  | .failed error, outcome => outcome = .error error ∧ error.isNotFound = false

/-- The verdict as the outcome of work that gives something when everything is there. -/
def Verdict.IsGiven {α : Type} : Verdict → Except Error (Option α) → Prop
  | .found, outcome => ∃ a, outcome = .ok (some a)
  | .missing, outcome => outcome = .ok none
  | .failed error, outcome => outcome = .error error ∧ error.isNotFound = false

/-- The work puts these questions, up to the first that does not find what it asks for, and shows
what the search came to. -/
def Seeks (caps : Capabilities) (work : Session σ α) (lookUps : List LookUp)
    (shows : Verdict → Except Error α → Prop) : Prop :=
  ∀ server, ∃ looked verdict outcome server', LooksUp lookUps looked verdict ∧
    shows verdict outcome ∧ Course caps work server outcome looked server'

theorem Failure.isNotFound_error (failure : Failure) : failure.error.isNotFound = false := by
  cases failure <;> rfl

namespace Seeks

variable {work : Session σ α} {lookUps first second : List LookUp}
  {shows : Verdict → Except Error α → Prop}

/-- Nothing is looked for. -/
theorem pure (a : α) : Seeks caps (Pure.pure a : Session σ α) [] Verdict.IsRaised :=
  fun server => ⟨[], .found, .ok a, server, .nothing, ⟨a, rfl⟩, .ofOutcome (.ok a) server⟩

theorem bind {next : α → Session σ β} (hwork : Seeks caps work first Verdict.IsRaised)
    (hnext : ∀ a, Seeks caps (next a) second Verdict.IsRaised) :
    Seeks caps (work >>= next) (first ++ second) Verdict.IsRaised := by
  intro server
  obtain ⟨looked, verdict, outcome, server₁, hlooks, hraised, hcourse⟩ := hwork server
  -- the second search starts only where the first has found what it looked for
  cases verdict with
  | found =>
    obtain ⟨a, rfl⟩ := hraised
    obtain ⟨more, verdict, outcome, server₂, hmore, hraised, hcourse'⟩ := hnext a server₁
    exact ⟨_, verdict, outcome, server₂, hlooks.append hmore, hraised, hcourse.bind_ok hcourse'⟩
  | missing =>
    obtain ⟨what, name, rfl⟩ := hraised
    exact ⟨looked, .missing, _, server₁, hlooks.stop (by simp), ⟨what, name, rfl⟩,
      hcourse.bind_error⟩
  | failed error =>
    obtain ⟨rfl, hplain⟩ := hraised
    exact ⟨looked, .failed error, _, server₁, hlooks.stop (by simp), ⟨rfl, hplain⟩,
      hcourse.bind_error⟩

/-- It is complained when something is not there. -/
theorem need {work : Session σ Bool} (hwork : Seeks caps work lookUps Verdict.IsTold)
    (what name : String) :
    Seeks caps (do unless ← work do throw (.notFound what name) : Session σ Unit) lookUps
      Verdict.IsRaised := by
  intro server
  obtain ⟨looked, verdict, outcome, server', hlooks, htold, hcourse⟩ := hwork server
  -- told to be missing, it is raised as missing
  cases verdict with
  | found =>
    cases htold
    exact ⟨looked, .found, .ok (), server', hlooks, ⟨(), rfl⟩, hcourse.bind_outcome rfl⟩
  | missing =>
    cases htold
    exact ⟨looked, .missing, .error (.notFound what name), server', hlooks, ⟨what, name, rfl⟩,
      hcourse.bind_outcome rfl⟩
  | failed error =>
    obtain ⟨rfl, hplain⟩ := htold
    exact ⟨looked, .failed error, _, server', hlooks, ⟨rfl, hplain⟩, hcourse.bind_error⟩

/-- The second search is made when the first one finds everything. -/
theorem whenThere {there : Session σ Bool} {work : Session σ (Option α)}
    (hthere : Seeks caps there first Verdict.IsTold)
    (hwork : Seeks caps work second Verdict.IsGiven) :
    Seeks caps (do if ← there then work else return none) (first ++ second) Verdict.IsGiven := by
  intro server
  obtain ⟨looked, verdict, outcome, server₁, hlooks, htold, hcourse⟩ := hthere server
  -- told to be missing, there is nothing to give
  cases verdict with
  | found =>
    cases htold
    obtain ⟨more, verdict, outcome, server₂, hmore, hgiven, hcourse'⟩ := hwork server₁
    exact ⟨_, verdict, outcome, server₂, hlooks.append hmore, hgiven, hcourse.bind_ok hcourse'⟩
  | missing =>
    cases htold
    exact ⟨looked, .missing, .ok none, server₁, hlooks.stop (by simp), rfl,
      hcourse.bind_outcome rfl⟩
  | failed error =>
    obtain ⟨rfl, hplain⟩ := htold
    exact ⟨looked, .failed error, _, server₁, hlooks.stop (by simp), ⟨rfl, hplain⟩,
      hcourse.bind_error⟩

/-- What is missing is not complained about. -/
theorem unlessMissing (hwork : Seeks caps work lookUps Verdict.IsRaised) :
    Seeks caps (Session.unlessMissing work) lookUps Verdict.IsGiven := by
  intro server
  obtain ⟨looked, verdict, outcome, server', hlooks, hraised, hcourse⟩ := hwork server
  -- only what is missing turns into no result; other errors stay
  cases verdict with
  | found =>
    obtain ⟨a, rfl⟩ := hraised
    exact ⟨looked, .found, _, server', hlooks, ⟨a, rfl⟩, hcourse.unlessMissing_ok⟩
  | missing =>
    obtain ⟨what, name, rfl⟩ := hraised
    exact ⟨looked, .missing, _, server', hlooks, rfl, hcourse.unlessMissing_error⟩
  | failed error =>
    obtain ⟨rfl, hplain⟩ := hraised
    have hcourse' := hcourse.unlessMissing_error
    rw [hplain] at hcourse'
    exact ⟨looked, .failed error, _, server', hlooks, ⟨rfl, hplain⟩, hcourse'⟩

/-- Work before it that says nothing. -/
theorem after {setting : Session σ β} {next : β → Session σ α} {b : β}
    (hsetting : ∀ server, Course caps setting server (.ok b) [] server)
    (hnext : Seeks caps (next b) lookUps shows) :
    Seeks caps (setting >>= next) lookUps shows := by
  intro server
  obtain ⟨looked, verdict, outcome, server', hlooks, hshows, hcourse⟩ := hnext server
  exact ⟨looked, verdict, outcome, server', hlooks, hshows, (hsetting server).bind_ok hcourse⟩

/-- One question, whose rows are read as the look-up judges them. -/
theorem ask {look : LookUp} {read : List (List Value) → Except Error α}
    (hfailed : ∀ error, error.isNotFound = false → shows (.failed error) (.error error))
    (hread : ∀ rows, shows (.of (look.judge rows)) (read rows)) :
    Seeks caps (do let rows ← Session.ask look.query; Session.ofOutcome (read rows) : Session σ α)
      [look] shows := by
  intro server
  cases hsql : look.query.sql with
  | error fault =>
    exact ⟨[], .failed (.unwritable fault), _, server, .unwritable hsql, hfailed _ rfl,
      (Course.ask_unwritable hsql server).bind_error⟩
  | ok sql =>
    have hasked : Course caps (Session.ask look.query) server _ _ _ := .ask hsql server
    -- the one look-up is judged by the rows of its reply
    cases hreply : (Server.answer (.query look.query) server).1 with
    | failed failure =>
      rw [hreply] at hasked
      exact ⟨_, .failed failure.error, _, _, .single hsql (.failed failure),
        hfailed _ failure.isNotFound_error, hasked.bind_error⟩
    | rows rows =>
      rw [hreply] at hasked
      exact ⟨_, look.verdict (.rows rows), read rows, _, .single hsql (.rows rows), hread rows,
        hasked.bind_ok (.ofOutcome (read rows) _)⟩

end Seeks

/-! ## 4. What follows a search -/

/-- The questions can be put to every server. -/
theorem LooksUp.exists_of_server (lookUps : List LookUp) (server : σ) :
    ∃ looked verdict, LooksUp lookUps looked verdict ∧
      converse (looked.map Exchange.event) server = looked := by
  induction lookUps generalizing server with
  | nil => exact ⟨[], .found, .nothing, rfl⟩
  | cons look rest ih =>
    -- a look-up that cannot be written ends the search before it is put
    cases hsql : look.query.sql with
    | error fault => exact ⟨[], .failed (.unwritable fault), .unwritable hsql, rfl⟩
    | ok sql =>
      let replied := Server.answer (.query look.query) server
      by_cases hfound : look.verdict replied.1 = .found
      · obtain ⟨looked, verdict, hlooks, hreplies⟩ := ih replied.2
        refine ⟨_, verdict, .goesOn hsql hfound hlooks, ?_⟩
        exact congrArg (Exchange.mk _ replied.1 :: ·) hreplies
      · exact ⟨_, _, .stops hsql hfound, rfl⟩

/-- The same questions hear the same from a server that is in the same state. -/
theorem LooksUp.unique {lookUps : List LookUp} {looked looked' : List Exchange}
    {verdict verdict' : Verdict} {server : σ} (h : LooksUp lookUps looked verdict)
    (hreplies : converse (looked.map Exchange.event) server = looked)
    (h' : LooksUp lookUps looked' verdict')
    (hreplies' : converse (looked'.map Exchange.event) server = looked') :
    looked = looked' ∧ verdict = verdict' := by
  have hreplied {query : Query} {sql : String} {reply : Reply} {rest : List Exchange} {server : σ}
      (h : converse ((Exchange.mk (.sent (.query query) sql) reply :: rest).map Exchange.event)
        server = ⟨.sent (.query query) sql, reply⟩ :: rest) :
      reply = (Server.answer (.query query) server).1 ∧
        converse (rest.map Exchange.event) (Server.answer (.query query) server).2 = rest := by
    obtain ⟨hfirst, hrest⟩ := List.cons.inj h
    exact ⟨(congrArg Exchange.reply hfirst).symm, hrest⟩
  -- question by question the text is the same, and so is the reply
  induction h generalizing server looked' with
  | nothing =>
    cases h'
    exact ⟨rfl, rfl⟩
  | unwritable hsql =>
    cases h' with
    | unwritable hsql' =>
      cases hsql.symm.trans hsql'
      exact ⟨rfl, rfl⟩
    | stops hsql' => cases hsql.symm.trans hsql'
    | goesOn hsql' => cases hsql.symm.trans hsql'
  | stops hsql hstop =>
    obtain ⟨rfl, -⟩ := hreplied hreplies
    cases h' with
    | unwritable hsql' => cases hsql.symm.trans hsql'
    | stops hsql' =>
      cases hsql.symm.trans hsql'
      obtain ⟨rfl, -⟩ := hreplied hreplies'
      exact ⟨rfl, rfl⟩
    | goesOn hsql' hfound =>
      obtain ⟨rfl, -⟩ := hreplied hreplies'
      exact absurd hfound hstop
  | goesOn hsql hfound _ ih =>
    obtain ⟨rfl, hrest⟩ := hreplied hreplies
    cases h' with
    | unwritable hsql' => cases hsql.symm.trans hsql'
    | stops hsql' hstop =>
      obtain ⟨rfl, -⟩ := hreplied hreplies'
      exact absurd hfound hstop
    | goesOn hsql' _ hlooks' =>
      cases hsql.symm.trans hsql'
      obtain ⟨rfl, hrest'⟩ := hreplied hreplies'
      obtain ⟨rfl, rfl⟩ := ih hrest hlooks' hrest'
      exact ⟨rfl, rfl⟩

/-- The outcome is that something does not exist. -/
def IsNotFound {α : Type} (outcome : Except Error α) : Prop :=
  ∃ what name, outcome = .error (.notFound what name)

/-- How work goes on that begins with a search: it does something more when everything was found,
and nothing more otherwise. -/
inductive GoesOn {α : Type} (absent : Except Error α → Prop)
    (rest : Except Error α → List Step → Prop) : Verdict → Except Error α → List Step → Prop where
  | found {outcome : Except Error α} {steps : List Step} (h : rest outcome steps) :
      GoesOn absent rest .found outcome steps
  | missing {outcome : Except Error α} (h : absent outcome) :
      GoesOn absent rest .missing outcome []
  | failed {error : Error} (h : error.isNotFound = false) :
      GoesOn absent rest (.failed error) (.error error) []

/-- With the server in this state the work begins by hearing this, and goes on by the verdict. -/
def Begins (caps : Capabilities) (work : Session σ α) (server : σ) (looked : List Exchange)
    (verdict : Verdict) (absent : Except Error α → Prop)
    (rest : Except Error α → List Step → Prop) : Prop :=
  ∀ c : Connection σ, c.Knows caps → c.server = server → ∃ outcome steps c',
    Leads work.run c outcome (looked.map Exchange.step ++ steps) c' ∧ c'.inTransaction = true ∧
      GoesOn absent rest verdict outcome steps

section Begins

variable {work : Session σ α} {lookUps : List LookUp} {looked : List Exchange} {verdict : Verdict}
  {server : σ} {rest : Except Error β → List Step → Prop}

/-- What the questions come to decides what is shown. -/
theorem Seeks.exists_course {shows : Verdict → Except Error α → Prop}
    (h : Seeks caps work lookUps shows) (hlooks : LooksUp lookUps looked verdict)
    (hreplies : converse (looked.map Exchange.event) server = looked) :
    ∃ outcome server', shows verdict outcome ∧ Course caps work server outcome looked server' := by
  obtain ⟨looked', verdict', outcome, server', hlooks', hshows, hcourse⟩ := h server
  obtain ⟨rfl, rfl⟩ := hlooks.unique hreplies hlooks' hcourse.replies
  exact ⟨outcome, server', hshows, hcourse⟩

/-- Work that complains ends with the complaint. -/
theorem Seeks.begins_of_raised {next : α → Session σ β}
    (h : Seeks caps work lookUps Verdict.IsRaised) (hlooks : LooksUp lookUps looked verdict)
    (hreplies : converse (looked.map Exchange.event) server = looked)
    (hnext : ∀ a, Does (next a).run rest) :
    Begins caps (work >>= next) server looked verdict IsNotFound rest := by
  obtain ⟨outcome, server', hraised, hcourse⟩ := h.exists_course hlooks hreplies
  intro c hc hserver
  obtain ⟨c₁, hrun, hc₁, -⟩ := hcourse.leads c hc hserver
  -- an error ends the work, so nothing follows the look-ups
  have hends {error : Error}
      (hrun : Leads work.run c (.error error) (looked.map Exchange.step) c₁) :
      Leads (work >>= next).run c (.error error) (looked.map Exchange.step ++ []) c₁ := by
    rw [List.append_nil]
    exact hrun.bind_error
  cases verdict with
  | found =>
    obtain ⟨a, rfl⟩ := hraised
    obtain ⟨outcome, steps, c₂, hrun', hc₂, hrest⟩ := hnext a c₁ hc₁.inTransaction
    exact ⟨outcome, steps, c₂, hrun.bind_ok hrun', hc₂, .found hrest⟩
  | missing =>
    obtain ⟨what, name, rfl⟩ := hraised
    exact ⟨_, [], c₁, hends hrun, hc₁.inTransaction, .missing ⟨what, name, rfl⟩⟩
  | failed error =>
    obtain ⟨rfl, hplain⟩ := hraised
    exact ⟨_, [], c₁, hends hrun, hc₁.inTransaction, .failed hplain⟩

/-- Work that gives nothing when something is missing does nothing more then. -/
theorem Seeks.begins_of_given {work : Session σ (Option α)} {next : Option α → Session σ β} {b : β}
    (h : Seeks caps work lookUps Verdict.IsGiven) (hlooks : LooksUp lookUps looked verdict)
    (hreplies : converse (looked.map Exchange.event) server = looked)
    (hnone : next none = Pure.pure b) (hsome : ∀ a, Does (next (some a)).run rest) :
    Begins caps (work >>= next) server looked verdict (· = .ok b) rest := by
  obtain ⟨outcome, server', hgiven, hcourse⟩ := h.exists_course hlooks hreplies
  intro c hc hserver
  obtain ⟨c₁, hrun, hc₁, -⟩ := hcourse.leads c hc hserver
  cases verdict with
  | found =>
    obtain ⟨a, rfl⟩ := hgiven
    obtain ⟨outcome, steps, c₂, hrun', hc₂, hrest⟩ := hsome a c₁ hc₁.inTransaction
    exact ⟨outcome, steps, c₂, hrun.bind_ok hrun', hc₂, .found hrest⟩
  -- without a result the work ends well, and at once
  | missing =>
    cases hgiven
    refine ⟨.ok b, [], c₁, hrun.bind_ok ?_, hc₁.inTransaction, .missing rfl⟩
    rw [hnone]
    exact .pure _ c₁
  | failed error =>
    obtain ⟨rfl, hplain⟩ := hgiven
    refine ⟨.error error, [], c₁, ?_, hc₁.inTransaction, .failed hplain⟩
    rw [List.append_nil]
    exact hrun.bind_error

end Begins

end PgGrants
