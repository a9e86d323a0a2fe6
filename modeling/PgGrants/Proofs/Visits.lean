/-
Visits to a database. What an operation on privileges does, it does on a visit: it looks for the
database, and does its work there when it is there. When the work begins with a search as well, the
two searches are one, and how the visit goes is decided by what that search comes to, which the work
does not influence. So visits of different operations can be compared by their searches alone.
-/
import Mathlib.Data.List.DropRight
import PgGrants.Proofs.Saying
import PgGrants.Proofs.TargetSearch

set_option autoImplicit false

namespace PgGrants

variable {σ α : Type} [Server σ]

/-! ## 1. Commands among what is said -/

/-- The commands among the exchanges. -/
def commandsOf (heard : List Exchange) : List Exchange := heard.filter Exchange.isCommand

/-- What is said after the last command. -/
def lastSaid (heard : List Exchange) : List Exchange := heard.rtakeWhile fun x => !x.isCommand

theorem commandsOf_append (first second : List Exchange) :
    commandsOf (first ++ second) = commandsOf first ++ commandsOf second :=
  List.filter_append _ _

/-- A connection and a transaction add no commands to those between the boundaries. -/
theorem commandsOf_overConnection (database : String) (said : List Exchange) (mark : Boundary) :
    commandsOf (overConnection database said mark) = commandsOf said := by
  unfold overConnection
  rw [commandsOf_append]
  exact List.append_nil _

/-- Where no connection comes about, no command is said. -/
theorem commandsOf_unconnected {config : ClientConfig} {server : σ} {database : String}
    {error : Error} {steps : List Step} (h : Unconnected config server database error steps) :
    commandsOf (said steps server) = [] := by
  cases h <;> rfl

/-- What is said after the last command is said after all that was said before that one. -/
theorem lastSaid_append (first : List Exchange) {second : List Exchange}
    (h : commandsOf second ≠ []) : lastSaid (first ++ second) = lastSaid second := by
  unfold lastSaid
  induction second using List.reverseRecOn with
  | nil => exact absurd rfl h
  | append_singleton second x ih =>
    rw [← List.append_assoc, List.rtakeWhile_concat, List.rtakeWhile_concat]
    -- what is no command stands behind the last one on both sides
    cases hx : x.isCommand with
    | true => rfl
    | false =>
      have hsecond : commandsOf second ≠ [] := by
        rw [commandsOf_append] at h
        simpa [commandsOf, hx] using h
      rw [ih hsecond]

/-- In a transaction of commands nothing is said after them but its end. -/
theorem lastSaid_overConnection {looked : List Exchange} (hne : looked ≠ [])
    (hcommand : ∀ x ∈ looked, x.isCommand = true) (database : String) (mark : Boundary) :
    lastSaid (overConnection database looked mark) = [.ofBoundary mark] := by
  obtain ⟨init, last, rfl⟩ := (List.eq_nil_or_concat' looked).resolve_left hne
  have hlast : last.isCommand = true := hcommand last (List.mem_append_right _ (by simp))
  unfold lastSaid overConnection
  rw [List.rtakeWhile_concat_pos _ _ _ rfl, ← List.cons_append, ← List.cons_append,
    List.rtakeWhile_concat_neg _ _ _ (by simp [hlast])]
  rfl

/-- Commands are said. -/
theorem said_of_converse {looked : List Exchange} {server : σ}
    (hreplies : converse (looked.map Exchange.event) server = looked)
    (hcommand : ∀ x ∈ looked, x.isCommand = true) :
    said (looked.map Exchange.step) server = looked := by
  unfold said
  rw [List.map_map]
  show (converse (looked.map Exchange.event) server).filter _ = looked
  rw [hreplies]
  refine List.filter_eq_self.2 fun x hx => ?_
  have hsent := hcommand x hx
  rcases x with ⟨event, reply⟩
  cases event with
  | connect | sent | boundary => rfl
  | _ => cases hsent

theorem commandsOf_said_ne_nil {steps : List Step} (h : Spoken steps) (server : σ) :
    commandsOf (said steps server) ≠ [] := by
  obtain ⟨step, hstep, hcommand⟩ := h
  have hevent : step.event ∈ (converse (steps.map Step.event) server).map Exchange.event := by
    rw [map_event_converse]
    exact List.mem_map_of_mem hstep
  obtain ⟨⟨event, reply⟩, hx, rfl⟩ := List.mem_map.1 hevent
  rcases step with ⟨event, failure⟩
  cases event with
  | sent command sql =>
    exact List.ne_nil_of_mem (List.mem_filter.2 ⟨List.mem_filter.2 ⟨hx, rfl⟩, rfl⟩)
  | _ => cases hcommand

/-! ## 2. Visits

A search goes one of three ways: the connection to the client's own database does not come about, or
the one to the database itself, or the look-ups are put. What the work makes of their verdict is up
to the work, and told once for all that goes on like that. -/

/-- Looks for the database, and does the work in it when it is there. -/
def Call.visit (database : String) (work : Session σ α) (otherwise : Except Error α) :
    Call σ α := do
  if ← hasDatabase database then inDatabase (some database) work else ofOutcome otherwise

/-- How a call goes that looks for something first: it goes on when everything is there, and says
no more than the end of its transaction otherwise. -/
inductive Visited (looked : List Exchange) (absent : Except Error α → Prop)
    (rest : Except Error α → List Step → Prop) :
    Verdict → Except Error α → List Exchange → Prop where
  | found {outcome : Except Error α} {heard more : List Exchange} {steps : List Step}
      (hrest : rest outcome steps) (hspoken : Spoken steps → more ≠ [])
      (hheard : commandsOf heard = looked ++ more) : Visited looked absent rest .found outcome heard
  | missing {outcome : Except Error α} {heard : List Exchange} (habsent : absent outcome)
      (hne : looked ≠ []) (hheard : commandsOf heard = looked)
      (hends : ∀ a, outcome = .ok a → lastSaid heard = [.ofBoundary .commit]) :
      Visited looked absent rest .missing outcome heard
  | failed {error : Error} {heard : List Exchange} (hplain : error.isNotFound = false)
      (hheard : commandsOf heard = looked) :
      Visited looked absent rest (.failed error) (.error error) heard

/-- The state in which a transaction leaves the server, on a connection that is opened for it, when
this is said in it and it is committed. -/
def afterTransaction (database : String) (said : List Exchange) (server : σ) : σ :=
  (Server.bound .commit (replay (said.map Exchange.event)
    (Server.bound .begin (Server.connect database server).2).2).2).2

/-- How a client that is made like this searches in a database. It looks for the database on a
connection to its own, and for the rest on a connection to that one. -/
inductive Searches (config : ClientConfig) (server : σ) (database : String)
    (lookUps : List LookUp) : List Exchange → Verdict → Prop where
  /-- The first connection does not come about, and nothing is asked. -/
  | unconnected {error : Error} {steps : List Step}
      (hunconnected : Unconnected config server config.database error steps) :
      Searches config server database lookUps [] (.failed error)
  /-- The database is there, but the second connection does not come about. -/
  | cutOff {looked : List Exchange} {error : Error} {steps : List Step}
      (hlooks : LooksUp [.ofObject .database database] looked .found)
      (hunconnected : Unconnected config (afterTransaction config.database looked server) database
        error steps) :
      Searches config server database lookUps looked (.failed error)
  | connected {looked : List Exchange} {verdict : Verdict} (hcheck : config.check = .ok ())
      (hlooks : LooksUp lookUps looked verdict) :
      Searches config server database lookUps looked verdict

theorem ClientConfig.isNotFound_of_check {config : ClientConfig} {error : Error}
    (h : config.check = .error error) : error.isNotFound = false := by
  unfold check at h
  split at h
  · cases h
    rfl
  · split at h
    · cases h
    · cases h
      rfl

/-- That there is no connection is not a matter of something missing. -/
theorem Unconnected.isNotFound {config : ClientConfig} {server : σ} {database : String}
    {error : Error} {steps : List Step} (h : Unconnected config server database error steps) :
    error.isNotFound = false := by
  cases h with
  | refused _ => exact Failure.isNotFound_error _
  | unknown _ hcheck => exact ClientConfig.isNotFound_of_check hcheck

section Tells

variable {config : ClientConfig} {caps : Capabilities} {server : σ} {looked : List Exchange}

/-- Work that goes the same whatever the log says, in a transaction of its own. -/
theorem Course.tells {work : Session σ α} {outcome : Except Error α} {server' : σ}
    (hbound : BoundariesHold σ) (database : Option String)
    (hconnect : (Server.connect (database.getD config.database) server).1 = none)
    (hcheck : config.check = .ok ())
    (hcourse : Course caps work
      (Server.bound .begin (Server.connect (database.getD config.database) server).2).2 outcome
      looked server')
    (hcommand : ∀ x ∈ looked, x.isCommand = true) :
    Tells config caps server (Call.inDatabase database work) fun outcome' heard ended =>
      outcome' = outcome ∧
        heard = overConnection (database.getD config.database) looked (.ending outcome) ∧
        ended = (Server.bound (.ending outcome) server').2 := by
  refine Tells.inDatabase hbound database hconnect hcheck fun c hc hserver => ?_
  obtain ⟨c', hleads, hc', rfl⟩ := hcourse.leads c hc hserver
  refine ⟨outcome, _, c', hleads, hc'.inTransaction, rfl, ?_, rfl⟩
  rw [hserver, said_of_converse hcourse.replies hcommand]

/-- Work that begins with a search, in a transaction of its own. -/
theorem Begins.tells {work : Session σ α} {lookUps : List LookUp} {verdict : Verdict}
    {absent : Except Error α → Prop} {rest : Except Error α → List Step → Prop}
    (hbound : BoundariesHold σ) (database : Option String)
    (hconnect : (Server.connect (database.getD config.database) server).1 = none)
    (hcheck : config.check = .ok ()) (hlooks : LooksUp lookUps looked verdict)
    (hreplies : converse (looked.map Exchange.event)
      (Server.bound .begin (Server.connect (database.getD config.database) server).2).2 = looked)
    (hbegins : Begins caps work
      (Server.bound .begin (Server.connect (database.getD config.database) server).2).2 looked
      verdict absent rest) :
    Tells config caps server (Call.inDatabase database work) fun outcome heard _ =>
      Visited looked absent rest verdict outcome heard := by
  refine Tells.inDatabase hbound database hconnect hcheck fun c hc hserver => ?_
  obtain ⟨outcome, steps, c', hleads, hc', hgoes⟩ := hbegins c hc hserver
  refine ⟨outcome, _, c', hleads, hc', ?_⟩
  rw [hserver, said_append (follows_of_converse hreplies),
    said_of_converse hreplies hlooks.isCommand]
  -- the boundaries around the work are no commands
  have hheard (more : List Exchange) (mark : Boundary) :
      commandsOf (overConnection (database.getD config.database) (looked ++ more) mark) =
        looked ++ commandsOf more := by
    rw [commandsOf_overConnection, commandsOf_append]
    exact congrArg (· ++ _) (List.filter_eq_self.2 hlooks.isCommand)
  have hsilent (s : σ) : said [] s = [] := rfl
  -- found, the work has gone on; otherwise the look-ups were the last thing said
  cases hgoes with
  | found h => exact .found h (commandsOf_said_ne_nil · _) (hheard _ _)
  | missing h =>
    refine .missing h hlooks.ne_nil_of_missing ?_ fun a hok => ?_
    · rw [hheard, hsilent]
      exact List.append_nil looked
    · rw [hok, hsilent, List.append_nil]
      exact lastSaid_overConnection hlooks.ne_nil_of_missing hlooks.isCommand _ .commit
  | failed h =>
    refine .failed h ?_
    rw [hheard, hsilent]
    exact List.append_nil looked

/-- What was said before the visit. -/
theorem Visited.after {heard : List Exchange} {outcome : Except Error α} {verdict : Verdict}
    {absent : Except Error α → Prop} {rest : Except Error α → List Step → Prop}
    (h : Visited looked absent rest verdict outcome heard) (first : List Exchange) :
    Visited (commandsOf first ++ looked) absent rest verdict outcome (first ++ heard) := by
  -- what was said before is put in front, and the end stays the end
  cases h with
  | found hrest hspoken hheard =>
    refine .found hrest hspoken ?_
    rw [commandsOf_append, hheard, List.append_assoc]
  | missing habsent hne hheard hends =>
    refine .missing habsent (List.append_ne_nil_of_right_ne_nil _ hne) ?_ fun a hok => ?_
    · rw [commandsOf_append, hheard]
    · rw [lastSaid_append first (by rw [hheard]; exact hne)]
      exact hends a hok
  | failed hplain hheard =>
    refine .failed hplain ?_
    rw [commandsOf_append, hheard]

theorem seeks_hasDatabase (database : String) :
    Seeks caps (Session.hasObject .database database none : Session σ Bool)
      [LookUp.ofObject .database database] Verdict.IsTold :=
  seeks_hasObject rfl database

/-- A visit goes by one search, whatever is done on it. -/
theorem exists_search_of_visits (hbound : BoundariesHold σ) (config : ClientConfig)
    (caps : Capabilities) (server : σ) (database : String) (lookUps : List LookUp) :
    ∃ looked verdict,
      Searches config server database (LookUp.ofObject .database database :: lookUps) looked
        verdict ∧
      ∀ {α : Type} {work : Session σ α} {otherwise : Except Error α}
        {absent : Except Error α → Prop} {rest : Except Error α → List Step → Prop},
        absent otherwise →
        (∀ server looked verdict, LooksUp lookUps looked verdict →
          converse (looked.map Exchange.event) server = looked →
          Begins caps work server looked verdict absent rest) →
        Tells config caps server (Call.visit database work otherwise) fun outcome heard _ =>
          Visited looked absent rest verdict outcome heard := by
  rcases unconnected_or config server config.database with
    ⟨error, steps, hunconnected⟩ | ⟨hconnect, hcheck⟩
  · refine ⟨[], .failed error, .unconnected hunconnected, fun _ _ => ?_⟩
    have hasked : Tells config caps server (Call.hasDatabase database) fun outcome heard _ =>
        outcome = .error error ∧ commandsOf heard = [] :=
      Tells.inDatabase_of_unconnected none hunconnected ⟨rfl, commandsOf_unconnected hunconnected⟩
    refine hasked.bind ?_ ?_
    · rintro _ _ _ ⟨h, -⟩
      cases h
    · rintro _ _ _ ⟨h, hheard⟩
      cases h
      exact .failed hunconnected.isNotFound hheard
  · obtain ⟨looked, verdict, outcome, server₁, hlooks, htold, hcourse⟩ :=
      (seeks_hasDatabase database : Seeks caps _ _ _)
        (Server.bound .begin (Server.connect config.database server).2).2
    have hasked : Tells config caps server (Call.hasDatabase database) fun outcome' heard ended =>
        outcome' = outcome ∧ heard = overConnection config.database looked (.ending outcome) ∧
          ended = (Server.bound (.ending outcome) server₁).2 :=
      hcourse.tells hbound none hconnect hcheck hlooks.isCommand
    have hcommands (mark : Boundary) :
        commandsOf (overConnection config.database looked mark) = looked := by
      rw [commandsOf_overConnection]
      exact List.filter_eq_self.2 hlooks.isCommand
    cases verdict with
    | missing =>
      cases htold
      refine ⟨looked, .missing, .connected hcheck (hlooks.stop (by simp)), fun habsent _ => ?_⟩
      refine hasked.bind ?_ ?_
      · rintro found heard _ ⟨hfound, rfl, -⟩
        cases hfound
        refine Tells.ofOutcome ?_
        rw [List.append_nil]
        refine .missing habsent hlooks.ne_nil_of_missing (hcommands .commit) fun _ _ => ?_
        exact lastSaid_overConnection hlooks.ne_nil_of_missing hlooks.isCommand _ .commit
      · rintro _ _ _ ⟨h, -⟩
        cases h
    | failed error =>
      obtain ⟨rfl, hplain⟩ := htold
      refine ⟨looked, .failed error, .connected hcheck (hlooks.stop (by simp)), fun _ _ => ?_⟩
      refine hasked.bind ?_ ?_
      · rintro _ _ _ ⟨h, -⟩
        cases h
      · rintro _ _ _ ⟨h, rfl, -⟩
        cases h
        exact .failed hplain (hcommands .rollback)
    | found =>
      cases htold
      have hthere : Tells config caps server (Call.hasDatabase database) fun outcome heard ended =>
          outcome = .ok true ∧ heard = overConnection config.database looked .commit ∧
            ended = afterTransaction config.database looked server := by
        unfold afterTransaction
        rw [hcourse.follows]
        exact hasked
      -- the rest of the search is made on the connection that comes next
      rcases unconnected_or config (afterTransaction config.database looked server) database with
        ⟨error, steps, hunconnected⟩ | ⟨hconnect', -⟩
      · refine ⟨looked, .failed error, .cutOff hlooks hunconnected, fun _ _ => ?_⟩
        refine hthere.bind ?_ ?_
        · rintro found heard _ ⟨hfound, rfl, rfl⟩
          cases hfound
          refine Tells.inDatabase_of_unconnected (some database) hunconnected ?_
          refine .failed hunconnected.isNotFound ?_
          rw [commandsOf_append, hcommands, commandsOf_unconnected hunconnected, List.append_nil]
        · rintro _ _ _ ⟨h, -⟩
          cases h
      · obtain ⟨more, verdict, hmore, hreplies⟩ := LooksUp.exists_of_server lookUps
          (Server.bound .begin (Server.connect database
            (afterTransaction config.database looked server)).2).2
        refine ⟨looked ++ more, verdict, .connected hcheck (hlooks.append hmore),
          fun _ hbegins => ?_⟩
        refine hthere.bind ?_ ?_
        · rintro found heard _ ⟨hfound, rfl, rfl⟩
          cases hfound
          refine (Begins.tells hbound (some database) hconnect' hcheck hmore hreplies
            (hbegins _ _ _ hmore hreplies)).mono fun outcome heard _ h => ?_
          have hvisited := h.after (overConnection config.database looked .commit)
          rw [hcommands] at hvisited
          exact hvisited
        · rintro _ _ _ ⟨h, -⟩
          cases h

end Tells

end PgGrants
