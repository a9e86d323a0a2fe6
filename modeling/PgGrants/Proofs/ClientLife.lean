/-
The life of a client. A client is used for operations, to find out what the server can do, to get
engines and to give them up, any number of times and in any order, and each use may fail.

What one use does to the version and to the engines is found out for each kind of use. Over a whole
life, the server is asked until it has said its version, and never after that; and the engines that
were made are those that were given up and those that are there, with none twice at a time.
-/
import PgGrants.Proofs.Thrift

set_option autoImplicit false

namespace PgGrants

/-! ## 1. Uses -/

/-- What a client is used for. -/
inductive Use where
  | operation (todo : Operation)
  /-- To find out what the server can do. -/
  | capabilities
  /-- To get the engine for a database. -/
  | engine (database : Option String)
  /-- To give up the engines for other databases. -/
  | dispose

/-- The databases for which an engine is asked for. -/
def Use.asked : Use → List String
  | .engine database => database.toList
  | _ => []

theorem mem_flatMap_asked {uses : List Use} {name : String} :
    name ∈ uses.flatMap Use.asked ↔ .engine (some name) ∈ uses := by
  rw [List.mem_flatMap]
  constructor
  · rintro ⟨use, huse, hname⟩
    cases use with
    | engine database =>
      rw [Use.asked, Option.mem_toList] at hname
      rwa [hname] at huse
    | _ => cases hname
  · exact fun h => ⟨_, h, List.mem_cons_self⟩

variable {σ : Type} [Server σ]

/-- Uses a client; what the use comes to is of no matter here. -/
def Use.run : Use → Call σ Unit
  | .operation todo => todo.run
  | .capabilities => do let _ ← Call.capabilities
  | .engine database => do let _ ← Call.engine database
  | .dispose => Call.dispose

omit [Server σ] in
/-- Leaving out the result leaves out nothing else. -/
theorem Call.exec_regardless {α : Type} (call : Call σ α) (c : Client σ) :
    (Call.exec (do let _ ← call) c).2 = (Call.exec call c).2 := by
  rw [Call.exec_bind]
  split
  next h =>
    rw [h]
    rfl
  next h => rw [h]

/-- The client after it was used, whether the uses succeeded or not. -/
def Client.after (c : Client σ) (uses : List Use) : Client σ :=
  uses.foldl (fun c use => (use.run.exec c).2) c

theorem Client.after_cons (c : Client σ) (use : Use) (rest : List Use) :
    c.after (use :: rest) = (c.after [use]).after rest := rfl

/-- What every use preserves, a life preserves. -/
theorem Client.after_preserves {p : Client σ → Prop}
    (hstep : ∀ c use, p c → p (c.after [use])) {c : Client σ} (h : p c) (uses : List Use) :
    p (c.after uses) := by
  induction uses generalizing c with
  | nil => exact h
  | cons use rest ih => exact ih (hstep c use h)

/-! ## 2. One use

Each kind of use is one of the calls that are thrifty, so what it does to the version and to the
engines is known from its log. -/

/-- Events that ask nothing of the server leave it as it is. -/
theorem Follows.of_unserved {events : List Event}
    (h : ∀ event ∈ events, ∀ server : σ, event.served server = (none, server)) (server : σ) :
    Follows server (events.map fun event => ⟨event, none⟩) server := by
  induction events with
  | nil => exact .nil server
  | cons event rest ih =>
    rw [List.forall_mem_cons] at h
    exact (Follows.single (h.1 server)).append (ih h.2)

/-- The client without engines for other databases. -/
def Client.disposed (c : Client σ) : Client σ :=
  { c with log := c.log ++ c.engines.map Event.dispose, engines := [] }

theorem runs_dispose (c : Client σ) :
    Runs (Call.dispose : Call σ Unit) c (.ok ())
      ((c.engines.map Event.dispose).map fun event => ⟨event, none⟩) c.disposed where
  exec := rfl
  log := by
    rw [List.map_map, Function.comp_def, List.map_id']
    rfl
  server := .of_unserved (List.forall_mem_map.2 fun _ _ _ => rfl) c.server
  config := rfl
  known _ h := h

/-- What a use does to the engines. -/
inductive Equips (c c' : Client σ) (events : List Event) : Use → Prop where
  | supplied {use : Use} (hkeeps : use ≠ .dispose) (h : Supplies c c' use.asked events) :
      Equips c c' events use
  | disposed (hempty : c'.engines = []) (hmade : madeIn events = [])
      (hgivenUp : givenUpIn events = c.engines) : Equips c c' events .dispose

/-- One use, whatever it comes to. -/
structure Advances (c : Client σ) (use : Use) (added : List Event) : Prop where
  log : (c.after [use]).log = c.log ++ added
  config : (c.after [use]).config = c.config
  known : ∀ caps, c.capabilities = some caps → (c.after [use]).capabilities = some caps
  consults : Consults c (c.after [use]) (Call.exec use.run c).1 (sentIn added)
  equips : Equips c (c.after [use]) added use

theorem Runs.advances {use : Use} {c c' : Client σ} {outcome : Except Error Unit}
    {steps : List Step} (h : Runs use.run c outcome steps c')
    (hconsults : Consults c c' outcome (sentIn (steps.map Step.event)))
    (hequips : Equips c c' (steps.map Step.event) use) :
    Advances c use (steps.map Step.event) := by
  have hafter : c.after [use] = c' := congrArg Prod.snd h.exec
  refine ⟨?_, ?_, ?_, ?_, ?_⟩ <;> rw [hafter]
  · exact h.log
  · exact h.config
  · exact h.known
  · rw [h.exec]
    exact hconsults
  · exact hequips

theorem Use.exists_advances_of_isThrifty (use : Use) (hkeeps : use ≠ .dispose)
    (hasked : use.asked = []) (h : Call.IsThrifty (use.run : Call σ Unit)) (c : Client σ) :
    ∃ added, Advances c use added := by
  obtain ⟨outcome, steps, c', hrun, hconsults, hsupplies⟩ := h c
  exact ⟨_, hrun.advances hconsults (.supplied hkeeps (hasked ▸ hsupplies))⟩

theorem Use.exists_advances (use : Use) (c : Client σ) : ∃ added, Advances c use added := by
  -- operations and the question for the version are thrifty calls; engines alone are made, or given
  -- up, without anything being sent
  cases use with
  | operation todo =>
    exact (Use.operation todo).exists_advances_of_isThrifty nofun rfl todo.isThrifty c
  | capabilities =>
    have hthrifty : Call.IsThrifty (do let _ ← Call.capabilities : Call σ Unit) :=
      .bind .capabilities fun _ => .pure ()
    exact Use.capabilities.exists_advances_of_isThrifty nofun rfl hthrifty c
  | engine database =>
    obtain ⟨steps, c', hrun, hsame, hsilent, hsupplies⟩ := runs_supplying database c
    have hrun' : Runs (Use.engine database).run c (.ok ()) (steps ++ []) c' :=
      hrun.bind (.pure () c')
    rw [List.append_nil] at hrun'
    refine ⟨_, hrun'.advances ?_ (.supplied nofun hsupplies)⟩
    rw [hsilent]
    exact .idle hsame
  | dispose =>
    have hevents : ((c.engines.map Event.dispose).map fun event => Step.mk event none).map
        Step.event = c.engines.map Event.dispose := by
      rw [List.map_map, Function.comp_def, List.map_id']
    have hnothing {β : Type} {tell : Event → Option β}
        (htell : ∀ name, tell (.dispose name) = none) :
        (c.engines.map Event.dispose).filterMap tell = [] :=
      List.filterMap_eq_nil_iff.2 (List.forall_mem_map.2 fun name _ => htell name)
    have hrun : Runs Use.dispose.run c _ _ _ := runs_dispose c
    refine ⟨_, hrun.advances ?_ (.disposed rfl ?_ ?_)⟩
    · rw [hevents, sentIn, hnothing fun _ => rfl]
      exact .idle rfl
    · rw [hevents]
      exact hnothing fun _ => rfl
    · rw [hevents, givenUpIn, List.filterMap_map]
      exact List.filterMap_some

namespace Advances

variable {c : Client σ} {use : Use} {added : List Event}

/-- Without need the version is not asked for. -/
theorem never (h : Advances c use added) (hneed : ¬c.MustAsk) :
    Command.showVersion ∉ sentIn added := by
  have hconsults := h.consults
  generalize sentIn added = commands at hconsults ⊢
  generalize (Call.exec use.run c).1 = outcome at hconsults
  cases hconsults with
  | idle _ => exact List.not_mem_nil
  | settled _ hnever => exact hnever
  | failed hmust _ => exact absurd hmust hneed
  | found hmust _ _ => exact absurd hmust hneed

/-- In need of the version, a client asks for it once and before it sends anything else, and does
nothing more without it. -/
theorem first (h : Advances c use added) (hneed : c.MustAsk) :
    sentIn added = [] ∨ ∃ rest, sentIn added = .showVersion :: rest ∧
      Command.showVersion ∉ rest ∧ ((c.after [use]).capabilities = none →
        rest = [] ∧ ∃ error, (Call.exec use.run c).1 = .error error) := by
  have hconsults := h.consults
  -- `Consults` speaks of what was sent and of the outcome, which are made variables to tell its
  -- cases apart
  generalize sentIn added = commands at hconsults ⊢
  generalize (Call.exec use.run c).1 = outcome at hconsults ⊢
  cases hconsults with
  | idle _ => exact .inl rfl
  | settled hsettled _ =>
    rcases hsettled with hknown | hexpected
    · exact absurd hneed.1 hknown
    · exact absurd hneed.2 hexpected
  | failed _ _ => exact .inr ⟨[], rfl, List.not_mem_nil, fun _ => ⟨rfl, _, rfl⟩⟩
  | found _ hnever hknown =>
    exact .inr ⟨_, rfl, hnever, fun hunknown => nomatch hknown.symm.trans hunknown⟩

theorem supplies (h : Advances c use added) (hkeeps : use ≠ .dispose) :
    Supplies c (c.after [use]) use.asked added := by
  cases h.equips with
  | supplied _ hsupplies => exact hsupplies
  | disposed _ _ _ => exact absurd rfl hkeeps

end Advances

/-! ## 3. Stretches of a life -/

/-- A client that need not ask for the version will never ask for it. -/
theorem Client.after_of_not_mustAsk {c : Client σ} (h : ¬c.MustAsk) (uses : List Use) :
    ∃ added, (c.after uses).log = c.log ++ added ∧ Command.showVersion ∉ sentIn added := by
  induction uses generalizing c with
  | nil => exact ⟨[], (List.append_nil _).symm, List.not_mem_nil⟩
  | cons use rest ih =>
    obtain ⟨first, hadvances⟩ := use.exists_advances c
    -- the invariant of the life: whoever need not ask will never have to
    have hstill : ¬(c.after [use]).MustAsk := by
      rintro ⟨hunknown, hunexpected⟩
      rw [hadvances.config] at hunexpected
      refine h ⟨?_, hunexpected⟩
      cases hcaps : c.capabilities with
      | none => rfl
      | some caps => rwa [hadvances.known caps hcaps] at hunknown
    obtain ⟨second, hlog, hnever⟩ := ih hstill
    rw [Client.after_cons]
    refine ⟨first ++ second, ?_, ?_⟩
    · rw [hlog, hadvances.log, List.append_assoc]
    · rw [sentIn_append]
      exact fun hmem => (List.mem_append.1 hmem).elim (hadvances.never h) hnever

/-- What is known stays known. -/
theorem Client.after_of_known {c : Client σ} {caps : Capabilities} (h : c.capabilities = some caps)
    (uses : List Use) : (c.after uses).capabilities = some caps :=
  after_preserves (fun c use hc => (use.exists_advances c).elim fun _ h => h.known caps hc) h uses

/-- The configuration stays as it is. -/
theorem Client.config_after (c : Client σ) (uses : List Use) : (c.after uses).config = c.config :=
  after_preserves (p := fun c' => c'.config = c.config)
    (fun c' use hc' => (use.exists_advances c').elim fun _ h => h.config.trans hc') rfl uses

/-- As long as no engine is given up, engines are made for what is needed. -/
theorem Client.supplies_after {uses : List Use} (hkeeps : ∀ use ∈ uses, use ≠ .dispose)
    (c : Client σ) : ∃ added, (c.after uses).log = c.log ++ added ∧
      Supplies c (c.after uses) (uses.flatMap Use.asked) added := by
  induction uses generalizing c with
  | nil => exact ⟨[], (List.append_nil _).symm, .refl c⟩
  | cons use rest ih =>
    rw [List.forall_mem_cons] at hkeeps
    obtain ⟨first, hadvances⟩ := use.exists_advances c
    obtain ⟨second, hlog, hrest⟩ := ih hkeeps.2 (c.after [use])
    rw [Client.after_cons, List.flatMap_cons]
    refine ⟨first ++ second, ?_, ?_⟩
    · rw [hlog, hadvances.log, List.append_assoc]
    · exact (hadvances.supplies hkeeps.1).trans hrest hadvances.config

/-! ## 4. The version over a life

The invariant is `HasAsked`: as long as the version is not known nothing was sent but the question
for it, and once it is known it is not asked for again. One use preserves it, and a life is uses one
after another. -/

/-- Everyone goes by these capabilities, and nothing is asked or changed for it. -/
structure Client.GoesBy (c : Client σ) (caps : Capabilities) : Prop where
  read : Call.exec Call.capabilities c = (.ok caps, c)
  judged : ∀ gates, Call.exec (Call.needAll gates) c = (caps.judge gates, c)
  /-- Work on a connection is told of them. -/
  told : ∀ {α : Type} (database : Option String) (work : Session σ α),
    Call.exec (Call.connect database work) c = Call.exec (do
      let _ ← Call.engine database
      Call.withConnection (database.getD c.config.database) (some caps) work) c

theorem Client.goesBy_of_known {c : Client σ} {caps : Capabilities}
    (h : c.capabilities = some caps) : c.GoesBy caps where
  read := (runs_capabilities_of_known h).exec
  judged gates := (runs_judge_of_known h gates).exec
  told database work := by
    obtain ⟨steps, c', hengine, -⟩ := runs_supplying database c
    unfold Call.connect
    rw [Call.exec_bind_ok (runs_capabilities_of_known h).exec, Call.exec_bind_ok hengine.exec,
      Call.exec_bind_ok hengine.exec, Call.exec_bind_ok (Runs.get c').exec, hengine.config]

/-- The version was asked for until it was known, and then no more; with an expected version it was
not asked for. -/
structure Client.HasAsked (c : Client σ) : Prop where
  expecting : c.config.expectedVersion ≠ none → Command.showVersion ∉ sentIn c.log
  asking : c.config.expectedVersion = none → ∃ times rest,
    sentIn c.log = List.replicate times Command.showVersion ++ rest ∧
      Command.showVersion ∉ rest ∧ (c.capabilities = none → rest = [])

omit [Server σ] in
theorem Client.hasAsked_new (config : ClientConfig) (server : σ) :
    (Client.new config server).HasAsked where
  expecting _ := List.not_mem_nil
  asking _ := ⟨0, [], rfl, List.not_mem_nil, fun _ => rfl⟩

theorem Client.HasAsked.after_one {c : Client σ} (h : c.HasAsked) (use : Use) :
    (c.after [use]).HasAsked := by
  obtain ⟨added, hadvances⟩ := use.exists_advances c
  constructor
  · intro hexpected
    rw [hadvances.config] at hexpected
    rw [hadvances.log, sentIn_append]
    have hneed : ¬c.MustAsk := fun hmust => hexpected hmust.2
    exact fun hmem => (List.mem_append.1 hmem).elim (h.expecting hexpected) (hadvances.never hneed)
  · intro hunexpected
    rw [hadvances.config] at hunexpected
    obtain ⟨times, rest, hsent, hnever, hasking⟩ := h.asking hunexpected
    rw [hadvances.log, sentIn_append, hsent]
    cases hcaps : c.capabilities with
    | some caps =>
      have hneed : ¬c.MustAsk := fun hmust => nomatch hcaps.symm.trans hmust.1
      refine ⟨times, rest ++ sentIn added, List.append_assoc _ _ _, fun hmem => ?_, fun hc => ?_⟩
      · exact (List.mem_append.1 hmem).elim hnever (hadvances.never hneed)
      · exact nomatch (hadvances.known caps hcaps).symm.trans hc
    | none =>
      -- so far nothing but the version was asked for
      rw [hasking hcaps, List.append_nil]
      rcases hadvances.first ⟨hcaps, hunexpected⟩ with hsilent | ⟨others, hothers, hnever', hknown⟩
      · rw [hsilent]
        exact ⟨times, [], rfl, List.not_mem_nil, fun _ => rfl⟩
      · refine ⟨times + 1, others, ?_, hnever', fun hunknown => (hknown hunknown).1⟩
        rw [hothers, List.replicate_succ', List.append_assoc]
        rfl

/-- Over the life of a client the version is asked for until it is known, and everyone goes by what
was found out. -/
structure Client.AsksOnce (c : Client σ) : Prop extends c.HasAsked where
  /-- The next use asks only in need, once, and before anything else is sent; when it asks in vain
  it fails. -/
  next : ∀ use : Use, ∃ added, (c.after [use]).log = c.log ++ added ∧
    (¬c.MustAsk → Command.showVersion ∉ sentIn added) ∧
    (c.MustAsk → sentIn added = [] ∨ ∃ rest, sentIn added = .showVersion :: rest ∧
      Command.showVersion ∉ rest ∧ ((c.after [use]).capabilities = none →
        rest = [] ∧ ∃ error, (Call.exec use.run c).1 = .error error))
  /-- What is found out is kept, and a failure to find out leaves nothing. -/
  found : ∀ caps, (Call.exec Call.capabilities c).1 = .ok caps ↔
    (c.after [.capabilities]).capabilities = some caps
  /-- Whatever comes later goes by what is known, and does not ask. -/
  later : ∀ caps, c.capabilities = some caps → ∀ uses,
    (c.after uses).GoesBy caps ∧
      ∃ added, (c.after uses).log = c.log ++ added ∧ Command.showVersion ∉ sentIn added

theorem Client.HasAsked.asksOnce {c : Client σ} (h : c.HasAsked) : c.AsksOnce where
  toHasAsked := h
  next use := by
    obtain ⟨added, hadvances⟩ := use.exists_advances c
    exact ⟨added, hadvances.log, hadvances.never, hadvances.first⟩
  found caps := by
    obtain ⟨outcome, steps, c', hrun, hfinds⟩ := runs_findingOut c
    have hafter : c.after [.capabilities] = c' :=
      (Call.exec_regardless _ c).trans (congrArg Prod.snd hrun.exec)
    rw [hrun.exec, hafter]
    -- the client keeps the version exactly when it was found out
    cases hfinds with
    | failed _ _ hunknown =>
      rw [hunknown]
      exact ⟨nofun, nofun⟩
    | found _ hknown => rw [hknown, Except.ok.injEq, Option.some.injEq]
  later caps hcaps uses :=
    ⟨goesBy_of_known (after_of_known hcaps uses),
      after_of_not_mustAsk (fun hmust => nomatch hcaps.symm.trans hmust.1) uses⟩

/-! ## 5. Engines over a life

The engines of a client are those of the log that were not given up. To give up is to give up all,
so the log falls into stretches, and in each no database has two. -/

section Places

variable {c c' : Client σ} {name other : String}

/-- The database has an engine. -/
def Client.Equipped (c : Client σ) (name : String) : Prop :=
  name = c.config.database ∨ name ∈ c.engines

omit [Server σ] in
theorem Client.place_eq_own : c.place name = .own ↔ name = c.config.database := by
  unfold Client.place
  split
  next h => exact ⟨fun _ => h, fun _ => rfl⟩
  next h => exact ⟨nofun, fun h' => absurd h' h⟩

omit [Server σ] in
/-- Different databases have different engines. -/
theorem Client.place_inj (hname : c.Equipped name) :
    c.place name = c.place other ↔ name = other := by
  refine ⟨fun h => ?_, congrArg c.place⟩
  by_cases hown : name = c.config.database
  · rw [hown, eq_comm, ← place_eq_own, ← h, place_eq_own]
    exact hown
  · have hown' : other ≠ c.config.database := by
      rw [Ne, ← place_eq_own, ← h, place_eq_own]
      exact hown
    rw [place, place, if_neg hown, if_neg hown', Engine.other.injEq] at h
    exact (List.idxOf_inj (hname.resolve_left hown)).1 h

omit [Server σ] in
/-- An engine keeps its place. -/
theorem Supplies.place_eq {asked : List String} {events : List Event}
    (h : Supplies c c' asked events) (hconfig : c'.config = c.config) (hname : c.Equipped name) :
    c'.place name = c.place name := by
  unfold Client.place
  rw [hconfig]
  split
  next => rfl
  next hother => rw [h.engines, List.idxOf_append_of_mem (hname.resolve_left hother)]

omit [Server σ] in
/-- What has an engine keeps it. -/
theorem Supplies.equipped {asked : List String} {events : List Event}
    (h : Supplies c c' asked events) (hconfig : c'.config = c.config) (hname : c.Equipped name) :
    c'.Equipped name := by
  unfold Client.Equipped
  rw [hconfig, h.engines]
  exact hname.imp_right (List.mem_append_left _)

end Places

/-- For every other database there is one engine at most, and every engine that was made is there
still or was given up. -/
structure Client.HasEquipped (c : Client σ) : Prop where
  distinct : c.HasDistinctEngines
  accounted : madeIn c.log = givenUpIn c.log ++ c.engines

omit [Server σ] in
theorem Client.hasEquipped_new (config : ClientConfig) (server : σ) :
    (Client.new config server).HasEquipped :=
  ⟨⟨List.nodup_nil, List.not_mem_nil⟩, rfl⟩

theorem Client.HasEquipped.after_one {c : Client σ} (h : c.HasEquipped) (use : Use) :
    (c.after [use]).HasEquipped := by
  obtain ⟨added, hadvances⟩ := use.exists_advances c
  -- engines are added to those there are, or all of them are given up at once
  cases hadvances.equips with
  | supplied _ hsupplies =>
    refine ⟨hsupplies.distinct h.distinct, ?_⟩
    rw [hadvances.log, madeIn_append, givenUpIn_append, h.accounted, hsupplies.kept,
      hsupplies.engines, List.append_nil, List.append_assoc]
  | disposed hempty hmade hgivenUp =>
    constructor
    · unfold Client.HasDistinctEngines
      rw [hempty]
      exact ⟨List.nodup_nil, List.not_mem_nil⟩
    · rw [hadvances.log, madeIn_append, givenUpIn_append, h.accounted, hmade, hgivenUp, hempty,
        List.append_nil]

/-- Over the life of a client one engine is made for each other database in use, and all of them are
given up at once. -/
structure Client.EquipsOnce (c : Client σ) : Prop extends c.HasEquipped where
  /-- An engine is there for the asking. It is the client's own for its own database only. -/
  own : ∀ database, ∃ engine, (Call.exec (Call.engine database) c).1 = .ok engine ∧
    (engine = .own ↔ database = none ∨ database = some c.config.database)
  /-- Until engines are given up, the same database has the same engine and others have others. -/
  same : ∀ (database other : Option String) (uses : List Use), (∀ use ∈ uses, use ≠ .dispose) →
    ∃ first second, (Call.exec (Call.engine database) c).1 = .ok first ∧
      (Call.exec (Call.engine other) (c.after (.engine database :: uses))).1 = .ok second ∧
      (first = second ↔ database.getD c.config.database = other.getD c.config.database)
  /-- Until engines are given up, one is made for each other database that gets into use. -/
  made : ∀ uses : List Use, (∀ use ∈ uses, use ≠ .dispose) → ∃ added,
    (c.after uses).log = c.log ++ added ∧ (c.after uses).engines = c.engines ++ madeIn added ∧
      givenUpIn added = [] ∧ (madeIn added).Nodup ∧ ∀ name, name ∈ madeIn added ↔
        ¬c.Equipped name ∧ (.engine (some name) ∈ uses ∨ name ∈ connectedIn added)
  /-- All engines but the client's own are given up, each once, and then there are none. -/
  disposed : Call.exec Call.dispose c =
    (.ok (), { c with log := c.log ++ c.engines.map Event.dispose, engines := [] })

theorem Client.HasEquipped.equipsOnce {c : Client σ} (h : c.HasEquipped) : c.EquipsOnce where
  toHasEquipped := h
  own database := by
    obtain ⟨steps, c', hengine, -⟩ := runs_supplying database c
    refine ⟨_, congrArg Prod.fst hengine.exec, ?_⟩
    rw [place_eq_own, hengine.config]
    cases database with
    | none => exact iff_of_true rfl (.inl rfl)
    | some name => rw [Option.getD_some, Option.some.injEq, or_iff_right nofun]
  same database other uses hkeeps := by
    obtain ⟨steps, c₁, hengine, -, -, hsupplies⟩ := runs_supplying database c
    have hafter : c.after [.engine database] = c₁ :=
      (Call.exec_regardless _ c).trans (congrArg Prod.snd hengine.exec)
    rw [Client.after_cons, hafter]
    obtain ⟨added, -, hstretch⟩ := Client.supplies_after hkeeps c₁
    obtain ⟨steps', c₂, hengine', -, -, hsupplies'⟩ := runs_supplying other (c₁.after uses)
    refine ⟨_, _, congrArg Prod.fst hengine.exec, congrArg Prod.fst hengine'.exec, ?_⟩
    have hconfig : (c₁.after uses).config = c.config := (c₁.config_after uses).trans hengine.config
    have hequipped : c₁.Equipped (database.getD c.config.database) := by
      cases database with
      | none => exact .inl (congrArg ClientConfig.database hengine.config.symm)
      | some name =>
        unfold Client.Equipped
        rw [hengine.config]
        exact hsupplies.wanted name (List.mem_append_left _ List.mem_cons_self)
    -- what was got first is at its place when the other is got
    have hlater := hstretch.trans hsupplies' (c₁.config_after uses)
    have hconfig' : c₂.config = c₁.config := hengine'.config.trans (c₁.config_after uses)
    rw [hconfig, ← hlater.place_eq hconfig' hequipped,
      Client.place_inj (hlater.equipped hconfig' hequipped)]
  made uses hkeeps := by
    obtain ⟨added, hlog, hsupplies⟩ := Client.supplies_after hkeeps c
    obtain ⟨hnodup, hown⟩ := hsupplies.distinct h.distinct
    rw [hsupplies.engines] at hnodup hown
    rw [c.config_after uses, List.mem_append, not_or] at hown
    obtain ⟨-, hmade, hapart⟩ := List.nodup_append.1 hnodup
    refine ⟨added, hlog, hsupplies.engines, hsupplies.kept, hmade, fun name => ⟨?_, ?_⟩⟩
    · refine fun hname => ⟨?_, ?_⟩
      · rintro (rfl | hthere)
        · exact hown.2 hname
        · exact hapart name hthere name hname rfl
      · rw [← mem_flatMap_asked, ← List.mem_append]
        exact hsupplies.needed name hname
    · rintro ⟨hnew, hused⟩
      rw [← mem_flatMap_asked, ← List.mem_append] at hused
      have hthere := hsupplies.wanted name hused
      rw [hsupplies.engines, List.mem_append, ← or_assoc] at hthere
      exact hthere.resolve_left hnew
  disposed := rfl

/-! ## 6. Whole lives -/

/-- Whatever a client is used for, and whatever its server answers, the version is found out at most
once, before anything else is sent, and is what everyone goes by from then on; and there is one
engine at most for each database, made when it gets into use and given up once. -/
theorem Client.asks_and_equips_once (config : ClientConfig) (server : σ) (uses : List Use) :
    ((Client.new config server).after uses).AsksOnce ∧
      ((Client.new config server).after uses).EquipsOnce :=
  ⟨(Client.after_preserves (fun _ use h => h.after_one use)
      (Client.hasAsked_new config server) uses).asksOnce,
    (Client.after_preserves (fun _ use h => h.after_one use)
      (Client.hasEquipped_new config server) uses).equipsOnce⟩

/-- A client whose server says its version when it is asked for the second time. -/
def clientOfSecondAnswer : Client Script :=
  Client.new ⟨"postgres", none, "postgresql", "psycopg"⟩
    ⟨[.failed (.refused "starting up"), .rows [[.text "100005"]]]⟩

/-- It is asked twice, and an engine that was given up is made anew. -/
def usesWithRetry : List Use :=
  [.capabilities, .engine (some "app"), .engine (some "postgres"), .capabilities, .dispose,
    .capabilities, .engine (some "app"), .engine (some "app")]

theorem Client.asks_again_after_failure :
    ((clientOfSecondAnswer.after usesWithRetry).AsksOnce ∧
      (clientOfSecondAnswer.after usesWithRetry).EquipsOnce) ∧
    sentIn (clientOfSecondAnswer.after usesWithRetry).log = [.showVersion, .showVersion] ∧
    madeIn (clientOfSecondAnswer.after usesWithRetry).log = ["app", "app"] ∧
    givenUpIn (clientOfSecondAnswer.after usesWithRetry).log = ["app"] ∧
    (clientOfSecondAnswer.after usesWithRetry).capabilities = some ⟨.ofNumber 100005⟩ :=
  ⟨Client.asks_and_equips_once _ _ usesWithRetry, by rfl, by rfl, by rfl, by rfl⟩

end PgGrants
