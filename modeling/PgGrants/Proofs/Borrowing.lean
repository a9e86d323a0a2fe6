/-
Memberships that are borrowed for some work.

Whatever the server replies, and wherever a run of `Session.asMemberOf` stops, what happens around
the work keeps to a few rules. The user joins only roles on the list, each at most once and before
the work, and only right after the server reported them to be fit for it; a superuser joins none.
After the work the memberships that were accepted are handed back newest first, up to the first one
that is rejected, and only when all of them were handed back are roles that had left the user made
its members again, those that are still there.
-/
import PgGrants.Proofs.HandingBack
import PgGrants.Proofs.Joining
import PgGrants.Proofs.Restoring

set_option autoImplicit false

namespace PgGrants

/-! ## 1. The rules -/

/-- What happens around work with borrowed memberships, before it and after it. -/
structure Orderly (roles : List (Option String)) (user : Option String)
    (before after : List Exchange) : Prop where
  /-- No membership is moved, or the first thing said is who the user is. -/
  reported : (∀ x ∈ before ++ after, ¬x.Moves) ∨
    ∃ report rest, before = report :: rest ∧ report.ReportsUser user
  /-- The user joins only roles on the list, neither PUBLIC nor itself, that were just reported to
  be fit for it. -/
  eligible : Throughout (fun earlier x => ∀ role,
    x.command? = some (.grantRole (some role) user) →
      some role ∈ roles ∧ Role.isPublic role = false ∧ some role ≠ user ∧
        JustReported user role earlier) before
  /-- One that is reported to be a superuser joins none. -/
  superuser : (∃ x ∈ before, ∃ identity, x.ReportsRole user identity ∧
      identity.isSuperuser = true) →
    ∀ x ∈ before ++ after, ∀ role, x.command? ≠ some (.grantRole (some role) user)
  /-- The user asks to join each role at most once. -/
  once : (before.filterMap (Exchange.lent? user)).Nodup
  /-- After the work it joins none. -/
  noneAfter : ∀ x ∈ after, ∀ role, x.command? ≠ some (.grantRole (some role) user)
  /-- What was accepted is handed back newest first, before anything is restored. -/
  undone : ∃ closing undoing, after = closing ++ undoing ∧ (∀ x ∈ closing, x.command? = none) ∧
    HandsBack user (Restoring user (before.filterMap (Exchange.left? user)))
      (before.filterMap (Exchange.granted? user)).reverse undoing
  /-- Nothing else is taken from the user. -/
  own : ∀ x ∈ before ++ after, ∀ role, x.command? = some (.revokeRole (some role) user) →
    role ∈ before.filterMap (Exchange.granted? user)
  /-- Only roles that had left the user become its members, and only while they are there. -/
  restored : Throughout (fun earlier x => ∀ role,
    x.command? = some (.grantRole user (some role)) →
      role ∈ before.filterMap (Exchange.left? user) ∧ ∃ front report identity,
        earlier = front ++ [report] ∧ report.ReportsRole (some role) identity) (before ++ after)

/-- Where no membership is moved and nothing follows, all rules are kept. -/
theorem Orderly.still {roles : List (Option String)} {user : Option String}
    {before : List Exchange} (hmoves : ∀ x ∈ before, ¬x.Moves) : Orderly roles user before [] where
  reported := .inl (by rw [List.append_nil]; exact hmoves)
  eligible := .of_forall fun x hx _ role hcommand =>
    absurd ⟨some role, user, .inl hcommand⟩ (hmoves x hx)
  superuser := by
    intro _ x hx role hcommand
    rw [List.append_nil] at hx
    exact hmoves x hx ⟨some role, user, .inl hcommand⟩
  once := by
    rw [List.filterMap_eq_nil_iff.2 fun x hx => Exchange.lent?_of_not_moves (hmoves x hx) user]
    exact List.nodup_nil
  noneAfter := List.forall_mem_nil _
  undone := by
    refine ⟨[], [], rfl, List.forall_mem_nil _, ?_⟩
    rw [List.filterMap_eq_nil_iff.2 fun x hx =>
      Exchange.granted?_of_lent? (Exchange.lent?_of_not_moves (hmoves x hx) user)]
    exact .all .nil
  own := by
    intro x hx role hcommand
    rw [List.append_nil] at hx
    exact absurd ⟨some role, user, .inr hcommand⟩ (hmoves x hx)
  restored := by
    rw [List.append_nil]
    exact .of_forall fun x hx _ role hcommand =>
      absurd ⟨user, some role, .inl hcommand⟩ (hmoves x hx)

/-! ## 2. Joining keeps the rules -/

/-- The candidates are the names on the list but for the spellings of PUBLIC. -/
theorem mem_candidates_iff {roles : List (Option String)} {name : String} :
    name ∈ Session.candidates roles ↔ some name ∈ roles ∧ Role.isPublic name = false := by
  have hall : ∀ (given known : List String), name ∈ given.foldl (fun names name =>
      if Role.isPublic name || names.contains name then names else names ++ [name]) known ↔
        name ∈ known ∨ name ∈ given ∧ Role.isPublic name = false := by
    intro given
    -- the fold starts from the names kept so far, so these have to vary in the induction
    induction given with
    | nil => simp
    | cons first rest ih =>
      intro known
      rw [List.foldl_cons, ih]
      by_cases hname : name = first
      · subst hname
        cases hpublic : Role.isPublic name <;> by_cases hknown : name ∈ known <;> simp [hknown]
      · split <;> simp [hname]
  unfold Session.candidates
  rw [hall, List.mem_filterMap]
  simp

theorem mem_candidates {roles : List (Option String)} {name : String}
    (h : name ∈ Session.candidates roles) : some name ∈ roles ∧ Role.isPublic name = false :=
  mem_candidates_iff.1 h

/-- How joining begins: the user is reported, and what is reported of it is not that it is a
superuser. -/
structure Opens (user : Option String) (header : List Exchange) : Prop where
  reported : ∃ report rest, header = report :: rest ∧ report.ReportsUser user
  still : ∀ x ∈ header, ¬x.Moves
  modest : ∀ x ∈ header, ∀ identity, x.ReportsRole user identity → identity.isSuperuser = false

theorem filterMap_append_of_none {f : Exchange → Option String} {header exchanges : List Exchange}
    (h : ∀ x ∈ header, f x = none) :
    (header ++ exchanges).filterMap f = exchanges.filterMap f := by
  rw [List.filterMap_append, List.filterMap_eq_nil_iff.2 h, List.nil_append]

/-- Joining and handing back keep all the rules. -/
theorem Joining.orderly {roles : List (Option String)} {user : Option String}
    {header before closing undoing : List Exchange} {scope : Scope} (hheader : Opens user header)
    (hjoining : Joining (Session.candidates roles) user header (Session.candidates roles)
      (.ofUser user) scope before)
    (hclosing : ∀ x ∈ closing, x.command? = none)
    (hundoing : HandsBack user (Restoring user scope.reversed) scope.granted.reverse undoing) :
    Orderly roles user (header ++ before) (closing ++ undoing) := by
  -- what is accepted is accepted while joining, and the scope knows it
  have hnone : ∀ x ∈ header, x.lent? user = none :=
    fun x hx => Exchange.lent?_of_not_moves (hheader.still x hx) user
  have hgranted : (header ++ before).filterMap (Exchange.granted? user) = scope.granted :=
    (filterMap_append_of_none fun x hx => Exchange.granted?_of_lent? (hnone x hx)).trans
      hjoining.granted.symm
  have hreversed : (header ++ before).filterMap (Exchange.left? user) = scope.reversed :=
    (filterMap_append_of_none fun x hx =>
      Exchange.left?_of_not_moves (hheader.still x hx) user).trans hjoining.reversed.symm
  -- before the work memberships are moved as joining moves them
  have hbefore : Throughout (FitsJoining (Session.candidates roles) user) (header ++ before) :=
    Throughout.append (.of_forall fun x hx _ => .of_not_moves (hheader.still x hx)) hjoining.fits
  -- after it they are taken back or restored
  have hafter : Throughout (fun earlier =>
      FitsUndoing user scope.granted scope.reversed (header ++ before ++ earlier))
        (closing ++ undoing) :=
    hundoing.fitsUndoing_after hclosing (fun _ => List.mem_reverse.1) (header ++ before)
  have hother : ∀ {name}, name ∈ scope.reversed → some name ≠ user :=
    fun hname => (hjoining.mem_of_reversed hname).2
  exact {
    reported := by
      obtain ⟨report, rest, rfl, hreport⟩ := hheader.reported
      exact .inr ⟨report, rest ++ before, rfl, hreport⟩
    eligible := hbefore.mono fun earlier x hfits role hcommand => by
      obtain ⟨-, -, name, hname, hsame, hne, hreported⟩ := hfits.1 _ _ hcommand
      cases hsame
      obtain ⟨hmem, hpublic⟩ := mem_candidates hname
      exact ⟨hmem, hpublic, hne, hreported⟩
    superuser := by
      rintro ⟨x, hx, identity, hreports, hsuperuser⟩
      rcases List.mem_append.1 hx with hx | hx
      · rw [hheader.modest x hx identity hreports] at hsuperuser
        cases hsuperuser
      · exact absurd hreports.1 (hjoining.quiet x hx)
    once := by
      rw [filterMap_append_of_none hnone]
      exact hjoining.order.nodup (Session.candidates_nodup roles)
    noneAfter := by
      intro x hx role hcommand
      obtain ⟨earlier, hfits⟩ := hafter.exists_of_mem hx
      obtain ⟨-, name, hname, hsame, -⟩ := hfits.2 _ _ hcommand
      exact hother hname hsame.symm
    undone := ⟨closing, undoing, rfl, hclosing, by rw [hgranted, hreversed]; exact hundoing⟩
    own := by
      intro x hx role hcommand
      rw [hgranted]
      rcases List.mem_append.1 hx with hx | hx
      · obtain ⟨earlier, hfits⟩ := hbefore.exists_of_mem hx
        obtain ⟨-, name, -, hsame, hne⟩ := hfits.2 _ _ hcommand
        exact absurd hsame.symm hne
      · obtain ⟨earlier, hfits⟩ := hafter.exists_of_mem hx
        obtain ⟨-, name, hname, hsame⟩ := hfits.1 _ _ hcommand
        rw [Option.some.inj hsame]
        exact hname
    restored := by
      rw [hreversed]
      refine .append (hbefore.mono fun earlier x hfits role hcommand => ?_)
        (hafter.mono fun earlier x hfits role hcommand => ?_)
      · obtain ⟨-, -, name, -, hsame, hne, -⟩ := hfits.1 _ _ hcommand
        exact absurd hsame.symm hne
      · obtain ⟨-, name, hname, hsame, hreport⟩ := hfits.2 _ _ hcommand
        cases hsame
        exact ⟨hname, hreport⟩ }

/-! ## 3. Work with borrowed memberships -/

section Work

open Session

variable {σ α : Type} [Server σ] {kind : Except Error α → List Exchange → Prop}

/-- Boundaries that are sent send no command. -/
theorem quiet_of_steps {exchanges : List Exchange}
    (h : ∀ step ∈ exchanges.map Exchange.step, step.command? = none) :
    ∀ x ∈ exchanges, x.command? = none :=
  fun _ hx => h _ (List.mem_map_of_mem hx)

/-- Exchanges in which no command is sent are steps that send none. -/
theorem quiet_map {exchanges : List Exchange} (h : ∀ x ∈ exchanges, x.command? = none) :
    ∀ step ∈ exchanges.map Exchange.step, step.command? = none :=
  List.forall_mem_map.2 h

theorem hears_enterSavepoint :
    Hears (enterSavepoint : Session σ Unit).run fun _ exchanges =>
      ∀ x ∈ exchanges, x.command? = none := by
  have hdoes : Does (enterSavepoint : Session σ Unit).run fun _ steps =>
      ∀ step ∈ steps, step.command? = none := by
    have hopen : Does (ensureTransaction : Session σ Unit).run fun _ steps => steps = [] :=
      .ensureTransaction rfl
    refine .bind_run hopen (fun _ steps hsteps => ?_) fun _ steps hsteps => ?_
    · subst hsteps
      exact .boundary fun failure => List.forall_mem_singleton.2 rfl
    · subst hsteps
      exact List.forall_mem_nil _
  exact hdoes.hears.mono fun _ _ h => quiet_of_steps h

theorem Leaves.quiet {entered outcome : Except Error α} {steps : List Step}
    (h : Leaves entered outcome steps) : ∀ step ∈ steps, step.command? = none := by
  cases h with
  | released => exact List.forall_mem_singleton.2 rfl
  | notReleased => exact List.forall_mem_singleton.2 rfl
  | rolledBack => exact List.forall_mem_singleton.2 rfl

theorem hears_leaveSavepoint {β : Type} (entered : Except Error β) :
    Hears (leaveSavepoint entered : Session σ β).run fun _ exchanges =>
      ∀ x ∈ exchanges, x.command? = none :=
  (does_leaveSavepoint entered).hears.mono fun _ _ h => quiet_of_steps h.quiet

/-- The block is the work itself, or nothing if the work was not started. -/
def IsBlock (kind : Except Error α → List Exchange → Prop) (block : List Exchange) : Prop :=
  block = [] ∨ ∃ outcome, kind outcome block

theorem hears_start {work : Session σ α} (hwork : Hears work.run kind) (scope : Scope) :
    Hears (start scope work).run fun outcome exchanges => ∃ opening block,
      exchanges = opening ++ block ∧ (∀ x ∈ opening, x.command? = none) ∧ kind outcome block := by
  have hrecord : Does (record (.started scope) : Session σ Unit).run fun outcome steps =>
      outcome = .ok () ∧ ∀ step ∈ steps, step.command? = none :=
    .record (fun _ => rfl) ⟨rfl, List.forall_mem_singleton.2 rfl⟩
  refine .bind_run hrecord.hears (fun _ opening hopening => ?_) fun _ _ h => nomatch h.1
  exact hwork.mono fun _ block hblock => ⟨opening, block, rfl, quiet_of_steps hopening.2, hblock⟩

/-- The work inside its savepoint. -/
theorem hears_savepoint_start {work : Session σ α} (hwork : Hears work.run kind) (scope : Scope) :
    Hears (savepoint (start scope work)).run fun _ exchanges => ∃ opening block closing,
      exchanges = opening ++ block ++ closing ∧ (∀ x ∈ opening, x.command? = none) ∧
        IsBlock kind block ∧ ∀ x ∈ closing, x.command? = none := by
  refine .bind_run hears_enterSavepoint (fun _ first hfirst => ?_) fun _ first hfirst =>
    ⟨first, [], [], by simp, hfirst, .inl rfl, List.forall_mem_nil _⟩
  refine .bind_run (hears_start hwork scope).attempt ?_ fun _ _ ⟨_, h, _⟩ => nomatch h
  rintro tried _ ⟨outcome, -, opening, block, rfl, hopening, hblock⟩
  refine (hears_leaveSavepoint tried).mono fun _ closing hclosing => ?_
  exact ⟨first ++ opening, block, closing, by simp, List.forall_mem_append.2 ⟨hfirst, hopening⟩,
    .inr ⟨outcome, hblock⟩, hclosing⟩

section Member

variable {all : List String} (hall : ∀ name ∈ all, Role.isPublic name = false)
  (user : Option String) (context : List Exchange)

include hall

theorem hears_joinInSavepoint :
    Hears (joinInSavepoint (σ := σ) user all) fun result exchanges =>
      Joining all user context all (.ofUser user) result.2 exchanges := by
  unfold joinInSavepoint
  refine .bind hears_enterSavepoint fun entered first hfirst => ?_
  -- the savepoint adds only boundaries to what is said while joining
  have hentered : Joining all user context [] (.ofUser user) (.ofUser user) first :=
    .boundaries hfirst
  cases entered with
  | error error =>
    exact .pure (by rw [List.append_nil]; exact hentered.widen (List.nil_sublist _))
  | ok _ =>
    refine .bind (hears_join hall user all (fun _ h => h) (.ofUser user) (context ++ first))
      fun ⟨joined, scope⟩ second hsecond => ?_
    refine .bind (hears_leaveSavepoint joined) fun left third hthird => .pure ?_
    have hjoined := (hentered.append hsecond).append (.boundaries hthird)
    rw [List.append_nil, ← List.append_assoc]
    rw [List.append_nil] at hjoined
    exact hjoined

/-- Joining, then the work in its savepoint if all roles could be joined. -/
theorem hears_tryAsMember {work : Session σ α} (hwork : Hears work.run kind) :
    Hears (tryAsMember user all work) fun tried exchanges => ∃ before block closing,
      exchanges = before ++ block ++ closing ∧
        Joining all user context all (.ofUser user) tried.2 before ∧ IsBlock kind block ∧
        ∀ x ∈ closing, x.command? = none := by
  refine .bind (hears_joinInSavepoint hall user context) fun ⟨joined, scope⟩ first hfirst => ?_
  cases joined with
  | error error =>
    exact .pure ⟨first, [], [], by simp, hfirst, .inl rfl, List.forall_mem_nil _⟩
  | ok _ =>
    refine .bind (hears_savepoint_start hwork scope) fun tried second hsecond => ?_
    obtain ⟨opening, block, closing, rfl, hopening, hblock, hclosing⟩ := hsecond
    have hbefore := hfirst.append (.boundaries hopening)
    rw [List.append_nil] at hbefore
    have hparts : first ++ (opening ++ block ++ closing ++ []) =
        first ++ opening ++ block ++ closing := by simp
    -- the work is done or has failed; either way it is one block, with nothing asked after it
    cases tried with
    | error error => exact .pure ⟨_, block, closing, hparts, hbefore, hblock, hclosing⟩
    | ok result => exact .pure ⟨_, block, closing, hparts, hbefore, hblock, hclosing⟩

/-- However far that got, it is undone. -/
theorem hears_stayAs {work : Session σ α} (hwork : Hears work.run kind) :
    Hears (stayAs user all work) fun _ exchanges => ∃ scope before block closing undoing,
      exchanges = before ++ block ++ (closing ++ undoing) ∧
        Joining all user context all (.ofUser user) scope before ∧ IsBlock kind block ∧
        (∀ x ∈ closing, x.command? = none) ∧
        HandsBack user (Restoring user scope.reversed) scope.granted.reverse undoing := by
  refine .bind (hears_tryAsMember hall user context hwork) fun ⟨attempt, scope⟩ first hfirst => ?_
  obtain ⟨before, block, closing, rfl, hbefore, hblock, hclosing⟩ := hfirst
  have hpublic : ∀ name ∈ scope.reversed, Role.isPublic name = false :=
    fun name hname => hall name (hbefore.mem_of_reversed hname).1
  refine .bind (hears_undo hbefore.isSome_of_granted hpublic) fun _ undoing hundoing => .pure ?_
  exact ⟨scope, before, block, closing, undoing, by simp, hbefore, hblock, hclosing, hundoing⟩

end Member

/-- The exchanges are those of the work with what happens around it, which keeps the rules. -/
def Borrows (roles : List (Option String)) (kind : Except Error α → List Exchange → Prop)
    (exchanges : List Exchange) : Prop :=
  ∃ user before block after, exchanges = before ++ block ++ after ∧ IsBlock kind block ∧
    Orderly roles user before after

/-- Questions alone keep the rules. -/
theorem Borrows.questions {roles : List (Option String)} {exchanges : List Exchange}
    (h : ∀ x ∈ exchanges, ∃ query, x.command? = some (.query query)) :
    Borrows roles kind exchanges := by
  refine ⟨none, exchanges, [], [], by simp, .inl rfl, .still fun x hx => ?_⟩
  obtain ⟨query, hquery⟩ := h x hx
  exact Exchange.not_moves_of_query hquery

/-- Work for which no membership is needed keeps the rules. -/
theorem hears_start_borrows {work : Session σ α} (hwork : Hears work.run kind) (scope : Scope)
    (roles : List (Option String)) {header : List Exchange} (hheader : ∀ x ∈ header, ¬x.Moves) :
    Hears (start scope work).run fun _ rest => Borrows roles kind (header ++ rest) := by
  refine (hears_start hwork scope).mono ?_
  rintro outcome _ ⟨opening, block, rfl, hopening, hblock⟩
  refine ⟨none, header ++ opening, block, [], by simp, .inr ⟨outcome, hblock⟩, .still ?_⟩
  exact List.forall_mem_append.2
    ⟨hheader, fun x hx => Exchange.not_moves_of_none (hopening x hx)⟩

/-- Work as a member of the roles keeps the rules. -/
theorem hears_asMember_borrows {work : Session σ α} (hwork : Hears work.run kind)
    {user : Option String} {roles : List (Option String)} {header : List Exchange}
    (hheader : Opens user header) :
    Hears (asMember user (candidates roles) work).run fun _ rest =>
      Borrows roles kind (header ++ rest) := by
  have hpublic : ∀ name ∈ candidates roles, Role.isPublic name = false :=
    fun _ h => (mem_candidates h).2
  have hstay := hears_stayAs hpublic user header hwork
  -- the outcome is worked out from the stay afterwards, and nothing is said for that
  have houtcome : Hears (Stay.outcome (candidates roles) <$> stayAs user (candidates roles) work)
      fun _ rest => Borrows roles kind (header ++ rest) := by
    refine .map (hstay.mono ?_)
    rintro stay _ ⟨scope, before, block, closing, undoing, rfl, hbefore, hblock, hclosing, hundoing⟩
    exact ⟨user, header ++ before, block, closing ++ undoing, by simp, hblock,
      hbefore.orderly hheader hclosing hundoing⟩
  exact houtcome.congr fun c => exec_asMember user (candidates roles) work c

/-- Joining begins when it is known who the user is, and that it is no superuser. -/
theorem opens_of_asked {user : Option String} {report : Exchange} {looked : List Exchange}
    (hstill : ∀ x ∈ [report] ++ looked, ¬x.Moves)
    (hasked : ∀ x ∈ [report], x.command? = some (.query .connectingRole))
    (hreport : report.ReportsUser user)
    (hmodest : ∀ x ∈ looked, ∀ identity, x.ReportsRole user identity →
      identity.isSuperuser = false) : Opens user ([report] ++ looked) where
  reported := ⟨report, looked, rfl, hreport⟩
  still := hstill
  modest := by
    intro x hx identity hreports
    rcases List.mem_append.1 hx with hx | hx
    · -- who the user is was another question
      have hcommand := (hasked x hx).symm.trans hreports.1
      cases hcommand
    · exact hmodest x hx identity hreports

/-- Whatever the server replies, work as a member of roles is the work with memberships borrowed
around it by the rules: the user joins only roles on the list that were just reported to be fit for
it, each at most once and before the work, and what was accepted is handed back newest first, before
roles that had left the user are made its members again. -/
theorem Session.asMemberOf_borrows_by_rules {work : Session σ α} (hwork : Hears work.run kind)
    (roles : List (Option String)) :
    Hears (asMemberOf roles work).run fun _ exchanges =>
      ∃ user before block after, exchanges = before ++ block ++ after ∧ IsBlock kind block ∧
        Orderly roles user before after := by
  show Hears _ fun _ exchanges => Borrows roles kind exchanges
  unfold asMemberOf
  dsimp only
  split
  · exact hears_start_borrows hwork _ roles (List.forall_mem_nil _)
  · refine .bind_run hears_connectingRole (fun user asked hasked => ?_) fun _ _ hasked =>
      .questions fun x hx => ⟨_, hasked.1 x hx⟩
    obtain ⟨report, rfl, hreport⟩ := hasked.2 user rfl
    refine .bind_run (hears_lookUpRole user) (fun found looked hlooked => ?_)
      fun _ looked hlooked => .questions (List.forall_mem_append.2
        ⟨fun x hx => ⟨_, hasked.1 x hx⟩, fun x hx => ⟨_, hlooked.1 x hx⟩⟩)
    -- two questions at most come before the memberships: who the user is, and which rights it has
    have hstill : ∀ x ∈ [report] ++ looked, ¬x.Moves := List.forall_mem_append.2
      ⟨fun x hx => Exchange.not_moves_of_query (hasked.1 x hx),
        fun x hx => Exchange.not_moves_of_query (hlooked.1 x hx)⟩
    have hopens : (∀ identity, found = some identity → identity.isSuperuser = false) →
        Opens user ([report] ++ looked) := fun hmodest =>
      opens_of_asked hstill hasked.1 hreport fun x hx identity hreports =>
        hmodest identity ((hlooked.2 found rfl).1 x hx identity hreports)
    have hassoc : ∀ rest, Borrows roles kind ([report] ++ looked ++ rest) →
        Borrows roles kind ([report] ++ (looked ++ rest)) := by
      intro rest h
      rw [← List.append_assoc]
      exact h
    cases found with
    | none =>
      exact (hears_asMember_borrows hwork (hopens fun _ h => nomatch h)).mono fun _ rest =>
        hassoc rest
    | some identity =>
      dsimp only
      split
      · exact (hears_start_borrows hwork _ roles hstill).mono fun _ rest => hassoc rest
      · rename_i hmodest
        refine (hears_asMember_borrows hwork (hopens fun other h => ?_)).mono fun _ rest =>
          hassoc rest
        cases h
        exact Bool.eq_false_iff.2 hmodest

end Work

/-- The server says that `app` is no superuser and no member of `owner`, which is a member of `app`;
then it accepts everything, and `owner` is still there in the end. -/
def ownerScript : Script where
  replies := [
    .rows [[.text "app"]], .rows [[.text "app", .int 10, .bool false]],
    .rows [[.text "owner", .int 11, .bool false]], .rows [[.bool false]], .rows [[.bool true]],
    .rows [], .rows [], .rows [], .rows [],
    .rows [[.text "owner", .int 11, .bool false]]]

/-- A connection to this server, in a transaction. -/
def ownerConnection : Connection Script := ⟨ownerScript, [], true, some ⟨⟨[16]⟩⟩⟩

/-- A schema is handed over as a member of `owner`, which leaves the connecting role for that time.
-/
def handOver : Session Script Unit :=
  Session.asMemberOf [some "owner", some "public", some "app"]
    (Session.performAll [.schemaOwner ⟨some "sales", some "owner", some "app"⟩])

/-- In this run the connecting role joins `owner`, and all the rules are kept. -/
theorem Session.hand_over_borrows_owner :
    "GRANT \"owner\" TO \"app\"" ∈ (handOver.exec ownerConnection).2.log.filterMap Event.text? ∧
      ∃ user before block after,
        converse (handOver.exec ownerConnection).2.log ownerScript = before ++ block ++ after ∧
          Orderly [some "owner", some "public", some "app"] user before after := by
  refine ⟨by decide +kernel, ?_⟩
  obtain ⟨result, steps, c', hleads, -, user, before, block, after, heq, -, horderly⟩ :=
    Session.asMemberOf_borrows_by_rules
      (does_performAll [.schemaOwner ⟨some "sales", some "owner", some "app"⟩]).hears
      [some "owner", some "public", some "app"] ownerConnection rfl
  -- the theorem speaks of the steps of the run, the example of its log
  have hexec : handOver.exec ownerConnection = (result, c') := hleads.exec
  have hlog : c'.log = steps.map Step.event := hleads.log
  refine ⟨user, before, block, after, ?_, horderly⟩
  rw [hexec, hlog]
  exact heq

end PgGrants
