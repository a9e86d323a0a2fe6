/-
Circular memberships. No role can join one that is its own member, so before the user joins a role
that role has to leave the user. Whether it is a member of the user is asked by the question that
also tells whether the user can take a role on: where memberships say whether the role can be taken
on, one by which it cannot is not counted, and such a member stays.

So when the user asks to join a role, at that moment the role is no member of the user that counts.
This holds in every run, wherever it stops and whatever the work is. On a server whose memberships
do not say whether the role can be taken on it is all that is needed: there every member counts.
-/
import PgGrants.Proofs.KeptErrors
import PgGrants.Proofs.OptionServer

set_option autoImplicit false

namespace PgGrants

variable {γ : Type} {roles : Roles} {rules : OptionRules γ}

/-! ## 1. What is asked for, and when -/

/-- The user does not ask to join any role. -/
abbrev JoinsNone (user : Option String) (steps : List Step) : Prop :=
  ∀ step ∈ steps, ∀ role : String, step.command? ≠ some (.grantRole (some role) user)

theorem JoinsNone.of_asked {α : Type} {allowed : Query → Prop} {outcome : Except Error α}
    {steps : List Step} (h : Asked allowed outcome steps) (user : Option String) :
    JoinsNone user steps := by
  intro step hstep role hcommand
  obtain ⟨query, -, hquery⟩ := h.questions step hstep
  rw [hcommand] at hquery
  cases hquery

theorem JoinsNone.of_quiet {steps : List Step} (h : ∀ step ∈ steps, step.command? = none)
    (user : Option String) : JoinsNone user steps := by
  intro step hstep role hcommand
  rw [h step hstep] at hcommand
  cases hcommand

/-- If the user asks here to join a role, the role is no member of the user that counts. -/
def Heeds (server : OptionServer roles rules) (settable : Bool) (earlier : List Step)
    (step : Step) : Prop :=
  ∀ role : String, step.command? = some (.grantRole (some role) (some roles.user)) →
    rules.counted settable (replay (earlier.map Step.event) server).2.members roles.user role =
      false

theorem JoinsNone.heeds {steps : List Step} (h : JoinsNone (some roles.user) steps)
    (server : OptionServer roles rules) (settable : Bool) :
    Throughout (Heeds server settable) steps :=
  .of_forall fun step hstep _ role hcommand => absurd hcommand (h step hstep role)

/-- The second half begins on the server that the first half leaves. -/
theorem Throughout.heeds_append {server server' : OptionServer roles rules} {settable : Bool}
    {first rest : List Step} (hfollows : Follows server first server')
    (hfirst : Throughout (Heeds server settable) first)
    (hrest : Throughout (Heeds server' settable) rest) :
    Throughout (Heeds server settable) (first ++ rest) := by
  refine hfirst.append (hrest.mono fun earlier step hheeds role hcommand => ?_)
  have hsteps : replay (first.map Step.event) server = (first, server') := hfollows
  rw [List.map_append, replay_append, hsteps]
  exact hheeds role hcommand

/-! ## 2. Joining

Before each request to join a role the server has been asked whether the role is a member of the
user, and one that counts has left it. Between that and the request nothing moves a membership, so
at that moment there is none that counts. -/

namespace Session

variable {c : Connection (OptionServer roles rules)}

theorem does_leave {σ : Type} [Server σ] (user : Option String) (role : String) :
    Does (leave (σ := σ) user role).run fun _ steps => JoinsNone user steps := by
  refine (hears_leave user role).does.mono ?_
  rintro _ _ ⟨exchanges, rfl, hclears, -⟩ step hstep given hcommand
  obtain ⟨x, hx, rfl⟩ := List.mem_map.1 hstep
  have hlent : x.lent? user = some given := by
    unfold Exchange.lent?
    rw [show x.command? = _ from hcommand]
    exact if_pos rfl
  rw [(hclears x hx).lent? user] at hlent
  cases hlent

/-- When the role had to leave the user and did, it is no member of it that counts. -/
theorem not_counted_of_exec_leave {c' : Connection (OptionServer roles rules)} {role : String}
    {left : Bool} (hc : c.inTransaction = true)
    (h : exec (leave roles.user role) c = (.ok left, c')) :
    rules.counted c'.settable c'.server.members roles.user role = false := by
  obtain ⟨hleft, harrives⟩ := OptionServer.of_exec_leave hc h
  rw [harrives.settable, harrives.members]
  -- nothing was left because the server did not count the membership, or it was revoked just now
  cases left with
  | false => exact hleft.symm
  | true =>
    have hnone : (c.server.members.erase roles.user role) roles.user role = none :=
      if_pos ⟨rfl, rfl⟩
    unfold OptionRules.counted
    rw [if_pos rfl, hnone]
    rfl

/-- To ask for a role that is no member of the user that counts is as it should be. -/
theorem heeds_grantRole {role : String} (hc : c.inTransaction = true)
    (hnot : rules.counted c.settable c.server.members roles.user role = false) :
    ∃ outcome steps c', Leads (grantRole role roles.user).run c outcome steps c' ∧
      c'.inTransaction = true ∧ Throughout (Heeds c.server c.settable) steps := by
  obtain ⟨outcome, steps, c', hleads, hc', exchanges, rfl, hanswered⟩ :=
    (hears_grantRole (some role) (some roles.user)).does c hc
  refine ⟨outcome, _, c', hleads, hc', ?_⟩
  have hone : ∀ sql failure, Throughout (Heeds c.server c.settable)
      [⟨.sent (.grantRole (some role) (some roles.user)) sql, failure⟩] := by
    refine fun sql failure => .single fun given hcommand => ?_
    cases hcommand
    exact hnot
  -- a command that is not sent heeds everything; one that is sent is this one
  cases hanswered with
  | unsent => exact .nil
  | accepted hsql rows => exact hone _ _
  | rejected hsql failure => exact hone _ _

/-- Wherever joining stops, the user only asked to join roles that were no members of it that count.
-/
theorem heeds_join (names : List String) (given : Scope) (hc : c.inTransaction = true) :
    ∃ result steps c', Leads (join roles.user names given) c result steps c' ∧
      c'.inTransaction = true ∧ Throughout (Heeds c.server c.settable) steps := by
  induction names generalizing given c with
  | nil => exact ⟨_, [], c, .pure _ c, hc, .nil⟩
  | cons role rest ih =>
    unfold join
    obtain ⟨needed, asked, c₁, hmust, hc₁, hasked⟩ := asks_mustJoin roles.user role c hc
    have hfirst := (JoinsNone.of_asked hasked (some roles.user)).heeds c.server c.settable
    -- to look at a role fails, or there is no need to join it, or it is left and then joined; each
    -- part heeds the server as the parts before it have left it
    rcases needed with error | _ | _
    · exact ⟨_, _, c₁, hmust.bind (.pure _ c₁), hc₁, by rw [List.append_nil]; exact hfirst⟩
    · obtain ⟨-, harrives⟩ := OptionServer.of_exec_mustJoin hc hmust.exec
      obtain ⟨result, steps, c', hrest, hc', hheeds⟩ := ih given hc₁
      rw [harrives.settable] at hheeds
      exact ⟨result, _, c', hmust.bind hrest, hc', hfirst.heeds_append hmust.server hheeds⟩
    · obtain ⟨-, harrives⟩ := OptionServer.of_exec_mustJoin hc hmust.exec
      rw [← harrives.settable] at hfirst ⊢
      obtain ⟨left, leaving, c₂, hleave, hc₂, hquiet⟩ := does_leave roles.user role c₁ hc₁
      have hsecond := hquiet.heeds c₁.server c₁.settable
      rcases left with error | left
      · refine ⟨_, _, c₂, hmust.bind (hleave.bind (.pure _ c₂)), hc₂, ?_⟩
        rw [List.append_nil]
        exact hfirst.heeds_append hmust.server hsecond
      -- the one fact that counts: once the role was left, the server counts no circle
      · have hnot := not_counted_of_exec_leave hc₁ hleave.exec
        obtain ⟨-, hleft⟩ := OptionServer.of_exec_leave hc₁ hleave.exec
        rw [← hleft.settable] at hfirst hsecond ⊢
        obtain ⟨granted, asking, c₃, hgrant, hc₃, hthird⟩ := heeds_grantRole hc₂ hnot
        rcases granted with error | _
        · refine ⟨_, _, c₃, hmust.bind (hleave.bind (hgrant.bind (.pure _ c₃))), hc₃, ?_⟩
          rw [List.append_nil]
          exact hfirst.heeds_append hmust.server (hsecond.heeds_append hleave.server hthird)
        · have hjoined := OptionServer.of_exec_grantRole hc₂ hgrant.exec
          obtain ⟨result, steps, c', hrest, hc', hlast⟩ := ih _ hc₃
          rw [hjoined.settable] at hlast
          exact ⟨result, _, c', hmust.bind (hleave.bind (hgrant.bind hrest)), hc',
            hfirst.heeds_append hmust.server (hsecond.heeds_append hleave.server
              (hthird.heeds_append hgrant.server hlast))⟩

theorem does_enterSavepoint {σ : Type} [Server σ] :
    Does (enterSavepoint : Session σ Unit).run fun _ steps =>
      ∀ step ∈ steps, step.command? = none := by
  refine hears_enterSavepoint.does.mono ?_
  rintro _ _ ⟨exchanges, rfl, hquiet⟩
  exact quiet_map hquiet

theorem heeds_joinInSavepoint (names : List String) (hc : c.inTransaction = true) :
    ∃ result steps c', Leads (joinInSavepoint roles.user names) c result steps c' ∧
      c'.inTransaction = true ∧ Throughout (Heeds c.server c.settable) steps := by
  unfold joinInSavepoint
  obtain ⟨entered, first, c₁, henter, hc₁, hentering⟩ := does_enterSavepoint c hc
  have harrives := OptionServer.of_exec_enterSavepoint hc henter.exec
  have hfirst := (JoinsNone.of_quiet hentering (some roles.user)).heeds c.server c.settable
  -- the savepoint moves nothing, so the server that joining heeds is the one before it
  rcases entered with error | _
  · refine ⟨_, _, c₁, henter.bind (.pure _ c₁), hc₁, ?_⟩
    rw [List.append_nil]
    exact hfirst
  · obtain ⟨⟨joined, scope⟩, second, c₂, hjoin, hc₂, hsecond⟩ :=
      heeds_join names (.ofUser roles.user) hc₁
    rw [harrives.settable] at hsecond
    obtain ⟨outcome, third, c₃, hleave, hc₃, hleaves⟩ := does_leaveSavepoint joined c₂ hc₂
    have hthird := (JoinsNone.of_quiet hleaves.quiet (some roles.user)).heeds c₂.server c.settable
    refine ⟨_, _, c₃, henter.bind (hjoin.bind (hleave.bind (.pure _ c₃))), hc₃, ?_⟩
    rw [List.append_nil]
    exact hfirst.heeds_append henter.server (hsecond.heeds_append hjoin.server hthird)

/-! ## 3. Undoing -/

/-- Undoing makes other roles members of the user, and the user no member of any. -/
theorem does_undo {σ : Type} [Server σ] {user : String} {scope : Scope}
    (hreversed : ∀ name ∈ scope.reversed, Role.isPublic name = false ∧ name ≠ user) :
    Does (undo (σ := σ) user scope).run fun _ steps => JoinsNone user steps := by
  have hundo : Hears (undo (σ := σ) user scope).run _ :=
    hears_undo (fun _ => rfl) fun name hname => (hreversed name hname).1
  refine hundo.does.mono ?_
  rintro _ _ ⟨exchanges, rfl, hback⟩ step hstep role hcommand
  obtain ⟨x, hx, rfl⟩ := List.mem_map.1 hstep
  obtain ⟨earlier, hfits⟩ :=
    (hback.fitsUndoing (fun _ => List.mem_reverse.1) []).exists_of_mem hx
  obtain ⟨-, name, hname, hsame, -⟩ := hfits.2 _ _ hcommand
  exact (hreversed name hname).2 (Option.some.inj hsame).symm

end Session

/-! ## 4. Work as a member of roles

The work may be anything, so of its steps only their kind is known. The claim is about the steps
around them: those before are the ones of joining, and behind the work the user joins nobody. -/

section Work

open Session

variable {α : Type} {kind : Except Error α → List Step → Prop}

/-- The steps are those of some work, or of none, with others around it: when the user asks to join
a role before the work that role is no member of it that counts, and after the work it asks to join
none. -/
def Careful (kind : Except Error α → List Step → Prop) (server : OptionServer roles rules)
    (settable : Bool) (steps : List Step) : Prop :=
  ∃ before block after, steps = before ++ block ++ after ∧
    (block = [] ∨ ∃ outcome, kind outcome block) ∧
    Throughout (Heeds server settable) before ∧ JoinsNone (some roles.user) after

namespace Careful

variable {server server' : OptionServer roles rules} {settable : Bool}
  {steps first rest : List Step}

/-- There was no work. -/
theorem ofBefore (h : Throughout (Heeds server settable) steps) :
    Careful kind server settable steps :=
  ⟨steps, [], [], by simp, .inl rfl, h, List.forall_mem_nil _⟩

theorem prepend (hfollows : Follows server first server')
    (hfirst : Throughout (Heeds server settable) first)
    (h : Careful kind server' settable steps) : Careful kind server settable (first ++ steps) := by
  obtain ⟨before, block, after, rfl, hblock, hbefore, hafter⟩ := h
  exact ⟨first ++ before, block, after, by simp, hblock, hfirst.heeds_append hfollows hbefore,
    hafter⟩

theorem append (h : Careful kind server settable steps)
    (hrest : JoinsNone (some roles.user) rest) : Careful kind server settable (steps ++ rest) := by
  obtain ⟨before, block, after, rfl, hblock, hbefore, hafter⟩ := h
  exact ⟨before, block, after ++ rest, by simp, hblock, hbefore,
    List.forall_mem_append.2 ⟨hafter, hrest⟩⟩

/-- The work with steps around it that send nothing. -/
theorem ofQuiet {opening block closing : List Step}
    (hopening : ∀ step ∈ opening, step.command? = none)
    (hblock : block = [] ∨ ∃ outcome, kind outcome block)
    (hclosing : ∀ step ∈ closing, step.command? = none) :
    Careful kind server settable (opening ++ block ++ closing) :=
  ⟨opening, block, closing, rfl, hblock, (JoinsNone.of_quiet hopening _).heeds server settable,
    JoinsNone.of_quiet hclosing _⟩

end Careful

variable {c : Connection (OptionServer roles rules)} {work : Session (OptionServer roles rules) α}

theorem does_savepoint_start (hwork : Does work.run kind) (scope : Scope) :
    Does (savepoint (start scope work)).run fun _ steps => ∃ opening block closing,
      steps = opening ++ block ++ closing ∧ (∀ step ∈ opening, step.command? = none) ∧
        (block = [] ∨ ∃ outcome, kind outcome block) ∧ ∀ step ∈ closing, step.command? = none := by
  refine (hears_savepoint_start hwork.hears scope).does.mono ?_
  rintro _ _ ⟨_, rfl, opening, block, closing, rfl, hopening, hblock, hclosing⟩
  refine ⟨opening.map Exchange.step, block.map Exchange.step, closing.map Exchange.step, by simp,
    quiet_map hopening, ?_, quiet_map hclosing⟩
  exact hblock.imp_left fun hnone => congrArg (List.map Exchange.step) hnone

/-- Joining and the work. What has left the user by then are other roles. -/
theorem careful_tryAsMember (hwork : Does work.run kind) {names : List String}
    (hpublic : ∀ name ∈ names, Role.isPublic name = false) (hc : c.inTransaction = true) :
    ∃ tried steps c', Leads (tryAsMember roles.user names work) c tried steps c' ∧
      c'.inTransaction = true ∧ Careful kind c.server c.settable steps ∧
      ∀ name ∈ tried.2.reversed, Role.isPublic name = false ∧ name ≠ roles.user := by
  obtain ⟨⟨joined, scope⟩, first, c₁, hjoin, hc₁, hfirst⟩ := heeds_joinInSavepoint names hc
  have hreversed : ∀ name ∈ scope.reversed, Role.isPublic name = false ∧ name ≠ roles.user := by
    obtain ⟨result, steps, c', hjoin', -, hjoining⟩ :=
      hears_joinInSavepoint hpublic (some roles.user) [] c hc
    -- both descriptions are of the same run, so its scope has the properties of either
    obtain ⟨rfl, rfl⟩ := hjoin.unique hjoin'
    intro name hname
    obtain ⟨hmem, hother⟩ := hjoining.mem_of_reversed hname
    exact ⟨hpublic name hmem, fun heq => hother (congrArg some heq)⟩
  unfold tryAsMember
  cases joined with
  | error error =>
    refine ⟨_, _, c₁, hjoin.bind (.pure _ c₁), hc₁, ?_, hreversed⟩
    rw [List.append_nil]
    exact .ofBefore hfirst
  | ok _ =>
    obtain ⟨worked, _, c₂, hrun, hc₂, opening, block, closing, rfl, hopening, hblock, hclosing⟩ :=
      does_savepoint_start hwork scope c₁ hc₁
    have hcareful : Careful kind c.server c.settable (first ++ (opening ++ block ++ closing)) :=
      .prepend hjoin.server hfirst (.ofQuiet hopening hblock hclosing)
    cases worked with
    | error error =>
      refine ⟨_, _, c₂, hjoin.bind (hrun.bind (.pure _ c₂)), hc₂, ?_, hreversed⟩
      rw [List.append_nil]
      exact hcareful
    | ok result =>
      refine ⟨_, _, c₂, hjoin.bind (hrun.bind (.pure _ c₂)), hc₂, ?_, hreversed⟩
      rw [List.append_nil]
      exact hcareful

theorem careful_asMember (hwork : Does work.run kind) {names : List String}
    (hpublic : ∀ name ∈ names, Role.isPublic name = false) (hc : c.inTransaction = true) :
    ∃ outcome steps c', Leads (asMember roles.user names work).run c outcome steps c' ∧
      Careful kind c.server c.settable steps := by
  obtain ⟨⟨attempt, scope⟩, first, c₁, htry, hc₁, hfirst, hreversed⟩ :=
    careful_tryAsMember hwork hpublic hc
  obtain ⟨released, second, c₂, hundo, hc₂, hsecond⟩ := does_undo hreversed c₁ hc₁
  have hstay : Leads (stayAs roles.user names work) c ⟨roles.user, scope, attempt, released⟩
      (first ++ (second ++ [])) c₂ := htry.bind (hundo.bind (.pure _ c₂))
  rw [List.append_nil] at hstay
  refine ⟨Stay.outcome names ⟨roles.user, scope, attempt, released⟩, _, c₂,
    ⟨?_, hstay.log, hstay.server⟩, hfirst.append hsecond⟩
  rw [← exec_eq, exec_asMember, hstay.exec]

theorem careful_start (hwork : Does work.run kind) (scope : Scope) (hc : c.inTransaction = true) :
    ∃ outcome steps c', Leads (start scope work).run c outcome steps c' ∧
      Careful kind c.server c.settable steps := by
  obtain ⟨outcome, _, c', hrun, -, _, rfl, opening, block, rfl, hopening, hblock⟩ :=
    (hears_start hwork.hears scope).does c hc
  refine ⟨outcome, _, c', hrun, ?_⟩
  rw [List.map_append, ← List.append_nil (_ ++ _)]
  exact .ofQuiet (quiet_map hopening) (.inr ⟨outcome, hblock⟩) (List.forall_mem_nil _)

/-- Questions beforehand make no difference. -/
theorem careful_asks_bind {β : Type} {first : Session (OptionServer roles rules) β}
    {next : β → Session (OptionServer roles rules) α} {settable : Bool} (hasks : Asks first)
    (hc : c.inTransaction = true)
    (hnext : ∀ b c₁, exec first c = (.ok b, c₁) → c₁.inTransaction = true →
      ∃ outcome steps c', Leads (next b).run c₁ outcome steps c' ∧
        Careful kind c₁.server settable steps) :
    ∃ outcome steps c', Leads (first >>= next).run c outcome steps c' ∧
      Careful kind c.server settable steps := by
  obtain ⟨found, asked, c₁, hfirst, hc₁, hasked⟩ := hasks c hc
  have hheeds := (JoinsNone.of_asked hasked (some roles.user)).heeds c.server settable
  cases found with
  | error error => exact ⟨_, asked, c₁, hfirst.bind_error, .ofBefore hheeds⟩
  | ok b =>
    obtain ⟨outcome, steps, c', hrest, hcareful⟩ := hnext b c₁ hfirst.exec hc₁
    exact ⟨outcome, asked ++ steps, c', hfirst.bind_ok hrest,
      hcareful.prepend hfirst.server hheeds⟩

/-- Whatever is refused, and whatever the work is, the user only asks to join roles that are at that
moment no members of it that count. -/
theorem careful_asMemberOf (hwork : Does work.run kind) (names : List (Option String))
    (hc : c.inTransaction = true) :
    ∃ outcome steps c', Leads (asMemberOf names work).run c outcome steps c' ∧
      Careful kind c.server c.settable steps := by
  have hpublic : ∀ name ∈ candidates names, Role.isPublic name = false :=
    fun _ hname => (mem_candidates hname).2
  unfold asMemberOf
  dsimp only
  split
  · exact careful_start hwork _ hc
  · refine careful_asks_bind asks_connectingRole hc fun user c₁ huser hc₁ => ?_
    obtain ⟨rfl, hknown⟩ := OptionServer.of_exec_connectingRole hc huser
    refine careful_asks_bind (asks_lookUpRole roles.user) hc₁ fun found c₂ hlook hc₂ => ?_
    obtain ⟨-, hfound⟩ := OptionServer.of_exec_lookUpRole hc₁ hlook
    -- neither of the two questions moves anything, so what is heeded is still the first server
    rw [← hknown.settable, ← hfound.settable]
    cases found with
    | none => exact careful_asMember hwork hpublic hc₂
    | some identity =>
      dsimp only
      split
      · exact careful_start hwork _ hc₂
      · exact careful_asMember hwork hpublic hc₂

end Work

/-! ## 5. Memberships that say whether the role can be taken on -/

/-- Memberships say whether the role can be taken on, and a new one says that it can. Where the
server can be asked about that, only memberships by which it can count. -/
def settableRules : OptionRules Bool where
  granted _ := true
  counts settable canBeTaken := !settable || canBeTaken

theorem settableRules_counted_eq_false {settable : Bool} {members : Enrolments Bool}
    {role member : String} :
    settableRules.counted settable members role member = false ↔
      members role member = none ∨ (settable = true ∧ members role member = some false) := by
  unfold OptionRules.counted settableRules
  rcases members role member with _ | _ | _ <;> cases settable <;> decide

/-- When the user asks to join a role, that role is at that moment no member of the user; or else
the connection can ask whether roles can be taken on, and it is a member that cannot take the user
on. This is so before any work, and after it the user asks to join none. -/
theorem Session.asMemberOf_asks_for_no_settable_circle {α : Type}
    {work : Session (OptionServer roles settableRules) α} {kind : Except Error α → List Step → Prop}
    (hwork : Does work.run kind) (names : List (Option String))
    {c : Connection (OptionServer roles settableRules)} (hc : c.inTransaction = true) :
    ∃ outcome before block after c',
      Leads (asMemberOf names work).run c outcome (before ++ block ++ after) c' ∧
      (block = [] ∨ ∃ outcome, kind outcome block) ∧
      (∀ earlier step later role, before = earlier ++ step :: later →
        step.command? = some (.grantRole (some role) (some roles.user)) →
          let now := (replay (earlier.map Step.event) c.server).2.members
          now roles.user role = none ∨ (c.settable = true ∧ now roles.user role = some false)) ∧
      JoinsNone (some roles.user) after := by
  obtain ⟨outcome, _, c', hrun, before, block, after, rfl, hblock, hbefore, hafter⟩ :=
    careful_asMemberOf hwork names hc
  refine ⟨outcome, before, block, after, c', hrun, hblock, ?_, hafter⟩
  intro earlier step later role hsplit hcommand
  -- by these rules a membership is not counted when there is none, or when it cannot be taken on
  exact settableRules_counted_eq_false.1 (hbefore earlier step later hsplit role hcommand)

/-- Here `owner` is a member of the connecting role, and can take it on or not. -/
def settableServer (canBeTaken : Bool) : OptionServer plainRoles settableRules where
  members role member := if role = "app" ∧ member = "owner" then some canBeTaken else none
  saved := []
  begun _ _ := none
  refusal? _ := none
  count := 0

/-- The log of handing a schema over to `owner` there. -/
def handOverLog (canBeTaken : Bool) : List Event :=
  (Session.exec (Session.asMemberOf [some "owner"] (Session.performAll schemaHandOver))
    ⟨settableServer canBeTaken, [], true, some ⟨⟨[16]⟩⟩⟩).2.log

/-- A member that can take the user on leaves it before it is joined. -/
theorem Session.owner_leaves_before_it_is_joined :
    some "GRANT \"owner\" TO \"app\"" ∈ (handOverLog true).map Event.text? ∧
      ∃ before block after, handOverLog true = (before ++ block ++ after).map Step.event ∧
        ∀ earlier step later role, before = earlier ++ step :: later →
          step.command? = some (.grantRole (some role) (some "app")) →
            (replay (earlier.map Step.event) (settableServer true)).2.members "app" role ≠
              some true := by
  refine ⟨by decide +kernel, ?_⟩
  obtain ⟨outcome, before, block, after, c', hrun, -, hbefore, -⟩ :=
    asMemberOf_asks_for_no_settable_circle (does_performAll schemaHandOver) [some "owner"]
      (c := ⟨settableServer true, [], true, some ⟨⟨[16]⟩⟩⟩) rfl
  refine ⟨before, block, after, ?_, fun earlier step later role hsplit hcommand hmember => ?_⟩
  · unfold handOverLog
    rw [exec_eq, hrun.exec]
    exact hrun.log
  · rcases hbefore earlier step later role hsplit hcommand with hnone | ⟨-, hcannot⟩
    · cases hmember.symm.trans hnone
    · cases hmember.symm.trans hcannot

/-- One that cannot is still a member of the user when the user asks to join it. -/
theorem Session.owner_is_asked_for_in_a_circle :
    ((handOverLog false).map Event.text?)[6]? = some (some "GRANT \"owner\" TO \"app\"") ∧
      (replay ((handOverLog false).take 6) (settableServer false)).2.members "app" "owner" =
        some false :=
  ⟨by decide +kernel, by decide +kernel⟩

end PgGrants
