/-
The order in which roles are listed. On a server that refuses nothing it decides neither whether
work as a member of the roles is started nor with which memberships: the roles are judged each by
the memberships before the work, and the names that are judged are the same in every order.

If some role of the list is missing, no order starts the work, and each order complains about a role
that does not exist, unless there is a name that cannot be put into a question at all. In any case
the memberships afterwards are those before.
-/
import PgGrants.Proofs.AdminOptions
import PgGrants.Proofs.LentMemberships

set_option autoImplicit false

namespace PgGrants

open Session

variable {roles : Roles} {α : Type}

/-! ## 1. Work as a member of the roles

Either every role on the list can be judged, and the work runs with the memberships that all of them
lend, or the first one that cannot ends the run and nothing has changed. -/

section Members

variable {work : Session (RoleServer roles) α} (hwork : LeavesMemberships work)
  (hdoes : Does work.run fun _ _ => True)

include hwork hdoes

/-- When every role of the list can be judged, the work is started as a member of those that have
to be joined. -/
theorem starts_asMember {names : List String} (hnames : names.Nodup) {now : Memberships}
    (hjudged : ∀ name ∈ names, ∃ needed, roles.mustJoin now name = .ok needed) :
    Starts (asMember roles.user names work).run now (roles.changesFor now names)
      (now.lent roles.user (roles.joins now names) (roles.leaves now names)) now := by
  have hjoin : Yields (join (σ := RoleServer roles) roles.user (names ++ []) (.ofUser roles.user))
      now (.ok (), roles.changesFor now names) _ := yields_join_append hnames hjudged (.pure _ _)
  rw [List.append_nil] at hjoin
  have hundo := Roles.undoable_changesFor roles now names
  unfold asMember
  refine .after_ok (yields_joinInSavepoint hjoin).lift ?_
  -- the work may fail, and then too everything lent is handed back
  refine .attempt_bind (starts_savepoint hwork hdoes _ _) fun tried => ?_
  cases tried with
  | error error => exact (yields_undoAfter hundo).settles
  | ok result =>
    exact Yields.settles (b := Except.ok result) ((yields_undo hundo).attempt.bind_ok (.pure _ _))

end Members

/-- Where not every judgement is made, there is a first one that is not. -/
theorem exists_first_error {judge : String → Except Error Bool} {names : List String}
    (h : ¬ ∀ name ∈ names, ∃ needed, judge name = .ok needed) :
    ∃ judged role rest error, names = judged ++ role :: rest ∧
      (∀ name ∈ judged, ∃ needed, judge name = .ok needed) ∧ judge role = .error error := by
  induction names with
  | nil => exact absurd (List.forall_mem_nil _) h
  | cons first names ih =>
    -- the first name that cannot be judged, after the ones that can
    cases hfirst : judge first with
    | error error => exact ⟨[], first, names, error, rfl, List.forall_mem_nil _, hfirst⟩
    | ok needed =>
      have hlater : ¬ ∀ name ∈ names, ∃ needed, judge name = .ok needed :=
        fun hall => h (List.forall_mem_cons.2 ⟨⟨needed, hfirst⟩, hall⟩)
      obtain ⟨judged, role, rest, error, rfl, hjudged, hrole⟩ := ih hlater
      exact ⟨first :: judged, role, rest, error, rfl,
        List.forall_mem_cons.2 ⟨⟨needed, hfirst⟩, hjudged⟩, hrole⟩

/-- The first role of the list that cannot be judged ends the attempt. -/
theorem yields_asMember (work : Session (RoleServer roles) α) {names : List String}
    (hnames : names.Nodup) {now : Memberships}
    (h : ¬ ∀ name ∈ names, ∃ needed, roles.mustJoin now name = .ok needed) :
    ∃ error, Yields (asMember roles.user names work).run now (.error error) now ∧
      (error.isNotFound = true ∨ Sql.hasNul roles.user = true ∨
        ∃ name ∈ names, Sql.hasNul name = true) := by
  obtain ⟨judged, role, rest, error, rfl, hjudged, hrole⟩ := exists_first_error h
  obtain ⟨hjudgedNodup, -, hapart⟩ := List.nodup_append.1 hnames
  have hother : role ≠ roles.user := by
    rintro rfl
    unfold Roles.mustJoin at hrole
    rw [if_pos rfl] at hrole
    cases hrole
  -- the roles before it have not changed what decides about this one
  have hsame : now.lent roles.user (roles.joins now judged) (roles.leaves now judged) role
      roles.user = now role roles.user := by
    unfold Memberships.lent
    rw [if_neg fun hmem => hapart role (Roles.mem_joins.1 hmem.2).1 role List.mem_cons_self rfl,
      if_neg fun hmem => hother hmem.1]
  have hmust := yields_mustJoin roles
    (now.lent roles.user (roles.joins now judged) (roles.leaves now judged)) role
  rw [Roles.mustJoin_congr hsame, hrole] at hmust
  have hjoin : Yields (join (σ := RoleServer roles) roles.user (judged ++ role :: rest)
      (.ofUser roles.user)) now (.error error, roles.changesFor now judged) _ :=
    yields_join_append hjudgedNodup hjudged (hmust.bind (.pure _ _))
  have hundo := (Roles.undoable_changesFor roles now judged).rolledBack
  have hraised : Yields (asMember roles.user (judged ++ role :: rest) work).run now
      (.error (if error.isNotFound then error
        else .notJoined (judged ++ role :: rest) roles.user error)) now := by
    unfold asMember
    exact (yields_joinInSavepoint hjoin).lift.bind_ok (yields_undoAfter hundo)
  refine ⟨_, hraised, ?_⟩
  rcases Roles.mustJoin_eq_error hrole with hmissing | hnul | hnul
  · rw [if_pos hmissing]
    exact .inl hmissing
  · exact .inr (.inr ⟨role, List.mem_append_right _ List.mem_cons_self, hnul⟩)
  · exact .inr (.inl hnul)

/-! ## 2. Roles on a list

What is lent depends on which names are on the list and not on their order, and so does whether it
can be lent at all. The error that is told is that of the first bad name. -/

namespace Roles

/-- Some name cannot be put into a question: it holds a null character. -/
def Unaskable (roles : Roles) (names : List (Option String)) : Prop :=
  Sql.hasNul roles.user = true ∨ ∃ name, some name ∈ names ∧ Sql.hasNul name = true

/-- Of every role that may have to be joined it can be said whether it has to. -/
def Judges (roles : Roles) (now : Memberships) (names : List (Option String)) : Prop :=
  candidates names ≠ [] → (∃ found, roles.lookUp roles.user = .ok found) ∧
    ∀ name ∈ roles.eligible names, ∃ needed, roles.mustJoin now name = .ok needed

theorem candidates_of_perm {names names' : List (Option String)} (h : names.Perm names') :
    (candidates names).Perm (candidates names') := by
  rw [List.perm_ext_iff_of_nodup (candidates_nodup names) (candidates_nodup names')]
  intro name
  rw [mem_candidates_iff, mem_candidates_iff, h.mem_iff]

theorem eligible_of_perm {names names' : List (Option String)} (h : names.Perm names') :
    (roles.eligible names).Perm (roles.eligible names') := by
  unfold eligible
  split
  · exact .refl []
  · exact candidates_of_perm h

theorem judges_of_perm {now : Memberships} {names names' : List (Option String)}
    (h : names.Perm names') (hjudges : roles.Judges now names) : roles.Judges now names' := by
  intro hsome
  have hsome' : candidates names ≠ [] := fun hnone =>
    hsome ((hnone ▸ candidates_of_perm h).nil_eq).symm
  obtain ⟨hfound, hall⟩ := hjudges hsome'
  exact ⟨hfound, fun name hname => hall name ((eligible_of_perm h).mem_iff.2 hname)⟩

end Roles

section Lists

variable {work : Session (RoleServer roles) α} {now : Memberships}
  {names : List (Option String)}

/-- The work is started as a member of the roles that have to be joined. -/
theorem starts_asMemberOf (hwork : LeavesMemberships work)
    (hdoes : Does work.run fun _ _ => True) (h : roles.Judges now names) :
    ∃ scope, scope.granted = roles.joins now (roles.eligible names) ∧
      scope.reversed = roles.leaves now (roles.eligible names) ∧
      Starts (asMemberOf names work).run now scope
        (now.lent roles.user scope.granted scope.reversed) now := by
  -- where no role is eligible the work is done alone
  have halone : ∀ user, roles.eligible names = [] →
      (Scope.ofUser user).granted = roles.joins now (roles.eligible names) ∧
      (Scope.ofUser user).reversed = roles.leaves now (roles.eligible names) ∧
      Starts (start (.ofUser user) work).run now (.ofUser user)
        (now.lent roles.user (Scope.ofUser user).granted (Scope.ofUser user).reversed) now := by
    intro user hnone
    rw [hnone]
    refine ⟨rfl, rfl, ?_⟩
    have hlent : now.lent roles.user (Scope.ofUser user).granted (Scope.ofUser user).reversed =
        now := Memberships.lent_nil _ _
    rw [hlent]
    exact starts_start hwork hdoes _ now
  unfold asMemberOf
  dsimp only
  by_cases hempty : (candidates names).isEmpty = true
  · rw [if_pos hempty]
    refine ⟨.untouched, halone none ?_⟩
    unfold Roles.eligible
    rw [List.isEmpty_iff.1 hempty, ite_self]
  · rw [if_neg hempty]
    obtain ⟨⟨found, hfound⟩, hall⟩ := h fun hnone => hempty (List.isEmpty_iff.2 hnone)
    have hlook := yields_lookUpRole roles now roles.user
    rw [hfound] at hlook
    have hidentity := Roles.lookUp_eq_ok hfound
    by_cases hsuperuser : (roles.find roles.user).any (·.isSuperuser) = true
    · obtain ⟨identity, hsome, his⟩ := (Option.any_eq_true _ _).1 hsuperuser
      obtain ⟨hgranted, hreversed, hstarts⟩ := halone roles.user (if_pos hsuperuser)
      refine ⟨.ofUser roles.user, hgranted, hreversed, ?_⟩
      refine .after_ok yields_connectingRole (.after_ok hlook ?_)
      rw [hidentity, hsome]
      dsimp only
      rw [if_pos his]
      exact hstarts
    · have heligible : roles.eligible names = candidates names := if_neg hsuperuser
      rw [heligible] at hall ⊢
      have hstarts := starts_asMember hwork hdoes (candidates_nodup names) hall
      refine ⟨roles.changesFor now (candidates names), rfl, rfl, ?_⟩
      refine .after_ok yields_connectingRole (.after_ok hlook ?_)
      cases found with
      | none => exact hstarts
      | some identity =>
        rw [← hidentity] at hsuperuser
        dsimp only
        rw [if_neg (show ¬identity.isSuperuser = true from hsuperuser)]
        exact hstarts

/-- The work is not started, because a role is missing or cannot be asked about. -/
theorem yields_asMemberOf (work : Session (RoleServer roles) α) (h : ¬ roles.Judges now names) :
    ∃ error, Yields (asMemberOf names work).run now (.error error) now ∧
      (error.isNotFound = true ∨ roles.Unaskable names) := by
  obtain ⟨hsome, hjudges⟩ := Classical.not_imp.1 h
  unfold asMemberOf
  dsimp only
  rw [if_neg fun hempty => hsome (List.isEmpty_iff.1 hempty)]
  have hlook := yields_lookUpRole roles now roles.user
  cases hfound : roles.lookUp roles.user with
  | error error =>
    rw [hfound] at hlook
    exact ⟨error, yields_connectingRole.bind_ok hlook.bind_error,
      .inr (.inl (Roles.lookUp_eq_error hfound))⟩
  | ok found =>
    rw [hfound] at hlook
    have hall : ¬ ∀ name ∈ roles.eligible names, ∃ needed, roles.mustJoin now name = .ok needed :=
      fun hall => hjudges ⟨⟨found, hfound⟩, hall⟩
    -- a superuser has no roles to join, and a list without names is judged
    have hsuperuser : ¬ (roles.find roles.user).any (·.isSuperuser) = true := by
      intro hsuperuser
      unfold Roles.eligible at hall
      rw [if_pos hsuperuser] at hall
      exact hall (List.forall_mem_nil _)
    unfold Roles.eligible at hall
    rw [if_neg hsuperuser] at hall
    obtain ⟨error, hrun, hcause⟩ := yields_asMember work (candidates_nodup names) hall
    refine ⟨error, yields_connectingRole.bind_ok (hlook.bind_ok ?_), ?_⟩
    · rw [← Roles.lookUp_eq_ok hfound] at hsuperuser
      cases found with
      | none => exact hrun
      | some identity =>
        dsimp only
        rw [if_neg (show ¬identity.isSuperuser = true from hsuperuser)]
        exact hrun
    · rcases hcause with hmissing | huser | ⟨name, hname, hnul⟩
      · exact .inl hmissing
      · exact .inr (.inl huser)
      · exact .inr (.inr ⟨name, (mem_candidates_iff.1 hname).1, hnul⟩)

end Lists

/-! ## 3. Whatever the order -/

/-- Between the two connections no work was started. -/
def Connection.NoneStarted (c c' : Connection (RoleServer roles)) : Prop :=
  ∃ events, c'.log = c.log ++ events ∧ ∀ event ∈ events, event.scope? = none

/-- Between the two connections work was started, first with this scope while the server had these
memberships. -/
def Connection.FirstStarted (c c' : Connection (RoleServer roles)) (scope : Scope)
    (members : Memberships) : Prop :=
  ∃ before after, c'.log = c.log ++ before ++ .started scope :: after ∧
    (∀ event ∈ before, event.scope? = none) ∧ (replay before c.server).2.members = members

section Runs

variable {work : Session (RoleServer roles) α} {c c' : Connection (RoleServer roles)}
  {now members : Memberships} {scope : Scope} {outcome : Except Error α} {error : Error}

theorem Yields.ends (h : Yields work.run now (.error error) now) (hc : c.inTransaction = true)
    (haccepts : c.server.Accepts) (hmembers : c.server.members = now)
    (hrun : exec work c = (outcome, c')) :
    outcome = .error error ∧ c.NoneStarted c' ∧ c'.server.members = now := by
  obtain ⟨steps, c'', hleads, -, hmembers', hsteps⟩ := h c hc haccepts hmembers
  obtain ⟨rfl, rfl⟩ := Prod.mk.inj (hleads.exec.symm.trans hrun)
  exact ⟨rfl, ⟨steps.map Step.event, hleads.log, List.forall_mem_map.2 hsteps⟩, hmembers'⟩

theorem Starts.ends (h : Starts work.run now scope members now) (hc : c.inTransaction = true)
    (haccepts : c.server.Accepts) (hmembers : c.server.members = now)
    (hrun : exec work c = (outcome, c')) :
    c.FirstStarted c' scope members ∧ c'.server.members = now := by
  obtain ⟨before, after, b, c'', hleads, hbefore, hstarted, -, hmembers'⟩ :=
    h c hc haccepts hmembers
  obtain ⟨rfl, rfl⟩ := Prod.mk.inj (hleads.exec.symm.trans hrun)
  refine ⟨⟨before.map Step.event, after.map Step.event, ?_, List.forall_mem_map.2 hbefore,
    hstarted⟩, hmembers'⟩
  rw [hleads.log, List.map_append, List.map_cons, List.append_assoc]

end Runs

/-- Two runs of the same work as a member of the same roles, listed in any two orders, leave the
memberships as they were, and either neither starts the work or both start it with the same
memberships, the same roles joined and the same roles made to leave. Where it is not started a role
is missing, unless some name cannot be asked about at all. -/
theorem order_of_roles_is_immaterial {work : Session (RoleServer roles) α}
    (hwork : LeavesMemberships work) (hdoes : Does work.run fun _ _ => True)
    {names names' : List (Option String)} (hperm : names.Perm names')
    {c c₁ c₂ : Connection (RoleServer roles)} {outcome outcome' : Except Error α}
    (hc : c.inTransaction = true) (haccepts : c.server.Accepts)
    (hrun : exec (asMemberOf names work) c = (outcome, c₁))
    (hrun' : exec (asMemberOf names' work) c = (outcome', c₂)) :
    c₁.server.members = c.server.members ∧ c₂.server.members = c.server.members ∧
      ((∃ error error', outcome = .error error ∧ outcome' = .error error' ∧
          c.NoneStarted c₁ ∧ c.NoneStarted c₂ ∧
          (error.isNotFound = true ∧ error'.isNotFound = true ∨ roles.Unaskable names)) ∨
        ∃ scope scope' members, c.FirstStarted c₁ scope members ∧
          c.FirstStarted c₂ scope' members ∧ scope.granted.Perm scope'.granted ∧
          scope.reversed.Perm scope'.reversed) := by
  by_cases hjudges : roles.Judges c.server.members names
  · obtain ⟨scope, hgranted, hreversed, hstarts⟩ := starts_asMemberOf hwork hdoes hjudges
    obtain ⟨scope', hgranted', hreversed', hstarts'⟩ :=
      starts_asMemberOf hwork hdoes (Roles.judges_of_perm hperm hjudges)
    have hsame : scope.granted.Perm scope'.granted := by
      rw [hgranted, hgranted']
      exact Roles.joins_of_perm (Roles.eligible_of_perm hperm) _
    have hsame' : scope.reversed.Perm scope'.reversed := by
      rw [hreversed, hreversed']
      exact Roles.leaves_of_perm (Roles.eligible_of_perm hperm) _
    obtain ⟨hfirst, hmembers⟩ := hstarts.ends hc haccepts rfl hrun
    obtain ⟨hfirst', hmembers'⟩ := hstarts'.ends hc haccepts rfl hrun'
    rw [← Memberships.lent_of_perm hsame hsame'] at hfirst'
    exact ⟨hmembers, hmembers', .inr ⟨scope, scope', _, hfirst, hfirst', hsame, hsame'⟩⟩
  · have hjudges' : ¬ roles.Judges c.server.members names' :=
      fun h => hjudges (Roles.judges_of_perm hperm.symm h)
    obtain ⟨error, hyields, hcause⟩ := yields_asMemberOf work hjudges
    obtain ⟨error', hyields', hcause'⟩ := yields_asMemberOf work hjudges'
    obtain ⟨houtcome, hnone, hmembers⟩ := hyields.ends hc haccepts rfl hrun
    obtain ⟨houtcome', hnone', hmembers'⟩ := hyields'.ends hc haccepts rfl hrun'
    refine ⟨hmembers, hmembers', .inl ⟨error, error', houtcome, houtcome', hnone, hnone', ?_⟩⟩
    -- which names are on the list does not depend on the order either
    rcases hcause with hmissing | hnul
    · rcases hcause' with hmissing' | huser | ⟨name, hname, hnul⟩
      · exact .inl ⟨hmissing, hmissing'⟩
      · exact .inr (.inl huser)
      · exact .inr (.inr ⟨name, hperm.mem_iff.2 hname, hnul⟩)
    · exact .inr hnul

/-- Nothing is refused, and the role `owner` is itself a member of the connecting role. -/
def willingConnection : Connection (RoleServer plainRoles) where
  server := ⟨fun role member => role == "app" && member == "owner", [], fun _ _ => false,
    fun _ => none, 0⟩
  log := []
  inTransaction := true
  capabilities := none

/-- A schema is handed over as a member of the owners. -/
def handOverAs (owners : List (Option String)) : Session (RoleServer plainRoles) Unit :=
  asMemberOf owners (performAll schemaHandOver)

theorem order_of_two_owners :
    (exec (handOverAs [some "owner", none, some "auditor", some "owner"])
        willingConnection).2.server.members = willingConnection.server.members ∧
      (exec (handOverAs [some "auditor", some "owner", some "owner", none])
        willingConnection).2.server.members = willingConnection.server.members := by
  -- handing over a schema changes no membership
  have hplan : ∀ statement ∈ schemaHandOver, ∀ change, statement ≠ .membership change := by
    intro statement hstatement change heq
    rw [List.mem_singleton.1 hstatement] at heq
    cases heq
  have hdoes : Does (performAll schemaHandOver : Session (RoleServer plainRoles) Unit).run
      fun _ _ => True := (does_performAll _).mono fun _ _ _ => trivial
  have hperm : [some "owner", none, some "auditor", some "owner"].Perm
      [some "auditor", some "owner", some "owner", none] := by decide
  unfold handOverAs
  rcases hrun : exec (asMemberOf [some "owner", none, some "auditor", some "owner"]
    (performAll schemaHandOver)) willingConnection with ⟨outcome, c₁⟩
  rcases hrun' : exec (asMemberOf [some "auditor", some "owner", some "owner", none]
    (performAll schemaHandOver)) willingConnection with ⟨outcome', c₂⟩
  obtain ⟨hmembers, hmembers', -⟩ := order_of_roles_is_immaterial
    (leavesMemberships_performAll hplan) hdoes hperm rfl (fun _ => rfl) hrun hrun'
  exact ⟨hmembers, hmembers'⟩

example : (exec (handOverAs [some "auditor", some "owner", some "owner", none])
    willingConnection).2.log.filterMap Event.scope? =
      [⟨some "app", ["auditor", "owner"], ["owner"]⟩] := by decide +kernel

end PgGrants
