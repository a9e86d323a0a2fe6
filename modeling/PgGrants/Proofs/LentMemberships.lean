/-
Memberships that are lent, on a server that refuses nothing. Roles are joined one after the other,
and each is judged by the memberships that the roles before it have left. Yet what decides about one
role, its memberships with the connecting role in either direction, is changed by no other role. So
every role of a list can be judged by the memberships before the first one.

That tells which roles are joined and which of them leave the connecting role first, which
memberships there are then, and that undoing leads back to those before.
-/
import PgGrants.Proofs.AcceptingServer

set_option autoImplicit false

namespace PgGrants

open Session

variable {roles : Roles} {α β : Type}

/-! ## 1. Memberships while they are lent

What a membership is while they are lent is a function of what it was and of two lists, the roles
that were joined and those that had to leave. `Undoable` says that the two lists tell apart what has
to be undone. -/

/-- The user has joined the roles `granted`, and the roles `reversed` have left it. -/
def Memberships.lent (now : Memberships) (user : String) (granted reversed : List String) :
    Memberships :=
  fun role member =>
    if member = user ∧ role ∈ granted then true
    else if role = user ∧ member ∈ reversed then false
    else now role member

namespace Memberships

theorem lent_nil (now : Memberships) (user : String) : now.lent user [] [] = now := by
  funext r m
  simp [lent]

/-- The user has joined the role, which has left it if it was its member. -/
def joined (now : Memberships) (user role : String) : Memberships :=
  (if now user role then now.erase user role else now).insert role user

/-- Another role was joined before. -/
theorem lent_joined {user role : String} (hother : role ≠ user) (now : Memberships)
    (granted reversed : List String) :
    (now.joined user role).lent user granted reversed =
      now.lent user (role :: granted) ((if now user role then [role] else []) ++ reversed) := by
  funext r m
  unfold lent joined insert erase
  cases now user role with
  | false => rw [if_neg Bool.false_ne_true, if_neg Bool.false_ne_true]; grind
  | true => rw [if_pos rfl, if_pos rfl]; grind

theorem lent_of_perm {granted granted' reversed reversed' : List String}
    (hgranted : granted.Perm granted') (hreversed : reversed.Perm reversed') (now : Memberships)
    (user : String) : now.lent user granted reversed = now.lent user granted' reversed' := by
  funext r m
  unfold lent
  simp only [hgranted.mem_iff, hreversed.mem_iff]

/-- What is done for one role is no matter to another. -/
theorem joined_apart (now : Memberships) {user role name : String} (hother : role ≠ user)
    (hname : name ≠ role) :
    now.joined user role name user = now name user ∧
      now.joined user role user name = now user name := by
  unfold joined
  split <;> simp [insert, erase, hother.symm, hname]

end Memberships

/-! ## 2. Roles that have to be joined -/

namespace Roles

/-- Whether the user has to join the role, or why that cannot be said. -/
def mustJoin (roles : Roles) (now : Memberships) (role : String) : Except Error Bool :=
  if role = roles.user then .ok false
  else
    match roles.lookUp role with
    | .error error => .error error
    | .ok none => .error (.notFound "role" role)
    | .ok (some identity) =>
      if identity.isSuperuser then .ok false
      else if Sql.hasNul role || Sql.hasNul roles.user then .error nulError
      else .ok !(now role roles.user)

/-- The roles that the user joins. -/
def joins (roles : Roles) (now : Memberships) (names : List String) : List String :=
  names.filter fun name => (roles.mustJoin now name).toOption.getD false

/-- Those of them that leave the user first. -/
def leaves (roles : Roles) (now : Memberships) (names : List String) : List String :=
  (roles.joins now names).filter (now roles.user)

/-- The changes that are made for the roles. -/
def changesFor (roles : Roles) (now : Memberships) (names : List String) : Scope :=
  ⟨roles.user, roles.joins now names, roles.leaves now names⟩

variable {now now' : Memberships}

theorem lookUp_eq_ok {name : String} {found : Option ServerRole}
    (h : roles.lookUp name = .ok found) : found = roles.find name := by
  unfold lookUp at h
  unfold find
  -- PUBLIC is not asked for, and a text with a NUL byte is a fault; the rest is looked up
  by_cases hpublic : Role.isPublic name = true
  · rw [if_pos hpublic] at h ⊢
    exact (Except.ok.inj h).symm
  · rw [if_neg hpublic] at h ⊢
    by_cases hnul : Sql.hasNul name = true
    · rw [if_pos hnul] at h
      cases h
    · rw [if_neg hnul] at h
      exact (Except.ok.inj h).symm

theorem lookUp_eq_error {name : String} {error : Error} (h : roles.lookUp name = .error error) :
    Sql.hasNul name = true := by
  unfold lookUp at h
  by_cases hpublic : Role.isPublic name = true
  · rw [if_pos hpublic] at h
    cases h
  · rw [if_neg hpublic] at h
    by_cases hnul : Sql.hasNul name = true
    · exact hnul
    · rw [if_neg hnul] at h
      cases h

/-- What has to be joined is another role, which is there, can be asked about, and does not have
the user yet. -/
theorem mustJoin_eq_true {role : String} (h : roles.mustJoin now role = .ok true) :
    role ≠ roles.user ∧ (∃ identity, roles.lookUp role = .ok (some identity)) ∧
      now role roles.user = false ∧ Sql.hasNul role = false ∧ Sql.hasNul roles.user = false := by
  unfold mustJoin at h
  by_cases hother : role = roles.user
  · rw [if_pos hother] at h
    cases h
  · rw [if_neg hother] at h
    cases hfound : roles.lookUp role with
    | error fault =>
      rw [hfound] at h
      cases h
    | ok found =>
      rw [hfound] at h
      -- a role that is joined was found, is no superuser's and is not held yet
      cases found with
      | none => cases h
      | some identity =>
        dsimp only at h
        split at h
        · cases h
        · split at h
          · cases h
          · rename_i hnul
            obtain ⟨hrole, huser⟩ := Bool.or_eq_false_iff.1 (Bool.eq_false_iff.2 hnul)
            have hmember : now role roles.user = false := by
              rw [← Bool.not_eq_true']
              exact Except.ok.inj h
            exact ⟨hother, ⟨identity, rfl⟩, hmember, hrole, huser⟩

/-- A role about which nothing can be said is missing, or cannot be asked about. -/
theorem mustJoin_eq_error {role : String} {error : Error}
    (h : roles.mustJoin now role = .error error) :
    error.isNotFound = true ∨ Sql.hasNul role = true ∨ Sql.hasNul roles.user = true := by
  unfold mustJoin at h
  split at h
  · cases h
  -- only a missing role and a NUL byte end the question with an error
  · cases hfound : roles.lookUp role with
    | error fault => exact .inr (.inl (lookUp_eq_error hfound))
    | ok found =>
      rw [hfound] at h
      cases found with
      | none =>
        cases h
        exact .inl rfl
      | some identity =>
        dsimp only at h
        split at h
        · cases h
        · split at h
          · rename_i hnul
            exact .inr (Bool.or_eq_true_iff.1 hnul)
          · cases h

/-- Only the membership of the user in the role itself matters. -/
theorem mustJoin_congr {role : String} (h : now' role roles.user = now role roles.user) :
    roles.mustJoin now' role = roles.mustJoin now role := by
  unfold mustJoin
  rw [h]

theorem joins_congr {names : List String}
    (h : ∀ name ∈ names, now' name roles.user = now name roles.user) :
    roles.joins now' names = roles.joins now names := by
  refine List.filter_congr fun name hname => ?_
  rw [mustJoin_congr (h name hname)]

theorem leaves_congr {names : List String}
    (h : ∀ name ∈ names, now' name roles.user = now name roles.user)
    (h' : ∀ name ∈ names, now' roles.user name = now roles.user name) :
    roles.leaves now' names = roles.leaves now names := by
  unfold leaves
  rw [joins_congr h]
  exact List.filter_congr fun name hname => h' name (List.mem_filter.1 hname).1

section

variable {role : String} (names : List String)

theorem joins_cons_of_false (h : roles.mustJoin now role = .ok false) :
    roles.joins now (role :: names) = roles.joins now names :=
  List.filter_cons_of_neg (by rw [h]; exact Bool.false_ne_true)

theorem joins_cons_of_true (h : roles.mustJoin now role = .ok true) :
    roles.joins now (role :: names) = role :: roles.joins now names :=
  List.filter_cons_of_pos (by rw [h]; rfl)

theorem leaves_cons_of_false (h : roles.mustJoin now role = .ok false) :
    roles.leaves now (role :: names) = roles.leaves now names := by
  unfold leaves
  rw [joins_cons_of_false names h]

theorem leaves_cons_of_true (h : roles.mustJoin now role = .ok true) :
    roles.leaves now (role :: names) =
      (if now roles.user role then [role] else []) ++ roles.leaves now names := by
  unfold leaves
  rw [joins_cons_of_true names h, List.filter_cons]
  split <;> rfl

end

theorem mem_joins {names : List String} {role : String} :
    role ∈ roles.joins now names ↔ role ∈ names ∧ roles.mustJoin now role = .ok true := by
  unfold joins
  rw [List.mem_filter]
  refine and_congr_right fun _ => ?_
  rcases roles.mustJoin now role with error | _ | _ <;> simp [Except.toOption]

theorem joins_of_perm {names names' : List String} (h : names.Perm names') (now : Memberships) :
    (roles.joins now names).Perm (roles.joins now names') := h.filter _

theorem leaves_of_perm {names names' : List String} (h : names.Perm names') (now : Memberships) :
    (roles.leaves now names).Perm (roles.leaves now names') := (joins_of_perm h now).filter _

/-- The changes for the roles can be undone while they are made. -/
theorem undoable_changesFor (roles : Roles) (now : Memberships) (names : List String) :
    Undoable roles now
      (now.lent roles.user (roles.joins now names) (roles.leaves now names))
      (roles.changesFor now names) where
  elsewhere role member hgranted hreversed := by
    unfold Memberships.lent
    rw [if_neg fun h => hgranted h.1 h.2, if_neg fun h => hreversed h.1 h.2]
  -- what was granted was not there before, and what was taken away was
  granted role hrole := (mustJoin_eq_true (mem_joins.1 hrole).2).2.2.1
  reversed role hrole := by
    obtain ⟨hjoined, hmember⟩ := List.mem_filter.1 hrole
    obtain ⟨-, ⟨identity, hfound⟩, -⟩ := mustJoin_eq_true (mem_joins.1 hjoined).2
    rw [← lookUp_eq_ok hfound]
    exact ⟨hmember, rfl⟩

end Roles

/-! ## 3. Joining

Each call is followed on a server that accepts everything. `Yields` names its outcome and the
memberships behind it, and the loops go role by role. -/

section Joining

variable {now : Memberships}

theorem yields_mustJoin (roles : Roles) (now : Memberships) (role : String) :
    Yields (mustJoin roles.user role : Session (RoleServer roles) Bool).run now
      (roles.mustJoin now role) now := by
  unfold mustJoin Roles.mustJoin
  by_cases hsame : role = roles.user
  · rw [if_pos hsame, if_pos (congrArg some hsame)]
    exact .pure _ _
  · rw [if_neg hsame, if_neg fun heq => hsame (Option.some.inj heq)]
    have hlook := yields_lookUpRole roles now role
    -- the role is looked up, then its identity decides, and its membership is asked for last
    rcases hfound : roles.lookUp role with error | _ | identity
    · rw [hfound] at hlook
      exact hlook.bind_error
    · rw [hfound] at hlook
      exact hlook.bind_ok (.pure _ _)
    · rw [hfound] at hlook
      refine hlook.bind_ok ?_
      dsimp only
      by_cases hsuper : identity.isSuperuser = true
      · rw [if_pos hsuper, if_pos hsuper]
        exact .pure _ _
      · rw [if_neg hsuper, if_neg hsuper]
        by_cases hnul : (Sql.hasNul role || Sql.hasNul roles.user) = true
        · rw [if_pos hnul]
          exact (yields_isMember_unwritable hnul).bind_error
        · rw [if_neg hnul]
          obtain ⟨hrole, huser⟩ := Bool.or_eq_false_iff.1 (Bool.eq_false_iff.2 hnul)
          obtain ⟨flag, hflag, hmember⟩ := yields_isMember roles now hrole huser
          rw [← hflag]
          exact hmember.bind_ok (.pure _ _)

theorem yields_leave {role : String} (hrole : Sql.hasNul role = false)
    (huser : Sql.hasNul roles.user = false) :
    Yields (leave roles.user role : Session (RoleServer roles) Bool).run now
      (.ok (now roles.user role))
      (if now roles.user role then now.erase roles.user role else now) := by
  obtain ⟨flag, hflag, hmember⟩ := yields_isMember roles now huser hrole
  unfold leave
  refine hmember.bind_ok ?_
  rw [hflag]
  -- only a membership that is there is revoked
  cases now roles.user role with
  | true => exact (yields_revokeRole roles.user role).bind_ok (.pure _ _)
  | false => exact .pure _ _

/-- The roles of the list are joined as if each of them were the only one; then comes the rest. -/
theorem yields_join_append {names rest : List String} (hnames : names.Nodup)
    (hjudged : ∀ name ∈ names, ∃ needed, roles.mustJoin now name = .ok needed) {given : Scope}
    {result : Except Error Unit × Scope} {now' : Memberships}
    (hrest : Yields (join (σ := RoleServer roles) roles.user rest
        ⟨given.user, given.granted ++ roles.joins now names,
          given.reversed ++ roles.leaves now names⟩)
      (now.lent roles.user (roles.joins now names) (roles.leaves now names)) result now') :
    Yields (join (σ := RoleServer roles) roles.user (names ++ rest) given) now result now' := by
  induction names generalizing given now with
  | nil =>
    have hnone : roles.joins now [] = [] ∧ roles.leaves now [] = [] := ⟨rfl, rfl⟩
    rw [hnone.1, hnone.2, Memberships.lent_nil, List.append_nil, List.append_nil] at hrest
    exact hrest
  | cons role names ih =>
    obtain ⟨hrole, hnames'⟩ := List.nodup_cons.1 hnames
    obtain ⟨⟨needed, hneeded⟩, hjudged'⟩ := List.forall_mem_cons.1 hjudged
    have hfirst := yields_mustJoin roles now role
    rw [hneeded] at hfirst
    rw [List.cons_append]
    unfold join
    refine hfirst.bind ?_
    cases needed with
    | false =>
      rw [Roles.joins_cons_of_false names hneeded,
        Roles.leaves_cons_of_false names hneeded] at hrest
      exact ih hnames' hjudged' hrest
    | true =>
      obtain ⟨hother, -, -, hnul, huser⟩ := Roles.mustJoin_eq_true hneeded
      refine (yields_leave hnul huser).bind ?_
      refine (yields_grantRole role roles.user).bind ?_
      -- the roles to come are judged as if this one had not been joined yet
      have hsame : ∀ name ∈ names,
          now.joined roles.user role name roles.user = now name roles.user ∧
            now.joined roles.user role roles.user name = now roles.user name :=
        fun name hname => Memberships.joined_apart now hother fun heq => hrole (heq ▸ hname)
      have hjoins := Roles.joins_congr fun name hname => (hsame name hname).1
      have hleaves := Roles.leaves_congr (fun name hname => (hsame name hname).1)
        fun name hname => (hsame name hname).2
      refine @ih (now.joined roles.user role) hnames' (fun name hname => ?_) _ ?_
      · rw [Roles.mustJoin_congr (hsame name hname).1]
        exact hjudged' name hname
      · rw [Roles.joins_cons_of_true names hneeded,
          Roles.leaves_cons_of_true names hneeded] at hrest
        rw [hjoins, hleaves, Memberships.lent_joined hother]
        cases hleft : now roles.user role <;> simpa [hleft] using hrest

/-- A savepoint that is left with a failure gives up the memberships that were changed in it. -/
theorem yields_joinInSavepoint {names : List String} {joined : Except Error Unit} {scope : Scope}
    {now' : Memberships}
    (h : Yields (join (σ := RoleServer roles) roles.user names (.ofUser roles.user)) now
      (joined, scope) now') :
    Yields (joinInSavepoint (σ := RoleServer roles) roles.user names) now (joined, scope)
      (.kept joined now' now) := by
  intro c hc haccepts hmembers
  have henter := leads_enterSavepoint hc haccepts
  obtain ⟨steps, c₂, hrun, hsteady, hmembers', hsteps⟩ :=
    h _ (by exact hc) (henter.accepts haccepts) hmembers
  -- the savepoint keeps the memberships of its beginning for a possible way back
  have hsaved : c₂.server.saved = c.server.members :: c.server.saved := hsteady.saved
  obtain ⟨steps', c₃, hleave, hc₃, hbegun, hsaved', hlast, hsteps'⟩ :=
    leads_leaveSavepoint joined hsteady.inTransaction (hrun.accepts (henter.accepts haccepts))
      hsaved
  have hall : Leads (joinInSavepoint (σ := RoleServer roles) roles.user names) c (joined, scope)
      ([⟨.boundary .savepoint, none⟩] ++ (steps ++ (steps' ++ []))) c₃ := by
    unfold joinInSavepoint
    refine henter.bind (hrun.bind ?_)
    exact hleave.bind (.pure (joined, scope) c₃)
  refine ⟨_, c₃, hall, ⟨hc₃, hsaved', hbegun.trans hsteady.begun⟩, ?_, ?_⟩
  · rw [hlast, hmembers', hmembers]
  · refine Unstarted.append (List.forall_mem_singleton.2 rfl) (hsteps.append ?_)
    exact hsteps'.append .nil

end Joining

/-! ## 4. Undoing -/

section Undoing

variable {now : Memberships}

theorem yields_handBack (names : List String) :
    Yields (handBack (σ := RoleServer roles) roles.user names).run now (.ok ())
      (now.handedBack roles.user names) := by
  induction names generalizing now with
  | nil =>
    rw [Memberships.handedBack_nil]
    exact .pure _ _
  | cons role rest ih =>
    rw [← Memberships.handedBack_erase]
    exact (yields_revokeRole role roles.user).bind_ok ih

/-- Roles that are found become members of the user again. -/
theorem yields_restore {names : List String}
    (hfound : ∀ name ∈ names, ∃ identity, roles.lookUp name = .ok (some identity)) :
    Yields (restore (σ := RoleServer roles) roles.user names).run now (.ok ())
      (now.restored roles.user names) := by
  -- role by role, each on the memberships that the ones before it have left
  induction names generalizing now with
  | nil =>
    rw [Memberships.restored_nil]
    exact .pure _ _
  | cons role rest ih =>
    obtain ⟨⟨identity, hrole⟩, hrest⟩ := List.forall_mem_cons.1 hfound
    have hlook := yields_lookUpRole roles now role
    rw [hrole] at hlook
    have hthere : Yields (hasRole role : Session (RoleServer roles) Bool).run now (.ok true) now :=
      hlook.bind_ok (.pure _ _)
    rw [← Memberships.restored_insert]
    exact hthere.bind_ok ((yields_grantRole roles.user role).bind_ok (ih hrest))

/-- The changes for the roles are undone, also when a savepoint has given them up already. -/
theorem yields_undo {before : Memberships} {names : List String}
    (h : Undoable roles before now (roles.changesFor before names)) :
    Yields (undo (σ := RoleServer roles) roles.user (roles.changesFor before names)).run now
      (.ok ()) before := by
  -- who had to leave was looked up when it was joined, so it is found once more
  have hfound : ∀ name ∈ roles.leaves before names,
      ∃ identity, roles.lookUp name = .ok (some identity) := by
    intro name hname
    obtain ⟨hjoined, -⟩ := List.mem_filter.1 hname
    exact (Roles.mustJoin_eq_true (Roles.mem_joins.1 hjoined).2).2.1
  have hrun : Yields (undo (σ := RoleServer roles) roles.user (roles.changesFor before names)).run
      now (.ok ()) _ :=
    (yields_handBack _).bind_ok (yields_restore hfound)
  rw [h.undone] at hrun
  exact hrun

/-- So a failure is all that is left of work that failed. -/
theorem yields_undoAfter {before : Memberships} {names : List String} {error raised : Error}
    (h : Undoable roles before now (roles.changesFor before names)) :
    Yields (do undoAfter roles.user (roles.changesFor before names) error; throw raised :
      Session (RoleServer roles) α).run now (.error raised) before := by
  have hundone : Yields (undoAfter (σ := RoleServer roles) roles.user
      (roles.changesFor before names) error).run now (.ok ()) before :=
    (yields_undo h).attempt.bind_ok (.pure _ _)
  exact hundone.bind_ok (.pure _ _)

end Undoing

end PgGrants
