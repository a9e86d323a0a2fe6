/-
Admin options of memberships, before and after work as a member of roles. A role that is itself a
member of the user has to leave it for that time, and the membership that is made anew in the end is
one without the admin option, whatever the old one carried. Every other membership is as it was.

This is about runs that succeed. Such a run is taken apart into joining the roles, the work and
undoing; each part ends with memberships that are computed from those it began with, and together
they give back all memberships but the ones made anew. So far nothing depends on what the options
are. On a server with admin options every membership counts, so those that are made and taken back
were not there before.
-/
import PgGrants.Proofs.KeptErrors
import PgGrants.Proofs.OptionServer

set_option autoImplicit false

namespace PgGrants

variable {γ : Type} {roles : Roles} {rules : OptionRules γ}

/-! ## 1. Memberships on the way

What is lent and taken back is a function of the memberships before and of the scope. That it ends
where it began, but for the memberships made anew, is a computation on these functions. -/

namespace Enrolments

/-- The user has joined the roles `granted`, and the roles `reversed` have left it. -/
def joined (members : Enrolments γ) (user : String) (fresh : γ) (granted reversed : List String) :
    Enrolments γ :=
  fun r m =>
    if m = user ∧ r ∈ granted then some fresh
    else if r = user ∧ m ∈ reversed then none
    else members r m

/-- The memberships of the user in these roles are taken back. -/
def handedBack (members : Enrolments γ) (user : String) (names : List String) : Enrolments γ :=
  fun r m => if m = user ∧ r ∈ names then none else members r m

/-- These roles are made members of the user again. -/
def restored (members : Enrolments γ) (user : String) (fresh : γ) (names : List String) :
    Enrolments γ :=
  fun r m => if r = user ∧ m ∈ names then some fresh else members r m

theorem joined_nil (members : Enrolments γ) (user : String) (fresh : γ) :
    members.joined user fresh [] [] = members := by
  funext r m
  simp [joined]

/-- Another role was joined before. -/
theorem joined_insert {user role : String} (hother : role ≠ user) (members : Enrolments γ)
    (fresh : γ) (granted reversed : List String) :
    (members.insert role user fresh).joined user fresh granted reversed =
      members.joined user fresh (role :: granted) reversed := by
  funext r m
  unfold joined insert
  grind

/-- Another role had left before. -/
theorem joined_erase (members : Enrolments γ) (user role : String) (fresh : γ)
    (granted reversed : List String) :
    (members.erase user role).joined user fresh granted reversed =
      members.joined user fresh granted (role :: reversed) := by
  funext r m
  unfold joined erase
  grind

theorem handedBack_nil (members : Enrolments γ) (user : String) :
    members.handedBack user [] = members := by
  funext r m
  simp [handedBack]

theorem handedBack_erase (members : Enrolments γ) (user role : String) (names : List String) :
    (members.erase role user).handedBack user names = members.handedBack user (role :: names) := by
  funext r m
  unfold handedBack erase
  grind

theorem restored_nil (members : Enrolments γ) (user : String) (fresh : γ) :
    members.restored user fresh [] = members := by
  funext r m
  simp [restored]

theorem restored_insert (members : Enrolments γ) (user role : String) (fresh : γ)
    (names : List String) :
    (members.insert user role fresh).restored user fresh names =
      members.restored user fresh (role :: names) := by
  funext r m
  unfold restored insert
  grind

/-- What is left of joining when it is undone: the roles `reversed` are members of the user anew,
and the user is no member of the roles `granted`. -/
def turned (members : Enrolments γ) (user : String) (fresh : γ) (granted reversed : List String) :
    Enrolments γ :=
  fun r m =>
    if r = user ∧ m ∈ reversed then some fresh
    else if m = user ∧ r ∈ granted then none
    else members r m

theorem turned_nil (members : Enrolments γ) (user : String) (fresh : γ) :
    members.turned user fresh [] [] = members := by
  funext r m
  simp [turned]

theorem undone (members : Enrolments γ) (user : String) (fresh : γ)
    (granted reversed : List String) :
    ((members.joined user fresh granted reversed).handedBack user granted.reverse).restored user
        fresh reversed = members.turned user fresh granted reversed := by
  funext r m
  unfold restored handedBack joined turned
  by_cases hback : r = user ∧ m ∈ reversed
  · rw [if_pos hback, if_pos hback]
  · rw [if_neg hback, if_neg hback]
    by_cases htaken : m = user ∧ r ∈ granted
    · rw [if_pos ⟨htaken.1, List.mem_reverse.2 htaken.2⟩, if_neg hback, if_pos htaken]
    · rw [if_neg fun h => htaken ⟨h.1, List.mem_reverse.1 h.2⟩, if_neg htaken, if_neg hback,
        if_neg htaken]

end Enrolments

/-! ## 2. Joining -/

/-- The roles that the user joins. -/
def OptionRules.joins (rules : OptionRules γ) (roles : Roles) (settable : Bool)
    (members : Enrolments γ) (names : List String) : List String :=
  names.filter (rules.mustJoin roles settable members)

/-- Those of them that leave the user first. -/
def OptionRules.leaves (rules : OptionRules γ) (roles : Roles) (settable : Bool)
    (members : Enrolments γ) (names : List String) : List String :=
  (rules.joins roles settable members names).filter (rules.counted settable members roles.user)

/-- The memberships after work as a member of the roles. -/
def OptionRules.after (rules : OptionRules γ) (roles : Roles) (settable : Bool)
    (members : Enrolments γ) (names : List String) : Enrolments γ :=
  members.turned roles.user (rules.granted false) (rules.joins roles settable members names)
    (rules.leaves roles settable members names)

/-- The roles on the list that may have to be joined: a superuser joins none. -/
def Roles.eligible (roles : Roles) (names : List (Option String)) : List String :=
  if (roles.find roles.user).any (·.isSuperuser) then [] else Session.candidates names

theorem OptionRules.joins_congr {settable : Bool} {members members' : Enrolments γ}
    {names : List String} (h : ∀ name ∈ names, members' name roles.user = members name roles.user) :
    rules.joins roles settable members' names = rules.joins roles settable members names := by
  refine List.filter_congr fun name hname => ?_
  unfold OptionRules.mustJoin OptionRules.counted
  rw [h name hname]

theorem OptionRules.leaves_congr {settable : Bool} {members members' : Enrolments γ}
    {names : List String} (h : ∀ name ∈ names, members' name roles.user = members name roles.user)
    (h' : ∀ name ∈ names, members' roles.user name = members roles.user name) :
    rules.leaves roles settable members' names = rules.leaves roles settable members names := by
  unfold OptionRules.leaves
  rw [OptionRules.joins_congr h]
  refine List.filter_congr fun name hname => ?_
  unfold OptionRules.counted
  rw [h' name (List.mem_filter.1 hname).1]

/-- What joining one role does is no matter to the others. -/
theorem Enrolments.joined_apart {members : Enrolments γ} {user role name : String} {fresh : γ}
    {left : Bool} (hother : role ≠ user) (hname : name ≠ role) :
    let moved := (if left then members.erase user role else members).insert role user fresh
    moved name user = members name user ∧ moved user name = members user name := by
  cases left <;> simp [insert, erase, hother.symm, hname]

namespace OptionServer

open Session

variable {c c' : Connection (OptionServer roles rules)}

theorem of_exec_join {names : List String} (hnames : names.Nodup) {given scope : Scope}
    (hc : c.inTransaction = true)
    (h : (join roles.user names given).exec c = ((.ok (), scope), c')) :
    scope.granted =
        given.granted ++ rules.joins roles c.settable c.server.members names ∧
      scope.reversed =
        given.reversed ++ rules.leaves roles c.settable c.server.members names ∧
      Arrives c (c.server.members.joined roles.user (rules.granted false)
        (rules.joins roles c.settable c.server.members names)
        (rules.leaves roles c.settable c.server.members names)) c' := by
  induction names generalizing given c with
  | nil =>
    cases h
    refine ⟨(List.append_nil _).symm, (List.append_nil _).symm, ?_⟩
    show Arrives c' (Enrolments.joined _ _ _ [] []) c'
    rw [Enrolments.joined_nil]
    exact .refl hc
  | cons role rest ih =>
    obtain ⟨hrole, hrest⟩ := List.nodup_cons.1 hnames
    unfold join at h
    rcases hmust : exec (mustJoin roles.user role) c with ⟨error | needed, c₁⟩
    · rw [Talk.exec_bind_of hmust] at h
      cases h
    obtain ⟨hneeded, hfirst⟩ := of_exec_mustJoin hc hmust
    rw [Talk.exec_bind_of hmust] at h
    cases needed with
    | false =>
      obtain ⟨hgranted, hreversed, harrives⟩ := ih hrest hfirst.inTransaction h
      rw [hfirst.settable, hfirst.members] at hgranted hreversed harrives
      have hskip : rules.joins roles c.settable c.server.members (role :: rest) =
          rules.joins roles c.settable c.server.members rest :=
        List.filter_cons_of_neg (Bool.eq_false_iff.1 hneeded.symm)
      unfold OptionRules.leaves at hreversed harrives ⊢
      rw [hskip]
      exact ⟨hgranted, hreversed, hfirst.trans harrives⟩
    | true =>
      obtain ⟨hother, -, -⟩ := OptionRules.mustJoin_iff.1 hneeded.symm
      dsimp only at h
      rcases hleave : exec (leave roles.user role) c₁ with ⟨error | left, c₂⟩
      · rw [Talk.exec_bind_of hleave] at h
        cases h
      obtain ⟨hleft, hsecond⟩ := of_exec_leave hfirst.inTransaction hleave
      rw [Talk.exec_bind_of hleave] at h
      dsimp only at h
      rcases hgrant : exec (grantRole role roles.user) c₂ with ⟨error | _, c₃⟩
      · rw [Talk.exec_bind_of hgrant] at h
        cases h
      have hthird := of_exec_grantRole hsecond.inTransaction hgrant
      rw [Talk.exec_bind_of hgrant] at h
      obtain ⟨hgranted, hreversed, harrives⟩ := ih hrest hthird.inTransaction h
      -- the roles to come are judged as if this one had not been joined yet
      have hjoined := (hfirst.trans hsecond).trans hthird
      rw [hfirst.members, hfirst.settable] at hleft
      rw [hsecond.members, hfirst.members] at hjoined
      rw [hjoined.settable, hjoined.members] at hgranted hreversed harrives
      have hapart : ∀ name ∈ rest, name ≠ role := fun name hname heq => hrole (heq ▸ hname)
      rw [OptionRules.joins_congr fun name hname =>
        (Enrolments.joined_apart hother (hapart name hname)).1] at hgranted harrives
      rw [OptionRules.leaves_congr
        (fun name hname => (Enrolments.joined_apart hother (hapart name hname)).1)
        fun name hname => (Enrolments.joined_apart hother (hapart name hname)).2]
        at hreversed harrives
      have hjoins : rules.joins roles c.settable c.server.members (role :: rest) =
          role :: rules.joins roles c.settable c.server.members rest :=
        List.filter_cons_of_pos hneeded.symm
      unfold OptionRules.leaves at hreversed harrives ⊢
      rw [hjoins]
      cases left with
      | false =>
        rw [List.filter_cons_of_neg (Bool.eq_false_iff.1 hleft.symm)]
        rw [if_neg Bool.false_ne_true, Enrolments.joined_insert hother] at harrives
        refine ⟨hgranted.trans ?_, hreversed, hjoined.trans harrives⟩
        exact List.append_assoc _ _ _
      | true =>
        rw [List.filter_cons_of_pos hleft.symm]
        rw [if_pos rfl, Enrolments.joined_insert hother, Enrolments.joined_erase] at harrives
        refine ⟨hgranted.trans ?_, hreversed.trans ?_, hjoined.trans harrives⟩
        · exact List.append_assoc _ _ _
        · exact List.append_assoc _ _ _

theorem of_exec_joinInSavepoint {names : List String} (hnames : names.Nodup) {scope : Scope}
    (hc : c.inTransaction = true)
    (h : (joinInSavepoint roles.user names).exec c = ((.ok (), scope), c')) :
    scope.granted = rules.joins roles c.settable c.server.members names ∧
      scope.reversed = rules.leaves roles c.settable c.server.members names ∧
      Arrives c (c.server.members.joined roles.user (rules.granted false)
        (rules.joins roles c.settable c.server.members names)
        (rules.leaves roles c.settable c.server.members names)) c' := by
  unfold joinInSavepoint at h
  rcases henter : exec enterSavepoint c with ⟨error | _, c₁⟩
  · rw [Talk.exec_bind_of henter] at h
    cases h
  have hentered := of_exec_enterSavepoint hc henter
  rw [Talk.exec_bind_of henter] at h
  dsimp only at h
  rcases hjoin : (join roles.user names (.ofUser roles.user)).exec c₁ with ⟨⟨joined, given⟩, c₂⟩
  rw [Talk.exec_bind_of hjoin] at h
  dsimp only at h
  rcases hleave : exec (leaveSavepoint joined) c₂ with ⟨outcome, c₃⟩
  rw [Talk.exec_bind_of hleave] at h
  cases h
  -- the run succeeded, so joining did, and the savepoint was released
  obtain ⟨rfl, hrelease⟩ := exec_leaveSavepoint_eq_ok hleave
  obtain ⟨hgranted, hreversed, hjoined⟩ := of_exec_join hnames hentered.inTransaction hjoin
  have hreleased := of_exec_boundary (.inr rfl) hjoined.inTransaction hrelease
  rw [hentered.settable, hentered.members] at hgranted hreversed hjoined
  rw [hjoined.members] at hreleased
  exact ⟨hgranted, hreversed, (hentered.trans hjoined).trans hreleased⟩

/-! ## 3. Undoing -/

theorem of_exec_handBack {names : List String} {u : Unit} (hc : c.inTransaction = true)
    (h : exec (handBack roles.user names) c = (.ok u, c')) :
    Arrives c (c.server.members.handedBack roles.user names) c' := by
  -- the rest is handed back from the memberships that the first REVOKE leaves
  induction names generalizing c with
  | nil =>
    cases h
    rw [Enrolments.handedBack_nil]
    exact .refl hc
  | cons role rest ih =>
    obtain ⟨_, c₁, hrevoke, hrest⟩ := exec_bind_eq_ok h
    have hfirst := of_exec_revokeRole hc hrevoke
    have hsecond := ih hfirst.inTransaction hrest
    rw [hfirst.members, Enrolments.handedBack_erase] at hsecond
    exact hfirst.trans hsecond

/-- Roles that are there become members of the user again. -/
theorem of_exec_restore {names : List String} {u : Unit}
    (hfind : ∀ name ∈ names, (roles.find name).isSome = true) (hc : c.inTransaction = true)
    (h : exec (restore roles.user names) c = (.ok u, c')) :
    Arrives c (c.server.members.restored roles.user (rules.granted false) names) c' := by
  induction names generalizing c with
  | nil =>
    cases h
    rw [Enrolments.restored_nil]
    exact .refl hc
  | cons role rest ih =>
    obtain ⟨hrole, hrest⟩ := List.forall_mem_cons.1 hfind
    obtain ⟨found, c₁, hlook, hgrants⟩ := exec_bind_eq_ok h
    obtain ⟨hfound, hfirst⟩ := of_exec_hasRole hc hlook
    -- a role is granted again only when it is still there, which all of them are
    rw [hfound, hrole, if_pos rfl] at hgrants
    obtain ⟨_, c₂, hgrant, hlast⟩ := exec_bind_eq_ok hgrants
    have hsecond := of_exec_grantRole hfirst.inTransaction hgrant
    have hthird := ih hrest hsecond.inTransaction hlast
    rw [hsecond.members, hfirst.members, Enrolments.restored_insert] at hthird
    exact (hfirst.trans hsecond).trans hthird

theorem of_exec_undo {scope : Scope} {u : Unit}
    (hfind : ∀ name ∈ scope.reversed, (roles.find name).isSome = true)
    (hc : c.inTransaction = true) (h : exec (undo roles.user scope) c = (.ok u, c')) :
    c'.server.members =
      (c.server.members.handedBack roles.user scope.granted.reverse).restored roles.user
        (rules.granted false) scope.reversed := by
  obtain ⟨_, c₁, hback, hrestore⟩ := exec_bind_eq_ok h
  have hfirst := of_exec_handBack hc hback
  have hsecond := of_exec_restore hfind hfirst.inTransaction hrestore
  rw [hsecond.members, hfirst.members]

end OptionServer

/-! ## 4. Work that moves no membership -/

namespace Session

variable {α : Type} {c c' : Connection (OptionServer roles rules)}

/-- Work that succeeds inside a transaction leaves it open, and the memberships as they are. -/
def KeepsEnrolments (work : Session (OptionServer roles rules) α) : Prop :=
  ∀ (c c' : Connection (OptionServer roles rules)) (result : α), c.inTransaction = true →
    exec work c = (.ok result, c') →
      c'.inTransaction = true ∧ c'.server.members = c.server.members

/-- Plans that are about no membership move none. -/
theorem keepsEnrolments_performAll {plan : List Statement}
    (h : ∀ statement ∈ plan, ∀ change, statement ≠ .membership change) :
    KeepsEnrolments (performAll plan : Session (OptionServer roles rules) Unit) := by
  intro c c' u hc hrun
  induction plan generalizing c with
  | nil =>
    cases hrun
    exact ⟨hc, rfl⟩
  | cons statement rest ih =>
    obtain ⟨hstatement, hrest⟩ := List.forall_mem_cons.1 h
    obtain ⟨_, c₁, hperform, hlast⟩ := exec_bind_eq_ok hrun
    have hfirst := OptionServer.of_exec_perform hc hperform
    -- of all statements only those about memberships change any, and the plan has none of them
    have hsame : rules.change (.statement statement) c.server.members = c.server.members := by
      cases statement with
      | membership change => exact absurd rfl (hstatement change)
      | privilege _ => rfl
      | defaultPrivilege _ => rfl
      | schemaOwner _ => rfl
    obtain ⟨hc', hmembers⟩ := ih hrest c₁ hfirst.inTransaction hlast
    exact ⟨hc', hmembers.trans (hfirst.members.trans hsame)⟩

variable {work : Session (OptionServer roles rules) α} (hwork : KeepsEnrolments work)

include hwork

theorem KeepsEnrolments.start (scope : Scope) : KeepsEnrolments (start scope work) := by
  intro c c' result hc hrun
  unfold Session.start at hrun
  rw [exec_bind_ok (exec_record _ c)] at hrun
  exact hwork { c with log := c.log ++ [.started scope] } c' result hc hrun

theorem KeepsEnrolments.savepoint : KeepsEnrolments (savepoint work) := by
  intro c c' result hc hrun
  obtain ⟨_, c₁, henter, hrest⟩ := exec_bind_eq_ok hrun
  have hentered := OptionServer.of_exec_enterSavepoint hc henter
  rw [exec_bind_ok (exec_attempt work c₁)] at hrest
  obtain ⟨hworked, hrelease⟩ := exec_leaveSavepoint_eq_ok hrest
  obtain ⟨hc₂, hmembers⟩ :=
    hwork c₁ _ result hentered.inTransaction (Prod.ext hworked rfl)
  have hreleased := OptionServer.of_exec_boundary (.inr rfl) hc₂ hrelease
  exact ⟨hreleased.inTransaction, hreleased.members.trans (hmembers.trans hentered.members)⟩

/-- After work as a member of roles that succeeds, those that had left the user are its members
again by a new membership, those it had joined no longer have it as a member, and every other
membership is as it was. -/
theorem members_of_exec_asMember {names : List String} (hnames : names.Nodup) {result : α}
    (hc : c.inTransaction = true)
    (h : exec (asMember roles.user names work) c = (.ok result, c')) :
    c'.server.members = rules.after roles c.settable c.server.members names := by
  rcases hjoining : (joinInSavepoint roles.user names).exec c with ⟨⟨joined, scope⟩, c₁⟩
  obtain ⟨worked, c₂, released, c₃, outcome, hattempts, hundo, hrun, hout⟩ :=
    exec_asMember_of_joined hjoining work
  rw [h] at hrun
  cases hrun
  -- a success in the end is one of joining, of the work and of undoing
  obtain ⟨rfl, ⟨_, rfl⟩, rfl⟩ := hout.ok_iff.1 ⟨result, rfl⟩
  cases hattempts with
  | begun hsavepoint =>
    obtain ⟨hgranted, hreversed, hjoined⟩ := OptionServer.of_exec_joinInSavepoint hnames hc hjoining
    obtain ⟨hc₂, hmembers⟩ :=
      (hwork.start scope).savepoint _ _ _ hjoined.inTransaction hsavepoint
    -- what was left was a role to be joined, and such a role was looked up and found
    have hfind : ∀ name ∈ scope.reversed, (roles.find name).isSome = true := by
      intro name hname
      rw [hreversed] at hname
      obtain ⟨hneeded, -⟩ := List.mem_filter.1 hname
      obtain ⟨-, ⟨identity, hfound, -⟩, -⟩ :=
        OptionRules.mustJoin_iff.1 (List.mem_filter.1 hneeded).2
      rw [hfound]
      rfl
    rw [OptionServer.of_exec_undo hfind hc₂ hundo, hmembers, hjoined.members, hgranted, hreversed]
    exact Enrolments.undone _ _ _ _ _

/-- The same of the roles on a list, of which a superuser joins none. -/
theorem members_of_exec_asMemberOf {names : List (Option String)} {result : α}
    (hc : c.inTransaction = true) (h : exec (asMemberOf names work) c = (.ok result, c')) :
    c'.server.members =
      rules.after roles c.settable c.server.members (roles.eligible names) := by
  -- where no role is joined the work is done alone
  have halone : ∀ {scope : Scope} {d : Connection (OptionServer roles rules)},
      roles.eligible names = [] → Arrives c c.server.members d →
      exec (Session.start scope work) d = (.ok result, c') →
      c'.server.members =
        rules.after roles c.settable c.server.members (roles.eligible names) := by
    intro scope d hnone harrives hrun
    obtain ⟨-, hmembers⟩ := hwork.start scope d c' result harrives.inTransaction hrun
    have hafter : rules.after roles c.settable c.server.members [] = c.server.members :=
      Enrolments.turned_nil _ _ _
    rw [hnone, hafter, hmembers, harrives.members]
  unfold asMemberOf at h
  dsimp only at h
  by_cases hempty : (candidates names).isEmpty = true
  · rw [if_pos hempty] at h
    refine halone ?_ (.refl hc) h
    unfold Roles.eligible
    rw [List.isEmpty_iff.1 hempty, ite_self]
  · rw [if_neg hempty] at h
    obtain ⟨user, c₁, huser, hrest⟩ := exec_bind_eq_ok h
    obtain ⟨rfl, hfirst⟩ := OptionServer.of_exec_connectingRole hc huser
    obtain ⟨found, c₂, hlook, hlast⟩ := exec_bind_eq_ok hrest
    obtain ⟨hfound, hsecond⟩ := OptionServer.of_exec_lookUpRole hfirst.inTransaction hlook
    rw [hfirst.members] at hsecond
    have harrives := hfirst.trans hsecond
    by_cases hsuperuser : (roles.find roles.user).any (·.isSuperuser) = true
    · obtain ⟨identity, hidentity, his⟩ := (Option.any_eq_true _ _).1 hsuperuser
      rw [hidentity] at hfound
      subst hfound
      dsimp only at hlast
      rw [if_pos his] at hlast
      exact halone (if_pos hsuperuser) harrives hlast
    · have hmember : exec (asMember roles.user (candidates names) work) c₂ = (.ok result, c') := by
        cases found with
        | none => exact hlast
        | some identity =>
          dsimp only at hlast
          rw [← hfound] at hsuperuser
          rw [if_neg (show ¬identity.isSuperuser = true from hsuperuser)] at hlast
          exact hlast
      rw [members_of_exec_asMember hwork (candidates_nodup names) harrives.inTransaction hmember,
        harrives.settable, harrives.members]
      unfold Roles.eligible
      rw [if_neg hsuperuser]

end Session

/-! ## 5. Memberships with the admin option or without it -/

/-- Memberships carry the admin option or do not, and all of them count. -/
def adminRules : OptionRules Bool where
  granted adminOption := adminOption
  counts _ _ := true

/-- The role is turned round when work is to be done as a member of the roles: a member of the user,
which is no superuser, it has to be joined by it. -/
structure TurnsRound (roles : Roles) (names : List (Option String)) (members : Enrolments Bool)
    (role : String) : Prop where
  modest : ∀ identity, roles.find roles.user = some identity → identity.isSuperuser = false
  listed : role ∈ Session.candidates names
  other : role ≠ roles.user
  there : ∃ identity, roles.find role = some identity ∧ identity.isSuperuser = false
  apart : members role roles.user = none
  within : (members roles.user role).isSome = true

theorem adminRules_counted {settable : Bool} {members : Enrolments Bool} {role member : String} :
    adminRules.counted settable members role member = (members role member).isSome := by
  unfold OptionRules.counted
  cases members role member <;> rfl

theorem Roles.mem_eligible {names : List (Option String)} {name : String} :
    name ∈ roles.eligible names ↔
      (∀ identity, roles.find roles.user = some identity → identity.isSuperuser = false) ∧
        name ∈ Session.candidates names := by
  unfold Roles.eligible
  cases roles.find roles.user with
  | none => simp
  | some identity => cases hsuperuser : identity.isSuperuser <;> simp [hsuperuser]

theorem mem_leaves_adminRules {names : List (Option String)} {members : Enrolments Bool}
    {settable : Bool} {role : String} :
    role ∈ adminRules.leaves roles settable members (roles.eligible names) ↔
      TurnsRound roles names members role := by
  unfold OptionRules.leaves OptionRules.joins
  rw [List.mem_filter, List.mem_filter, Roles.mem_eligible, OptionRules.mustJoin_iff,
    adminRules_counted, adminRules_counted, Option.isSome_eq_false_iff, Option.isNone_iff_eq_none]
  constructor
  · rintro ⟨⟨⟨hmodest, hlisted⟩, hother, hthere, hapart⟩, hwithin⟩
    exact ⟨hmodest, hlisted, hother, hthere, hapart, hwithin⟩
  · rintro ⟨hmodest, hlisted, hother, hthere, hapart, hwithin⟩
    exact ⟨⟨⟨hmodest, hlisted⟩, hother, hthere, hapart⟩, hwithin⟩

/-- After work as a member of roles that succeeds and moves no membership itself, every membership
is as it was before, with its admin option, but those of roles that were turned round: these are
there without it, whether they had it or not. -/
theorem Session.asMemberOf_drops_admin_options_of_turned {α : Type}
    {work : Session (OptionServer roles adminRules) α} (hwork : KeepsEnrolments work)
    {names : List (Option String)} {c c' : Connection (OptionServer roles adminRules)} {result : α}
    (hc : c.inTransaction = true) (h : exec (asMemberOf names work) c = (.ok result, c')) :
    (∀ role, TurnsRound roles names c.server.members role →
      c'.server.members roles.user role = some false) ∧
    ∀ role member, ¬(role = roles.user ∧ TurnsRound roles names c.server.members member) →
      c'.server.members role member = c.server.members role member := by
  have hmembers := members_of_exec_asMemberOf hwork hc h
  refine ⟨fun role hturns => ?_, fun role member hturns => ?_⟩
  · rw [hmembers]
    exact if_pos ⟨rfl, mem_leaves_adminRules.2 hturns⟩
  · rw [hmembers]
    unfold OptionRules.after Enrolments.turned
    rw [if_neg fun h => hturns ⟨h.1, mem_leaves_adminRules.1 h.2⟩]
    by_cases hjoined : member = roles.user ∧
        role ∈ adminRules.joins roles c.settable c.server.members (roles.eligible names)
    · -- the user was no member of a role that it joined
      obtain ⟨-, -, hapart⟩ := OptionRules.mustJoin_iff.1 (List.mem_filter.1 hjoined.2).2
      rw [adminRules_counted, Option.isSome_eq_false_iff, Option.isNone_iff_eq_none] at hapart
      rw [if_pos hjoined, hjoined.1, hapart]
    · rw [if_neg hjoined]

/-- Here `owner` and `clerk` are members of the connecting role, both with the admin option. -/
def adminServer : OptionServer plainRoles adminRules where
  members role member :=
    if role = "app" ∧ (member = "owner" ∨ member = "clerk") then some true else none
  saved := []
  begun _ _ := none
  refusal? _ := none
  count := 0

/-- How handing a schema over to `owner` ends. -/
def handedOver : Except Error Unit × Connection (OptionServer plainRoles adminRules) :=
  Session.exec (Session.asMemberOf [some "owner"] (Session.performAll schemaHandOver))
    ⟨adminServer, [], true, some ⟨⟨[16]⟩⟩⟩

/-- Of the two memberships the one of `owner` is turned round. -/
theorem Session.owner_turns_round :
    handedOver.2.server.members "app" "owner" = some false ∧
      handedOver.2.server.members "app" "clerk" = some true := by
  have hkeeps : KeepsEnrolments (performAll schemaHandOver :
      Session (OptionServer plainRoles adminRules) Unit) :=
    keepsEnrolments_performAll fun _ hstatement _ h => by
      rw [List.mem_singleton.1 hstatement] at h
      cases h
  have hisOk : handedOver.1.isOk = true := by decide +kernel
  rcases hrun : handedOver with ⟨error | u, c'⟩
  · rw [hrun] at hisOk
    cases hisOk
  · unfold handedOver at hrun
    obtain ⟨hturned, hother⟩ := asMemberOf_drops_admin_options_of_turned hkeeps rfl hrun
    have hturns : TurnsRound plainRoles [some "owner"] adminServer.members "owner" := {
      modest := by
        intro identity hfind
        cases hfind
        rfl
      listed := by decide +kernel
      other := by decide +kernel
      there := ⟨_, rfl, rfl⟩
      apart := by decide +kernel
      within := by decide +kernel }
    -- `clerk` is not among the roles that are to be joined, so it is not touched
    have hclerk : "clerk" ∉ candidates [some "owner"] := by decide +kernel
    refine ⟨hturned "owner" hturns, (hother "app" "clerk" fun h => hclerk h.2.listed).trans ?_⟩
    decide +kernel

/-- Before the schema was handed over `owner` had the admin option, and now it does not. -/
theorem Session.owner_loses_admin_option :
    adminServer.members "app" "owner" = some true ∧ handedOver.1.isOk = true ∧
      handedOver.2.server.members "app" "owner" = some false :=
  ⟨by decide +kernel, by decide +kernel, by decide +kernel⟩

end PgGrants
