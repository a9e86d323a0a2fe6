/-
Memberships are restored. While work runs as a member of roles, the memberships differ from those
before it only where the scope says so; the scope may say more than is true, because a savepoint has
brought the old memberships back behind it. Undoing is right in either case: to take back a
membership that is not there, or to restore one that is, changes nothing.

So the memberships after the work are those before it, however it ends, unless undoing itself is
refused. Then there is an error, and the transaction around the work is rolled back.
-/
import PgGrants.Proofs.RoleServer
import PgGrants.Proofs.Stay
import PgGrants.Proofs.Transaction

set_option autoImplicit false

namespace PgGrants

/-! ## What can be undone

The invariant of the whole argument. `Undoable` compares the memberships before with those now and
need not be exact about what happened in between; each step of joining preserves it, and so does a
rollback to the savepoint. Undoing is right from it alone. -/

/-- Undoing the changes of the scope leads back to the memberships before: elsewhere nothing is
different, none of the memberships granted was there before, and every one reversed was. -/
structure Undoable (roles : Roles) (before now : Memberships) (scope : Scope) : Prop where
  elsewhere : ∀ role member, (member = roles.user → role ∉ scope.granted) →
    (role = roles.user → member ∉ scope.reversed) → now role member = before role member
  granted : ∀ role ∈ scope.granted, before role roles.user = false
  reversed : ∀ role ∈ scope.reversed,
    before roles.user role = true ∧ (roles.find role).isSome = true

/-- The memberships when those of the user in these roles were taken back. -/
def Memberships.handedBack (now : Memberships) (user : String) (names : List String) :
    Memberships :=
  fun role member => if member = user ∧ role ∈ names then false else now role member

/-- The memberships when these roles are members of the user again. -/
def Memberships.restored (now : Memberships) (user : String) (names : List String) :
    Memberships :=
  fun role member => if role = user ∧ member ∈ names then true else now role member

namespace Memberships

theorem handedBack_nil (now : Memberships) (user : String) : now.handedBack user [] = now := by
  funext r m
  simp [handedBack]

theorem handedBack_erase (now : Memberships) (user role : String) (names : List String) :
    (now.erase role user).handedBack user names = now.handedBack user (role :: names) := by
  funext r m
  unfold handedBack erase
  by_cases hr : r = role <;> by_cases hm : m = user <;> simp [hr, hm]

theorem restored_nil (now : Memberships) (user : String) : now.restored user [] = now := by
  funext r m
  simp [restored]

theorem restored_insert (now : Memberships) (user role : String) (names : List String) :
    (now.insert user role).restored user names = now.restored user (role :: names) := by
  funext r m
  unfold restored insert
  by_cases hr : r = user <;> by_cases hm : m = role <;> simp [hr, hm]

end Memberships

namespace Undoable

variable {roles : Roles} {before now : Memberships} {scope : Scope}

/-- Nothing has changed yet. -/
theorem refl (roles : Roles) (before : Memberships) (user : Option String) :
    Undoable roles before before (.ofUser user) :=
  ⟨fun _ _ _ _ => rfl, fun _ h => absurd h List.not_mem_nil, fun _ h => absurd h List.not_mem_nil⟩

/-- What can be undone can still be undone when the old memberships are back already. -/
theorem rolledBack (h : Undoable roles before now scope) :
    Undoable roles before before scope :=
  ⟨fun _ _ _ _ => rfl, h.granted, h.reversed⟩

/-- Another role leaves the user. -/
theorem reverse {role : String} (h : Undoable roles before now scope) (hne : role ≠ roles.user)
    (hnew : role ∉ scope.reversed) (hmember : now roles.user role = true)
    (hfind : (roles.find role).isSome = true) :
    Undoable roles before (now.erase roles.user role)
      { scope with reversed := scope.reversed ++ [role] } where
  elsewhere r m hgranted hreversed := by
    -- the pair that changes is one that the longer scope speaks of
    have hpair : ¬ (r = roles.user ∧ m = role) := fun ⟨hr, hm⟩ =>
      hreversed hr (hm ▸ List.mem_append_right _ (List.mem_singleton.2 rfl))
    unfold Memberships.erase
    rw [if_neg hpair]
    exact h.elsewhere r m hgranted fun hr hm => hreversed hr (List.mem_append_left _ hm)
  granted := h.granted
  reversed r hr := by
    rcases List.mem_append.1 hr with hr | hr
    · exact h.reversed r hr
    · rw [List.mem_singleton.1 hr]
      refine ⟨?_, hfind⟩
      -- it was a member before as well: nothing that changed so far concerns it
      rw [← hmember]
      exact (h.elsewhere _ _ (fun heq => absurd heq hne) fun _ => hnew).symm

/-- The role leaves the user, or was no member. -/
theorem leave {role : String} {left : Bool} (h : Undoable roles before now scope)
    (hne : role ≠ roles.user) (hnew : role ∉ scope.reversed)
    (hfind : (roles.find role).isSome = true) (hleft : left = true → now roles.user role = true) :
    Undoable roles before (if left then now.erase roles.user role else now)
      (if left then { scope with reversed := scope.reversed ++ [role] } else scope) := by
  cases left with
  | false => exact h
  | true => exact h.reverse hne hnew (hleft rfl) hfind

/-- A membership that is not there now, and was not granted, was not there before. -/
theorem not_before {role : String} (h : Undoable roles before now scope)
    (hne : role ≠ roles.user) (hnew : role ∉ scope.granted) (hnow : now role roles.user = false) :
    before role roles.user = false := by
  rw [← h.elsewhere role roles.user (fun _ => hnew) fun heq => absurd heq hne]
  exact hnow

/-- The user joins another role. -/
theorem grant {role : String} (h : Undoable roles before now scope)
    (hnew : before role roles.user = false) :
    Undoable roles before (now.insert role roles.user)
      { scope with granted := scope.granted ++ [role] } where
  elsewhere r m hgranted hreversed := by
    -- again the pair that changes is in the longer scope
    have hpair : ¬ (r = role ∧ m = roles.user) := fun ⟨hr, hm⟩ =>
      hgranted hm (hr ▸ List.mem_append_right _ (List.mem_singleton.2 rfl))
    unfold Memberships.insert
    rw [if_neg hpair]
    exact h.elsewhere r m (fun hm hr => hgranted hm (List.mem_append_left _ hr)) hreversed
  granted r hr := by
    rcases List.mem_append.1 hr with hr | hr
    · exact h.granted r hr
    · rw [List.mem_singleton.1 hr]
      exact hnew
  reversed := h.reversed

/-- Handing back and restoring lead to the memberships before. -/
theorem undone (h : Undoable roles before now scope) :
    (now.handedBack roles.user scope.granted.reverse).restored roles.user scope.reversed =
      before := by
  funext role member
  unfold Memberships.restored Memberships.handedBack
  -- a pair is restored, or handed back, or was never touched
  by_cases hreversed : role = roles.user ∧ member ∈ scope.reversed
  · rw [if_pos hreversed, hreversed.1]
    exact (h.reversed member hreversed.2).1.symm
  · rw [if_neg hreversed]
    by_cases hgranted : member = roles.user ∧ role ∈ scope.granted.reverse
    · rw [if_pos hgranted, hgranted.1]
      exact (h.granted role (List.mem_reverse.1 hgranted.2)).symm
    · rw [if_neg hgranted]
      refine h.elsewhere role member (fun hm hr => hgranted ⟨hm, List.mem_reverse.2 hr⟩) ?_
      exact fun hr hm => hreversed ⟨hr, hm⟩

end Undoable

namespace Session

variable {roles : Roles} {α β : Type}

/-! ## Joining

Joining is a loop with three commands a round, each of which can be refused. Whichever is, the scope
that comes out accounts for the commands before it. -/

/-- A role that must be joined is another one, is there, and does not have the user yet. -/
theorem transforms_mustJoin (role : String) :
    Transforms (mustJoin roles.user role : Session (RoleServer roles) Bool).run
      fun now outcome now' => now' = now ∧ (outcome = .ok true →
        role ≠ roles.user ∧ (roles.find role).isSome = true ∧ now role roles.user = false) := by
  unfold mustJoin
  -- the connecting role itself never has to be joined
  by_cases hsame : some role = some roles.user
  · rw [if_pos hsame]
    exact .pure fun now => ⟨rfl, fun h => nomatch h⟩
  · rw [if_neg hsame]
    refine (transforms_lookUpRole role).bind_run (fun found => ?_) fun error now middle h => ?_
    · cases found with
      | none => exact .pure fun middle now h => ⟨h.1, fun h => nomatch h⟩
      | some identity =>
        show Transforms (ExceptT.run (if identity.isSuperuser = true then _ else _)) _
        -- a superuser need not be joined, so nothing is claimed about the memberships then
        by_cases hsuper : identity.isSuperuser = true
        · rw [if_pos hsuper]
          exact .pure fun middle now h => ⟨h.1, fun h => nomatch h⟩
        · rw [if_neg hsuper]
          refine (transforms_isMember role roles.user).bind_run (fun flag => ?_) ?_
          · refine .pure fun last middle hflag now h => ⟨hflag.1.trans h.1, fun hneeded => ?_⟩
            have hfound : (roles.find role).isSome = true := by
              rw [← h.2 _ rfl]
              rfl
            have hmember : middle role roles.user = false := by
              rw [← hflag.2 flag rfl]
              exact Bool.not_eq_true' _ ▸ Except.ok.inj hneeded
            refine ⟨fun heq => hsame (congrArg some heq), hfound, ?_⟩
            rw [← h.1]
            exact hmember
          · exact fun error middle last hflag now h => ⟨hflag.1.trans h.1, fun h => nomatch h⟩
    · exact ⟨h.1, fun h => nomatch h⟩

/-- A role that leaves the user was a member of it. -/
theorem transforms_leave (role : String) :
    Transforms (leave roles.user role : Session (RoleServer roles) Bool).run
      fun now outcome now' =>
        match outcome with
        | .ok left => (left = true → now roles.user role = true) ∧
          now' = if left then now.erase roles.user role else now
        | .error _ => now' = now := by
  unfold leave
  refine (transforms_isMember roles.user role).bind_run (fun flag => ?_) fun _ _ _ h => h.1
  -- what the server counts as a membership is revoked, and only that
  by_cases hmember : flag.isSet = true
  · rw [if_pos hmember]
    refine (transforms_revokeRole roles.user role).bind_run (fun _ => ?_) ?_
    · refine .pure fun last middle hchange now h => ⟨fun _ => ?_, ?_⟩
      · rw [← hmember]
        exact (h.2 flag rfl).symm
      · rw [← h.1]
        exact hchange
    · exact fun error middle last hchange now h => hchange.trans h.1
  · rw [if_neg hmember]
    exact .pure fun middle now h => ⟨fun h => (nomatch h), h.1⟩

/-- Whatever joining comes to, it can be undone. -/
theorem transforms_join (before : Memberships) {names : List String} (hnames : names.Nodup)
    (scope : Scope)
    (hfresh : ∀ name ∈ names, name ∉ scope.granted ∧ name ∉ scope.reversed) :
    Transforms (join (σ := RoleServer roles) roles.user names scope) fun now result now' =>
      Undoable roles before now scope → Undoable roles before now' result.2 := by
  -- the scope grows along the roles, and the names still to come stay fresh for it
  induction names generalizing scope with
  | nil => exact .pure fun _ h => h
  | cons role rest ih =>
    obtain ⟨hrole, hrest⟩ := List.nodup_cons.1 hnames
    have hfresh' : ∀ name ∈ rest, name ∉ scope.granted ∧ name ∉ scope.reversed :=
      fun name hname => hfresh name (List.mem_cons_of_mem _ hname)
    unfold join
    refine (transforms_mustJoin role).bind fun needed => ?_
    rcases needed with error | _ | _
    -- the question failed: nothing has moved in this round
    · exact .pure fun middle now h hundo => h.1 ▸ hundo
    -- the role need not be joined, and the loop goes on with the same scope
    · exact (ih hrest scope hfresh').mono fun middle result last h now hnow hundo =>
        h (hnow.1 ▸ hundo)
    · obtain ⟨hgranted, hreversed⟩ := hfresh role List.mem_cons_self
      refine (transforms_leave role).bind fun left => ?_
      rcases left with error | left
      · exact .pure fun last middle hleft now hneeded hundo => hleft ▸ hneeded.1 ▸ hundo
      · dsimp only
        refine (transforms_grantRole role roles.user).bind fun outcome => ?_
        rcases outcome with error | _
        · -- the role may have left the user already, and the scope says so
          refine .pure fun last middle hgrant now hleft first hneeded hundo => ?_
          obtain ⟨rfl, hneeded⟩ := hneeded
          obtain ⟨hne, hfind, _⟩ := hneeded rfl
          rw [show last = middle from hgrant, hleft.2]
          exact hundo.leave hne hreversed hfind hleft.1
        · refine (ih hrest _ fun name hname => ?_).mono
            fun last result final h middle hgrant now hleft first hneeded hundo => h ?_
          -- the names to come are others, so the longer scope does not hold them either
          · have hother : name ≠ role := fun heq => hrole (heq ▸ hname)
            obtain ⟨h, h'⟩ := hfresh' name hname
            cases left <;> simp [h, h', hother]
          · obtain ⟨rfl, hneeded⟩ := hneeded
            obtain ⟨hne, hfind, hnow⟩ := hneeded rfl
            rw [show last = middle.insert role roles.user from hgrant, hleft.2]
            exact (hundo.leave hne hreversed hfind hleft.1).grant
              (hundo.not_before hne hgranted hnow)

/-! ## Handing back

Undoing knows nothing of what the server has done; it goes over the two lists of the scope. If every
command is accepted, the memberships behind it are those lists applied to the memberships now, and
the invariant says that these are the old ones. -/

theorem transforms_handBack (names : List String) :
    Transforms (handBack (σ := RoleServer roles) roles.user names).run fun now outcome now' =>
      outcome = .ok () → now' = now.handedBack roles.user names := by
  induction names with
  | nil => exact .pure fun now _ => (now.handedBack_nil roles.user).symm
  | cons role rest ih =>
    refine (transforms_revokeRole role roles.user).bind_run (fun _ => ?_) ?_
    -- one membership is gone, and the rest of the list goes on from there
    · refine ih.mono fun middle outcome last h now hrevoke hok => ?_
      rw [h hok, show middle = now.erase role roles.user from hrevoke]
      exact now.handedBack_erase roles.user role rest
    · exact fun error now middle _ hok => nomatch hok

theorem transforms_hasRole (name : String) :
    Transforms (hasRole name : Session (RoleServer roles) Bool).run fun now outcome now' =>
      now' = now ∧ ∀ found, outcome = .ok found → found = (roles.find name).isSome := by
  refine (transforms_lookUpRole name).bind_run (fun identity => ?_) ?_
  · refine .pure fun middle now h => ⟨h.1, fun found hfound => ?_⟩
    rw [← Except.ok.inj hfound, h.2 identity rfl]
  · exact fun error now middle h => ⟨h.1, fun _ h => nomatch h⟩

/-- Roles that are still there become members of the user again. -/
theorem transforms_restore (names : List String) :
    Transforms (restore (σ := RoleServer roles) roles.user names).run fun now outcome now' =>
      (∀ name ∈ names, (roles.find name).isSome = true) → outcome = .ok () →
        now' = now.restored roles.user names := by
  induction names with
  | nil => exact .pure fun now _ _ => (now.restored_nil roles.user).symm
  | cons role rest ih =>
    refine (transforms_hasRole role).bind_run (fun found => ?_) ?_
    · cases found with
      -- this does not happen: only roles that were found leave the user
      | false =>
        refine ih.mono fun middle outcome last _ now h hfind _ => ?_
        have hfound := h.2 false rfl
        rw [hfind role List.mem_cons_self] at hfound
        cases hfound
      | true =>
        refine (transforms_grantRole roles.user role).bind_run (fun _ => ?_) ?_
        · refine ih.mono fun last outcome final h middle hgrant now hnow hfind hok => ?_
          rw [h (fun name hname => hfind name (List.mem_cons_of_mem _ hname)) hok,
            show last = middle.insert roles.user role from hgrant, hnow.1]
          exact now.restored_insert roles.user role rest
        · exact fun error now middle _ _ _ _ hok => nomatch hok
    · exact fun error now middle _ _ hok => nomatch hok

/-- Undoing leads back to the memberships before, unless it is refused. -/
theorem transforms_undo (scope : Scope) :
    Transforms (undo (σ := RoleServer roles) roles.user scope).run fun now outcome now' =>
      ∀ before, Undoable roles before now scope → outcome = .ok () → now' = before := by
  -- the roles to restore were found when they left, so none of them is passed over
  refine (transforms_handBack scope.granted.reverse).bind_run (fun _ => ?_) ?_
  · refine (transforms_restore scope.reversed).mono fun middle outcome last h now hback before
      hundo hok => ?_
    rw [h (fun name hname => (hundo.reversed name hname).2) hok, hback rfl]
    exact hundo.undone
  · exact fun error now middle _ before _ hok => nomatch hok

/-! ## Savepoints

The server keeps a stack of memberships, one entry for each savepoint it is in. A savepoint that is
left has popped its entry, whether it was released or rolled back to, and also when that was
refused. -/

theorem exec_enterSavepoint {c : Connection (RoleServer roles)} (hc : c.inTransaction = true) :
    ∃ outcome c', exec enterSavepoint c = (outcome, c') ∧ c'.inTransaction = true ∧
      c'.server.begun = c.server.begun ∧ c'.server.members = c.server.members ∧
      match outcome with
      | .ok _ => c'.server.saved = c.server.members :: c.server.saved
      | .error _ => c'.server.saved = c.server.saved := by
  unfold enterSavepoint
  rw [exec_bind_ok (exec_ensureTransaction hc), exec_boundary]
  -- a savepoint that is refused leaves the stack alone
  cases hrefusal : c.server.refusal? c.server.count with
  | none =>
    rw [RoleServer.bound_of_pass _ hrefusal]
    exact ⟨_, _, rfl, hc, rfl, rfl, rfl⟩
  | some failure =>
    rw [RoleServer.bound_of_deny _ hrefusal]
    exact ⟨_, _, rfl, hc, rfl, rfl, rfl⟩

theorem exec_rollbackTo (error : Error) {c : Connection (RoleServer roles)}
    (hc : c.inTransaction = true) {atSavepoint : Memberships} {rest : List Memberships}
    (hsaved : c.server.saved = atSavepoint :: rest) :
    ∃ error' c', exec (do boundary .rollbackTo; throw error : Session (RoleServer roles) α) c =
        (.error error', c') ∧
      c'.inTransaction = true ∧ c'.server.begun = c.server.begun ∧ c'.server.saved = rest ∧
      (c'.server.members = atSavepoint ∨ c'.server.members = c.server.members) := by
  -- the entry on top is the one that this savepoint has pushed
  have hhead : c.server.saved.headD c.server.members = atSavepoint := by
    rw [hsaved]
    rfl
  have htail : c.server.saved.tail = rest := by
    rw [hsaved]
    rfl
  rw [exec_bind, exec_boundary]
  cases hrefusal : c.server.refusal? c.server.count with
  | none =>
    rw [RoleServer.bound_of_pass _ hrefusal]
    exact ⟨_, _, rfl, hc, rfl, htail, .inl hhead⟩
  | some failure =>
    rw [RoleServer.bound_of_deny _ hrefusal]
    exact ⟨_, _, rfl, hc, rfl, htail, .inr rfl⟩

/-- A savepoint is left with its own memberships after a success; after a failure they are those at
the savepoint, unless rolling back to it is refused. -/
theorem exec_leaveSavepoint (entered : Except Error α) {c : Connection (RoleServer roles)}
    (hc : c.inTransaction = true) {atSavepoint : Memberships} {rest : List Memberships}
    (hsaved : c.server.saved = atSavepoint :: rest) :
    ∃ outcome c', exec (leaveSavepoint entered) c = (outcome, c') ∧ c'.inTransaction = true ∧
      c'.server.begun = c.server.begun ∧ c'.server.saved = rest ∧
      match outcome with
      | .ok result => entered = .ok result ∧ c'.server.members = c.server.members
      | .error _ =>
        c'.server.members = atSavepoint ∨ c'.server.members = c.server.members := by
  unfold leaveSavepoint
  cases entered with
  -- the work has failed, so this is the way back
  | error error =>
    obtain ⟨error', c', hrun, hc', hbegun, hrest, hmembers⟩ := exec_rollbackTo error hc hsaved
    exact ⟨.error error', c', hrun, hc', hbegun, hrest, hmembers⟩
  | ok result =>
    have htail : c.server.saved.tail = rest := by
      rw [hsaved]
      rfl
    dsimp only
    rw [exec_bind, exec_boundary]
    cases hrefusal : c.server.refusal? c.server.count with
    | none =>
      rw [RoleServer.bound_of_pass _ hrefusal]
      exact ⟨.ok result, _, rfl, hc, rfl, htail, rfl, rfl⟩
    | some failure =>
      -- the savepoint is given up, and what was done inside it stays
      rw [RoleServer.bound_of_deny _ hrefusal]
      exact ⟨.error failure.error, _, rfl, hc, rfl, htail, .inr rfl⟩

/-- What is done inside a savepoint: after a failure the memberships are either those at the
savepoint or those that the work left. -/
theorem exec_inSavepoint {body : Talk (RoleServer roles) β}
    {change : Memberships → β → Memberships → Prop} (hbody : Transforms body change)
    (verdict : β → Except Error α) {c : Connection (RoleServer roles)}
    (hc : c.inTransaction = true) :
    (∃ error c', exec enterSavepoint c = (.error error, c') ∧ Steady c c' ∧
      c'.server.members = c.server.members) ∨
    ∃ c₁ b c₂ outcome c', exec enterSavepoint c = (.ok (), c₁) ∧ body.exec c₁ = (b, c₂) ∧
      exec (leaveSavepoint (verdict b)) c₂ = (outcome, c') ∧ Steady c c' ∧
      change c.server.members b c₂.server.members ∧
      match outcome with
      | .ok result => verdict b = .ok result ∧ c'.server.members = c₂.server.members
      | .error _ => c'.server.members = c.server.members ∨
        c'.server.members = c₂.server.members := by
  -- the body leaves the savepoint on top of the stack, where leaving it finds it
  obtain ⟨entered, c₁, henter, hc₁, hbegun, hmembers, hsaved⟩ := exec_enterSavepoint hc
  cases entered with
  | error error => exact .inl ⟨error, c₁, henter, ⟨hc₁, hsaved, hbegun⟩, hmembers⟩
  | ok _ =>
    obtain ⟨b, c₂, hrun, hsteady, hchange⟩ := hbody c₁ hc₁
    obtain ⟨outcome, c₃, hleave, hc₃, hbegun', hrest, hmembers'⟩ :=
      exec_leaveSavepoint (verdict b) hsteady.inTransaction (hsteady.saved.trans hsaved)
    rw [hmembers] at hchange
    exact .inr ⟨c₁, b, c₂, outcome, c₃, henter, hrun, hleave,
      ⟨hc₃, hrest, hbegun'.trans (hsteady.begun.trans hbegun)⟩, hchange, hmembers'⟩

/-! ## Work as a member

Joining and the work are each inside a savepoint of their own, so either may be rolled back without
the scope being told. The invariant allows for that. -/

/-- No role is joined twice. -/
theorem candidates_nodup (names : List (Option String)) : (candidates names).Nodup := by
  suffices h : ∀ (given known : List String), known.Nodup → (given.foldl (fun names name =>
      if Role.isPublic name || names.contains name then names else names ++ [name]) known).Nodup
    from h _ [] List.nodup_nil
  intro given
  -- name by name, whatever is known already
  induction given with
  | nil => exact fun _ h => h
  | cons name rest ih =>
    intro known hknown
    rw [List.foldl_cons]
    apply ih
    by_cases hskip : (Role.isPublic name || known.contains name) = true
    · rw [if_pos hskip]
      exact hknown
    · rw [if_neg hskip]
      have hnew : name ∉ known := by
        intro hmem
        simp [hmem] at hskip
      refine List.nodup_append.2 ⟨hknown, List.pairwise_singleton _ name, ?_⟩
      rintro a ha b hb rfl
      exact hnew (List.mem_singleton.1 hb ▸ ha)

theorem transforms_joinInSavepoint {names : List String} (hnames : names.Nodup) :
    Transforms (joinInSavepoint (σ := RoleServer roles) roles.user names) fun before result now =>
      Undoable roles before now result.2 := by
  intro c hc
  have hfresh : ∀ name ∈ names, name ∉ (Scope.ofUser roles.user).granted ∧
      name ∉ (Scope.ofUser roles.user).reversed :=
    fun _ _ => ⟨List.not_mem_nil, List.not_mem_nil⟩
  unfold joinInSavepoint
  obtain ⟨error, c', henter, hsteady, hmembers⟩ | ⟨c₁, ⟨joined, scope⟩, c₂, outcome, c', henter,
      hjoin, hleave, hsteady, hchange, hmembers⟩ :=
    exec_inSavepoint (transforms_join c.server.members hnames _ hfresh) Prod.fst hc
  -- the savepoint was refused, and no role has been asked about
  · refine ⟨(.error error, .ofUser roles.user), c', ?_, hsteady, ?_⟩
    · rw [Talk.exec_bind_of henter]
      rfl
    · rw [hmembers]
      exact .refl _ _ _
  · refine ⟨(outcome, scope), c', ?_, hsteady, ?_⟩
    · rw [Talk.exec_bind_of henter]
      dsimp only
      rw [Talk.exec_bind_of hjoin, Talk.exec_bind_of hleave]
      rfl
    · have hundo := hchange (.refl roles c.server.members roles.user)
      -- a savepoint that was rolled back leaves a scope that says too much, which is no harm
      cases outcome with
      | ok result =>
        rw [hmembers.2]
        exact hundo
      | error error =>
        rcases hmembers with hmembers | hmembers
        · rw [hmembers]
          exact hundo.rolledBack
        · rw [hmembers]
          exact hundo

/-- Inside a transaction the work leaves the memberships as they are. -/
abbrev LeavesMemberships (work : Session (RoleServer roles) α) : Prop :=
  Transforms work.run fun now _ now' => now' = now

section Work

variable {work : Session (RoleServer roles) α}

theorem transforms_start (hwork : LeavesMemberships work) (scope : Scope) :
    LeavesMemberships (start scope work) := by
  have hrecord : LeavesMemberships
      (record (.started scope) : Session (RoleServer roles) Unit) :=
    fun c hc => ⟨_, _, exec_record _ c, ⟨hc, rfl, rfl⟩, rfl⟩
  refine hrecord.bind_run (fun _ => ?_) fun _ _ _ h => h
  exact hwork.mono fun middle outcome last h now hnow => h.trans hnow

/-- Whether a savepoint is released or rolled back to, work that changes nothing changes nothing. -/
theorem transforms_savepoint (hwork : LeavesMemberships work) :
    LeavesMemberships (savepoint work) := by
  intro c hc
  unfold savepoint
  obtain ⟨error, c', henter, hsteady, hmembers⟩ | ⟨c₁, entered, c₂, outcome, c', henter, hrun,
      hleave, hsteady, hchange, hmembers⟩ := exec_inSavepoint hwork id hc
  · exact ⟨_, c', exec_bind_error henter, hsteady, hmembers⟩
  · refine ⟨outcome, c', ?_, hsteady, ?_⟩
    · show exec _ c = _
      rw [exec_bind_ok henter, exec_bind_ok (exec_attempt work c₁)]
      rw [show exec work c₁ = (entered, c₂) from hrun]
      exact hleave
    · cases outcome with
      -- released, the memberships are those that the work has left
      | ok result => exact hmembers.2.trans hchange
      | error error =>
        rcases hmembers with hmembers | hmembers
        · exact hmembers
        · exact hmembers.trans hchange

theorem transforms_tryAsMember (hwork : LeavesMemberships work) {names : List String}
    (hnames : names.Nodup) :
    Transforms (tryAsMember roles.user names work) fun before tried now =>
      Undoable roles before now tried.2 := by
  refine (transforms_joinInSavepoint hnames).bind fun ⟨joined, scope⟩ => ?_
  rcases joined with error | _
  · exact .pure fun _ _ h => h
  -- joined: the work runs, and the scope is as before
  · refine (transforms_savepoint (transforms_start hwork scope)).bind fun outcome => ?_
    rcases outcome with error | result
    · exact .pure fun last middle hsame now h => hsame ▸ h
    · exact .pure fun last middle hsame now h => hsame ▸ h

/-- When undoing was not refused, the memberships are those before. -/
theorem transforms_stayAs (hwork : LeavesMemberships work) {names : List String}
    (hnames : names.Nodup) :
    Transforms (stayAs roles.user names work) fun before stay now =>
      stay.released = .ok () → now = before := by
  refine (transforms_tryAsMember hwork hnames).bind fun ⟨attempt, scope⟩ => ?_
  -- undoing starts from what joining and the work have left, which can be undone
  refine (transforms_undo scope).bind fun released => .pure ?_
  exact fun last middle hundo now h hok => hundo now h hok

theorem transforms_alone (hwork : LeavesMemberships work) (scope : Scope) :
    Transforms (alone scope work) fun before _ now => now = before := by
  refine (transforms_start hwork scope).bind fun outcome => ?_
  rcases outcome with error | result <;> exact .pure fun _ _ h => h

/-- When undoing was not refused, or there was nothing to undo, the memberships are those before. -/
theorem transforms_stayOf (hwork : LeavesMemberships work) (names : List (Option String)) :
    Transforms (stayOf names work).run fun before outcome now =>
      match outcome with
      | .ok stay => stay.released = .ok () → now = before
      | .error _ => now = before := by
  have halone (scope : Scope) : Transforms
      (ExceptT.lift (alone scope work) : Session (RoleServer roles) (Stay α)).run
      fun before outcome now =>
        match outcome with
        | .ok stay => stay.released = .ok () → now = before
        | .error _ => now = before :=
    Transforms.lift ((transforms_alone hwork scope).mono fun _ _ _ h _ => h)
  have hmember : Transforms (ExceptT.lift (stayAs roles.user (candidates names) work) :
      Session (RoleServer roles) (Stay α)).run fun before outcome now =>
        match outcome with
        | .ok stay => stay.released = .ok () → now = before
        | .error _ => now = before :=
    Transforms.lift (transforms_stayAs hwork (candidates_nodup names))
  -- the connecting role and its flags are read from the server, which has them fixed
  unfold stayOf
  show Transforms (ExceptT.run (if (candidates names).isEmpty = true then _ else _)) _
  split
  · exact halone _
  · refine transforms_connectingRole.bind_found (fun user huser => ?_) fun _ _ => rfl
    subst huser
    refine (transforms_lookUpRole roles.user).bind_found (fun found _ => ?_) fun _ _ => rfl
    cases found with
    | none => exact hmember
    | some identity =>
      show Transforms (ExceptT.run (if identity.isSuperuser = true then _ else _)) _
      split
      · exact halone _
      · exact hmember

end Work

/-! ## Plans as work -/

/-- A statement that is about no membership leaves the memberships as they are, accepted or not. -/
theorem leavesMemberships_perform {statement : Statement}
    (h : ∀ change, statement ≠ .membership change) :
    LeavesMemberships (perform statement : Session (RoleServer roles) Unit) := by
  have hchange (now : Memberships) : (Command.statement statement).change now = now := by
    cases statement with
    | membership change => exact absurd rfl (h change)
    | privilege _ => rfl
    | defaultPrivilege _ => rfl
    | schemaOwner _ => rfl
  have hsend : LeavesMemberships
      (send (.statement statement) : Session (RoleServer roles) _) := by
    refine (transforms_send _).mono fun now outcome now' h => ?_
    cases outcome with
    | ok rows => exact h.1.trans (hchange now)
    | error error => exact h
  unfold perform
  dsimp only
  -- a statement that cannot be told is not sent
  split
  · exact .pure fun _ => rfl
  · refine hsend.attempt.bind_run (fun tried => ?_) fun _ _ _ ⟨_, h, _⟩ => nomatch h
    -- a refusal only becomes another error, and nothing more is sent
    split
    all_goals exact .pure fun _ _ ⟨_, _, hsame⟩ => hsame

theorem leavesMemberships_performAll {plan : List Statement}
    (h : ∀ statement ∈ plan, ∀ change, statement ≠ .membership change) :
    LeavesMemberships (performAll plan : Session (RoleServer roles) Unit) := by
  induction plan with
  | nil => exact .pure fun _ => rfl
  | cons statement rest ih =>
    refine (leavesMemberships_perform (h statement List.mem_cons_self)).bind_run (fun _ => ?_)
      fun _ _ _ h => h
    refine (ih fun other hother => h other (List.mem_cons_of_mem _ hother)).mono ?_
    exact fun middle _ last h now hnow => h.trans hnow

/-! ## Every exit

Inside a transaction the outcome of the stay tells whether the memberships are back. Around it only
the commit matters: without one the server goes back to where the transaction began. -/

/-- A transaction brings the memberships back when its work fails, and also when it cannot be
committed. -/
theorem members_transaction {work : Session (RoleServer roles) α}
    (hwork : ∀ c : Connection (RoleServer roles), c.inTransaction = true → ∃ outcome c',
      exec work c = (outcome, c') ∧ Steady c c' ∧
      ∀ result, outcome = .ok result → c'.server.members = c.server.members)
    {c : Connection (RoleServer roles)} (hc : c.inTransaction = false) :
    (exec (transaction work) c).2.server.members = c.server.members := by
  cases hrefusal : c.server.refusal? c.server.count with
  -- a transaction that was never begun has changed nothing
  | some failure =>
    have hbound := RoleServer.bound_of_deny .begin hrefusal
    rw [exec_transaction_of_refused hc (congrArg Prod.fst hbound), hbound]
    rfl
  | none =>
    have hbound := RoleServer.bound_of_pass .begin hrefusal
    have hopened : c.opened.server = RoleServer.pass .begin c.server.next :=
      congrArg Prod.snd hbound
    obtain ⟨outcome, c', hrun, hsteady, hmembers⟩ := hwork c.opened rfl
    -- whatever happened since, the memberships to go back to are those at the beginning
    have hbegun : c'.server.begun = c.server.members := by
      rw [hsteady.begun, hopened]
      rfl
    cases outcome with
    | ok result =>
      have hsame : c'.server.members = c.server.members := by
        rw [hmembers result rfl, hopened]
        rfl
      rw [exec_transaction_of_ok hc (congrArg Prod.fst hbound) hrun hsteady.inTransaction]
      show (Server.bound .commit c'.server).2.members = _
      -- committed, they are what the work has left; refused, what they were at the beginning
      cases hcommit : c'.server.refusal? c'.server.count with
      | none =>
        rw [RoleServer.bound_of_pass _ hcommit]
        exact hsame
      | some failure =>
        rw [RoleServer.bound_of_deny _ hcommit]
        exact hbegun
    | error error =>
      rw [exec_transaction_of_error hc (congrArg Prod.fst hbound) hrun hsteady.inTransaction]
      show (Server.bound .rollback c'.server).2.members = _
      cases hrollback : c'.server.refusal? c'.server.count with
      | none =>
        rw [RoleServer.bound_of_pass _ hrollback]
        exact hbegun
      | some failure =>
        rw [RoleServer.bound_of_deny _ hrollback]
        exact hbegun

/-- Work as a member of roles restores the memberships however it ends, unless undoing them is
refused; then it fails. In a transaction of its own they are restored in any case. -/
theorem asMemberOf_restores_memberships {work : Session (RoleServer roles) α}
    (hwork : LeavesMemberships work) (names : List (Option String)) :
    (∀ c : Connection (RoleServer roles), c.inTransaction = true → ∃ ended c',
      exec (stayOf names work) c = (ended, c') ∧
      exec (asMemberOf names work) c =
        (ended.bind fun stay => stay.outcome (candidates names), c') ∧
      match ended with
      | .ok stay => (stay.released = .ok () → c'.server.members = c.server.members) ∧
        ∀ cause, stay.released = .error cause →
          ∃ error, stay.outcome (candidates names) = .error error
      | .error _ => c'.server.members = c.server.members) ∧
    ∀ c : Connection (RoleServer roles), c.inTransaction = false →
      (exec (transaction (asMemberOf names work)) c).2.server.members = c.server.members := by
  have hinside (c : Connection (RoleServer roles)) (hc : c.inTransaction = true) :
      ∃ ended c', exec (stayOf names work) c = (ended, c') ∧ Steady c c' ∧
        exec (asMemberOf names work) c =
          (ended.bind fun stay => stay.outcome (candidates names), c') ∧
        match ended with
        | .ok stay => stay.released = .ok () → c'.server.members = c.server.members
        | .error _ => c'.server.members = c.server.members := by
    obtain ⟨ended, c', hrun, hsteady, hmembers⟩ := transforms_stayOf hwork names c hc
    refine ⟨ended, c', hrun, hsteady, ?_, hmembers⟩
    rw [exec_asMemberOf, exec_bind, show exec (stayOf names work) c = (ended, c') from hrun]
    cases ended <;> rfl
  -- inside a transaction the stay tells which case it is; around it, only success counts
  refine ⟨fun c hc => ?_, fun c hc => members_transaction (fun c hc => ?_) hc⟩
  · obtain ⟨ended, c', hrun, _, houtcome, hmembers⟩ := hinside c hc
    refine ⟨ended, c', hrun, houtcome, ?_⟩
    cases ended with
    | error error => exact hmembers
    | ok stay => exact ⟨hmembers, fun _ => Stay.outcome_of_not_released⟩
  · obtain ⟨ended, c', _, hsteady, houtcome, hmembers⟩ := hinside c hc
    refine ⟨_, c', houtcome, hsteady, fun result hresult => ?_⟩
    cases ended with
    | error error => cases hresult
    | ok stay => exact hmembers (Stay.outcome_eq_ok hresult).2

/-- Here `owner` is itself a member of the connecting role, and the fifth thing asked is refused. -/
def sampleServer : RoleServer ⟨"app", fun name => some ⟨some name, 10, false⟩, 160000⟩ where
  members := fun role member => role == "app" && member == "owner"
  saved := []
  begun := fun _ _ => false
  refusal? := fun count => if count = 5 then some (.refused "permission denied") else none
  count := 0

theorem asMemberOf_restores_owner :
    (exec (transaction (asMemberOf [some "owner", some "public", some "app"] (performAll
      [.schemaOwner ⟨some "sales", some "owner", some "app"⟩])))
        ⟨sampleServer, [], false, none⟩).2.server.members = sampleServer.members :=
  (asMemberOf_restores_memberships (leavesMemberships_performAll fun _ hstatement _ h => by
    rw [List.mem_singleton.1 hstatement] at h
    cases h) _).2 _ rfl

end Session

end PgGrants
