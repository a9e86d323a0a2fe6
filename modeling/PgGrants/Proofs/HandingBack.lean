/-
Handing back memberships, and making roles members again.

Whatever the server replies, `Session.undo` takes back the memberships of the scope newest first and
stops at the first one that is rejected. Only when all of them were taken back are roles made
members of the user again, and each only right after the server reported it to be there.
-/
import PgGrants.Proofs.Reports

set_option autoImplicit false

namespace PgGrants

/-! ## 1. The rules of handing back -/

/-- Roles are made members of the user again, each right after it was reported to be there. -/
def FitsRestoring (user : Option String) (names : List String) (earlier : List Exchange)
    (x : Exchange) : Prop :=
  (∀ role member, x.command? ≠ some (.revokeRole role member)) ∧
    ∀ role member, x.command? = some (.grantRole role member) →
      role = user ∧ ∃ name ∈ names, member = some name ∧ ∃ front report identity,
        earlier = front ++ [report] ∧ report.ReportsRole (some name) identity

theorem FitsRestoring.of_not_moves {user : Option String} {names : List String}
    {earlier : List Exchange} {x : Exchange} (h : ¬x.Moves) : FitsRestoring user names earlier x :=
  ⟨fun role member hcommand => h ⟨role, member, .inr hcommand⟩,
    fun role member hcommand => absurd ⟨role, member, .inl hcommand⟩ h⟩

/-- What happened before does not matter. -/
theorem FitsRestoring.prepend {user : Option String} {names names' : List String}
    {earlier : List Exchange} {x : Exchange} (h : FitsRestoring user names earlier x)
    (context : List Exchange) (hnames : ∀ name ∈ names, name ∈ names') :
    FitsRestoring user names' (context ++ earlier) x := by
  refine ⟨h.1, fun role member hcommand => ?_⟩
  obtain ⟨rfl, name, hname, rfl, front, report, identity, rfl, hreport⟩ := h.2 role member hcommand
  exact ⟨rfl, name, hnames name hname, rfl, context ++ front, report, identity,
    (List.append_assoc _ _ _).symm, hreport⟩

/-- Memberships of the user in these roles are taken back, or roles that had left it are restored.
-/
def FitsUndoing (user : Option String) (granted reversed : List String) (earlier : List Exchange)
    (x : Exchange) : Prop :=
  (∀ role member, x.command? = some (.revokeRole role member) →
    member = user ∧ ∃ name ∈ granted, role = some name) ∧
  ∀ role member, x.command? = some (.grantRole role member) →
    role = user ∧ ∃ name ∈ reversed, member = some name ∧ ∃ front report identity,
      earlier = front ++ [report] ∧ report.ReportsRole (some name) identity

theorem FitsUndoing.of_not_moves {user : Option String} {granted reversed : List String}
    {earlier : List Exchange} {x : Exchange} (h : ¬x.Moves) :
    FitsUndoing user granted reversed earlier x :=
  ⟨fun role member hcommand => absurd ⟨role, member, .inr hcommand⟩ h,
    fun role member hcommand => absurd ⟨role, member, .inl hcommand⟩ h⟩

abbrev Restoring (user : Option String) (names : List String) (exchanges : List Exchange) : Prop :=
  Throughout (FitsRestoring user names) exchanges

/-- The memberships of the user in the roles are taken back in their order, up to the first that is
rejected; what comes after all of them is as given. -/
inductive HandsBack (user : Option String) (rest : List Exchange → Prop) :
    List String → List Exchange → Prop where
  | all {exchanges : List Exchange} (h : rest exchanges) : HandsBack user rest [] exchanges
  | next {role : String} {roles : List String} {exchanges : List Exchange} (sql : String)
      (rows : List (List Value)) (h : HandsBack user rest roles exchanges) :
      HandsBack user rest (role :: roles)
        (⟨.sent (.revokeRole (some role) user) sql, .rows rows⟩ :: exchanges)
  | rejected (role : String) (roles : List String) (sql : String) (failure : Failure) :
      HandsBack user rest (role :: roles)
        [⟨.sent (.revokeRole (some role) user) sql, .failed failure⟩]

/-- Until everything is handed back memberships are only taken back, and then they are restored. -/
theorem HandsBack.fitsUndoing {user : Option String} {roles granted reversed : List String}
    {exchanges : List Exchange}
    (h : HandsBack user (Restoring user reversed) roles exchanges)
    (hroles : ∀ role ∈ roles, role ∈ granted) (context : List Exchange) :
    Throughout (fun earlier => FitsUndoing user granted reversed (context ++ earlier))
      exchanges := by
  have htaken : ∀ {role}, role ∈ granted → ∀ earlier sql reply,
      FitsUndoing user granted reversed earlier
        ⟨.sent (.revokeRole (some role) user) sql, reply⟩ := by
    refine fun {role} hrole earlier sql reply => ⟨fun _ _ hcommand => ?_, fun _ _ hcommand => ?_⟩
    · cases hcommand
      exact ⟨rfl, role, hrole, rfl⟩
    · cases hcommand
  -- what was handed back already becomes part of the context of the rest
  induction h generalizing context with
  | all h =>
    exact h.mono fun earlier x hfits =>
      ⟨fun role member hcommand => absurd hcommand (hfits.1 role member),
        (hfits.prepend context fun _ h => h).2⟩
  | @next role roles exchanges sql rows h ih =>
    rw [List.forall_mem_cons] at hroles
    have hfirst : Throughout (fun earlier => FitsUndoing user granted reversed (context ++ earlier))
        [⟨.sent (.revokeRole (some role) user) sql, .rows rows⟩] :=
      .single (htaken hroles.1 _ _ _)
    have hlater := ih hroles.2 (context ++ [⟨.sent (.revokeRole (some role) user) sql, .rows rows⟩])
    refine hfirst.append (hlater.mono fun earlier x hfits => ?_)
    rw [← List.append_assoc]
    exact hfits
  | rejected role roles sql failure =>
    exact .single (htaken (hroles role List.mem_cons_self) _ _ _)

/-- Boundaries that come first make no difference. -/
theorem HandsBack.fitsUndoing_after {user : Option String} {roles granted reversed : List String}
    {closing undoing : List Exchange} (hclosing : ∀ x ∈ closing, x.command? = none)
    (h : HandsBack user (Restoring user reversed) roles undoing)
    (hroles : ∀ role ∈ roles, role ∈ granted) (context : List Exchange) :
    Throughout (fun earlier => FitsUndoing user granted reversed (context ++ earlier))
      (closing ++ undoing) := by
  refine .append (.of_forall fun x hx _ => .of_not_moves ?_) ?_
  · exact Exchange.not_moves_of_none (hclosing x hx)
  · refine (h.fitsUndoing hroles (context ++ closing)).mono fun earlier x hfits => ?_
    rw [← List.append_assoc]
    exact hfits

/-! ## 2. Undoing keeps them -/

section Undoing

open Session

variable {σ : Type} [Server σ]

theorem hears_restore (user : Option String) {names : List String}
    (hpublic : ∀ name ∈ names, Role.isPublic name = false) :
    Hears (restore (σ := σ) user names).run fun _ exchanges => Restoring user names exchanges := by
  induction names with
  | nil => exact .pure .nil
  | cons name rest ih =>
    rw [List.forall_mem_cons] at hpublic
    have hasked : ∀ {exchanges : List Exchange},
        (∀ x ∈ exchanges, x.command? = some (.query (.role (some name)))) →
          Restoring user (name :: rest) exchanges :=
      fun h => .of_forall fun x hx _ => .of_not_moves (Exchange.not_moves_of_query (h x hx))
    have hlater : ∀ {before after : List Exchange}, Restoring user (name :: rest) before →
        Restoring user rest after → Restoring user (name :: rest) (before ++ after) :=
      fun hbefore hafter => hbefore.append (hafter.mono fun _ _ hfits =>
        hfits.prepend _ fun _ => List.mem_cons_of_mem _)
    refine .bind_run (hears_hasRole hpublic.1) (fun there first hfirst => ?_)
      fun _ first hfirst => hasked hfirst.1
    cases there with
    | false => exact (ih hpublic.2).mono fun _ _ h => hlater (hasked hfirst.1) h
    | true =>
      obtain ⟨report, identity, rfl, hreport⟩ := hfirst.2 rfl
      -- the answer to the question is all that stands before the membership
      have hgrant : ∀ {result : Except Error Unit} {exchanges : List Exchange},
          Answered (.grantRole user (some name)) result exchanges →
            Restoring user (name :: rest) ([report] ++ exchanges) := by
        intro result exchanges hanswered
        refine (hasked hfirst.1).append ?_
        have hfits : ∀ sql reply, FitsRestoring user (name :: rest) ([report] ++ [])
            ⟨.sent (.grantRole user (some name)) sql, reply⟩ := by
          refine fun sql reply => ⟨fun role member hcommand => ?_, fun role member hcommand => ?_⟩
          · cases hcommand
          cases hcommand
          exact ⟨rfl, name, List.mem_cons_self, rfl, [], report, identity, rfl, hreport⟩
        cases hanswered with
        | unsent => exact .nil
        | accepted hsql rows => exact .single (hfits _ _)
        | rejected hsql failure => exact .single (hfits _ _)
      refine .bind_run (hears_grantRole user (some name)) (fun _ second hsecond => ?_)
        fun _ second hsecond => hgrant hsecond
      refine (ih hpublic.2).mono fun _ _ h => ?_
      rw [← List.append_assoc]
      exact hlater (hgrant hsecond) h

/-- Handing back is followed by the rest when nothing is rejected. -/
theorem hears_handBack {α : Type} {user : Option String} {roles : List String}
    (huser : roles ≠ [] → user.isSome = true) {next : Session σ α} {rest : List Exchange → Prop}
    (hnext : Hears next.run fun _ exchanges => rest exchanges) :
    Hears (do handBack user roles; next : Session σ α).run fun _ exchanges =>
      HandsBack user rest roles exchanges := by
  induction roles with
  | nil => exact hnext.mono fun _ _ h => .all h
  | cons role roles ih =>
    have hsome := huser (List.cons_ne_nil _ _)
    unfold handBack
    rw [bind_assoc]
    refine .bind_run (hears_revokeRole (some role) user) (fun _ first hfirst => ?_)
      fun _ first hfirst => ?_
    · cases hfirst with
      | accepted hsql rows => exact (ih fun _ => hsome).mono fun _ _ h => .next _ rows h
    · cases hfirst with
      | unsent hsql =>
        -- the user's name is known, so the command can be written
        obtain ⟨name, rfl⟩ := Option.isSome_iff_exists.1 hsome
        cases hsql
      | rejected hsql failure => exact .rejected role roles _ failure

theorem hears_undo {user : Option String} {scope : Scope}
    (huser : scope.granted ≠ [] → user.isSome = true)
    (hpublic : ∀ name ∈ scope.reversed, Role.isPublic name = false) :
    Hears (undo (σ := σ) user scope).run fun _ exchanges =>
      HandsBack user (Restoring user scope.reversed) scope.granted.reverse exchanges :=
  hears_handBack (fun h => huser (mt List.reverse_eq_nil_iff.2 h)) (hears_restore user hpublic)

end Undoing

end PgGrants
