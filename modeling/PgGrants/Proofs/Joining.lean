/-
Joining roles, with what the server reports on the way.

A role is joined only right after the server reported it to be there, to be no superuser and not to
have the user as a member: between these reports and the joining nothing is done but to ask whether
the role is a member of the user, and to take it from the user if it is. The scope keeps account of
what the server accepted. Both hold along every run of `Session.join`, wherever it stops.
-/
import PgGrants.Proofs.Reports

set_option autoImplicit false

namespace PgGrants

/-! ## 1. What was asked for and accepted -/

namespace Exchange

/-- The role of which the user shall become a member. -/
def lent? (user : Option String) (x : Exchange) : Option String :=
  match x.command? with
  | some (.grantRole role member) => if member = user then role else none
  | _ => none

/-- The role of which the user became a member. -/
def granted? (user : Option String) (x : Exchange) : Option String :=
  if x.isAccepted then x.lent? user else none

/-- The role that left the user. -/
def left? (user : Option String) (x : Exchange) : Option String :=
  match x.command? with
  | some (.revokeRole role member) => if role = user ∧ x.isAccepted = true then member else none
  | _ => none

/-- The exchange clears the way for the user to join the role: it asks whether the role is a member
of the user, or takes it from the user. -/
def Clears (user : Option String) (role : String) (x : Exchange) : Prop :=
  x.Asks (OnMember user (some role)) ∨ x.command? = some (.revokeRole user (some role))

theorem lent?_of_not_moves {x : Exchange} (h : ¬x.Moves) (user : Option String) :
    x.lent? user = none := by
  unfold lent?
  split
  · rename_i role member hcommand
    exact absurd ⟨role, member, .inl hcommand⟩ h
  · rfl

theorem left?_of_not_moves {x : Exchange} (h : ¬x.Moves) (user : Option String) :
    x.left? user = none := by
  unfold left?
  split
  · rename_i role member hcommand
    exact absurd ⟨role, member, .inr hcommand⟩ h
  · rfl

theorem granted?_of_lent? {x : Exchange} {user : Option String} (h : x.lent? user = none) :
    x.granted? user = none := by
  unfold granted?
  rw [h, ite_self]

theorem command?_of_lent? {user : Option String} {x : Exchange} {role : String}
    (h : x.lent? user = some role) : x.command? = some (.grantRole (some role) user) := by
  unfold lent? at h
  split at h
  · rename_i given member hcommand
    split at h
    · rename_i hmember
      rw [hcommand, hmember, h]
    · cases h
  · cases h

theorem command?_of_granted? {user : Option String} {x : Exchange} {role : String}
    (h : x.granted? user = some role) : x.command? = some (.grantRole (some role) user) := by
  unfold granted? at h
  split at h
  · exact command?_of_lent? h
  · cases h

theorem command?_of_left? {user : Option String} {x : Exchange} {role : String}
    (h : x.left? user = some role) : x.command? = some (.revokeRole user (some role)) := by
  unfold left? at h
  split at h
  · rename_i given member hcommand
    split at h
    · rename_i hboth
      rw [hcommand, hboth.1, h]
    · cases h
  · cases h

theorem Clears.lent? {user : Option String} {role : String} {x : Exchange} (h : x.Clears user role)
    (member : Option String) : x.lent? member = none := by
  rcases h with hasks | hleaves
  · exact lent?_of_not_moves hasks.not_moves member
  · unfold Exchange.lent?
    rw [hleaves]

end Exchange

/-- The role was just reported to be there and to be no superuser, and then not to have the user as
a member; after that the way was cleared, and nothing else happened. -/
def JustReported (user : Option String) (role : String) (earlier : List Exchange) : Prop :=
  ∃ front report versions answer rest identity,
    earlier = front ++ report :: (versions ++ answer :: rest) ∧
      report.ReportsRole (some role) identity ∧ identity.isSuperuser = false ∧
      (∀ x ∈ versions, x.Asks (· = .reportedVersion)) ∧
      answer.ReportsMember (some role) user false ∧ ∀ x ∈ rest, x.Clears user role

/-- What happened before does not matter, and neither does more that clears the way. -/
theorem JustReported.clears {user : Option String} {role : String} {earlier more : List Exchange}
    (h : JustReported user role earlier) (context : List Exchange)
    (hmore : ∀ x ∈ more, x.Clears user role) :
    JustReported user role (context ++ earlier ++ more) := by
  obtain ⟨front, report, versions, answer, rest, identity, rfl, hreport, hsuperuser, hversions,
    hanswer, hrest⟩ := h
  refine ⟨context ++ front, report, versions, answer, rest ++ more, identity, ?_, hreport,
    hsuperuser, hversions, hanswer, List.forall_mem_append.2 ⟨hrest, hmore⟩⟩
  simp

/-- Memberships are moved as joining moves them: the user joins roles that were just reported to be
fit for it, and roles leave the user. -/
def FitsJoining (all : List String) (user : Option String) (earlier : List Exchange)
    (x : Exchange) : Prop :=
  (∀ role member, x.command? = some (.grantRole role member) →
    member = user ∧ user.isSome = true ∧
      ∃ name ∈ all, role = some name ∧ some name ≠ user ∧ JustReported user name earlier) ∧
  ∀ role member, x.command? = some (.revokeRole role member) →
    role = user ∧ ∃ name ∈ all, member = some name ∧ some name ≠ user

theorem FitsJoining.of_not_moves {all : List String} {user : Option String}
    {earlier : List Exchange} {x : Exchange} (h : ¬x.Moves) : FitsJoining all user earlier x :=
  ⟨fun role member hcommand => absurd ⟨role, member, .inl hcommand⟩ h,
    fun role member hcommand => absurd ⟨role, member, .inr hcommand⟩ h⟩

/-! ## 2. Joining some of the roles

`Joining` is the invariant of the loop, for any stretch of it: what was moved was moved as the rules
say, and the scope has grown by what the server accepted. Stretches are put together by `append`. -/

/-- What happens while the user joins the roles, after what happened before: memberships are moved
as they should be, each role is asked for at most once and in order, nothing is asked about the user
itself, and the scope grows by what was accepted. -/
structure Joining (all : List String) (user : Option String) (context : List Exchange)
    (names : List String) (given scope : Scope) (exchanges : List Exchange) : Prop where
  granted : scope.granted = given.granted ++ exchanges.filterMap (Exchange.granted? user)
  reversed : scope.reversed = given.reversed ++ exchanges.filterMap (Exchange.left? user)
  order : (exchanges.filterMap (Exchange.lent? user)).Sublist names
  fits : Throughout (fun earlier => FitsJoining all user (context ++ earlier)) exchanges
  quiet : ∀ x ∈ exchanges, x.command? ≠ some (.query (.role user))

namespace Joining

variable {all names names' : List String} {user : Option String}
  {context exchanges rest : List Exchange} {given scope scope' : Scope}

theorem widen (h : Joining all user context names given scope exchanges)
    (hnames : names.Sublist names') : Joining all user context names' given scope exchanges :=
  { h with order := h.order.trans hnames }

theorem append (hfirst : Joining all user context names given scope exchanges)
    (hrest : Joining all user (context ++ exchanges) names' scope scope' rest) :
    Joining all user context (names ++ names') given scope' (exchanges ++ rest) where
  granted := by rw [hrest.granted, hfirst.granted, List.filterMap_append, List.append_assoc]
  reversed := by rw [hrest.reversed, hfirst.reversed, List.filterMap_append, List.append_assoc]
  order := by
    rw [List.filterMap_append]
    exact hfirst.order.append hrest.order
  fits := by
    refine hfirst.fits.append (hrest.fits.mono fun earlier x hfits => ?_)
    rw [← List.append_assoc]
    exact hfits
  quiet := List.forall_mem_append.2 ⟨hfirst.quiet, hrest.quiet⟩

/-- Where no membership is moved the scope stays as it is. -/
theorem still (hmoves : ∀ x ∈ exchanges, ¬x.Moves)
    (hquiet : ∀ x ∈ exchanges, x.command? ≠ some (.query (.role user))) :
    Joining all user context [] given given exchanges where
  granted := by
    rw [List.filterMap_eq_nil_iff.2 fun x hx =>
      Exchange.granted?_of_lent? (Exchange.lent?_of_not_moves (hmoves x hx) user), List.append_nil]
  reversed := by
    rw [List.filterMap_eq_nil_iff.2 fun x hx => Exchange.left?_of_not_moves (hmoves x hx) user,
      List.append_nil]
  order := List.sublist_nil.2 <|
    List.filterMap_eq_nil_iff.2 fun x hx => Exchange.lent?_of_not_moves (hmoves x hx) user
  fits := .of_forall fun x hx _ => .of_not_moves (hmoves x hx)
  quiet := hquiet

theorem nil : Joining all user context [] given given [] :=
  still (List.forall_mem_nil _) (List.forall_mem_nil _)

/-- Questions about others move nothing. -/
theorem asks {allowed : Query → Prop} (hasks : ∀ x ∈ exchanges, x.Asks allowed)
    (hallowed : ¬allowed (.role user)) : Joining all user context [] given given exchanges := by
  refine still (fun x hx => (hasks x hx).not_moves) fun x hx hcommand => ?_
  obtain ⟨query, hquery, hsame⟩ := hasks x hx
  rw [hcommand] at hsame
  cases hsame
  exact hallowed hquery

/-- Boundaries move nothing. -/
theorem boundaries (h : ∀ x ∈ exchanges, x.command? = none) :
    Joining all user context [] given given exchanges := by
  refine still (fun x hx => Exchange.not_moves_of_none (h x hx)) fun x hx hcommand => ?_
  rw [h x hx] at hcommand
  cases hcommand

/-- The way is cleared, and perhaps the role leaves the user. -/
theorem clears {role : String} (hrole : role ∈ all) (hother : some role ≠ user)
    (hclears : ∀ x ∈ exchanges, x.Clears user role)
    (hreversed : scope.reversed =
      given.reversed ++ exchanges.filterMap (Exchange.left? user))
    (hgranted : scope.granted = given.granted) :
    Joining all user context [] given scope exchanges where
  granted := by
    rw [List.filterMap_eq_nil_iff.2 fun x hx =>
      Exchange.granted?_of_lent? ((hclears x hx).lent? user), List.append_nil, hgranted]
  reversed := hreversed
  order := List.sublist_nil.2 <|
    List.filterMap_eq_nil_iff.2 fun x hx => (hclears x hx).lent? user
  fits := by
    refine .of_forall fun x hx earlier => ?_
    rcases hclears x hx with hasks | hleaves
    · exact .of_not_moves hasks.not_moves
    · refine ⟨fun _ _ hcommand => ?_, fun _ _ hcommand => ?_⟩
      · rw [hleaves] at hcommand
        cases hcommand
      · rw [hleaves] at hcommand
        cases hcommand
        exact ⟨rfl, role, hrole, rfl, hother⟩
  quiet := by
    intro x hx hcommand
    -- neither a look at the membership nor leaving it asks who the user is
    rcases hclears x hx with ⟨query, hquery, hsame⟩ | hleaves
    · rw [hcommand] at hsame
      cases hsame
      rcases hquery with hquery | ⟨_, hquery⟩ <;> cases hquery
    · rw [hcommand] at hleaves
      cases hleaves

/-- The user joins a role that was just reported to be fit for it. -/
theorem lends {role : String} (hrole : role ∈ all) (hother : some role ≠ user)
    (huser : user.isSome = true) (hreported : JustReported user role context) {sql : String}
    {reply : Reply}
    (hgranted : scope.granted = given.granted ++
      Option.toList (Exchange.granted? user ⟨.sent (.grantRole (some role) user) sql, reply⟩))
    (hreversed : scope.reversed = given.reversed) :
    Joining all user context [role] given scope
      [⟨.sent (.grantRole (some role) user) sql, reply⟩] where
  granted := by
    rw [hgranted]
    congr 1
  reversed := hreversed.trans (List.append_nil _).symm
  order := by
    -- the one exchange lends the one membership
    have hlent : Exchange.lent? user ⟨.sent (.grantRole (some role) user) sql, reply⟩ =
        some role := if_pos rfl
    have hone := List.filterMap_cons_some (l := []) hlent
    exact hone ▸ List.Sublist.refl [role]
  fits := by
    refine .single ⟨fun _ _ hcommand => ?_, fun _ _ hcommand => ?_⟩
    · cases hcommand
      rw [List.append_nil]
      exact ⟨rfl, huser, role, hrole, rfl, hother, hreported⟩
    · cases hcommand
  quiet := by
    intro x hx hcommand
    rw [List.mem_singleton.1 hx] at hcommand
    cases hcommand

/-- Only a user with a name joins any role. -/
theorem isSome_of_granted
    (h : Joining all user context names (.ofUser user) scope exchanges)
    (hsome : scope.granted ≠ []) : user.isSome = true := by
  rw [h.granted] at hsome
  obtain ⟨role, hrole⟩ := List.exists_mem_of_ne_nil _ hsome
  obtain ⟨x, hx, hgranted⟩ := List.mem_filterMap.1 hrole
  obtain ⟨earlier, hfits⟩ := h.fits.exists_of_mem hx
  exact (hfits.1 _ _ (Exchange.command?_of_granted? hgranted)).2.1

/-- Only roles on the list leave the user, and it does not leave itself. -/
theorem mem_of_reversed
    (h : Joining all user context names (.ofUser user) scope exchanges) {name : String}
    (hname : name ∈ scope.reversed) : name ∈ all ∧ some name ≠ user := by
  rw [h.reversed] at hname
  obtain ⟨x, hx, hleft⟩ := List.mem_filterMap.1 hname
  obtain ⟨earlier, hfits⟩ := h.fits.exists_of_mem hx
  obtain ⟨-, other, hother, hsame, hne⟩ := hfits.2 _ _ (Exchange.command?_of_left? hleft)
  rw [Option.some.inj hsame]
  exact ⟨hother, hne⟩

end Joining

/-! ## 3. Runs -/

section Runs

open Session

variable {σ : Type} [Server σ] {user : Option String} {role : String}

/-- The role is asked about, and then whether the user is a member of it. -/
def OnJoining (user : Option String) (role : String) (query : Query) : Prop :=
  query = .role (some role) ∨ OnMember (some role) user query

theorem hears_mustJoin (user : Option String) {role : String}
    (hpublic : Role.isPublic role = false) :
    Hears (mustJoin (σ := σ) user role).run fun result exchanges =>
      (∀ x ∈ exchanges, some role ≠ user ∧ x.Asks (OnJoining user role)) ∧
        (result = .ok true → some role ≠ user ∧ JustReported user role exchanges) := by
  unfold mustJoin
  -- three reasons not to join a role, in the order in which they are looked at: it is the user
  -- itself, it is missing or a superuser, or the user is a member of it
  by_cases hsame : some role = user
  · rw [if_pos hsame]
    exact .pure ⟨List.forall_mem_nil _, fun h => nomatch h⟩
  · rw [if_neg hsame]
    refine .bind_run (hears_lookUpRole (some role)) (fun found exchanges hlooked => ?_)
      fun error exchanges hlooked =>
        ⟨fun x hx => ⟨hsame, _, .inl rfl, hlooked.1 x hx⟩, fun h => nomatch h⟩
    have hfirst : ∀ x ∈ exchanges, some role ≠ user ∧ x.Asks (OnJoining user role) :=
      fun x hx => ⟨hsame, _, .inl rfl, hlooked.1 x hx⟩
    obtain ⟨report, rfl, hreports⟩ := (hlooked.2 found rfl).2 hpublic
    cases found with
    | none =>
      exact .pure ⟨by rw [List.append_nil]; exact hfirst, fun h => nomatch h⟩
    | some identity =>
      dsimp only
      by_cases hsuperuser : identity.isSuperuser = true
      · rw [if_pos hsuperuser]
        exact .pure ⟨by rw [List.append_nil]; exact hfirst, fun h => nomatch h⟩
      · rw [if_neg hsuperuser]
        refine .bind_run (hears_isMember (some role) user) (fun flag rest hmember => ?_)
          fun error rest hmember => ⟨?_, fun h => nomatch h⟩
        · refine .pure ⟨?_, fun hneeded => ⟨hsame, ?_⟩⟩
          · rw [List.append_nil]
            exact List.forall_mem_append.2
              ⟨hfirst, fun x hx => ⟨hsame, (hmember.1 x hx).mono fun _ => .inr⟩⟩
          · obtain ⟨versions, answer, rfl, hversions, hanswer⟩ := hmember.2 flag rfl
            have hnot : flag.isSet = false := by simpa using Except.ok.inj hneeded
            rw [hnot] at hanswer
            exact ⟨[], report, versions, answer, [], identity, by simp, hreports identity rfl,
              by simpa using hsuperuser, hversions, hanswer, List.forall_mem_nil _⟩
        · exact List.forall_mem_append.2
            ⟨hfirst, fun x hx => ⟨hsame, (hmember.1 x hx).mono fun _ => .inr⟩⟩

/-- What has left the user when the attempt to make the role leave ends in this way. -/
def leftBy (role : String) : Except Error Bool → List String
  | .ok true => [role]
  | _ => []

theorem hears_leave (user : Option String) (role : String) :
    Hears (leave (σ := σ) user role).run fun result exchanges =>
      (∀ x ∈ exchanges, x.Clears user role) ∧
        exchanges.filterMap (Exchange.left? user) = leftBy role result := by
  have hasked : ∀ {exchanges : List Exchange},
      (∀ x ∈ exchanges, x.Asks (OnMember user (some role))) →
        (∀ x ∈ exchanges, x.Clears user role) ∧
          exchanges.filterMap (Exchange.left? user) = [] :=
    fun h => ⟨fun x hx => .inl (h x hx), List.filterMap_eq_nil_iff.2 fun x hx =>
      Exchange.left?_of_not_moves (h x hx).not_moves user⟩
  have hrevoked : ∀ sql reply,
      Exchange.Clears user role ⟨.sent (.revokeRole user (some role)) sql, reply⟩ :=
    fun _ _ => .inr rfl
  refine .bind_run (hears_isMember user (some role)) (fun flag exchanges hmember => ?_)
    fun error exchanges hmember => hasked hmember.1
  obtain ⟨hclears, hnone⟩ := hasked hmember.1
  by_cases hset : flag.isSet = true
  · rw [if_pos hset]
    refine .bind_run (hears_revokeRole user (some role)) (fun _ rest hleft => .pure ?_)
      fun error rest hleft => ?_
    · rw [List.append_nil]
      cases hleft with
      | @accepted sql hsql rows =>
        refine ⟨List.forall_mem_append.2
          ⟨hclears, List.forall_mem_singleton.2 (hrevoked sql _)⟩, ?_⟩
        have hrole : Exchange.left? user ⟨.sent (.revokeRole user (some role)) sql, .rows rows⟩ =
            some role := if_pos ⟨rfl, rfl⟩
        rw [List.filterMap_append, hnone, List.filterMap_cons_some hrole]
        rfl
    · cases hleft with
      | unsent hsql =>
        rw [List.append_nil]
        exact ⟨hclears, hnone⟩
      | @rejected sql hsql failure =>
        refine ⟨List.forall_mem_append.2
          ⟨hclears, List.forall_mem_singleton.2 (hrevoked sql _)⟩, ?_⟩
        have hrole : Exchange.left? user
            ⟨.sent (.revokeRole user (some role)) sql, .failed failure⟩ = none :=
          if_neg fun h => nomatch h.2
        rw [List.filterMap_append, hnone, List.filterMap_cons_none hrole]
        rfl
  · rw [if_neg hset]
    refine .pure ?_
    rw [List.append_nil]
    exact ⟨hclears, hnone⟩

/-- The scope after the user has asked to join the role. -/
def joinedBy (role : String) (given : Scope) : Except Error Unit → Scope
  | .ok _ => { given with granted := given.granted ++ [role] }
  | .error _ => given

/-- A role that may be asked for is asked for and joined, and what was accepted is noted. -/
theorem Joining.answered {all : List String} {context exchanges : List Exchange} {given : Scope}
    (hrole : role ∈ all) (hother : some role ≠ user) (hreported : JustReported user role context)
    {result : Except Error Unit}
    (hanswered : Answered (.grantRole (some role) user) result exchanges) :
    Joining all user context [role] given (joinedBy role given result) exchanges := by
  -- what can be written names its user
  have huser : ∀ {sql : String}, (Command.grantRole (some role) user).sql = .ok sql →
      user.isSome = true := by
    intro sql hsql
    cases user with
    | none => cases hsql
    | some name => rfl
  cases hanswered with
  | unsent => exact Joining.nil.widen (List.nil_sublist _)
  | @accepted sql hsql rows =>
    refine .lends hrole hother (huser hsql) hreported ?_ rfl
    have hgranted : Exchange.granted? user ⟨.sent (.grantRole (some role) user) sql, .rows rows⟩ =
        some role := by
      show (if user = user then some role else none) = some role
      exact if_pos rfl
    rw [hgranted]
    rfl
  | @rejected sql hsql failure =>
    exact .lends hrole hother (huser hsql) hreported (List.append_nil _).symm rfl

/-- Joining goes as it should wherever it stops, whatever the server replies. -/
theorem hears_join {all : List String} (hall : ∀ name ∈ all, Role.isPublic name = false)
    (user : Option String) (names : List String) (hnames : ∀ name ∈ names, name ∈ all)
    (given : Scope) (context : List Exchange) :
    Hears (join (σ := σ) user names given) fun result exchanges =>
      Joining all user context names given result.2 exchanges := by
  induction names generalizing given context with
  | nil => exact .pure .nil
  | cons role rest ih =>
    rw [List.forall_mem_cons] at hnames
    obtain ⟨hrole, hrest⟩ := hnames
    unfold join
    refine .bind (hears_mustJoin user (hall role hrole)) fun needed first hneeded => ?_
    -- to ask about the role moves nothing
    have hfirst : Joining all user context [] given given first := by
      refine .still (fun x hx => (hneeded.1 x hx).2.not_moves) fun x hx => ?_
      obtain ⟨hother, query, hquery, hcommand⟩ := hneeded.1 x hx
      intro hsame
      rw [hcommand] at hsame
      cases hsame
      rcases hquery with hquery | hquery | ⟨_, hquery⟩
      · exact hother (Query.role.inj hquery).symm
      · cases hquery
      · cases hquery
    rcases needed with error | _ | _
    · exact .pure (by rw [List.append_nil]; exact hfirst.widen (List.nil_sublist _))
    · exact (ih hrest given (context ++ first)).mono fun _ _ h =>
        (hfirst.append h).widen (List.sublist_cons_self _ _)
    · obtain ⟨hother, hreported⟩ := hneeded.2 rfl
      refine .bind (hears_leave user role) fun left second hleaves => ?_
      obtain ⟨hclears, hleft⟩ := hleaves
      -- the scope after the role has left the user, if it had to and did
      have hsecond : ∀ scope : Scope, scope.granted = given.granted →
          scope.reversed = given.reversed ++ leftBy role left →
          Joining all user (context ++ first) [] given scope second := by
        intro scope hgranted hreversed
        rw [← hleft] at hreversed
        exact .clears hrole hother hclears hreversed hgranted
      rcases left with error | left
      · have hboth := hfirst.append (hsecond given rfl (List.append_nil _).symm)
        exact .pure (by rw [List.append_nil]; exact hboth.widen (List.nil_sublist _))
      · dsimp only
        have hscope := hsecond
          (if left = true then { given with reversed := given.reversed ++ [role] } else given)
          (by cases left <;> rfl) (by cases left <;> simp [leftBy])
        generalize (if left = true then { given with reversed := given.reversed ++ [role] }
          else given) = scope at hscope ⊢
        refine .bind (hears_grantRole (some role) user) fun granted third hgranted => ?_
        have hthird : Joining all user (context ++ first ++ second) [role] scope
            (joinedBy role scope granted) third :=
          .answered hrole hother (hreported.clears context hclears) hgranted
        have hone := hfirst.append (hscope.append hthird)
        cases granted with
        | error error =>
          refine .pure ?_
          rw [List.append_nil]
          exact hone.widen (List.singleton_sublist.2 List.mem_cons_self)
        | ok _ =>
          refine (ih hrest _ (context ++ (first ++ (second ++ third)))).mono fun _ _ h => ?_
          rw [← List.append_assoc second, ← List.append_assoc]
          exact hone.append h

end Runs

end PgGrants
