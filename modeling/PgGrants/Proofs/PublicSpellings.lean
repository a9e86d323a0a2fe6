/-
The spellings of PUBLIC are interchangeable. Two requests that differ only in how they spell PUBLIC
and that keep the rules make one client do the same: what is seen of the runs is the same, text by
text, both succeed or both fail, and what they report or complain about differs in nothing but the
spelling. Neither looks PUBLIC up among the roles.

The server is any that answers commands by their text, as a script of replies does.
-/
import PgGrants.Proofs.Gates

set_option autoImplicit false

namespace PgGrants

/-! ## 1. Requests in another spelling -/

/-- Both values are spellings of PUBLIC. -/
inductive Value.Respells : Value → Value → Prop where
  | intro {a b : String} (ha : Role.isPublic a = true) (hb : Role.isPublic b = true) :
      Respells (.text a) (.text b)

/-- The rule is the same, or one for PUBLIC in another spelling. -/
inductive SchemaRuleRequest.Respells (rule : SchemaRuleRequest) : SchemaRuleRequest → Prop where
  | same : Respells rule rule
  | respelt {role : Value} (h : rule.role.Respells role) : Respells rule { rule with role := role }

/-- The requests differ in how they spell PUBLIC: as the role of a grant or of default privileges,
and in any of the rules of a schema policy. -/
inductive RightsRequest.Respells : RightsRequest → RightsRequest → Prop where
  | grant {r : GrantRequest} {role : Value} (h : r.role.Respells role) :
      Respells (.grant r) (.grant { r with role := role })
  | defaults {r : DefaultsRequest} {role : Value} (h : r.role.Respells role) :
      Respells (.defaults r) (.defaults { r with role := role })
  | policy {r : PolicyRequest} {rules : List SchemaRuleRequest}
      (h : List.Forall₂ SchemaRuleRequest.Respells r.rules rules) (previous : Option Policy) :
      Respells (.policy r previous) (.policy { r with rules := rules } previous)

section Checked

/-- Names that are accepted in place of two spellings of PUBLIC are the same, loosely. -/
theorem Value.Respells.same {given given' : Value} (h : given.Respells given')
    {what role role' : String} (hrole : Declaration.nameIn given what = .ok role)
    (hrole' : Declaration.nameIn given' what = .ok role') : Spelling.loose.Same role role' := by
  cases h with
  | intro ha hb =>
    rw [Declaration.eq_of_nameIn hrole, Declaration.eq_of_nameIn hrole']
    exact .inr ⟨rfl, ha, hb⟩

theorem DeclaredGrant.alike_of_respells {r : GrantRequest} {role : Value}
    (h : r.role.Respells role) {declared other : DeclaredGrant} (hcheck : r.check = .ok declared)
    (hcheck' : { r with role := role }.check = .ok other) :
    DeclaredGrant.Alike .loose declared other := by
  obtain ⟨_, _, _, hrole, hdatabase, -, -, hobjects, -, rfl⟩ := GrantRequest.exists_of_check hcheck
  obtain ⟨_, _, _, hrole', hdatabase', -, -, hobjects', -, rfl⟩ :=
    GrantRequest.exists_of_check hcheck'
  -- the other fields are made of the same values
  cases Except.ok.inj (hdatabase.symm.trans hdatabase')
  cases Except.ok.inj (hobjects.symm.trans hobjects')
  exact .intro (h.same hrole hrole')

theorem DeclaredDefaults.alike_of_respells {r : DefaultsRequest} {role : Value}
    (h : r.role.Respells role) {declared other : DeclaredDefaults}
    (hcheck : r.check = .ok declared) (hcheck' : { r with role := role }.check = .ok other) :
    DeclaredDefaults.Alike .loose declared other := by
  obtain ⟨_, _, _, _, hrole, hdatabase, howner, -, hschema, -, rfl⟩ :=
    DefaultsRequest.exists_of_check hcheck
  obtain ⟨_, _, _, _, hrole', hdatabase', howner', -, hschema', -, rfl⟩ :=
    DefaultsRequest.exists_of_check hcheck'
  cases Except.ok.inj (hdatabase.symm.trans hdatabase')
  cases Except.ok.inj (howner.symm.trans howner')
  cases Except.ok.inj (hschema.symm.trans hschema')
  exact .intro (h.same hrole hrole')

theorem SchemaRule.alike_of_respells {r r' : SchemaRuleRequest} (h : r.Respells r')
    {rule rule' : SchemaRule} (hcheck : r.check = .ok rule) (hcheck' : r'.check = .ok rule') :
    SchemaRule.Alike .loose rule rule' := by
  cases h with
  | same =>
    rw [Except.ok.inj (hcheck.symm.trans hcheck')]
    exact .intro (.refl _)
  -- only the role is spelt otherwise; the rights were checked alike
  | respelt h =>
    have hrule := SchemaRuleRequest.eq_of_check hcheck
    obtain ⟨hrole, hrights⟩ := SchemaRuleRequest.mk.inj (SchemaRuleRequest.eq_of_check hcheck')
    subst hrule hrole
    obtain ⟨role', rights'⟩ := rule'
    cases hrights
    cases h with
    | intro ha hb => exact .intro (.inr ⟨rfl, ha, hb⟩)

theorem SchemaRule.alike_of_mapM_check {l l' : List SchemaRuleRequest}
    (h : List.Forall₂ SchemaRuleRequest.Respells l l') {rules rules' : List SchemaRule}
    (hcheck : l.mapM SchemaRuleRequest.check = .ok rules)
    (hcheck' : l'.mapM SchemaRuleRequest.check = .ok rules') :
    List.Forall₂ (SchemaRule.Alike .loose) rules rules' := by
  induction h generalizing rules rules' with
  | nil =>
    cases hcheck
    cases hcheck'
    exact .nil
  | cons hfirst _ ih =>
    rw [List.mapM_cons] at hcheck hcheck'
    obtain ⟨rule, hrule, hcheck⟩ := exists_of_bind_eq_ok hcheck
    obtain ⟨rest, hrest, hcheck⟩ := exists_of_bind_eq_ok hcheck
    obtain ⟨rule', hrule', hcheck'⟩ := exists_of_bind_eq_ok hcheck'
    obtain ⟨rest', hrest', hcheck'⟩ := exists_of_bind_eq_ok hcheck'
    cases hcheck
    cases hcheck'
    exact .cons (alike_of_respells hfirst hrule hrule') (ih hrest hrest')

theorem DeclaredPolicy.alike_of_respells {r : PolicyRequest} {rules : List SchemaRuleRequest}
    (h : List.Forall₂ SchemaRuleRequest.Respells r.rules rules) {declared other : DeclaredPolicy}
    (hcheck : r.check = .ok declared) (hcheck' : { r with rules := rules }.check = .ok other) :
    DeclaredPolicy.Alike .loose declared other := by
  obtain ⟨_, _, _, _, hdatabase, hschema, howner, hrules, rfl⟩ :=
    PolicyRequest.exists_of_check hcheck
  obtain ⟨_, _, _, _, hdatabase', hschema', howner', hrules', rfl⟩ :=
    PolicyRequest.exists_of_check hcheck'
  cases Except.ok.inj (hdatabase.symm.trans hdatabase')
  cases Except.ok.inj (hschema.symm.trans hschema')
  cases Except.ok.inj (howner.symm.trans howner')
  exact .intro (SchemaRule.alike_of_mapM_check h hrules hrules')

end Checked

theorem RightsRequest.Respells.alike {request request' : RightsRequest}
    (h : request.Respells request') {declared other : DeclaredRights}
    (hcheck : request.check = .ok declared) (hcheck' : request'.check = .ok other) :
    DeclaredRights.Alike .loose declared other := by
  cases h with
  | grant h =>
    obtain ⟨_, hchecked, rfl⟩ := exists_of_map_eq_ok hcheck
    obtain ⟨_, hchecked', rfl⟩ := exists_of_map_eq_ok hcheck'
    exact .grant (DeclaredGrant.alike_of_respells h hchecked hchecked')
  | defaults h =>
    obtain ⟨_, hchecked, rfl⟩ := exists_of_map_eq_ok hcheck
    obtain ⟨_, hchecked', rfl⟩ := exists_of_map_eq_ok hcheck'
    exact .defaults (DeclaredDefaults.alike_of_respells h hchecked hchecked')
  | policy h previous =>
    obtain ⟨_, hchecked, rfl⟩ := exists_of_map_eq_ok hcheck
    obtain ⟨_, hchecked', rfl⟩ := exists_of_map_eq_ok hcheck'
    exact .policy (DeclaredPolicy.alike_of_respells h hchecked hchecked') previous

/-! ## 2. Two runs

Two runs that differ in the spelling either stop at the same gate, or pass it and go on step by step
alike. The rest reads off the alike steps what can be seen of a run. -/

variable {σ : Type} [Server σ] {spelling : Spelling} {caps : Capabilities}

/-- What is seen of a step: its line in the log, and how the server failed to do it. -/
def Step.shown (step : Step) : Option String × Option Failure := (step.event.text?, step.failure)

/-- PUBLIC is looked up in none of the steps. -/
def LeavesPublic (steps : List Step) : Prop :=
  ∀ step ∈ steps, ∀ name, step.command? = some (.query (.role name)) →
    Role.isPublic (Role.orPublic name) = false

/-- Both succeed with reports that differ only in the spelling of the role, or both fail with
complaints that read the same. -/
inductive ComesToTheSame : Except Error Report → Except Error Report → Prop where
  | succeeded {report report' : Report} (h : Report.Alike .loose report report') :
      ComesToTheSame (.ok report) (.ok report')
  | failed {error error' : Error} (h : Error.Alike .loose error error')
      (hmessage : error.message = error'.message) : ComesToTheSame (.error error) (.error error')

theorem Step.Alike.shown_eq {step step' : Step} (h : Step.Alike spelling caps step step') :
    step.shown = step'.shown := by
  cases h <;> rfl

/-- A question is the same on both sides. -/
theorem Step.Alike.isProper_right {step step' : Step} (h : Step.Alike spelling caps step step') :
    step'.IsProper caps := by
  have hleft := h.isProper
  cases h with
  | quiet _ => exact hleft
  | sent hcommand =>
    cases hcommand with
    | query _ => exact hleft
    | _ => exact fun _ hquery => nomatch hquery

theorem LeavesPublic.of_isProper {steps : List Step} (h : ∀ step ∈ steps, step.IsProper caps) :
    LeavesPublic steps :=
  fun step hstep name hcommand => h step hstep (.role name) hcommand

/-- Neither the question for the version nor one about a database is about a role. -/
theorem LeavesPublic.of_mute {steps : List Step} (h : Mute Query.IsPreliminary steps) :
    LeavesPublic steps := by
  intro step hstep name hcommand
  rcases h step hstep with hquiet | ⟨query, hpreliminary, hasked⟩
  · rw [hquiet] at hcommand
    cases hcommand
  · rw [hasked] at hcommand
    cases hcommand
    exact hpreliminary.elim

theorem LeavesPublic.append {first second : List Step} (hfirst : LeavesPublic first)
    (hsecond : LeavesPublic second) : LeavesPublic (first ++ second) :=
  List.forall_mem_append.2 ⟨hfirst, hsecond⟩

omit [Server σ] in
/-- Runs that go on alike are seen alike. -/
theorem Proceeds.seen_alike {gates : List Gate} {c c' d' : Client σ}
    {outcome outcome' : Except Error Report} {steps steps' : List Step}
    (h : Proceeds .loose gates c c' d' outcome outcome' steps steps') :
    steps.map Step.shown = steps'.map Step.shown ∧ ComesToTheSame outcome outcome' ∧
      (c'.server = d'.server ∧ c'.engines = d'.engines ∧ c'.capabilities = d'.capabilities) ∧
      LeavesPublic steps ∧ LeavesPublic steps' := by
  cases h with
  -- up to the gate the spelling is nowhere used, so this is one run
  | stopped h heq =>
    have hleaves : LeavesPublic steps := by
      cases h with
      | unknown _ hmute _ => exact .of_mute hmute
      | refused hversion _ _ _ => exact .of_mute hversion.mute
    exact ⟨rfl, .failed (.refl _) rfl, ⟨congrArg _ heq, congrArg _ heq, congrArg _ heq⟩, hleaves,
      hleaves⟩
  | @passed caps _ _ first rest rest' hversion _ hagrees hrest hends =>
    have hfirst : LeavesPublic first := .of_mute hversion.mute
    have hshown : rest.map Step.shown = rest'.map Step.shown := by
      induction hrest with
      | nil => rfl
      | cons hstep _ ih => rw [List.map_cons, List.map_cons, hstep.shown_eq, ih]
    -- questions are proper in both runs, and a proper one is never about PUBLIC
    have hproper : ∀ step ∈ rest, step.IsProper caps :=
      ((List.forall₂_and_left _ _).1 (hrest.imp fun _ _ h => ⟨h.isProper, h⟩)).1
    have hproper' : ∀ step ∈ rest', step.IsProper caps :=
      ((List.forall₂_and_left _ _).1 (hrest.imp fun _ _ h => ⟨h.isProper_right, h⟩).flip).1
    refine ⟨?_, ?_, ⟨hagrees.server, hagrees.engines, hagrees.left.trans hagrees.right.symm⟩,
      hfirst.append (.of_isProper hproper), hfirst.append (.of_isProper hproper')⟩
    · rw [List.map_append, List.map_append, hshown]
    · cases hends with
      | ok h => exact .succeeded h
      | error h _ => exact .failed h h.message_eq

/-- However PUBLIC is spelt in a request, the client sends the same texts in the same order, comes
to the same and is left in the same state, and PUBLIC is not looked up. -/
theorem RightsRequest.public_spellings_interchange (hserver : ReadsText σ)
    {request request' : RightsRequest} {declared other : DeclaredRights}
    (hcheck : request.check = .ok declared) (hcheck' : request'.check = .ok other)
    (hrespells : request.Respells request') (verb : Verb) (c : Client σ) :
    ∃ outcome outcome' steps steps' c' d',
      Runs (request.run verb) c outcome steps c' ∧ Runs (request'.run verb) c outcome' steps' d' ∧
        steps.map Step.shown = steps'.map Step.shown ∧ ComesToTheSame outcome outcome' ∧
        (c'.server = d'.server ∧ c'.engines = d'.engines ∧ c'.capabilities = d'.capabilities) ∧
        LeavesPublic steps ∧ LeavesPublic steps' := by
  obtain ⟨outcome, outcome', steps, steps', c', d', hrun, hrun', hproceeds⟩ :=
    runs_alike hserver.isIgnored hcheck hcheck' (hrespells.alike hcheck hcheck') verb c
  exact ⟨outcome, outcome', steps, steps', c', d', hrun, hrun', hproceeds.seen_alike⟩

/-- A client of a server of version 16 on which there is a table `users` in a schema `s`. -/
def scriptedClient : Client Script :=
  Client.new ⟨"postgres", some "16", "postgresql", "psycopg"⟩ ⟨[
    .rows [[.text "app", .text "postgres", .list []]],
    .rows [[.text "s", .text "owner_role", .list []]],
    .rows [[.text "users", .text "owner_role", .list []]],
    .rows [[.text "s", .text "owner_role", .list []]],
    .rows [[.text "owner_role"]]]⟩

/-- A request that everybody may read a table, with this spelling of PUBLIC. -/
def usersForAll (role : String) : RightsRequest :=
  .grant {
    role := .text role
    database := .text "app"
    kind := .table
    privileges := .ofList ["SELECT"]
    schema := .text "s"
    objects := .texts (.ofList ["users"])
    grantOption := .off }

/-- The grant that this request declares. -/
def usersDeclaredForAll (role : String) : DeclaredRights :=
  .grant {
    role := role
    database := "app"
    kind := .table
    privileges := .ofList ["SELECT"]
    schema := .text "s"
    objects := .ofList ["users"]
    grantOption := .off }

/-- A script of replies reads nothing but texts, so two spellings lead it the same way. -/
theorem RightsRequest.two_spellings_send_alike :
    ReadsText Script ∧ (usersForAll "public").check = .ok (usersDeclaredForAll "public") ∧
      (usersForAll " PUBLIC").check = .ok (usersDeclaredForAll " PUBLIC") ∧
      (usersForAll "public").Respells (usersForAll " PUBLIC") ∧
      ∃ outcome outcome' steps steps' c' d',
        Runs ((usersForAll "public").run .sync) scriptedClient outcome steps c' ∧
          Runs ((usersForAll " PUBLIC").run .sync) scriptedClient outcome' steps' d' ∧
          steps.map Step.shown = steps'.map Step.shown ∧ ComesToTheSame outcome outcome' ∧
          (c'.server = d'.server ∧ c'.engines = d'.engines ∧ c'.capabilities = d'.capabilities) ∧
          LeavesPublic steps ∧ LeavesPublic steps' := by
  have hserver : ReadsText Script := fun _ _ _ _ => rfl
  have hcheck : (usersForAll "public").check = .ok (usersDeclaredForAll "public") := by rfl
  have hcheck' : (usersForAll " PUBLIC").check = .ok (usersDeclaredForAll " PUBLIC") := by rfl
  have hrespells : (usersForAll "public").Respells (usersForAll " PUBLIC") :=
    .grant (.intro (by decide) (by decide))
  exact ⟨hserver, hcheck, hcheck', hrespells,
    public_spellings_interchange hserver hcheck hcheck' hrespells .sync scriptedClient⟩

end PgGrants
