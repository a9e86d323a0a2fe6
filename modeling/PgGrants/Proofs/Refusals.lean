/-
Refusals come first. A declaration that breaks the rules is refused before anything happens, and a
feature that the server does not have is complained about when nothing was sent but, at most, the
question for the version. After that nothing is refused any more, whatever the server answers: not
while its answers are read, nor while statements are planned, nor in reading back what was written.

What is read is built without the check that declared holdings go through. That leaves nothing out:
every holding that is built is one that the check would accept as it is.
-/
import PgGrants.Proofs.Gates
import PgGrants.Proofs.NormalForms
import PgGrants.Proofs.Observed

set_option autoImplicit false

namespace PgGrants

/-! ## 1. Holdings that the check accepts -/

/-- Built from its own tokens, which are brought to normal form and checked for that, the holding is
accepted, and is the same. -/
def Holding.IsAccepted (h : Holding) : Prop :=
  Holding.ofSets h.role (Privilege.normalize h.privileges.toList)
    (Privilege.normalize h.grantOptions.toList) = .ok h

/-- Every holding in the policy is accepted. -/
def Policy.IsAccepted (p : Policy) : Prop := ∀ key h, p.find? key = some h → h.IsAccepted

/-- Every privilege is named by a token in normal form. -/
def Holding.IsNormal (h : Holding) : Prop :=
  ∀ token ∈ h.privileges, Privilege.normalForm token = token

theorem Privilege.normalize_toList {tokens : TextSet}
    (h : ∀ token ∈ tokens, normalForm token = token) : normalize tokens.toList = tokens := by
  rw [normalize_eq_ofList h, TextSet.ofList_toList]

namespace Holding.IsNormal

variable {h k : Holding}

/-- Grant options are of privileges that are held, so only the form of the tokens matters. -/
theorem isAccepted (hh : h.IsNormal) : h.IsAccepted := by
  unfold IsAccepted
  rw [Privilege.normalize_toList hh,
    Privilege.normalize_toList fun token htoken => hh token (h.options_subset token htoken), ofSets,
    dif_pos h.options_subset]

theorem join (hh : h.IsNormal) (hk : k.IsNormal) : (h.join k).IsNormal := by
  intro token htoken
  rcases TextSet.mem_union.1 htoken with htoken | htoken
  · exact hh token htoken
  · exact hk token htoken

end Holding.IsNormal

/-- Letters stand for tokens in normal form. -/
theorem AclItem.isNormal_of_parse {text : String} {item : AclItem}
    (h : AclItem.parse text = .ok item) : item.holding.IsNormal := by
  intro token htoken
  have hnormal : ∀ entry ∈ letters, Privilege.normalForm entry.2 = entry.2 := by
    decide +kernel
  obtain ⟨entry, hentry, heq⟩ := List.any_eq_true.1 ((parse_has_letters h).2 token htoken)
  rw [← beq_iff_eq.1 heq]
  exact hnormal entry hentry

theorem Catalog.isAccepted_cellPolicy {cell : Value} {p : Policy} (h : cellPolicy cell = .ok p) :
    p.IsAccepted :=
  fun key found hfound => (forall_cellPolicy (fun _ _ hh hk => Holding.IsNormal.join hh hk)
    (fun _ _ => AclItem.isNormal_of_parse) h key found hfound).isAccepted

theorem SchemaRule.isNormal_holding (rule : SchemaRule) : rule.holding.IsNormal := by
  intro token htoken
  rcases SchemaRights.mem_privileges htoken with rfl | rfl
  · decide
  · decide

theorem DeclaredPolicy.isAccepted_policy (declared : DeclaredPolicy) :
    declared.policy.IsAccepted := by
  intro key found hfound
  refine (Policy.forall_ofHoldings (fun _ _ hh hk => Holding.IsNormal.join hh hk)
    (fun h hh => ?_) key found hfound).isAccepted
  obtain ⟨rule, -, rfl⟩ := List.mem_map.1 hh
  exact rule.isNormal_holding

/-! ## 2. Calls that refuse nothing

A call refuses nothing if no input makes it raise a refusal. Two runs of one call that match
themselves show it, since errors that match are no refusals. -/

variable {σ α β : Type} [Server σ]

/-- Whatever comes of the call, it is no refusal. -/
def RefusesNothing (call : Call σ α) : Prop :=
  ∀ c, ∃ outcome steps c', Runs call c outcome steps c' ∧ IsPlain outcome

namespace RefusesNothing

theorem pure (a : α) : RefusesNothing (Pure.pure a : Call σ α) :=
  fun c => ⟨_, _, _, .pure a c, .ok a⟩

theorem bind {call : Call σ α} {next : α → Call σ β} (hcall : RefusesNothing call)
    (hnext : ∀ a, RefusesNothing (next a)) : RefusesNothing (call >>= next) := by
  intro c
  obtain ⟨outcome, first, c₁, hrun, hplain⟩ := hcall c
  cases outcome with
  | error error => exact ⟨_, _, _, hrun.bind_error, .error (hplain error rfl)⟩
  | ok a =>
    obtain ⟨outcome, second, c₂, hrun', hplain'⟩ := hnext a c₁
    exact ⟨_, _, _, hrun.bind hrun', hplain'⟩

theorem holding {call : Call σ α} (shared : Bool) (access : Access) (h : RefusesNothing call) :
    RefusesNothing (Call.holding shared access call) := by
  unfold Call.holding
  split
  · intro c
    obtain ⟨outcome, steps, c', hrun, hplain⟩ := h (c.noted (.locked access))
    exact ⟨_, _, _, hrun.between (fun _ => rfl) (fun _ => rfl), hplain⟩
  · exact h

/-- Work that matches itself on every server refuses nothing, nor does finding out what the server
can do. -/
theorem inDatabase {work : Session σ α} {related : α → α → Prop}
    (h : ∀ caps, Matches .exact caps work work related) (database : Option String) :
    RefusesNothing (Call.inDatabase database work) := by
  intro c
  obtain ⟨outcome, first, c₁, hfound, hfinds⟩ := runs_findingOut c
  cases hfinds with
  | failed hrefusal _ _ => exact ⟨_, first, c₁, hfound.bind_error, .error hrefusal⟩
  | @found caps _ _ hknown =>
    obtain ⟨outcome, _, steps, _, c', _, hrun, _, _, _, hends⟩ :=
      Call.Matches.inDatabase (h caps) database c₁ c₁ ⟨rfl, rfl, rfl, hknown, hknown⟩
    exact ⟨outcome, first ++ steps, c', hfound.findingOutFirst hknown hrun, hends.isPlain⟩

end RefusesNothing

/-! ## 3. Every operation -/

/-- An operation of a client. -/
inductive Operation where
  | rights (verb : Verb) (request : RightsRequest)
  | membership (verb : Verb) (request : MembershipRequest)

/-- Does what is asked for about a membership; what it reports is of no matter here. -/
def MembershipRequest.run : Verb → MembershipRequest → Call σ Unit
  | .sync, r => do let _ ← r.sync
  | .read, r => do let _ ← r.read
  | .revoke, r => r.revoke

namespace Operation

/-- What the rules say to the declaration. -/
def check : Operation → Except Invalid Unit
  | .rights _ request => request.check.map fun _ => ()
  | .membership _ request => request.check.map fun _ => ()

/-- Does the operation. -/
def run : Operation → Call σ Unit
  | .rights verb request => do let _ ← request.run verb
  | .membership verb request => request.run verb

end Operation

/-- An accepted membership is refused nothing. -/
theorem MembershipRequest.refusesNothing {r : MembershipRequest} {declared : DeclaredMembership}
    (h : r.check = .ok declared) (verb : Verb) : RefusesNothing (r.run verb : Call σ Unit) := by
  -- every verb but the revocation reads in the end
  have hread : RefusesNothing (r.read (σ := σ)) := by
    unfold MembershipRequest.read
    rw [h]
    exact (RefusesNothing.inDatabase (fun _ => declared.matches_observe) none).holding true .read
      |>.bind fun _ => .pure _
  cases verb with
  | read => exact hread.bind fun _ => .pure ()
  | sync =>
    show RefusesNothing (do let _ ← r.sync)
    rw [r.sync_eq, h]
    have hwrite := RefusesNothing.inDatabase (σ := σ) (fun _ =>
      Matches.carryOut Spelling.isIgnored_exact declared.matches_syncJob) none
    exact ((hwrite.holding true .write).bind fun _ => hread).bind fun _ => .pure ()
  | revoke =>
    show RefusesNothing r.revoke
    rw [r.revoke_eq, h]
    have hwrite := RefusesNothing.inDatabase (σ := σ) (fun _ =>
      Matches.carryOut Spelling.isIgnored_exact declared.matches_revokeJob) none
    exact hwrite.holding true .write

theorem MembershipRequest.runs_invalid {r : MembershipRequest} {cause : Invalid}
    (h : r.check = .error cause) (verb : Verb) (c : Client σ) :
    Runs (r.run verb) c (.error (.invalid cause)) [] c := by
  have hrefused : Runs (Call.ofOutcome (r.check.mapError .invalid) : Call σ _) c
      (.error (.invalid cause)) [] c := by
    rw [h]
    exact .ofOutcome (.error (.invalid cause)) c
  cases verb with
  | revoke => exact hrefused.bind_error
  | _ => exact hrefused.bind_error.bind_error

/-- How an operation goes, as far as refusals are concerned. -/
inductive Refuses (c : Client σ) (check : Except Invalid Unit) :
    Except Error Unit → List Step → Prop where
  | invalid {cause : Invalid} (h : check = .error cause) :
      Refuses c check (.error (.invalid cause)) []
  | unsupported {steps : List Step} (h : check = .ok ()) (hversion : FindsVersion c steps)
      (feature : Feature) (operation : String) (version : Version) :
      Refuses c check (.error (.unsupported feature operation version)) steps
  | nothing {outcome : Except Error Unit} {steps : List Step} (h : check = .ok ())
      (hplain : IsPlain outcome) : Refuses c check outcome steps

theorem Operation.runs_refuses (operation : Operation) (c : Client σ) :
    ∃ outcome steps c', Runs operation.run c outcome steps c' ∧
      Refuses c operation.check outcome steps := by
  cases operation with
  | membership verb request =>
    cases hcheck : request.check with
    | error cause =>
      exact ⟨_, _, c, request.runs_invalid hcheck verb c, .invalid (congrArg (Except.map _) hcheck)⟩
    | ok declared =>
      obtain ⟨outcome, steps, c', hrun, hplain⟩ := request.refusesNothing hcheck verb c
      exact ⟨outcome, steps, c', hrun, .nothing (congrArg (Except.map _) hcheck) hplain⟩
  | rights verb request =>
    cases hcheck : request.check with
    | error cause =>
      exact ⟨_, _, c, (request.runs_invalid hcheck verb c).bind_error,
        .invalid (congrArg (Except.map _) hcheck)⟩
    | ok declared =>
      have haccepted : (Operation.rights verb request).check = .ok () :=
        congrArg (Except.map _) hcheck
      obtain ⟨outcome, steps, c', hrun, hpasses⟩ := request.runs_passes hcheck verb c
      -- stopped at the gates, or let through and plain from then on
      cases hpasses with
      | stopped hadmits =>
        refine ⟨_, steps, c', hrun.bind_error, ?_⟩
        cases hadmits with
        | unknown hrefusal _ _ => exact .nothing haccepted (.error hrefusal)
        | refused hversion _ _ _ => exact .unsupported haccepted hversion _ _ _
      | passed _ _ _ _ hplain =>
        cases outcome with
        | error error =>
          exact ⟨_, _, c', hrun.bind_error, .nothing haccepted (.error (hplain error rfl))⟩
        | ok report =>
          exact ⟨_, _, c', hrun.bind (.pure () c'), .nothing haccepted (.ok ())⟩

/-- Whatever a client is asked to do, and whatever the server answers, the declaration is complained
about exactly when it breaks the rules, and then nothing at all happens; a feature is complained
about when at most the version was asked for. What the server says and what a declaration says of
holdings never fails the check of holdings. -/
theorem refusals_come_first :
    (∀ (operation : Operation) (c : Client σ), ∃ outcome steps c',
      Runs operation.run c outcome steps c' ∧
        (∀ cause, outcome = .error (.invalid cause) ↔ operation.check = .error cause) ∧
        (∀ cause, outcome = .error (.invalid cause) → steps = []) ∧
        ∀ feature needed version, outcome = .error (.unsupported feature needed version) →
          FindsVersion c steps) ∧
      (∀ cell p, Catalog.cellPolicy cell = .ok p → p.IsAccepted) ∧
      ∀ declared : DeclaredPolicy, declared.policy.IsAccepted := by
  refine ⟨fun operation c => ?_, fun _ _ => Catalog.isAccepted_cellPolicy,
    fun declared => declared.isAccepted_policy⟩
  obtain ⟨outcome, steps, c', hrun, hrefuses⟩ := operation.runs_refuses c
  refine ⟨outcome, steps, c', hrun, ?_⟩
  cases hrefuses with
  | invalid h =>
    refine ⟨fun cause => ?_, fun _ _ => rfl, fun _ _ _ heq => (nomatch heq)⟩
    rw [h, Except.error.injEq, Except.error.injEq, Error.invalid.injEq]
  | unsupported h hversion =>
    refine ⟨fun cause => ⟨fun heq => (nomatch heq), fun heq => ?_⟩, fun _ heq => (nomatch heq),
      fun _ _ _ _ => hversion⟩
    rw [h] at heq
    cases heq
  | nothing h hplain =>
    -- no complaint of either sort is plain
    refine ⟨fun cause => ⟨fun heq => ?_, fun heq => ?_⟩, fun cause heq => ?_,
      fun feature needed version heq => ?_⟩
    · cases hplain _ heq
    · rw [h] at heq
      cases heq
    · cases hplain _ heq
    · cases hplain _ heq

end PgGrants
