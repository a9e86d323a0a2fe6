/-
What operations on grants and on default privileges look for: the role, the schema and the targets
of a grant; the role, the owner and the schema of default privileges. Reading complains about what
is missing, gives nothing, or asks role by role; each of the ways comes to the same questions in the
same order, with the same verdict.
-/
import PgGrants.Proofs.Misreadings
import PgGrants.Proofs.Searching
import PgGrants.Proofs.Settling

set_option autoImplicit false

namespace PgGrants

/-! ## 1. What is looked for -/

/-- The question for objects of the kind is limited to the kind, by what the server can do. -/
def ObjectKind.isLimited (kind : ObjectKind) (caps : Capabilities) : Bool :=
  match kind.catalog.kindColumn with
  | none => false
  | some column => if column = "prokind" then caps.supports .prokind else true

namespace LookUp

/-- Is there an object of the kind with this name? -/
def ofObject (kind : ObjectKind) (name : String) : LookUp where
  query := .objects kind none [some name] false
  judge rows := .ok !rows.isEmpty

/-- Is there a role with this name? -/
def ofRole (name : String) : LookUp where
  query := .role name
  judge rows :=
    match rows.head? with
    | none => .ok false
    | some row => (Catalog.rowRole row).map fun _ => true

/-- A role is asked for unless it is PUBLIC. -/
def ofRoles (name : String) : List LookUp :=
  if Role.isPublic (Role.orPublic name) then [] else [ofRole name]

/-- Is each of the targets among the objects of the kind? -/
def ofTargets (declared : DeclaredGrant) (caps : Capabilities) : LookUp where
  query := .objects declared.kind declared.targetSchema (declared.targets.map some)
    (declared.kind.isLimited caps)
  judge rows := do
    let found ← rows.mapM Catalog.rowObject
    return declared.targets.all fun name => found.any fun row => row.name == some name

end LookUp

/-- What a grant is about inside its database: the role, the schema, and the targets. -/
def DeclaredGrant.lookUps (declared : DeclaredGrant) (caps : Capabilities) : List LookUp :=
  LookUp.ofRoles declared.role ++
    ((if declared.kind.inSchema then [LookUp.ofObject .schema (declared.schemaName.getD "")]
      else []) ++ [LookUp.ofTargets declared caps])

/-- What default privileges are about inside their database: the role, the owner and the schema. -/
def DeclaredDefaults.lookUps (declared : DeclaredDefaults) : List LookUp :=
  LookUp.ofRoles declared.role ++ (LookUp.ofRoles declared.owner ++
    declared.schema.toList.map (LookUp.ofObject .schema))

/-! ## 2. What operations look for -/

variable {σ : Type} [Server σ] {caps : Capabilities}

section Operations

open Session

theorem Course.limitsKind (kind : ObjectKind) (server : σ) :
    Course caps (Session.limitsKind kind : Session σ Bool) server (.ok (kind.isLimited caps)) []
      server := by
  unfold Session.limitsKind ObjectKind.isLimited
  cases kind.catalog.kindColumn with
  | none => exact .ofOutcome (.ok false) server
  | some column =>
    dsimp only
    split
    · exact (Course.capabilities server).bind_ok (.ofOutcome (.ok _) server)
    · exact .ofOutcome (.ok true) server

theorem hasObject_eq {kind : ObjectKind} (hkind : kind.catalog.kindColumn = none) (name : String) :
    (hasObject kind name none : Session σ Bool) = (do
      let rows ← ask (LookUp.ofObject kind name).query
      ofOutcome (.ok !rows.isEmpty)) := by
  have hlimits : (limitsKind kind : Session σ Bool) = pure false := by
    unfold limitsKind
    rw [hkind]
  unfold hasObject askObjects
  rw [hlimits, pure_bind]
  rfl

theorem seeks_hasObject {kind : ObjectKind} (hkind : kind.catalog.kindColumn = none)
    (name : String) :
    Seeks caps (hasObject kind name none : Session σ Bool) [LookUp.ofObject kind name]
      Verdict.IsTold := by
  rw [hasObject_eq hkind]
  refine .ask (fun error hplain => ⟨rfl, hplain⟩) fun rows => ?_
  cases rows with
  | nil => rfl
  | cons row rest => rfl

theorem seeks_hasRole (role : String) :
    Seeks caps (hasRole role : Session σ Bool) (LookUp.ofRoles role) Verdict.IsTold := by
  unfold LookUp.ofRoles hasRole lookUpRole
  split
  · -- PUBLIC is there, and nothing is asked
    exact fun server => ⟨[], .found, .ok true, server, .nothing, rfl, .ofOutcome (.ok true) server⟩
  -- the look-up is one question, and its answer is read without another
  · have hasked : (return (← findRole role).isSome : Session σ Bool) = (do
        let rows ← ask (LookUp.ofRole role).query
        ofOutcome ((LookUp.ofRole role).judge rows)) := by
      unfold findRole LookUp.ofRole
      simp only [bind_assoc]
      refine bind_congr fun rows => ?_
      cases rows.head? with
      | none => rfl
      | some row =>
        dsimp only
        cases Catalog.rowRole row with
        | error error => rfl
        | ok identity => rfl
    rw [hasked]
    refine .ask (fun error hplain => ⟨rfl, hplain⟩) fun rows => ?_
    unfold LookUp.ofRole
    dsimp only
    cases rows.head? with
    | none => rfl
    | some row =>
      have hmisreads := onlyMisreads_rowRole row
      dsimp only
      cases hrole : Catalog.rowRole row with
      | error error => exact ⟨rfl, Error.isNotFound_of_isMisreading (hmisreads error hrole)⟩
      | ok identity => rfl

theorem seeks_needSchema (schema : String) :
    Seeks caps (needSchema schema : Session σ Unit) [LookUp.ofObject .schema schema]
      Verdict.IsRaised :=
  (seeks_hasObject rfl schema).need _ _

theorem seeks_needRole (role : String) :
    Seeks caps (needRole role : Session σ Unit) (LookUp.ofRoles role) Verdict.IsRaised :=
  (seeks_hasRole role).need _ _

/-- The names of the targets without a row. -/
def DeclaredGrant.missingFrom (declared : DeclaredGrant) (rows : List AclRow) : TextSet :=
  (TextSet.ofList declared.targets).filter fun name => !rows.any fun row => row.name == some name

theorem DeclaredGrant.isEmpty_missingFrom (declared : DeclaredGrant) (rows : List AclRow) :
    (declared.missingFrom rows).isEmpty =
      declared.targets.all fun name => rows.any fun row => row.name == some name := by
  rw [Bool.eq_iff_iff, TextSet.isEmpty_iff, TextSet.ext_iff, missingFrom]
  simp

/-- The rows of the targets are read, and those without a row are complained about. -/
theorem seeks_rowsOfTargets (declared : DeclaredGrant) :
    Seeks caps (do
      let rows ← aclRows (σ := σ) declared.kind declared.targetSchema (declared.targets.map some)
      unless (declared.missingFrom rows).isEmpty do
        throw (.notFound declared.kind.phrase (Invalid.commaList (declared.missingFrom rows)))
      return rows) [LookUp.ofTargets declared caps] Verdict.IsRaised := by
  -- reading the rows and comparing the names puts no question either
  have hread : (do
        let rows ← ask (LookUp.ofTargets declared caps).query
        let found ← ofOutcome (rows.mapM Catalog.rowObject)
        unless (declared.missingFrom found).isEmpty do
          throw (.notFound declared.kind.phrase (Invalid.commaList (declared.missingFrom found)))
        return found) = (do
        let rows ← ask (LookUp.ofTargets declared caps).query
        ofOutcome (rows.mapM Catalog.rowObject >>= fun found =>
          if (declared.missingFrom found).isEmpty then .ok found
          else .error (.notFound declared.kind.phrase
            (Invalid.commaList (declared.missingFrom found)))) : Session σ (List AclRow)) := by
    refine bind_congr fun rows => ?_
    cases rows.mapM Catalog.rowObject with
    | error error => rfl
    | ok found =>
      show _ = ofOutcome (if (declared.missingFrom found).isEmpty then _ else _)
      rw [show (ofOutcome (.ok found) : Session σ (List AclRow)) = pure found from rfl, pure_bind]
      cases (declared.missingFrom found).isEmpty with
      | true => rfl
      | false => rfl
  -- whether to limit the kind is settled before, from what is known
  unfold aclRows askObjects
  simp only [bind_assoc]
  refine .after (Course.limitsKind declared.kind) ?_
  show Seeks caps (do
    let rows ← ask (LookUp.ofTargets declared caps).query
    let found ← ofOutcome (rows.mapM Catalog.rowObject)
    unless (declared.missingFrom found).isEmpty do
      throw (.notFound declared.kind.phrase (Invalid.commaList (declared.missingFrom found)))
    return found) _ _
  rw [hread]
  refine .ask (fun error hplain => ⟨rfl, hplain⟩) fun rows => ?_
  have hmisreads := OnlyMisreads.mapM onlyMisreads_rowObject rows
  unfold LookUp.ofTargets
  dsimp only
  cases hrows : rows.mapM Catalog.rowObject with
  | error error => exact ⟨rfl, Error.isNotFound_of_isMisreading (hmisreads error hrows)⟩
  | ok found =>
    show Verdict.IsRaised (.of (.ok _)) (if (declared.missingFrom found).isEmpty then _ else _)
    rw [← declared.isEmpty_missingFrom]
    cases (declared.missingFrom found).isEmpty with
    | true => exact ⟨_, rfl⟩
    | false => exact ⟨_, _, rfl⟩

namespace DeclaredGrant

theorem seeks_targetRows (declared : DeclaredGrant) :
    Seeks caps (declared.targetRows : Session σ (List AclRow))
      ((if declared.kind.inSchema then [LookUp.ofObject .schema (declared.schemaName.getD "")]
        else []) ++ [LookUp.ofTargets declared caps]) Verdict.IsRaised := by
  unfold targetRows
  cases declared.kind.inSchema with
  | true => exact (seeks_needSchema _).bind fun _ => seeks_rowsOfTargets declared
  | false => exact seeks_rowsOfTargets declared

theorem seeks_readTargets (declared : DeclaredGrant) :
    Seeks caps (declared.readTargets : Session σ (List AclRow)) (declared.lookUps caps)
      Verdict.IsRaised :=
  (seeks_needRole declared.role).bind fun _ => declared.seeks_targetRows

theorem seeks_targetRows? (declared : DeclaredGrant) :
    Seeks caps (declared.targetRows? : Session σ (Option (List AclRow))) (declared.lookUps caps)
      Verdict.IsGiven :=
  (seeks_hasRole declared.role).whenThere declared.seeks_targetRows.unlessMissing

end DeclaredGrant

theorem DeclaredDefaults.seeks_needTarget (declared : DeclaredDefaults) :
    Seeks caps (declared.needTarget : Session σ Unit) declared.lookUps Verdict.IsRaised := by
  refine (seeks_needRole declared.role).bind fun _ => ?_
  refine (seeks_needRole declared.owner).bind fun _ => ?_
  cases declared.schema with
  | none => exact .pure ()
  | some schema => exact seeks_needSchema schema

end Operations

end PgGrants
