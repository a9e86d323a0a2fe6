/-
Privilege tokens that are taken as they are given, without bringing them to normal form. There may
be something among them that is no text; it is a member of the set like any other.
-/
import PgGrants.Error
import PgGrants.Members

set_option autoImplicit false

namespace PgGrants

namespace Privilege

/-- Accepts the tokens that exist on the kind. They are gone through in ascending order, and the
complaint is about the first other one. -/
def checkValue (kind : ObjectKind) (given : Value) : Except Error Unit := do
  let tokens ← (do Value.sorted (← given.iterate)).mapError .mistyped
  match tokens.find? fun v => !v.text?.any (isAllowed kind) with
  | some v =>
    if v.canBeMember then throw (.invalid (.unknownPrivilege v kind))
    else throw (.mistyped (.notMember v))
  | none => return

/-- The tokens with `ALL` replaced by the vocabulary it stands for. -/
def expandMembers (kind : ObjectKind) (tokens : Members) (caps : Option Capabilities) : Members :=
  match tokens with
  | .texts tokens => .texts (expand kind tokens caps)
  | .mixed tokens =>
    if tokens.any (Value.isText all) then
      let others := tokens.filter fun v => !v.isText all
      .mixed (Members.distinct (others ++ (knownVocabulary kind caps).toList.map Value.text))
    else .mixed tokens

/-- Two sets of tokens mean the same on the kind. -/
def sameMembers (kind : ObjectKind) (observed wanted : Members) (caps : Option Capabilities) :
    Bool :=
  (expandMembers kind observed caps).same (expandMembers kind wanted caps)

end Privilege

end PgGrants
