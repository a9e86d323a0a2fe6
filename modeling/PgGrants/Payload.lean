/-
Things of the domain from payload values. Numbers, versions, names of kinds and of features, access
control items, holdings and policies may all arrive as any value; here they are read, or refused
with what is wrong about the value.
-/
import PgGrants.Error
import PgGrants.Members

set_option autoImplicit false

namespace PgGrants

/-! ## Numbers, versions and names -/

/-- The value as a whole number: a number is cut at the point, a text must write one. -/
def Value.toInteger : Value → Except Error Int
  | .bool b => .ok (if b then 1 else 0)
  | .int n => .ok n
  | .real d => .ok d.truncate
  | .text s =>
    match Text.readInteger s with
    | .ok n => .ok n
    | .error .malformed => .error (.notInteger s)
    | .error (.tooLong count) => .error (.tooManyDigits count)
  | v => .error (.mistyped (.notNumber v))

/-- The version of a number as a server reports it. -/
def Version.ofReport (reported : Value) : Except Error Version :=
  return ofNumber (← reported.toInteger)

/-- The version in a text, or in what messages show of another value. -/
def Version.ofText (given : Value) : Except Error Version :=
  match find given.plain with
  | .ok version => .ok version
  | .error .absent => .error (.noVersion given)
  | .error (.tooLong count) => .error (.tooManyDigits count)

/-- The feature with exactly the name that a payload value is. -/
def Feature.ofValue (given : Value) : Except Error Feature :=
  match given.text?.bind ofName? with
  | some feature => .ok feature
  | none => .error (.unknownFeature given)

/-- The kind of object with exactly the name that a payload value is. -/
def ObjectKind.named (given : Value) : Except Error ObjectKind :=
  match given.text?.bind ofName? with
  | some kind => .ok kind
  | none => .error (.unknownKindName given)

/-! ## Access control items -/

namespace AclItem

/-- What keeps a list from being an item. Its items are gone through like the characters of a text,
but the sign after the first name is never found among them. -/
def listFault (items : List Value) : Error :=
  match items with
  | .text "\"" :: rest =>
    let name := rest.takeWhile fun v => !v.isText "\""
    if name.length = rest.length then .aclItem (.unterminatedName (.list items))
    else
      match name.zipIdx.find? fun (v, _) => v.text?.isNone with
      | some (v, place) => .mistyped (.notText place v)
      | none => .aclItem (.missingEquals (.list items))
  | _ =>
    match items.find? fun v => v.isText "" || v.isText "=" || v.text?.isNone with
    | some (.text _) => .aclItem (.missingEquals (.list items))
    | some v => .mistyped (.notSought v)
    | none => .aclItem (.missingEquals (.list items))

/-- The item that a payload value writes; only a text writes one. -/
def ofValue : Value → Except Error AclItem
  | .text s => (parse s).mapError .aclItem
  | .list items => .error (listFault items)
  | .record [] => .error (.mistyped .notSliced)
  | .record _ => .error (.absentKey (.int 0))
  | v => .error (.mistyped (.noLength v))

/-- What keeps an item of a list from being part of a plain name, if anything does. -/
def wordFault (given item : Value) : Option Mistyped :=
  match item with
  | .text word =>
    if isPlainName word.toList && (word == "_" || !word.toList.contains '_') then none
    else some (.notQuotable given)
  | _ => some (.notSpelt item)

/-- A name as an item writes it, the name being a payload value. A list of plain words needs no
quotes and is written the way messages show it. -/
def writeNameOf (given : Value) : Except Mistyped String :=
  match given with
  | .text name => .ok (writeName name)
  | _ =>
    if given.isTrue then do
      match (← given.iterate).findSome? (wordFault given) with
      | some fault => throw fault
      | none => return given.plain
    else .error (.notQuotable given)

/-- The text of an item made of payload values. -/
def writeValues (grantee privileges grantor grantOptions : Value) : Except Error String := do
  let options ← (Members.ofValue grantOptions).mapError .mistyped
  let tokens ← privileges.iterate.mapError .mistyped
  match tokens.find? fun v => !v.text?.any isPrivilege with
  | some v => throw (.unlettered v)
  | none =>
    let granteeText ←
      if grantee matches .null || grantee.isText Role.publicKey then pure ""
      else (writeNameOf grantee).mapError .mistyped
    let grantorText ← (writeNameOf grantor).mapError .mistyped
    return assemble granteeText (tokens.filterMap Value.text?)
      (options.values.filterMap Value.text?) grantorText

end AclItem

/-! ## Holdings and policies -/

namespace Holding

/-- The fields of a holding. -/
def signature : Signature := ⟨"RolePrivileges", ["role"], ["privileges", "grant_options"]⟩

/-- The holding that payload values make, their tokens being brought to normal form. -/
def ofValues (role privileges grantOptions : Value) : Except Error Holding := do
  let privileges ← (Privilege.normalizeValue privileges).mapError .mistyped
  let grantOptions ← (Privilege.normalizeValue grantOptions).mapError .mistyped
  let _ ← (Role.nameOfValue role).mapError .mistyped
  (ofSets role.text? privileges grantOptions).mapError .invalid

/-- The holding that a payload value makes, which is a record of its fields. -/
def ofValue (given : Value) : Except Error Holding := do
  let fields ← (signature.fieldsOf given).mapError .mistyped
  ofValues (fields.given "role") (fields.get "privileges" (.list []))
    (fields.get "grant_options" (.list []))

end Holding

namespace Policy

/-- The policy of the holdings that a payload value holds. -/
def ofValue (given : Value) : Except Error Policy := do
  let holdings ← (← given.iterate.mapError .mistyped).mapM Holding.ofValue
  return .ofHoldings holdings

/-- The holding of the role, by any of its spellings; complains when there is none. -/
def get (p : Policy) (role : String) : Except Error Holding :=
  match p.lookup role with
  | some h => .ok h
  | none => .error (.absentRole (Role.key role))

/-- The policy without the roles that a payload value holds. -/
def eraseValues (p : Policy) (given : Value) : Except Mistyped Policy :=
  match given.items? with
  | some roles => return p.eraseAll (← roles.mapM Role.nameOfValue)
  | none => .error (.notItems "RolePolicy.without" given)

end Policy

end PgGrants
