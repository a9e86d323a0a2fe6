/-
Access control items in the text form of the system catalog, `grantee=privileges/grantor`. An empty
grantee is PUBLIC, each privilege is one letter, a star after a letter marks its grant option, and a
name with other characters than letters, numbers and underscores stands in double quotes, a quote
inside being written twice.
-/
import PgGrants.Policy
import PgGrants.Text.Alphanumeric

set_option autoImplicit false

namespace PgGrants

/-- One access control item: what the grantor granted to the grantee. -/
structure AclItem where
  /-- What the grantee holds by the item. -/
  holding : Holding
  grantor : String
deriving DecidableEq

namespace AclItem

/-- The role to which the item grants. -/
def grantee (item : AclItem) : String := Role.orPublic item.holding.role

/-- The privileges that the item grants. -/
def privileges (item : AclItem) : TextSet := item.holding.privileges

/-- The privileges that the grantee may grant on. -/
def grantOptions (item : AclItem) : TextSet := item.holding.grantOptions

/-- The letters of the privileges, in the order in which an item is written. -/
def letters : List (Char × String) := [
  ('r', "SELECT"), ('w', "UPDATE"), ('a', "INSERT"), ('d', "DELETE"), ('D', "TRUNCATE"),
  ('x', "REFERENCES"), ('t', "TRIGGER"), ('X', "EXECUTE"), ('U', "USAGE"), ('C', "CREATE"),
  ('c', "CONNECT"), ('T', "TEMPORARY"), ('m', "MAINTAIN"), ('s', "SET"), ('A', "ALTER SYSTEM")]

/-- The privilege of a letter. -/
def privilegeOf? (letter : Char) : Option String := letters.lookup letter

/-- The privilege has a letter. -/
def isPrivilege (privilege : String) : Bool := letters.any fun entry => entry.2 == privilege

/-- What keeps a text from being an item. -/
inductive Fault where
  | unterminatedName (given : Value)
  | missingEquals (given : Value)
  | unknownLetter (letter : Char) (given : Value)
  | missingGrantor (given : Value)
  | trailing (given : Value)

/-- The text of the complaint. -/
def Fault.message : Fault → String
  | .unterminatedName given => "Unterminated quoted role name in aclitem " ++ given.literal
  | .missingEquals given => "Missing \"=\" in aclitem " ++ given.literal
  | .unknownLetter letter given =>
    "Unknown privilege letter " ++ Text.quoted (String.singleton letter) ++ " in aclitem " ++
      given.literal
  | .missingGrantor given => "Missing grantor in aclitem " ++ given.literal
  | .trailing given => "Unexpected trailing characters in aclitem " ++ given.literal

/-! ## Reading -/

/-- Reads a quoted name up to its closing quote, `none` when there is none. -/
def readQuoted : List Char → Option (List Char × List Char)
  | [] => none
  -- Two quotes are one quote of the name, and a single one ends it.
  | '"' :: '"' :: rest => (readQuoted rest).map fun (name, left) => ('"' :: name, left)
  | '"' :: rest => some ([], rest)
  | c :: rest => (readQuoted rest).map fun (name, left) => (c :: name, left)

/-- Reads a name, quoted or up to the terminator, and what is left. -/
def readName (terminator : Char) : List Char → Option (List Char × List Char)
  | '"' :: rest => readQuoted rest
  | cs => some (cs.takeWhile (· != terminator), cs.dropWhile (· != terminator))

/-- Reads privilege letters with their stars up to a slash or the end; fails at an unknown letter.
-/
def readMarks : List Char → Except Char (List (String × Bool) × List Char)
  | [] => .ok ([], [])
  | '/' :: rest => .ok ([], '/' :: rest)
  | c :: '*' :: rest =>
    match privilegeOf? c with
    | none => .error c
    | some privilege =>
      (readMarks rest).map fun (marks, left) => ((privilege, true) :: marks, left)
  | c :: rest =>
    match privilegeOf? c with
    | none => .error c
    | some privilege =>
      (readMarks rest).map fun (marks, left) => ((privilege, false) :: marks, left)

/-- What a role holds by the given marks: a privilege is granted by any of its marks, its grant
option by a starred one. -/
def heldBy (grantee : String) (marks : List (String × Bool)) : Holding where
  role := grantee
  privileges := .ofList (marks.map (·.1))
  grantOptions := .ofList ((marks.filter (·.2)).map (·.1))
  options_subset := fun x hx => by
    rw [TextSet.mem_ofList] at hx ⊢
    obtain ⟨mark, hmark, rfl⟩ := List.mem_map.1 hx
    exact List.mem_map_of_mem (List.mem_filter.1 hmark).1

/-- The item with the given marks. -/
def ofMarks (grantee grantor : String) (marks : List (String × Bool)) : AclItem :=
  ⟨heldBy grantee marks, grantor⟩

/-- The item a text writes. -/
def parse (text : String) : Except Fault AclItem :=
  match readName '=' text.toList with
  | none => .error (.unterminatedName (.text text))
  | some (grantee, '=' :: afterName) =>
    match readMarks afterName with
    | .error letter => .error (.unknownLetter letter (.text text))
    | .ok (marks, '/' :: afterMarks) =>
      match readName '/' afterMarks with
      | none => .error (.unterminatedName (.text text))
      | some (grantor, []) => .ok (ofMarks (String.ofList grantee) (String.ofList grantor) marks)
      | some (_, _ :: _) => .error (.trailing (.text text))
    | .ok _ => .error (.missingGrantor (.text text))
  | some _ => .error (.missingEquals (.text text))

/-! ## Writing -/

/-- A name that an item writes without quotes. -/
def isPlainName (name : List Char) : Bool :=
  !name.isEmpty && name.all fun c => Text.isAlphanumeric c || c == '_'

/-- A name as an item writes it. -/
def writeName (name : String) : String :=
  let cs := name.toList
  if isPlainName cs then name
  else String.ofList ('"' :: cs.flatMap (fun c => if c = '"' then ['"', '"'] else [c]) ++ ['"'])

/-- The letters of the privileges, as often as they are given, starred when they are grant options.
-/
def writeMarks (privileges grantOptions : List String) : List Char :=
  letters.flatMap fun (letter, privilege) =>
    (List.replicate (privileges.count privilege)
      (if grantOptions.contains privilege then [letter, '*'] else [letter])).flatten

/-- The text of an item whose names are written already. -/
def assemble (grantee : String) (privileges grantOptions : List String) (grantor : String) :
    String :=
  grantee ++ "=" ++ String.ofList (writeMarks privileges grantOptions) ++ "/" ++ grantor

/-- The text of an item; fails at the first privilege without a letter. -/
def write (grantee : String) (privileges : List String) (grantor : String)
    (grantOptions : List String) : Except String String :=
  match privileges.find? fun privilege => !isPrivilege privilege with
  | some privilege => .error privilege
  | none =>
    .ok (assemble (if grantee = Role.publicKey then "" else writeName grantee) privileges
      grantOptions (writeName grantor))

end AclItem

/-- The policy that an access control list folds to, over all grantors. -/
def Policy.ofAcl (items : List AclItem) : Policy := .ofHoldings (items.map AclItem.holding)

end PgGrants
