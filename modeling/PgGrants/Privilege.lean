/-
Privilege tokens. A token is written in any case and with any blanks; its normal form is in upper
case with single spaces, and two spellings have a proper name. The token `ALL` stands for the whole
vocabulary of a kind of object, as far as the server's version knows it.
-/
import PgGrants.Capability
import PgGrants.Declaration
import PgGrants.Text.Case

set_option autoImplicit false

namespace PgGrants

namespace Privilege

/-- The token for the whole vocabulary of a kind. -/
def all : String := Invalid.allToken

/-- The proper name of a token with an alias. -/
def properName (token : String) : String :=
  if token = "ALL PRIVILEGES" then all
  else if token = "TEMP" then "TEMPORARY"
  else token

/-- The normal form of a token. -/
def normalForm (token : String) : String := properName (Text.squeeze (Text.upper token))

/-- The set of the normal forms. -/
def normalize (tokens : List String) : TextSet := .ofList (tokens.map normalForm)

/-- The tokens that a payload value gives: a text is one token, anything else is gone through. -/
def givenTokens (v : Value) : Except Mistyped (List String) :=
  match v with
  | .text s => .ok [s]
  | _ => return (← v.iterate).map Value.plain

/-- The normal forms of the tokens that a payload value gives. -/
def normalizeValue (v : Value) : Except Mistyped TextSet :=
  return normalize (← givenTokens v)

/-- The token may stand in a declaration for the kind. -/
def isAllowed (kind : ObjectKind) (token : String) : Bool :=
  token == all || kind.vocabulary.contains token

/-- Accepts the tokens that exist on the kind; the complaint is about the first other one. -/
def check (kind : ObjectKind) (tokens : TextSet) : Except Invalid Unit :=
  match tokens.toList.find? fun token => !isAllowed kind token with
  | some token => .error (.unknownPrivilege (.text token) kind)
  | none => .ok ()

/-- The part of the vocabulary that the server knows; without a known version all of it. -/
def knownVocabulary (kind : ObjectKind) (caps : Option Capabilities) : TextSet :=
  match caps with
  | some caps =>
    if caps.supports .maintainPrivilege then kind.vocabulary
    else kind.vocabulary.filter (· != "MAINTAIN")
  | none => kind.vocabulary

/-- The tokens with `ALL` replaced by the vocabulary it stands for. -/
def expand (kind : ObjectKind) (tokens : TextSet) (caps : Option Capabilities) : TextSet :=
  if tokens.contains all then (tokens \ .singleton all) ∪ knownVocabulary kind caps else tokens

/-- Two sets of tokens mean the same privileges on the kind. -/
def sameMeaning (kind : ObjectKind) (observed wanted : TextSet) (caps : Option Capabilities) :
    Bool :=
  expand kind observed caps == expand kind wanted caps

end Privilege

namespace ObjectKind

/-- The kind that a payload value names, in any case. -/
def ofValue (v : Value) : Except Invalid ObjectKind :=
  match ofName? (Text.lower v.plain) with
  | some kind => .ok kind
  | none => .error (.unknownKind v)

end ObjectKind

end PgGrants
