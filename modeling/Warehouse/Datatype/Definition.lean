import Warehouse.Datatype.Length
import Warehouse.Datatype.TypeName
import Warehouse.ErrorCode

/-! # Column types

A column type of a dialect in normal form: a known type name, a length, whether
null is allowed, a default expression that is written into statements as it
stands, and in Teradata the character set of a text. `Definition.make` brings a
given specification into this form or says what is wrong with it. -/

namespace Warehouse

/-- A Teradata character set. -/
inductive CharacterSet where
  | latin
  | unicode
deriving DecidableEq, Repr

namespace CharacterSet

/-- The word for a character set. -/
def name : CharacterSet → String
  | latin => "LATIN"
  | unicode => "UNICODE"

/-- The character set that a word in capitals names. -/
def ofName? (word : String) : Option CharacterSet :=
  if word = "LATIN" then some latin
  else if word = "UNICODE" then some unicode
  else none

end CharacterSet

/-- What can be wrong with the specification of a column type. A length that is a number
with too many digits is misuse, about which there is no more to say. -/
inductive TypeFault where
  | unknownType (given : String) (dialect : Dialect)
  | invalidLength (given : String) (type : String)
  | overlongLength
  | characterSetNotAllowed (type : String)
  | unknownCharacterSet (given : String)
deriving DecidableEq, Repr

namespace TypeFault

/-- The message for a fault, where it has one. -/
def message? : TypeFault → Option String
  | unknownType given dialect =>
      some ("\"" ++ given ++ "\" is not a valid type for " ++ dialect.name)
  | invalidLength given type =>
      some ("\"" ++ given ++ "\" is not valid length for type " ++ type)
  | overlongLength => none
  | characterSetNotAllowed type => some ("Character set is not allowed for type " ++ type)
  | unknownCharacterSet given => some ("\"" ++ given ++ "\" is not a valid character set")

/-- The code of a fault, unless it is misuse. -/
def code? : TypeFault → Option ErrorCode
  | overlongLength => none
  | unknownType _ _ | invalidLength _ _ | characterSetNotAllowed _ | unknownCharacterSet _ =>
      some .invalidType

/-- The family of a fault, unless it is misuse. -/
def refusal? : TypeFault → Option Refusal
  | overlongLength => none
  | unknownType _ _ | invalidLength _ _ | characterSetNotAllowed _ | unknownCharacterSet _ =>
      some .type

end TypeFault

/-- A column type in normal form. -/
structure Definition where
  dialect : Dialect
  type : String
  length : Option Length
  nullable : Bool
  default : Option String
  characterSet : Option CharacterSet
  type_mem : type ∈ dialect.typeNames
  characterSet_isSome : characterSet.isSome = dialect.takesCharacterSet type
deriving DecidableEq, Repr

namespace Definition

/-- A column type as somebody specifies it. -/
structure Spec where
  type : String
  length : Value := .null
  nullable : Bool := true
  default : Option String := none
  characterSet : Option String := none

/-- The character set of a type. Text types of Teradata have Unicode unless
another set is given; no other type has one, and for Teradata types none may be
given. The other dialects have no character sets, so nothing is looked at. -/
def characterSetFor (dialect : Dialect) (type : String) (given : Option String) :
    Except TypeFault
      { set : Option CharacterSet // set.isSome = dialect.takesCharacterSet type } :=
  if takes : dialect.takesCharacterSet type = true then
    match given with
    | none => .ok ⟨some .unicode, by simp [takes]⟩
    | some word =>
        if word = "" then .ok ⟨some .unicode, by simp [takes]⟩
        else match CharacterSet.ofName? (Text.upper word) with
          | some set => .ok ⟨some set, by simp [takes]⟩
          | none => .error (.unknownCharacterSet word)
  else if dialect = .teradata ∧ given.isSome then .error (.characterSetNotAllowed type)
  else .ok ⟨none, by simp [takes]⟩

/-- The length of a type, if one is given. -/
def lengthFor (type : String) (given : Value) : Except TypeFault (Option Length) :=
  match GivenLength.ofValue given with
  | .absent => .ok none
  | .accepted length => .ok (some length)
  | .refused written => .error (.invalidLength written type)
  | .overlong => .error .overlongLength

/-- The normal form of a specified column type. The name is checked first, then
the length, then the character set. -/
def make (dialect : Dialect) (spec : Spec) : Except TypeFault Definition :=
  let type := Text.capitalWords spec.type
  if known : type ∈ dialect.typeNames then do
    let length ← lengthFor type spec.length
    let set ← characterSetFor dialect type spec.characterSet
    return {
      dialect, type, length
      nullable := spec.nullable
      default := spec.default
      characterSet := set.1
      type_mem := known
      characterSet_isSome := set.2 }
  else .error (.unknownType spec.type dialect)

/-- The parenthesised length. Teradata and Exasol set it off by a space. -/
def lengthSql (definition : Definition) : String :=
  match definition.length with
  | none => ""
  | some length =>
      let opening := match definition.dialect with
        | .synapse | .snowflake => "("
        | .teradata | .exasol => " ("
      opening ++ length.text ++ ")"

/-- The constraint against null. -/
def nullSql (definition : Definition) : String :=
  if definition.nullable then "" else " NOT NULL"

/-- The default clause. -/
def defaultSql (definition : Definition) : String :=
  match definition.default with
  | none => ""
  | some expression => " DEFAULT " ++ expression

/-- The character set clause. -/
def characterSetSql (definition : Definition) : String :=
  match definition.characterSet with
  | none => ""
  | some set => " CHARACTER SET " ++ set.name

/-- The column type as it stands in a statement. Exasol wants the default before
the constraint. -/
def sql (definition : Definition) : String :=
  let constraints := match definition.dialect with
    | .exasol => definition.defaultSql ++ definition.nullSql
    | _ => definition.nullSql ++ definition.defaultSql
  definition.type ++ definition.lengthSql ++ constraints ++ definition.characterSetSql

/-- A wide text type without null and with the empty text as default, for columns
whose exact type does not matter. -/
def generic : Dialect → Definition
  | .synapse => {
      dialect := .synapse, type := "NVARCHAR", length := some ⟨"4000", rfl⟩
      nullable := false, default := some "''", characterSet := none
      type_mem := by decide, characterSet_isSome := by decide }
  | .teradata => {
      dialect := .teradata, type := "VARCHAR", length := some ⟨"32000", rfl⟩
      nullable := false, default := some "''", characterSet := some .unicode
      type_mem := by decide, characterSet_isSome := by decide }
  | .exasol => {
      dialect := .exasol, type := "VARCHAR", length := some ⟨"2000000", rfl⟩
      nullable := false, default := some "''", characterSet := none
      type_mem := by decide, characterSet_isSome := by decide }
  | .snowflake => {
      dialect := .snowflake, type := "VARCHAR", length := none
      nullable := false, default := some "''", characterSet := none
      type_mem := by decide, characterSet_isSome := by decide }

end Definition

end Warehouse
