import CatalogTypes.Naming.Casing
import CatalogTypes.Text.Quoted

/-! # Naming rules of a target language -/

namespace CatalogTypes

open Text

/-- What is done to a name that cannot stand as it is. -/
inductive Escape where
  /-- A reserved word is put between backticks. -/
  | backticks
  /-- A reserved word gets an underscore at its end. -/
  | trailingUnderscore
  /-- A reserved word, and everything else that is no plain identifier, becomes a string literal. -/
  | quote
deriving DecidableEq, Repr

structure Convention where
  casing : Casing
  /-- The reserved words. -/
  reserved : List String
  escaping : Escape
  /-- Stands before a field name that would begin with an ASCII digit. -/
  digitLead : String
  /-- The field name for a raw name without letters and digits. -/
  placeholder : String

/-- Whether `c` may begin a plain identifier: an ASCII letter, `_` or `$`. -/
def isIdentifierStart (c : Char) : Bool := c.isAlpha || c == '_' || c == '$'

/-- A plain identifier is made of ASCII letters and digits, `_` and `$`, and does not begin with a
digit. -/
def isIdentifier (name : String) : Bool :=
  match name.toList with
  | [] => false
  | c :: cs => isIdentifierStart c && cs.all fun d => isIdentifierStart d || d.isDigit

namespace Convention

/-- The field name for a raw name, not escaped yet. -/
def fieldName (conv : Convention) (raw : String) : String :=
  if conv.casing ≠ .preserve ∧ !hasWords raw then conv.placeholder
  else
    let name := conv.casing.apply raw
    if (name.toList.head?.any Char.isDigit) then conv.digitLead ++ name else name

def isReserved (conv : Convention) (name : String) : Bool := conv.reserved.contains name

/-- The form in which `name` is written into a declaration. -/
def escape (conv : Convention) (name : String) : String :=
  match conv.escaping with
  | .backticks => if conv.isReserved name then "`" ++ name ++ "`" else name
  | .trailingUnderscore => if conv.isReserved name then name ++ "_" else name
  | .quote => if conv.isReserved name || !isIdentifier name then quote name else name

end Convention

end CatalogTypes
