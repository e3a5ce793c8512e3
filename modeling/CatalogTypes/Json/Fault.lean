import CatalogTypes.Decimal.Shortest
import CatalogTypes.Text.Shown

/-! # What can be wrong with a JSON text -/

namespace CatalogTypes.Json

/-- A number as it is read: an integer of at most 64 bits, or else a double. -/
inductive Number where
  | integer (n : Int)
  | real (negative : Bool) (x : Double)
deriving DecidableEq, Repr

/-- A value that is not made of other values. -/
inductive Atom where
  | null
  | boolean (b : Bool)
  | number (n : Number)
  | text (s : String)
deriving DecidableEq, Repr

/-- What stands where a value is expected. -/
inductive Found where
  | atom (a : Atom)
  | array
  | object
deriving DecidableEq, Repr

inductive Expected where
  | uint32
  | text
  | boolean
  | array
  | unit
  | record (name : String)
deriving DecidableEq, Repr

inductive Cause where
  | endInValue
  | endInArray
  | endInObject
  | endInString
  | expectedColon
  | expectedCommaInArray
  | expectedCommaInObject
  | expectedLiteral
  | expectedValue
  | invalidEscape
  | invalidNumber
  | numberOutOfRange
  | controlCharacter
  | keyNotString
  | loneSurrogate
  | unpairedSurrogate
  | trailingComma
  | trailingCharacters
  | invalidType (found : Found) (expected : Expected)
  | invalidValue (n : Int) (expected : Expected)
  | unknownVariant (name : String) (known : List String)
  | missingField (name : String)
  | duplicateField (name : String)
  /-- An array has not all the elements that a record needs. -/
  | invalidLength (found : Nat) (record : String) (fields : Nat)
deriving DecidableEq, Repr

/-! ## Messages -/

def integerText (n : Int) : String := (if n < 0 then "-" else "") ++ Text.decimal n.natAbs

def Found.message : Found → String
  | atom .null => "null"
  | atom (.boolean b) => "boolean `" ++ (if b then "true" else "false") ++ "`"
  | atom (.number (.integer n)) => "integer `" ++ integerText n ++ "`"
  | atom (.number (.real negative x)) =>
    "floating point `" ++ (if negative then "-" else "") ++ x.shortest.text ++ "`"
  | atom (.text s) => "string " ++ Text.shown s
  | array => "sequence"
  | object => "map"

def Expected.message : Expected → String
  | uint32 => "u32"
  | text => "a string"
  | boolean => "a boolean"
  | array => "a sequence"
  | unit => "unit"
  | record name => "struct " ++ name

def Cause.message : Cause → String
  | endInValue => "EOF while parsing a value"
  | endInArray => "EOF while parsing a list"
  | endInObject => "EOF while parsing an object"
  | endInString => "EOF while parsing a string"
  | expectedColon => "expected `:`"
  | expectedCommaInArray => "expected `,` or `]`"
  | expectedCommaInObject => "expected `,` or `\x7d`"
  | expectedLiteral => "expected ident"
  | expectedValue => "expected value"
  | invalidEscape => "invalid escape"
  | invalidNumber => "invalid number"
  | numberOutOfRange => "number out of range"
  | controlCharacter => "control character (\\u0000-\\u001F) found while parsing a string"
  | keyNotString => "key must be a string"
  | loneSurrogate => "lone leading surrogate in hex escape"
  | unpairedSurrogate => "unexpected end of hex escape"
  | trailingComma => "trailing comma"
  | trailingCharacters => "trailing characters"
  | invalidType found expected =>
    "invalid type: " ++ found.message ++ ", expected " ++ expected.message
  | invalidValue n expected =>
    "invalid value: integer `" ++ integerText n ++ "`, expected " ++ expected.message
  | unknownVariant name known =>
    "unknown variant `" ++ name ++ "`, expected one of "
      ++ ", ".intercalate (known.map fun k => "`" ++ k ++ "`")
  | missingField name => "missing field `" ++ name ++ "`"
  | duplicateField name => "duplicate field `" ++ name ++ "`"
  | invalidLength found record fields =>
    "invalid length " ++ Text.decimal found ++ ", expected struct " ++ record ++ " with "
      ++ Text.decimal fields ++ " elements"

/-! ## Positions -/

/-- How many bytes the characters take in UTF-8. -/
def bytes (cs : List Char) : Nat := cs.foldr (fun c n => c.utf8Size + n) 0

/-- What is wrong, and how many bytes are left from that point to the end of the text. -/
structure Fault where
  cause : Cause
  left : Nat
deriving DecidableEq, Repr

/-- A fault in front of `rest`. -/
def Fault.before (cause : Cause) (rest : List Char) : Fault := ⟨cause, bytes rest⟩

/-- A fault that shows at the next byte: the first byte of `rest`, if it has one, counts as read. -/
def Fault.within (cause : Cause) (rest : List Char) : Fault := ⟨cause, bytes rest - 1⟩

/-- A fault at a place in a text. Lines count from 1. The column is the number of bytes of the line
that were read. -/
structure Error where
  cause : Cause
  line : Nat
  column : Nat
deriving DecidableEq, Repr

/-- Line and column after `n` bytes of a text, counted on from a place in it. -/
def advance (line column : Nat) : (n : Nat) → List Char → Nat × Nat
  | 0, _ => (line, column)
  | _, [] => (line, column)
  | n + 1, c :: cs =>
    if c = '\n' then advance (line + 1) 0 n cs
    else advance line (column + min (n + 1) c.utf8Size) (n + 1 - c.utf8Size) cs

def Fault.locate (text : List Char) (f : Fault) : Error :=
  let (line, column) := advance 1 0 (bytes text - f.left) text
  ⟨f.cause, line, column⟩

def Error.message (e : Error) : String :=
  e.cause.message ++ " at line " ++ Text.decimal e.line ++ " column " ++ Text.decimal e.column

end CatalogTypes.Json
