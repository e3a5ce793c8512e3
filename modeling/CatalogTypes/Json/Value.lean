import CatalogTypes.Text.Decimal
import CatalogTypes.Text.Quoted

/-! # JSON values and their compact text -/

namespace CatalogTypes.Json

inductive Value where
  | null
  | boolean (b : Bool)
  | number (n : Nat)
  | text (s : String)
  | array (xs : List Value)
  /-- The members in the order in which they are written. -/
  | object (members : List (String × Value))

namespace Value

mutual

/-- The text of a value without any space. -/
def chars : Value → List Char
  | null => ['n', 'u', 'l', 'l']
  | boolean true => ['t', 'r', 'u', 'e']
  | boolean false => ['f', 'a', 'l', 's', 'e']
  | number n => Text.digits n
  | text s => (Text.quote s).toList
  | array xs => '[' :: elementChars xs ++ [']']
  | object members => '\x7b' :: memberChars members ++ ['\x7d']

def elementChars : List Value → List Char
  | [] => []
  | [x] => chars x
  | x :: xs => chars x ++ ',' :: elementChars xs

def memberChars : List (String × Value) → List Char
  | [] => []
  | [member] => pairChars member
  | member :: members => pairChars member ++ ',' :: memberChars members

def pairChars : String × Value → List Char
  | (name, x) => (Text.quote name).toList ++ ':' :: chars x

end

def compact (x : Value) : String := String.ofList x.chars

/-- A value that may be missing. -/
def orNull {α : Type} (f : α → Value) : Option α → Value
  | none => null
  | some x => f x

end Value

end CatalogTypes.Json
