import CatalogTypes.Text.Words

/-! # Letter case of identifiers -/

namespace CatalogTypes

open Text

/-- How the words of an identifier are put together. -/
inductive Casing where
  /-- `userId` -/
  | lowerCamel
  /-- `user_id` -/
  | snake
  /-- `UserId` -/
  | pascal
  /-- `USER_ID` -/
  | upperSnake
  /-- As it is. -/
  | preserve
deriving DecidableEq, Repr

namespace Casing

def lowerCamelWords : List (List Char) → List Char
  | [] => []
  | w :: ws => lowerWord w ++ ws.flatMap capitalize

/-- Every casing but `preserve` drops all characters that are neither letters nor digits. -/
def spell : Casing → List Char → List Char
  | lowerCamel, cs => lowerCamelWords (words cs)
  | snake, cs => ['_'].intercalate ((words cs).map lowerWord)
  | pascal, cs => (words cs).flatMap capitalize
  | upperSnake, cs => ['_'].intercalate ((words cs).map upperWord)
  | preserve, cs => cs

def apply (casing : Casing) (raw : String) : String := String.ofList (casing.spell raw.toList)

@[simp] theorem toList_apply (casing : Casing) (raw : String) :
    (casing.apply raw).toList = casing.spell raw.toList := by
  simp [apply]

@[simp] theorem apply_preserve (raw : String) : preserve.apply raw = raw := by
  simp [apply, spell]

end Casing

/-- The name of a type for a raw identifier: its words in Pascal case. A `T` stands in front of a
name that would be empty or begin with a numeral of any script. -/
def typeName (raw : String) : String :=
  let name := Casing.pascal.apply raw
  match name.toList with
  | [] => "T"
  | c :: _ => if isNumeric c then "T" ++ name else name

end CatalogTypes
