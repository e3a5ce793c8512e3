/-! # Types of fields -/

namespace CatalogTypes

/-- The type of a field, before a language writes it. -/
inductive TargetType where
  | named (name : String)
  | list (element : TargetType)
  | nullable (inner : TargetType)
deriving DecidableEq, Repr

namespace TargetType

def isNullable : TargetType → Bool
  | nullable _ => true
  | _ => false

/-- The type that admits null as well; a type that does is left alone. -/
def orNull : TargetType → TargetType
  | nullable inner => nullable inner
  | t => nullable t

/-- `t` inside of `n` lists. -/
def lists : Nat → TargetType → TargetType
  | 0, t => t
  | n + 1, t => list (lists n t)

@[simp] theorem isNullable_orNull (t : TargetType) : t.orNull.isNullable := by cases t <;> rfl

@[simp] theorem orNull_orNull (t : TargetType) : t.orNull.orNull = t.orNull := by cases t <;> rfl

end TargetType

end CatalogTypes
