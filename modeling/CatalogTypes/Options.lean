import CatalogTypes.Language

/-! # Options of a generation -/

namespace CatalogTypes

/-- Where declarations can be seen from, in languages that say so. -/
inductive Access where
  | internalAccess
  | publicAccess
  | privateAccess
  | packageAccess
deriving DecidableEq, Repr

namespace Access

def all : List Access := [internalAccess, publicAccess, privateAccess, packageAccess]

def keyword : Access → String
  | internalAccess => "internal"
  | publicAccess => "public"
  | privateAccess => "private"
  | packageAccess => "package"

end Access

structure Options where
  language : Language := .typescript
  /-- If given, only these schemas are emitted. -/
  included : Option (List String) := none
  /-- If given, these schemas are not emitted, included or not. -/
  excluded : Option (List String) := none
  access : Access := .publicAccess
deriving DecidableEq, Repr

namespace Options

/-- Whether the schema is emitted. -/
def admits (o : Options) (schema : String) : Bool :=
  o.included.all (·.contains schema) && !o.excluded.any (·.contains schema)

theorem admits_iff {o : Options} {schema : String} :
    o.admits schema ↔
      (∀ names, o.included = some names → schema ∈ names) ∧
        ∀ names, o.excluded = some names → schema ∉ names := by
  cases h : o.included <;> cases h' : o.excluded <;> simp [admits, h, h']

end Options

end CatalogTypes
