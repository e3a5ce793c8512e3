import CatalogTypes.Catalog.Snapshot

/-! # Operations on relations, and what they leave optional -/

namespace CatalogTypes

/-- What a declaration of a relation is for: a row read back, or the payload of a write. -/
inductive Operation where
  | select
  | insert
  | update
deriving DecidableEq, Repr

namespace Operation

def all : List Operation := [select, insert, update]

def word : Operation → String
  | select => "select"
  | insert => "insert"
  | update => "update"

/-- The word as the end of a type name. -/
def suffix : Operation → String
  | select => "Select"
  | insert => "Insert"
  | update => "Update"

end Operation

def Column.hasDefault (c : Column) : Bool := c.defaultValue.isSome

/-- Whether a field of the column may be left out. Reading, a value is missing when it is null; an
insert may also leave out what the database fills in; an update may leave out everything. -/
def Operation.isOptional (c : Column) : Operation → Bool
  | select => c.isNullable
  | insert => c.isNullable || c.isIdentity || c.isGenerated || c.hasDefault
  | update => true

theorem Operation.isOptional_insert_of_select {c : Column} (h : select.isOptional c) :
    insert.isOptional c := by
  simp_all [isOptional]

@[simp] theorem Operation.isOptional_update (c : Column) : update.isOptional c = true := rfl

namespace RelationKind

/-- Only tables take writes. -/
def isReadOnly : RelationKind → Bool
  | table => false
  | _ => true

/-- The operations that a relation of the kind is declared for. -/
def operations (kind : RelationKind) : List Operation :=
  if kind.isReadOnly then [.select] else Operation.all

theorem select_mem_operations (kind : RelationKind) : Operation.select ∈ kind.operations := by
  cases kind <;> decide

end RelationKind

end CatalogTypes
