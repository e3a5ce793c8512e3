/-! # Snapshots of a database catalog -/

namespace CatalogTypes

abbrev ObjectId := UInt32

structure Schema where
  id : ObjectId
  name : String
deriving DecidableEq, Repr

inductive RelationKind where
  | table
  | view
  | materializedView
  | foreignTable
deriving DecidableEq, Repr

namespace RelationKind

def all : List RelationKind := [table, view, materializedView, foreignTable]

/-- The place of a kind among relations of one name. -/
def rank : RelationKind → Nat
  | table => 0
  | view => 1
  | materializedView => 2
  | foreignTable => 3

def word : RelationKind → String
  | table => "table"
  | view => "view"
  | materializedView => "materialized_view"
  | foreignTable => "foreign_table"

theorem rank_injective {k k' : RelationKind} (h : k.rank = k'.rank) : k = k' := by
  cases k <;> cases k' <;> first | rfl | simp [rank] at h

end RelationKind

structure Relation where
  id : ObjectId
  schema : String
  name : String
deriving DecidableEq, Repr

/-- A relation together with the list of the snapshot that it stands in. -/
structure KindedRelation extends Relation where
  kind : RelationKind
deriving DecidableEq, Repr

structure Column where
  /-- The id of the relation that the column belongs to. -/
  tableId : ObjectId
  name : String
  /-- The name of the column's type, array markers included. -/
  format : String
  isNullable : Bool := false
  isIdentity : Bool := false
  isGenerated : Bool := false
  defaultValue : Option String := none
  ordinalPosition : UInt32 := 0
deriving DecidableEq, Repr

structure Attribute where
  name : String
  typeId : ObjectId
deriving DecidableEq, Repr

structure TypeDef where
  id : ObjectId
  name : String
  schema : String
  format : String := ""
  /-- The labels, if the type is an enumeration. -/
  enums : List String := []
  /-- The attributes, if the type is a composite. -/
  attributes : List Attribute := []
deriving DecidableEq, Repr

inductive TypeKind where
  | scalar
  | enumeration (labels : List String)
  | composite (attributes : List Attribute)
deriving DecidableEq, Repr

namespace TypeDef

def scalar (id : ObjectId) (schema name : String) : TypeDef :=
  { id, name, schema, format := name }

def enumeration (id : ObjectId) (schema name : String) (labels : List String) : TypeDef :=
  { scalar id schema name with enums := labels }

def composite (id : ObjectId) (schema name : String) (attributes : List Attribute) : TypeDef :=
  { scalar id schema name with attributes := attributes }

/-- Labels come before attributes: a type with both is an enumeration. -/
def kind (t : TypeDef) : TypeKind :=
  if !t.enums.isEmpty then .enumeration t.enums
  else if !t.attributes.isEmpty then .composite t.attributes
  else .scalar

def isEnumeration (t : TypeDef) : Bool := !t.enums.isEmpty

def isComposite (t : TypeDef) : Bool := t.enums.isEmpty && !t.attributes.isEmpty

def isScalar (t : TypeDef) : Bool := t.enums.isEmpty && t.attributes.isEmpty

def isAmbiguous (t : TypeDef) : Bool := !t.enums.isEmpty && !t.attributes.isEmpty

theorem isEnumeration_iff {t : TypeDef} :
    t.isEnumeration ↔ ∃ labels, t.kind = .enumeration labels := by
  cases h : t.enums <;> cases h' : t.attributes <;> simp [isEnumeration, kind, h, h']

theorem isComposite_iff {t : TypeDef} :
    t.isComposite ↔ ∃ attributes, t.kind = .composite attributes := by
  cases h : t.enums <;> cases h' : t.attributes <;> simp [isComposite, kind, h, h']

theorem isScalar_iff {t : TypeDef} : t.isScalar ↔ t.kind = .scalar := by
  cases h : t.enums <;> cases h' : t.attributes <;> simp [isScalar, kind, h, h']

end TypeDef

/-- The input of a generation. Every list may be empty, and nothing is assumed of it: ids may repeat
and references may lead nowhere. -/
structure Snapshot where
  schemas : List Schema := []
  tables : List Relation := []
  views : List Relation := []
  materializedViews : List Relation := []
  foreignTables : List Relation := []
  /-- The columns of all relations. -/
  columns : List Column := []
  types : List TypeDef := []
deriving DecidableEq, Repr

namespace Snapshot

def empty : Snapshot := {}

def relationsOf (s : Snapshot) : RelationKind → List Relation
  | .table => s.tables
  | .view => s.views
  | .materializedView => s.materializedViews
  | .foreignTable => s.foreignTables

/-- All relations: tables, views, materialized views, foreign tables. -/
def relations (s : Snapshot) : List KindedRelation :=
  RelationKind.all.flatMap fun kind => (s.relationsOf kind).map fun r => { r with kind }

def addSchema (s : Snapshot) (schema : Schema) : Snapshot :=
  { s with schemas := s.schemas ++ [schema] }

def addRelation (s : Snapshot) (kind : RelationKind) (r : Relation) : Snapshot :=
  match kind with
  | .table => { s with tables := s.tables ++ [r] }
  | .view => { s with views := s.views ++ [r] }
  | .materializedView => { s with materializedViews := s.materializedViews ++ [r] }
  | .foreignTable => { s with foreignTables := s.foreignTables ++ [r] }

def addColumns (s : Snapshot) (columns : List Column) : Snapshot :=
  { s with columns := s.columns ++ columns }

def addType (s : Snapshot) (t : TypeDef) : Snapshot := { s with types := s.types ++ [t] }

@[simp] theorem relationsOf_addRelation (s : Snapshot) (kind : RelationKind) (r : Relation) :
    (s.addRelation kind r).relationsOf kind = s.relationsOf kind ++ [r] := by
  cases kind <;> rfl

end Snapshot

end CatalogTypes
