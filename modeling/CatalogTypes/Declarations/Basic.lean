import CatalogTypes.Catalog.Operation
import CatalogTypes.Types.TargetType

/-! # Declarations of the types of a catalog

Names and types are settled here; what is left to a language is how they are written. Every
declaration carries its raw name next to the generated one.
-/

namespace CatalogTypes

structure Variant where
  name : String
  /-- The label. -/
  value : String
deriving DecidableEq, Repr

structure EnumDecl where
  id : ObjectId
  rawName : String
  name : String
  variants : List Variant
deriving DecidableEq, Repr

structure Field where
  name : String
  rawName : String
  /-- Nullable if the value itself may be null. -/
  type : TargetType
  /-- Whether the field may be left out. -/
  isOptional : Bool
deriving DecidableEq, Repr

/-- What a record declaration stands for. -/
inductive Origin where
  | composite
  | relation (kind : RelationKind) (operation : Operation)
deriving DecidableEq, Repr

structure RecordDecl where
  rawName : String
  name : String
  origin : Origin
  fields : List Field
deriving DecidableEq, Repr

/-- The declarations of one relation, one for each of its operations. -/
structure RelationDecls where
  id : ObjectId
  rawName : String
  kind : RelationKind
  decls : List RecordDecl
deriving DecidableEq, Repr

structure SchemaDecls where
  rawName : String
  name : String
  enums : List EnumDecl
  composites : List RecordDecl
  relations : List RelationDecls
deriving DecidableEq, Repr

/-- All that one generation declares. -/
structure Declarations where
  schemas : List SchemaDecls
deriving DecidableEq, Repr

/-- The two kinds of declarations that a field can refer to. -/
inductive DeclKind where
  | enumeration
  | composite
deriving DecidableEq, Repr

/-- Where a declaration is found. -/
structure DeclPath where
  schemaRawName : String
  schemaName : String
  rawName : String
  name : String
deriving DecidableEq, Repr

/-- The type of a field in a language that has no mark for fields that may be left out. -/
def Field.effectiveType (f : Field) : TargetType :=
  if f.isOptional then f.type.orNull else f.type

namespace RecordDecl

def operation? (d : RecordDecl) : Option Operation :=
  match d.origin with
  | .relation _ operation => some operation
  | .composite => none

/-- Whether the declaration is the payload of an insert or an update. -/
def isWrite (d : RecordDecl) : Bool :=
  d.operation? == some .insert || d.operation? == some .update

def field? (d : RecordDecl) (rawName : String) : Option Field :=
  d.fields.find? (·.rawName == rawName)

end RecordDecl

def RelationDecls.decl? (r : RelationDecls) (operation : Operation) : Option RecordDecl :=
  r.decls.find? (·.operation? == some operation)

namespace SchemaDecls

def enum? (s : SchemaDecls) (rawName : String) : Option EnumDecl :=
  s.enums.find? (·.rawName == rawName)

def composite? (s : SchemaDecls) (rawName : String) : Option RecordDecl :=
  s.composites.find? (·.rawName == rawName)

def relation? (s : SchemaDecls) (rawName : String) : Option RelationDecls :=
  s.relations.find? (·.rawName == rawName)

def isEmpty (s : SchemaDecls) : Bool :=
  s.enums.isEmpty && s.composites.isEmpty && s.relations.isEmpty

/-- The composites, then the declarations of the relations. -/
def records (s : SchemaDecls) : List RecordDecl := s.composites ++ s.relations.flatMap (·.decls)

def count (s : SchemaDecls) : Nat := s.enums.length + s.records.length

end SchemaDecls

namespace Declarations

def schema? (d : Declarations) (rawName : String) : Option SchemaDecls :=
  d.schemas.find? (·.rawName == rawName)

/-- How many enumerations and records are declared. -/
def count (d : Declarations) : Nat := d.schemas.foldr (fun s n => s.count + n) 0

end Declarations

end CatalogTypes
