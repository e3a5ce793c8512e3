import CatalogTypes.Declarations.Basic
import CatalogTypes.Naming.Registry
import CatalogTypes.Options
import CatalogTypes.Types.Resolution

/-! # From a catalog to declarations

All declarations are named before any field gets its type, so a field may refer to a declaration
that comes later, or to its own.
-/

namespace CatalogTypes

/-! ## Names -/

/-- A schema whose declarations are named: each declaration with what it is for. -/
structure SchemaPlan where
  schema : String
  name : String
  enums : List (TypeDef × EnumDecl)
  composites : List (TypeDef × String)
  relations : List (KindedRelation × List (Operation × String))

namespace SchemaPlan

def path (p : SchemaPlan) (rawName name : String) : DeclPath :=
  ⟨p.schema, p.name, rawName, name⟩

/-- How fields refer to the types of the schema. -/
def references (p : SchemaPlan) (d : Dialect) : List (ObjectId × String) :=
  (p.enums.map fun (t, decl) => (t.id, d.reference .enumeration (p.path t.name decl.name))) ++
    p.composites.map fun (t, name) => (t.id, d.reference .composite (p.path t.name name))

end SchemaPlan

namespace Dialect

variable (d : Dialect)

def claim (reg : Registry) (candidate : String) : String × Registry :=
  reg.claim candidate d.escape

/-- Names a type, given the names that its namespace has. -/
def claimType (reg : Registry) (candidate : String) : String × Registry :=
  if d.distinctTypes then d.claim reg candidate else (d.escape candidate, reg)

def nameVariants (reg : Registry) (enumName : String) (labels : List String) :
    List Variant × Registry :=
  mapThread
    (fun reg label =>
      let (name, reg) := d.claim reg (d.variantName enumName label)
      (⟨name, label⟩, reg))
    reg labels

def nameEnum (schema : String) (types : Registry) (t : TypeDef) :
    (TypeDef × EnumDecl) × Registry :=
  let (name, types) := d.claimType types (d.enumName schema t.name)
  let (variants, types) :=
    if d.scopedVariants then ((d.nameVariants .empty name t.enums).1, types)
    else d.nameVariants types name t.enums
  ((t, ⟨t.id, t.name, name, variants⟩), types)

def nameComposite (schema : String) (types : Registry) (t : TypeDef) :
    (TypeDef × String) × Registry :=
  let (name, types) := d.claimType types (d.compositeName schema t.name)
  ((t, name), types)

def nameRelation (schema : String) (types : Registry) (r : KindedRelation) :
    (KindedRelation × List (Operation × String)) × Registry :=
  let (names, types) :=
    mapThread
      (fun types operation =>
        let (name, types) := d.claimType types (d.relationName schema r.name operation)
        ((operation, name), types))
      types r.kind.operations
  ((r, names), types)

/-- The names given out so far to schemas, and to types if all schemas share their namespace. -/
structure Names where
  schemas : Registry
  types : Registry

def nameSchema (ix : Index) (names : Names) (schema : String) : SchemaPlan × Names :=
  let (name, schemas) := d.claim names.schemas (d.namespaceName schema)
  let types := if d.sharedNamespace then names.types else .empty
  let (enums, types) := mapThread (d.nameEnum schema) types (ix.enums schema)
  let (composites, types) := mapThread (d.nameComposite schema) types (ix.composites schema)
  let (relations, types) := mapThread (d.nameRelation schema) types (ix.relations schema)
  (⟨schema, name, enums, composites, relations⟩, ⟨schemas, types⟩)

/-- The plans of all schemas that the options admit, ascending by name. -/
def plan (ix : Index) (o : Options) : List SchemaPlan :=
  (mapThread (d.nameSchema ix) ⟨.empty, .empty⟩ (ix.schemaNames.filter o.admits)).1

end Dialect

/-! ## Fields -/

/-- How fields refer to the emitted types. -/
abbrev References := Std.HashMap ObjectId String

namespace Dialect

variable (d : Dialect)

/-- The names of the fields with the given raw names. -/
def fieldNames (rawNames : List String) : List String :=
  (mapThread (fun reg raw => d.claim reg (d.convention.fieldName raw)) .empty rawNames).1

variable (ix : Index) (refs : References)

def resolveColumn (r : KindedRelation) (c : Column) : Resolved :=
  ix.resolve refs.contains (some r.schema) c.format

def compositeFields (t : TypeDef) : List Field :=
  (d.fieldNames (t.attributes.map (·.name))).zipWith
    (fun name attr =>
      { name, rawName := attr.name, isOptional := false,
        type := (ix.resolveAttribute refs.contains t attr).typeOrNull d (refs[·]?) true })
    t.attributes

/-- The fields of a relation in a declaration for an operation. Names and types are the same for
all operations. -/
def relationFields (r : KindedRelation) (operation : Operation) : List Field :=
  let columns := ix.columns r.id
  (d.fieldNames (columns.map (·.name))).zipWith
    (fun name c =>
      { name, rawName := c.name, isOptional := operation.isOptional c,
        type := (resolveColumn ix refs r c).typeOrNull d (refs[·]?) c.isNullable })
    columns

def declareComposite (t : TypeDef) (name : String) : RecordDecl :=
  ⟨t.name, name, .composite, d.compositeFields ix refs t⟩

def declareRelation (r : KindedRelation) (names : List (Operation × String)) : RelationDecls :=
  ⟨r.id, r.name, r.kind, names.map fun (operation, name) =>
    ⟨r.name, name, .relation r.kind operation, d.relationFields ix refs r operation⟩⟩

def declareSchema (p : SchemaPlan) : SchemaDecls where
  rawName := p.schema
  name := p.name
  enums := p.enums.map (·.2)
  composites := p.composites.map fun (t, name) => d.declareComposite ix refs t name
  relations := p.relations.map fun (r, names) => d.declareRelation ix refs r names

end Dialect

/-- The warnings about the fields of a schema, those of composites first. -/
def SchemaPlan.warnings (p : SchemaPlan) (ix : Index) (refs : References) : List Warning :=
  (p.composites.flatMap fun (t, _) =>
    t.attributes.filterMap fun attr => (ix.resolveAttribute refs.contains t attr).warning?) ++
  p.relations.flatMap fun (r, _) =>
    (ix.columns r.id).filterMap fun c => (Dialect.resolveColumn ix refs r c).warning?

/-- Declarations with the warnings that their fields gave rise to, in order and with repeats. -/
structure Built where
  declarations : Declarations
  warnings : List Warning

namespace Dialect

def references (d : Dialect) (plans : List SchemaPlan) : References :=
  .ofList (plans.flatMap (·.references d))

def build (d : Dialect) (ix : Index) (o : Options) : Built :=
  let plans := d.plan ix o
  let refs := d.references plans
  ⟨⟨plans.map (d.declareSchema ix refs)⟩, plans.flatMap (·.warnings ix refs)⟩

end Dialect

end CatalogTypes
