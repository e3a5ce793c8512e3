import CatalogTypes.Catalog.Operation
import CatalogTypes.Json.Record
import CatalogTypes.Json.Value
import CatalogTypes.Options
import CatalogTypes.Warning

/-! # The JSON form of catalogs, options and warnings -/

namespace CatalogTypes

open Json

/-! ## Enumerations -/

namespace RelationKind

def toJson (kind : RelationKind) : Value := .text kind.word

def reader : Reader RelationKind := .oneOf (all.map fun kind => (kind.word, kind))

end RelationKind

namespace Operation

def toJson (operation : Operation) : Value := .text operation.word

def reader : Reader Operation := .oneOf (all.map fun operation => (operation.word, operation))

end Operation

namespace Access

def toJson (access : Access) : Value := .text access.keyword

def reader : Reader Access := .oneOf (all.map fun access => (access.keyword, access))

end Access

namespace Language

def toJson (language : Language) : Value := .text language.name

/-- The names that a text may use, case included. Not all aliases are among them. -/
def formatNames : List (String × Language) := [
  ("ts", typescript), ("typescript", typescript), ("go", go), ("swift", swift), ("py", python),
  ("python", python)]

def reader : Reader Language := .oneOf formatNames

end Language

/-! ## Catalogs -/

def idValue (id : UInt32) : Value := .number id.toNat

def textsValue (texts : List String) : Value := .array (texts.map .text)

namespace Schema

def toJson (s : Schema) : Value := .object [("id", idValue s.id), ("name", .text s.name)]

def reader : Reader Schema :=
  .record "SchemaDef" <|
    ((Fields.required "id" .uint32).and (.required "name" .text)).map fun (id, name) => ⟨id, name⟩

end Schema

namespace Relation

def toJson (r : Relation) : Value :=
  .object [("id", idValue r.id), ("schema", .text r.schema), ("name", .text r.name)]

def reader : Reader Relation :=
  .record "RelationDef" <|
    ((Fields.required "id" .uint32).and <| (Fields.required "schema" .text).and <|
      .required "name" .text).map fun (id, schema, name) => ⟨id, schema, name⟩

end Relation

namespace Column

def toJson (c : Column) : Value :=
  .object [
    ("table_id", idValue c.tableId),
    ("name", .text c.name),
    ("format", .text c.format),
    ("is_nullable", .boolean c.isNullable),
    ("is_identity", .boolean c.isIdentity),
    ("is_generated", .boolean c.isGenerated),
    ("default_value", .orNull .text c.defaultValue),
    ("ordinal_position", idValue c.ordinalPosition)]

def reader : Reader Column :=
  .record "ColumnDef" <|
    ((Fields.required "table_id" .uint32).and <| (Fields.required "name" .text).and <|
      (Fields.required "format" .text).and <| (Fields.optional "is_nullable" .boolean false).and <|
      (Fields.optional "is_identity" .boolean false).and <|
      (Fields.optional "is_generated" .boolean false).and <|
      (Fields.optional "default_value" (.orNull .text) none).and <|
      .optional "ordinal_position" .uint32 0).map
      fun (tableId, name, format, isNullable, isIdentity, isGenerated, defaultValue,
          ordinalPosition) =>
        { tableId, name, format, isNullable, isIdentity, isGenerated, defaultValue,
          ordinalPosition }

end Column

namespace Attribute

def toJson (a : Attribute) : Value :=
  .object [("name", .text a.name), ("type_id", idValue a.typeId)]

def reader : Reader Attribute :=
  .record "TypeAttribute" <|
    ((Fields.required "name" .text).and (.required "type_id" .uint32)).map
      fun (name, typeId) => ⟨name, typeId⟩

end Attribute

namespace TypeDef

def toJson (t : TypeDef) : Value :=
  .object [
    ("id", idValue t.id),
    ("name", .text t.name),
    ("schema", .text t.schema),
    ("format", .text t.format),
    ("enums", textsValue t.enums),
    ("attributes", .array (t.attributes.map (·.toJson)))]

def reader : Reader TypeDef :=
  .record "TypeDef" <|
    ((Fields.required "id" .uint32).and <| (Fields.required "name" .text).and <|
      (Fields.required "schema" .text).and <| (Fields.optional "format" .text "").and <|
      (Fields.optional "enums" (.list .text) []).and <|
      .optional "attributes" (.list Attribute.reader) []).map
      fun (id, name, schema, format, enums, attributes) =>
        { id, name, schema, format, enums, attributes }

end TypeDef

namespace Snapshot

def toJson (s : Snapshot) : Value :=
  .object [
    ("schemas", .array (s.schemas.map (·.toJson))),
    ("tables", .array (s.tables.map (·.toJson))),
    ("views", .array (s.views.map (·.toJson))),
    ("materialized_views", .array (s.materializedViews.map (·.toJson))),
    ("foreign_tables", .array (s.foreignTables.map (·.toJson))),
    ("columns", .array (s.columns.map (·.toJson))),
    ("types", .array (s.types.map (·.toJson)))]

def reader : Reader Snapshot :=
  let relations (name : String) : Fields (Option (List Relation)) (List Relation) :=
    .optional name (.list Relation.reader) []
  .record "GeneratorMetadata" <|
    ((Fields.optional "schemas" (.list Schema.reader) []).and <| (relations "tables").and <|
      (relations "views").and <| (relations "materialized_views").and <|
      (relations "foreign_tables").and <|
      (Fields.optional "columns" (.list Column.reader) []).and <|
      .optional "types" (.list TypeDef.reader) []).map
      fun (schemas, tables, views, materializedViews, foreignTables, columns, types) =>
        { schemas, tables, views, materializedViews, foreignTables, columns, types }

/-- Reads a snapshot from its JSON form. -/
def ofJson (text : String) : Except Error Snapshot := reader.decode text

end Snapshot

/-! ## Options -/

namespace Options

def toJson (o : Options) : Value :=
  .object [
    ("backend", o.language.toJson),
    ("included_schemas", .orNull textsValue o.included),
    ("excluded_schemas", .orNull textsValue o.excluded),
    ("access_control", o.access.toJson)]

def reader : Reader Options :=
  .record "GeneratorOptions" <|
    ((Fields.optional "backend" Language.reader .typescript).and <|
      (Fields.optional "included_schemas" (.orNull (.list .text)) none).and <|
      (Fields.optional "excluded_schemas" (.orNull (.list .text)) none).and <|
      .optional "access_control" Access.reader .publicAccess).map
      fun (language, included, excluded, access) => { language, included, excluded, access }

/-- Reads options from their JSON form. -/
def ofJson (text : String) : Except Error Options := reader.decode text

end Options

/-! ## Warnings -/

/-- The JSON form of a warning: its kind, and what it is about. -/
def Warning.toJson : Warning → Value
  | unknownBaseType format =>
    .object [("kind", .text "unknown_base_type"), ("format", .text format)]
  | unresolvedTypeReference typeId composite attr =>
    .object [
      ("kind", .text "unresolved_type_reference"),
      ("type_id", idValue typeId),
      ("composite", .text composite),
      ("attribute", .text attr)]
  | excludedTypeReference schema name =>
    .object [
      ("kind", .text "excluded_type_reference"),
      ("schema", .text schema),
      ("name", .text name)]
  | orphanColumn tableId column =>
    .object [
      ("kind", .text "orphan_column"),
      ("table_id", idValue tableId),
      ("column", .text column)]
  | duplicateRelation id name =>
    .object [("kind", .text "duplicate_relation"), ("id", idValue id), ("name", .text name)]
  | duplicateType id name =>
    .object [("kind", .text "duplicate_type"), ("id", idValue id), ("name", .text name)]
  | ambiguousType id name =>
    .object [("kind", .text "ambiguous_type"), ("id", idValue id), ("name", .text name)]
  | undeclaredSchema schema =>
    .object [("kind", .text "undeclared_schema"), ("schema", .text schema)]

end CatalogTypes
