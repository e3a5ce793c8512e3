import CatalogTypes.Dialect
import CatalogTypes.Layout

/-! # TypeScript: one object type, keyed by raw names -/

namespace CatalogTypes.TypeScript

open Text

/-- Raw names are kept; one that is no plain identifier becomes a quoted key. -/
def convention : Convention where
  casing := .preserve
  reserved := []
  escaping := .quote
  digitLead := ""
  placeholder := ""

def scalarType : Scalar → String
  | .bool => "boolean"
  | .int16 | .int32 | .int64 | .float32 | .float64 | .numeric => "number"
  | .json => "Json"
  | .void => "undefined"
  | .record => "Record<string, unknown>"
  | .bytes | .text | .date | .time | .timestamp | .interval | .uuid | .range => "string"

def groupName : DeclKind → String
  | .enumeration => "Enums"
  | .composite => "CompositeTypes"

/-- A field refers to a declaration by the path of raw names that leads to it. -/
def reference (kind : DeclKind) (path : DeclPath) : String :=
  "Database[" ++ quote path.schemaRawName ++ "][\"" ++ groupName kind ++ "\"]["
    ++ quote path.rawName ++ "]"

/-- Elements that may be null stand in parentheses, since `|` binds less than `[]`. -/
def typeText : TargetType → String
  | .named name => name
  | .nullable inner => typeText inner ++ " | null"
  | .list element =>
    if element.isNullable then "(" ++ typeText element ++ ")[]" else typeText element ++ "[]"

def dialect : Dialect where
  convention := convention
  scalarType := scalarType
  anyType := "unknown"
  sharedNamespace := false
  distinctTypes := false
  scopedVariants := true
  namespaceName schema := schema
  enumName _ name := name
  compositeName _ name := name
  relationName _ relation _ := relation
  variantName _ label := label
  reference := reference
  typeText := typeText

/-! ## Source text -/

/-- The union of the labels of an enumeration. -/
def union (e : EnumDecl) : String :=
  if e.variants.isEmpty then "never" else " | ".intercalate (e.variants.map (quote ·.value))

/-- The line of a field. The mark `?` says that a key may be missing; null alone is in the type. -/
def fieldLine (omittable : Bool) (f : Field) : Item :=
  .line (f.name ++ (if omittable && f.isOptional then "?" else "") ++ ": " ++ typeText f.type)

def object (key : String) (fields : List Field) (omittable : Bool) : Item :=
  if fields.isEmpty then .line (key ++ ": \x7b\x7d")
  else .braces (key ++ ":") (fields.map (fieldLine omittable))

/-- The entries under one key; without entries, an object type that has no keys. -/
def group (key : String) (entries : List Item) : Item :=
  .braces (key ++ ":") (if entries.isEmpty then [.line "[_ in never]: never"] else entries)

/-- The key of a record among the declarations of its relation. -/
def recordKey (r : RecordDecl) : String :=
  match r.operation? with
  | some .insert => "Insert"
  | some .update => "Update"
  | _ => "Row"

def relation (r : RelationDecls) : Item :=
  .braces (convention.escape r.rawName ++ ":")
    (r.decls.map fun decl => object (recordKey decl) decl.fields decl.isWrite)

/-- Whether a relation is listed with the tables, not with the views. -/
def isTableLike (r : RelationDecls) : Bool := r.kind == .table || r.kind == .foreignTable

def schema (s : SchemaDecls) : Item :=
  .braces (s.name ++ ":") [
    group "Enums" (s.enums.map fun e => .line (e.name ++ ": " ++ union e)),
    group "CompositeTypes" (s.composites.map fun c => object c.name c.fields false),
    group "Tables" ((s.relations.filter isTableLike).map relation),
    group "Views" ((s.relations.filter (!isTableLike ·)).map relation)]

/-- The type of all JSON values, which fields of JSON columns have. -/
def header : List Item := [
  .line "export type Json =",
  .indent,
  .line "| string",
  .line "| number",
  .line "| boolean",
  .line "| null",
  .line "| \x7b [key: string]: Json | undefined \x7d",
  .line "| Json[]",
  .dedent,
  .blank]

def source (ds : Declarations) : List Item :=
  header ++ [
    if ds.schemas.isEmpty then .line "export type Database = \x7b\x7d"
    else .braces "export type Database =" (ds.schemas.map schema)]

def render (ds : Declarations) : String := Layout.text "  " (source ds)

end CatalogTypes.TypeScript
