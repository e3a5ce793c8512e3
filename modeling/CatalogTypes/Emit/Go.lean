import CatalogTypes.Dialect
import CatalogTypes.Layout

/-! # Go: one package of structs with JSON tags -/

namespace CatalogTypes.Go

open Text

def keywords : List String := [
  "break", "case", "chan", "const", "continue", "default", "defer", "else", "fallthrough", "for",
  "func", "go", "goto", "if", "import", "interface", "map", "package", "range", "return", "select",
  "struct", "switch", "type", "var"]

def convention : Convention where
  casing := .pascal
  reserved := keywords
  escaping := .trailingUnderscore
  digitLead := "X"
  placeholder := "Field"

def anyType : String := "interface\x7b\x7d"

def scalarType : Scalar → String
  | .bool => "bool"
  | .int16 => "int16"
  | .int32 => "int32"
  | .int64 => "int64"
  | .float32 => "float32"
  | .float64 | .numeric => "float64"
  | .bytes => "[]byte"
  | .json | .void => anyType
  | .record => "map[string]interface\x7b\x7d"
  | .text | .date | .time | .timestamp | .interval | .uuid | .range => "string"

/-- The name of a constant; all types and constants share the package. -/
def variantName (enumName label : String) : String :=
  let words := Casing.pascal.apply label
  enumName ++ if words.isEmpty then "Value" else words

/-- Whether a type, as it is written, has the value `nil`. -/
def isNilable (type : String) : Bool :=
  type == anyType || ['[', ']'].isPrefixOf type.toList ||
    ['m', 'a', 'p', '['].isPrefixOf type.toList

/-- A pointer stands for what may be null, unless the type has `nil` already. -/
def typeText : TargetType → String
  | .named name => name
  | .list element => "[]" ++ typeText element
  | .nullable inner =>
    let text := typeText inner
    if isNilable text then text else "*" ++ text

def dialect : Dialect where
  convention := convention
  scalarType := scalarType
  anyType := anyType
  sharedNamespace := true
  distinctTypes := true
  scopedVariants := false
  namespaceName schema := typeName schema
  enumName schema name := typeName (schema ++ "_" ++ name)
  compositeName schema name := typeName (schema ++ "_" ++ name)
  relationName schema relation operation :=
    typeName (schema ++ "_" ++ relation ++ "_" ++ operation.word)
  variantName := variantName
  reference _ path := path.name
  typeText := typeText

/-! ## Source text -/

/-- The text filled up with spaces to `width` characters. -/
def pad (width : Nat) (text : String) : String :=
  text ++ String.ofList (List.replicate (width - text.length) ' ')

/-- The width of a column of texts: the size of the largest. -/
def columnWidth (texts : List String) : Nat := (texts.map (·.utf8ByteSize)).foldl max 0

/-- The width of the widest column that can be laid out: widths have 16 bits. -/
def maxWidth : Nat := (1 <<< 16) - 1

/-- The tag that ties a field to its raw name. The whole tag `-` would skip the field, so a column
of that name keeps an empty list of options. A raw literal cannot hold a backtick. -/
def tag (rawName : String) (omitEmpty : Bool) : String :=
  let value :=
    if omitEmpty then rawName ++ ",omitempty"
    else if rawName == "-" then "-,"
    else rawName
  let text := "json:" ++ quote value
  if text.toList.contains '\x60' then quote text else "`" ++ text ++ "`"

def constant (width : Nat) (type : String) (v : Variant) : Item :=
  .line (pad width v.name ++ " " ++ type ++ " = " ++ quote v.value)

def enumeration (e : EnumDecl) : List Item :=
  .line ("type " ++ e.name ++ " string") ::
    if e.variants.isEmpty then []
    else [
      .blank,
      .block "const (" ")"
        (e.variants.map (constant (columnWidth (e.variants.map (·.name))) e.name))]

/-- The name, type and tag of a field. -/
structure Row where
  name : String
  type : String
  tag : String

def row (isWrite : Bool) (f : Field) : Row :=
  ⟨f.name, typeText f.effectiveType, tag f.rawName (isWrite && f.isOptional)⟩

def Row.item (nameWidth typeWidth : Nat) (r : Row) : Item :=
  .line (pad nameWidth r.name ++ " " ++ pad typeWidth r.type ++ " " ++ r.tag)

/-- Whether the columns of the constants can be laid out. -/
def enumerationFits (e : EnumDecl) : Bool := columnWidth (e.variants.map (·.name)) ≤ maxWidth

/-- Whether the columns of the fields can be laid out. -/
def recordFits (r : RecordDecl) : Bool :=
  let rows := r.fields.map (row r.isWrite)
  columnWidth (rows.map (·.name)) ≤ maxWidth && columnWidth (rows.map (·.type)) ≤ maxWidth

def record (r : RecordDecl) : Item :=
  let rows := r.fields.map (row r.isWrite)
  .braces ("type " ++ r.name ++ " struct")
    (rows.map (Row.item (columnWidth (rows.map (·.name))) (columnWidth (rows.map (·.type)))))

def schema (s : SchemaDecls) : List Item :=
  (s.enums.flatMap fun e => .blank :: enumeration e) ++
    s.records.flatMap fun r => [.blank, record r]

/-- Whether all columns can be laid out. Otherwise there is no source text. -/
def fits (ds : Declarations) : Bool :=
  ds.schemas.all fun s => s.enums.all enumerationFits && s.records.all recordFits

def source (ds : Declarations) : List Item :=
  .line "package database" :: ds.schemas.flatMap schema

def render (ds : Declarations) : String := Layout.text "\t" (source ds)

end CatalogTypes.Go
