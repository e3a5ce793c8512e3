import CatalogTypes.Dialect
import CatalogTypes.Layout

/-! # Python: models of rows, and typed dictionaries for writes -/

namespace CatalogTypes.Python

open Text

/-- The reserved words, and names that would hide attributes of a model. -/
def keywords : List String := [
  "False", "None", "True", "and", "as", "assert", "async", "await", "break", "class", "continue",
  "copy", "def", "del", "dict", "elif", "else", "except", "finally", "for", "from", "global", "if",
  "import", "in", "is", "json", "lambda", "model_config", "model_fields", "nonlocal", "not", "or",
  "pass", "raise", "return", "schema", "try", "while", "with", "yield"]

def convention : Convention where
  casing := .snake
  reserved := keywords
  escaping := .trailingUnderscore
  digitLead := "field_"
  placeholder := "field"

def scalarType : Scalar → String
  | .bool => "bool"
  | .int16 | .int32 | .int64 => "int"
  | .float32 | .float64 | .numeric => "float"
  | .bytes => "bytes"
  | .date => "datetime.date"
  | .time => "datetime.time"
  | .timestamp => "datetime.datetime"
  | .uuid => "uuid.UUID"
  | .json => "Any"
  | .void => "None"
  | .record => "Dict[str, Any]"
  | .text | .interval | .range => "str"

def relationName (schema relation : String) : Operation → String
  | .select => typeName (schema ++ "_" ++ relation)
  | operation => typeName (schema ++ "_" ++ relation ++ "_" ++ operation.word)

def variantName (label : String) : String :=
  if hasWords label then
    let name := Casing.upperSnake.apply label
    if name.toList.head?.any Char.isDigit then "VALUE_" ++ name else name
  else "VALUE"

def typeText : TargetType → String
  | .named name => name
  | .list element => "List[" ++ typeText element ++ "]"
  | .nullable inner => "Optional[" ++ typeText inner ++ "]"

def dialect : Dialect where
  convention := convention
  scalarType := scalarType
  anyType := "Any"
  sharedNamespace := true
  distinctTypes := true
  scopedVariants := true
  namespaceName schema := typeName schema
  enumName schema name := typeName (schema ++ "_" ++ name)
  compositeName schema name := typeName (schema ++ "_" ++ name)
  relationName := relationName
  variantName _ label := variantName label
  reference _ path := path.name
  typeText := typeText

/-! ## Source text -/

def header : List Item := [
  .line "from __future__ import annotations",
  .blank,
  .line "import datetime",
  .line "import uuid",
  .line "from enum import Enum",
  .line "from typing import Annotated, Any, Dict, List, Optional",
  .blank,
  .line "from pydantic import BaseModel, Field",
  .line "from typing_extensions import NotRequired, TypedDict"]

/-- A class after two empty lines. A class has at least one line. -/
def classItems (name base : String) (lines : List String) : List Item :=
  [.blank, .blank, .line ("class " ++ name ++ "(" ++ base ++ "):"), .indent] ++
    (if lines.isEmpty then ["pass"] else lines).map .line ++ [.dedent]

def enumeration (e : EnumDecl) : List Item :=
  classItems e.name "str, Enum" (e.variants.map fun v => v.name ++ " = " ++ quote v.value)

/-- The field tied to its raw name. -/
def fieldAlias (f : Field) : String := "Field(alias=" ++ quote f.rawName ++ ")"

def model (r : RecordDecl) : List Item :=
  classItems r.name "BaseModel"
    (r.fields.map fun f => f.name ++ ": " ++ typeText f.type ++ " = " ++ fieldAlias f)

def payloadType (f : Field) : String :=
  let annotated := "Annotated[" ++ typeText f.type ++ ", " ++ fieldAlias f ++ "]"
  if f.isOptional then "NotRequired[" ++ annotated ++ "]" else annotated

def payload (r : RecordDecl) : List Item :=
  classItems r.name "TypedDict" (r.fields.map fun f => f.name ++ ": " ++ payloadType f)

def relationRecord (r : RecordDecl) : List Item := if r.isWrite then payload r else model r

def schema (s : SchemaDecls) : List Item :=
  s.enums.flatMap enumeration ++ s.composites.flatMap model ++
    (s.relations.flatMap (·.decls)).flatMap relationRecord

def source (ds : Declarations) : List Item := header ++ ds.schemas.flatMap schema

def render (ds : Declarations) : String := Layout.text "    " (source ds)

end CatalogTypes.Python
