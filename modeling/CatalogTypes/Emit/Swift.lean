import CatalogTypes.Dialect
import CatalogTypes.Emit.Graph
import CatalogTypes.Layout
import CatalogTypes.Options
import CatalogTypes.Text.Shown

/-! # Swift: codable types in one namespace per schema -/

namespace CatalogTypes.Swift

open Text

def keywords : List String := [
  "Any", "Protocol", "Self", "Type", "as", "associatedtype", "await", "break", "case", "catch",
  "class", "continue", "default", "defer", "deinit", "do", "else", "enum", "extension",
  "fallthrough", "false", "fileprivate", "for", "func", "guard", "if", "import", "in", "init",
  "inout", "internal", "is", "let", "nil", "open", "operator", "private", "precedencegroup",
  "protocol", "public", "repeat", "rethrows", "return", "self", "static", "struct", "subscript",
  "super", "switch", "throw", "throws", "true", "try", "typealias", "var", "where", "while"]

def convention : Convention where
  casing := .lowerCamel
  reserved := keywords
  escaping := .backticks
  digitLead := "_"
  placeholder := "field"

def scalarType : Scalar → String
  | .bool => "Bool"
  | .int16 => "Int16"
  | .int32 => "Int32"
  | .int64 => "Int64"
  | .float32 => "Float"
  | .float64 => "Double"
  | .numeric => "Decimal"
  | .uuid => "UUID"
  | .json => "AnyJSON"
  | .void => "Void"
  | .record => "[String: AnyJSON]"
  | .bytes | .text | .date | .time | .timestamp | .interval | .range => "String"

def variantName (label : String) : String :=
  if hasWords label then convention.fieldName label else "value"

def reference (path : DeclPath) : String := path.schemaName ++ "." ++ path.name

def typeText : TargetType → String
  | .named name => name
  | .list element => "[" ++ typeText element ++ "]"
  | .nullable inner => typeText inner ++ "?"

def dialect : Dialect where
  convention := convention
  scalarType := scalarType
  anyType := "AnyJSON"
  sharedNamespace := false
  distinctTypes := true
  scopedVariants := true
  namespaceName schema := typeName schema ++ "Schema"
  enumName _ name := typeName name
  compositeName _ name := typeName name
  relationName _ relation operation := typeName relation ++ operation.suffix
  variantName _ label := variantName label
  reference _ path := reference path
  typeText := typeText

/-! ## String literals -/

/-- A string literal. Only control characters are named by their code points. -/
def literal (value : String) : String :=
  String.ofList ('"' :: value.toList.flatMap (bracedEscape (!isControl ·)) ++ ['"'])

/-! ## Recursive composites -/

/-- The names of the types that a value of the type holds in place. What is in a list is not held in
place. -/
def inPlace : TargetType → List String
  | .named name => [name]
  | .nullable inner => inPlace inner
  | .list _ => []

/-- The composites with the types that they hold in place, under the names by which fields refer to
them. -/
def containment (ds : Declarations) : Graph :=
  .ofList <| ds.schemas.flatMap fun s => s.composites.map fun c =>
    (reference ⟨s.rawName, s.name, c.rawName, c.name⟩, c.fields.flatMap (inPlace ·.type))

/-! ## Source text -/

def conformances : String := "Codable, Hashable, Sendable"

def enumeration (access : String) (e : EnumDecl) : Item :=
  .braces (access ++ " enum " ++ e.name ++ ": String, " ++ conformances)
    (e.variants.map fun v => .line ("case " ++ v.name ++ " = " ++ literal v.value))

/-- The name and the type of a field. -/
def member (f : Field) : String := f.name ++ ": " ++ typeText f.effectiveType

/-- What a class does not have of itself: an initializer, equality and a hash. -/
def classMembers (access : String) (r : RecordDecl) : List Item := [
  .blank,
  .braces (access ++ " init(" ++ ", ".intercalate (r.fields.map member) ++ ")")
    (r.fields.map fun f => .line ("self." ++ f.name ++ " = " ++ f.name)),
  .blank,
  .braces (access ++ " static func == (lhs: " ++ r.name ++ ", rhs: " ++ r.name ++ ") -> Bool") [
    .line <|
      if r.fields.isEmpty then "true"
      else " && ".intercalate (r.fields.map fun f => "lhs." ++ f.name ++ " == rhs." ++ f.name)],
  .blank,
  .braces (access ++ " func hash(into hasher: inout Hasher)")
    (r.fields.map fun f => .line ("hasher.combine(" ++ f.name ++ ")"))]

/-- The raw names of the fields. -/
def codingKeys (access : String) (r : RecordDecl) : List Item :=
  if r.fields.isEmpty then []
  else [
    .blank,
    .braces (access ++ " enum CodingKeys: String, CodingKey")
      (r.fields.map fun f => .line ("case " ++ f.name ++ " = " ++ literal f.rawName))]

/-- A record that holds itself cannot be a value, so it becomes a class. -/
def record (access : String) (isClass : Bool) (r : RecordDecl) : Item :=
  let identity := if r.fields.any (·.name == "id") then ", Identifiable" else ""
  let keyword := if isClass then " final class " else " struct "
  .braces (access ++ keyword ++ r.name ++ ": " ++ conformances ++ identity) <|
    (r.fields.map fun f => .line (access ++ " let " ++ member f)) ++
      (if isClass then classMembers access r else []) ++ codingKeys access r

def schema (access : String) (cyclic : Std.HashSet String) (s : SchemaDecls) : Item :=
  let header := access ++ " enum " ++ s.name
  if s.isEmpty then .line (header ++ " \x7b\x7d")
  else
    .braces header <| Item.between [.blank] id <|
      (s.enums.map fun e => [enumeration access e]) ++
        s.records.map fun r => [record access (cyclic.contains (s.name ++ "." ++ r.name)) r]

def source (access : Access) (ds : Declarations) : List Item :=
  let cyclic := (containment ds).cyclic
  .line "import Foundation" :: .line "import Supabase" ::
    ds.schemas.flatMap fun s => [.blank, schema access.keyword cyclic s]

def render (access : Access) (ds : Declarations) : String := Layout.text "  " (source access ds)

end CatalogTypes.Swift
