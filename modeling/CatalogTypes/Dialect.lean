import CatalogTypes.Catalog.Scalar
import CatalogTypes.Declarations.Basic
import CatalogTypes.Naming.Convention

/-! # What a target language settles about names and types -/

namespace CatalogTypes

structure Dialect where
  convention : Convention
  scalarType : Scalar → String
  /-- The type of every value, for what has no better one. -/
  anyType : String
  /-- Whether the types of all schemas share one namespace. -/
  sharedNamespace : Bool
  /-- Whether type names have to be told apart; keys that are raw names already are. -/
  distinctTypes : Bool
  /-- Whether the variants of an enumeration have a namespace of their own, and do not stand among
  the types. -/
  scopedVariants : Bool
  namespaceName (schema : String) : String
  enumName (schema name : String) : String
  compositeName (schema name : String) : String
  relationName (schema relation : String) (operation : Operation) : String
  /-- The name of a variant, given the name of its enumeration and its label. -/
  variantName (enumName label : String) : String
  /-- How a field refers to a declaration. -/
  reference (kind : DeclKind) (path : DeclPath) : String
  typeText : TargetType → String

namespace Dialect

variable (d : Dialect)

def escape (name : String) : String := d.convention.escape name

end Dialect

end CatalogTypes
