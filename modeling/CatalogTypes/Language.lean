/-! # Target languages -/

namespace CatalogTypes

/-- The languages that declarations are written in. -/
inductive Language where
  | typescript
  | go
  | swift
  | python
deriving DecidableEq, Repr

namespace Language

def all : List Language := [typescript, go, swift, python]

def name : Language → String
  | typescript => "typescript"
  | go => "go"
  | swift => "swift"
  | python => "python"

/-- The names by which a language may be asked for. -/
def aliases : Language → List String
  | typescript => ["typescript", "ts"]
  | go => ["go", "golang"]
  | swift => ["swift"]
  | python => ["python", "py"]

/-- The language of that name, whatever the case of its ASCII letters. -/
def ofName? (name : String) : Option Language :=
  let plain := name.map Char.toLower
  all.find? (·.aliases.contains plain)

end Language

end CatalogTypes
