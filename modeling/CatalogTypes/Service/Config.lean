/-! # Configuration of the service -/

namespace CatalogTypes.Service

structure Config where
  listen : String := "0.0.0.0:8080"
  /-- The most bytes that the body of a request may have. -/
  bodyLimit : Nat := 16 * 1024 * 1024
  /-- The schemas that are not emitted when a request does not choose any. -/
  excluded : List String := []
  logLevel : String := "info"
deriving DecidableEq, Repr

end CatalogTypes.Service
