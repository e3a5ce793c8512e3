import CatalogTypes.Service.Http
import CatalogTypes.Text.Cut
import CatalogTypes.Text.Shown

/-! # Requests and replies as plain text -/

namespace CatalogTypes.Service

/-- Reads a request: method and target stand on the first line with a space between them, and
everything after that line is the body. -/
def Request.ofText (text : String) : Request String :=
  let (head, body) := (Text.cut? '\n' text.toList).getD (text.toList, [])
  let (method, target) := (Text.cut? ' ' head).getD (head, [])
  ⟨String.ofList method, String.ofList target, String.ofList body⟩

/-- The reports about the task of that number. -/
def Reports.ofTask (number : Nat) : Reports := fun b =>
  "task " ++ Text.decimal number ++ " panicked with message " ++ Text.shown b.message

/-- Status and media type stand on the first line, and the body after it. -/
def Reply.toText (r : Reply) : String :=
  Text.decimal r.status ++ r.mediaType.elim "" (" " ++ ·.name) ++ "\n" ++ r.body

end CatalogTypes.Service
