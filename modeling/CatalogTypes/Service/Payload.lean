import CatalogTypes.Generate
import CatalogTypes.Service.Config

/-! # What is sent to the service to generate from -/

namespace CatalogTypes.Service

open Json

structure Payload where
  snapshot : Snapshot
  included : Option (List String) := none
  excluded : Option (List String) := none
  access : Option Access := none
deriving DecidableEq, Repr

namespace Payload

def reader : Reader Payload :=
  .record "GenerateRequest" <|
    ((Fields.required "metadata" Snapshot.reader).and <|
      (Fields.optional "included_schemas" (.orNull (.list .text)) none).and <|
      (Fields.optional "excluded_schemas" (.orNull (.list .text)) none).and <|
      .optional "access_control" (.orNull Access.reader) none).map
      fun (snapshot, included, excluded, access) => { snapshot, included, excluded, access }

def ofJson (text : String) : Except Error Payload := reader.decode text

/-- The excluded schemas: those of the service, if there are any, take the place of both lists when
neither is given. A list that is given but empty counts as given. -/
def exclusions (p : Payload) (config : Config) : Option (List String) :=
  match p.included, p.excluded with
  | none, none => if config.excluded.isEmpty then none else some config.excluded
  | _, excluded => excluded

def options (p : Payload) (language : Language) (config : Config) : Options where
  language := language
  included := p.included
  excluded := p.exclusions config
  access := p.access.getD .publicAccess

end Payload

/-- How the bodies of requests are read. What a body is stays open, for one that is sent need not be
text. -/
structure Decoder (Body : Type) where
  /-- How many bytes a body has. -/
  size : Body → Nat
  payload : Body → Except Error Payload

/-- Bodies that are text. -/
def Decoder.text : Decoder String := ⟨String.utf8ByteSize, Payload.ofJson⟩

end CatalogTypes.Service
