import Std.Data.HashSet
import CatalogTypes.Catalog.Snapshot
import CatalogTypes.Text.Decimal

/-! # Findings about a snapshot that do not stop a generation -/

namespace CatalogTypes

inductive Warning where
  /-- A name that is neither a built-in scalar nor a declared type. -/
  | unknownBaseType (format : String)
  /-- An attribute whose type the snapshot lacks. Its composite is given as `schema.name`. -/
  | unresolvedTypeReference (typeId : ObjectId) (composite attr : String)
  /-- A type that is used but lies in a schema that is not emitted. -/
  | excludedTypeReference (schema name : String)
  | orphanColumn (tableId : ObjectId) (column : String)
  /-- A relation whose id an earlier relation has. -/
  | duplicateRelation (id : ObjectId) (name : String)
  /-- A type whose id an earlier type has. -/
  | duplicateType (id : ObjectId) (name : String)
  /-- A type with labels and attributes. -/
  | ambiguousType (id : ObjectId) (name : String)
  | undeclaredSchema (schema : String)
deriving DecidableEq, Repr, Hashable

namespace Warning

def message : Warning → String
  | unknownBaseType format => "unknown type '" ++ format ++ "' mapped to the backend's any type"
  | unresolvedTypeReference typeId composite attr =>
    "attribute '" ++ attr ++ "' of '" ++ composite ++ "' references missing type id "
      ++ Text.decimal typeId.toNat
  | excludedTypeReference schema name =>
    "type '" ++ schema ++ "." ++ name ++ "' is referenced but its schema is not emitted"
  | orphanColumn tableId column =>
    "column '" ++ column ++ "' references unknown relation id " ++ Text.decimal tableId.toNat
  | duplicateRelation id name =>
    "relation '" ++ name ++ "' reuses id " ++ Text.decimal id.toNat ++ " and was skipped"
  | duplicateType id name =>
    "type '" ++ name ++ "' reuses id " ++ Text.decimal id.toNat ++ " and was skipped"
  | ambiguousType id name =>
    "type '" ++ name ++ "' (" ++ Text.decimal id.toNat
      ++ ") has both enum labels and attributes; treated as enum"
  | undeclaredSchema schema => "schema '" ++ schema ++ "' is not declared in the snapshot"

end Warning

/-- Warnings in the order of their first occurrence, each of them once. -/
structure Findings where
  warnings : Array Warning
  /-- The warnings as a set. -/
  seen : Std.HashSet Warning

namespace Findings

def empty : Findings := ⟨#[], ∅⟩

def record (f : Findings) (w : Warning) : Findings :=
  if f.seen.contains w then f else ⟨f.warnings.push w, f.seen.insert w⟩

def recordAll (f : Findings) (ws : List Warning) : Findings := ws.foldl record f

def toList (f : Findings) : List Warning := f.warnings.toList

def isEmpty (f : Findings) : Bool := f.warnings.isEmpty

def ofList (ws : List Warning) : Findings := empty.recordAll ws

@[simp] theorem toList_empty : empty.toList = [] := rfl

theorem toList_record (f : Findings) (w : Warning) :
    (f.record w).toList = if f.seen.contains w then f.toList else f.toList ++ [w] := by
  unfold record
  split <;> simp [toList]

@[simp] theorem recordAll_append (f : Findings) (ws vs : List Warning) :
    f.recordAll (ws ++ vs) = (f.recordAll ws).recordAll vs := by
  simp [recordAll]

end Findings

end CatalogTypes
