import CatalogTypes.Catalog.Grouping
import CatalogTypes.Text.Cut
import CatalogTypes.Warning

/-! # Look-up in a snapshot -/

namespace CatalogTypes

/-- A snapshot arranged for look-up. Of schemas with one name, of types with one id and of relations
with one id only the first is kept, and a column is kept if some relation has its id. -/
structure Index where
  /-- The declared schemas, ascending by name. -/
  schemas : List Schema
  typesById : Std.HashMap ObjectId TypeDef
  /-- Types of one name are ascending by id. -/
  typesByName : Grouping String TypeDef
  typesBySchema : Grouping String TypeDef
  relationsBySchema : Grouping String KindedRelation
  columnsByTable : Grouping ObjectId Column
  warnings : List Warning

/-! ## Orders -/

def compareTypes : TypeDef → TypeDef → Ordering :=
  compareLex (compareOn (·.name)) (compareOn (·.id))

def compareRelations : KindedRelation → KindedRelation → Ordering :=
  compareLex (compareOn (·.name)) (compareLex (compareOn (·.kind.rank)) (compareOn (·.id)))

def compareColumns : Column → Column → Ordering :=
  compareLex (compareOn (·.name)) (compareOn (·.ordinalPosition))

/-- Sorts stably: elements that compare equal keep their order. -/
def sortBy {α : Type} (cmp : α → α → Ordering) (xs : List α) : List α :=
  xs.mergeSort fun x y => (cmp x y).isLE

theorem sortBy_perm {α : Type} (cmp : α → α → Ordering) (xs : List α) :
    (sortBy cmp xs).Perm xs :=
  List.mergeSort_perm ..

theorem isLE_or_isLE {α : Type} (cmp : α → α → Ordering) [Std.OrientedCmp cmp] (x y : α) :
    (cmp x y).isLE || (cmp y x).isLE := by
  have swapped : cmp y x = (cmp x y).swap := Std.OrientedCmp.eq_swap
  rcases h : cmp x y with _ | _ | _ <;> simp [swapped, h]

theorem sortBy_pairwise {α : Type} (cmp : α → α → Ordering) [Std.TransCmp cmp] (xs : List α) :
    (sortBy cmp xs).Pairwise fun x y => (cmp x y).isLE := by
  apply List.pairwise_mergeSort
  · exact fun _ _ _ h h' => Std.TransCmp.isLE_trans h h'
  · exact isLE_or_isLE cmp

/-- The order of the input does not show when only equal elements compare equal. -/
theorem sortBy_eq_of_perm {α : Type} {cmp : α → α → Ordering} [Std.TransCmp cmp] {xs ys : List α}
    (h : xs.Perm ys) (distinct : ∀ x ∈ xs, ∀ y ∈ xs, cmp x y = .eq → x = y) :
    sortBy cmp xs = sortBy cmp ys := by
  have perm : (sortBy cmp xs).Perm (sortBy cmp ys) :=
    (sortBy_perm cmp xs).trans (h.trans (sortBy_perm cmp ys).symm)
  refine perm.eq_of_pairwise (fun x y hx hy hxy hyx => ?_) (sortBy_pairwise cmp xs)
    (sortBy_pairwise cmp ys)
  have hx' : x ∈ xs := (sortBy_perm cmp xs).mem_iff.mp hx
  have hy' : y ∈ xs := h.mem_iff.mpr ((sortBy_perm cmp ys).mem_iff.mp hy)
  exact distinct x hx' y hy' (Std.OrientedCmp.isLE_antisymm hxy hyx)

instance : Std.TransCmp compareTypes := by unfold compareTypes; infer_instance

instance : Std.TransCmp compareRelations := by unfold compareRelations; infer_instance

instance : Std.TransCmp compareColumns := by unfold compareColumns; infer_instance

/-! ## Construction -/

/-- What is wrong with a type, when `repeated` says that an earlier type has its id. -/
def TypeDef.flaw? (t : TypeDef) (repeated : Bool) : Option Warning :=
  if repeated then some (.duplicateType t.id t.name)
  else if t.isAmbiguous then some (.ambiguousType t.id t.name)
  else none

namespace Snapshot

def typeFlaws (s : Snapshot) : List Warning :=
  (markRepeats (·.id) ∅ s.types).filterMap fun (t, repeated) => t.flaw? repeated

def relationFlaws (s : Snapshot) : List Warning :=
  (markRepeats (·.id) ∅ s.relations).filterMap fun (r, repeated) =>
    if repeated then some (.duplicateRelation r.id r.name) else none

def keptTypes (s : Snapshot) : List TypeDef := firsts (·.id) s.types

def keptRelations (s : Snapshot) : List KindedRelation := firsts (·.id) s.relations

def keptSchemas (s : Snapshot) : List Schema := firsts (·.name) s.schemas

def tableIds (s : Snapshot) : Std.HashSet ObjectId := Std.HashSet.ofList (s.relations.map (·.id))

def keptColumns (s : Snapshot) : List Column :=
  s.columns.filter fun c => s.tableIds.contains c.tableId

def columnFlaws (s : Snapshot) : List Warning :=
  (s.columns.filter fun c => !s.tableIds.contains c.tableId).map fun c =>
    .orphanColumn c.tableId c.name

/-- The schemas that kept relations, enumerations and composites lie in. -/
def usedSchemas (s : Snapshot) : List String :=
  (s.keptTypes.filter (!·.isScalar)).map (·.schema) ++ s.keptRelations.map (·.schema)

/-- The used schemas that are not declared, ascending, each of them once. -/
def undeclaredSchemas (s : Snapshot) : List String :=
  let declared := Std.HashSet.ofList (s.schemas.map (·.name))
  sortBy compare (firsts id (s.usedSchemas.filter (!declared.contains ·)))

/-- The flaws of types, relations, columns and schemas, in this order. -/
def flaws (s : Snapshot) : List Warning :=
  s.typeFlaws ++ s.relationFlaws ++ s.columnFlaws ++ s.undeclaredSchemas.map .undeclaredSchema

end Snapshot

namespace Index

def ofSnapshot (s : Snapshot) : Index where
  schemas := sortBy (compareOn (·.name)) s.keptSchemas
  typesById := Std.HashMap.ofList (s.keptTypes.map fun t => (t.id, t))
  typesByName := Grouping.ofList (·.name) (sortBy (compareOn (·.id)) s.keptTypes)
  typesBySchema := Grouping.ofList (·.schema) s.keptTypes
  relationsBySchema := Grouping.ofList (·.schema) s.keptRelations
  columnsByTable := Grouping.ofList (·.tableId) s.keptColumns
  warnings := s.flaws

/-! ## Look-up -/

variable (ix : Index)

/-- The names of the declared schemas, ascending. -/
def schemaNames : List String := ix.schemas.map (·.name)

def schema? (name : String) : Option Schema := ix.schemas.find? (·.name == name)

def type? (id : ObjectId) : Option TypeDef := ix.typesById[id]?

/-- The enumerations of a schema, ascending by name and id. -/
def enums (schema : String) : List TypeDef :=
  sortBy compareTypes ((ix.typesBySchema.get schema).filter (·.isEnumeration))

/-- The composites of a schema, ascending by name and id. -/
def composites (schema : String) : List TypeDef :=
  sortBy compareTypes ((ix.typesBySchema.get schema).filter (·.isComposite))

/-- The relations of a schema, ascending by name, kind and id. -/
def relations (schema : String) : List KindedRelation :=
  sortBy compareRelations (ix.relationsBySchema.get schema)

/-- The columns of a relation, ascending by name and position. -/
def columns (tableId : ObjectId) : List Column :=
  sortBy compareColumns (ix.columnsByTable.get tableId)

/-- The type that a name denotes when the part before its first dot is a schema. -/
def qualified? (name : String) : Option TypeDef := do
  let (schema, bare) ← Text.cut? '.' name.toList
  (ix.typesByName.get (String.ofList bare)).find? (·.schema == String.ofList schema)

/-- The type of just that name: in the preferred schema if it has one, else the one with the lowest
id. -/
def named? (name : String) (preferred : Option String) : Option TypeDef :=
  let candidates := ix.typesByName.get name
  (preferred.bind fun schema => candidates.find? (·.schema == schema)).or candidates.head?

/-- The type that a name denotes: read as qualified first, then as a whole. -/
def typeNamed? (name : String) (preferred : Option String) : Option TypeDef :=
  (ix.qualified? name).or (ix.named? name preferred)

end Index

end CatalogTypes
