import CatalogTypes.Generate
import CatalogTypes.Proofs.Blocks

/-!
# Where declarations stand in the text

For any declarations, the text of a language has the lines of a record's fields below the line that
opens the record, and that line below those of its relation and its schema where a language nests
them.
-/

namespace CatalogTypes

open Layout

/-! ## Go -/

namespace Go

/-- The line of a field, not indented yet. -/
def fieldText (r : RecordDecl) (f : Field) : String :=
  pad (columnWidth (r.fields.map (·.name))) f.name ++ " " ++
    pad (columnWidth (r.fields.map (typeText ·.effectiveType))) (typeText f.effectiveType) ++ " " ++
      tag f.rawName (r.isWrite && f.isOptional)

theorem record_eq (r : RecordDecl) :
    record r =
      .braces ("type " ++ r.name ++ " struct") ((r.fields.map (fieldText r)).map .line) := by
  simp only [record, List.map_map, Function.comp_def, Row.item, row, fieldText]

theorem balanced_record (r : RecordDecl) : Balanced [record r] := by
  rw [record_eq]
  exact .block (balanced_lines _) .nil

theorem balanced_enumeration (e : EnumDecl) : Balanced (enumeration e) := by
  refine .line ?_
  split
  · exact .nil
  · exact .blank (.block (balanced_map fun _ _ => .line .nil) .nil)

theorem balanced_schema (s : SchemaDecls) : Balanced (schema s) :=
  (balanced_flatMap fun e _ => .blank (balanced_enumeration e)).append
    (balanced_flatMap fun r _ => .blank (balanced_record r))

theorem shows_record {ds : Declarations} {s : SchemaDecls} (hs : s ∈ ds.schemas) {r : RecordDecl}
    (hr : r ∈ s.records) :
    Shows "\t" ["type " ++ r.name ++ " struct \x7b"] (r.fields.map (fieldText r)) (render ds) := by
  have inRecords : Within [record r] (s.records.flatMap fun r => [.blank, record r]) :=
    ((Within.refl _).append_left [.blank] (.blank .nil)).trans
      (within_flatMap hr fun r _ => .blank (balanced_record r))
  have inSchema : Within [record r] (schema s) :=
    inRecords.append_left _ (balanced_flatMap fun e _ => .blank (balanced_enumeration e))
  have inSource : Within [record r] (source ds) :=
    (inSchema.trans (within_flatMap hs fun s _ => balanced_schema s)).append_left
      [.line "package database"] (.line .nil)
  refine ⟨_, rfl, inSource.holds ?_⟩
  rw [record_eq]
  exact holds_braces (balanced_lines _) (by simp [String.append_assoc]) (holds_lines _)

end Go

/-! ## Python -/

namespace Python

/-- The line of a field in the declaration of a relation. -/
def fieldText (r : RecordDecl) (f : Field) : String :=
  if r.isWrite then f.name ++ ": " ++ payloadType f
  else f.name ++ ": " ++ typeText f.type ++ " = " ++ fieldAlias f

/-- The class that a relation's declaration extends. -/
def base (r : RecordDecl) : String := if r.isWrite then "TypedDict" else "BaseModel"

theorem relationRecord_eq (r : RecordDecl) :
    relationRecord r = classItems r.name (base r) (r.fields.map (fieldText r)) := by
  unfold relationRecord base fieldText
  split
  · rfl
  · rfl

theorem balanced_classItems (name base : String) (lines : List String) :
    Balanced (classItems name base lines) :=
  .blank (.blank (.line (.indented (balanced_lines _) .nil)))

theorem holds_classItems (name base : String) (lines : List String) :
    Holds "    " 0 (Layout.lines "    " 0 (classItems name base lines)).1
      ["class " ++ name ++ "(" ++ base ++ "):"] lines := by
  have inClass : Within
      (.line ("class " ++ name ++ "(" ++ base ++ "):") :: .indent ::
        (if lines.isEmpty then ["pass"] else lines).map .line ++ [.dedent])
      (classItems name base lines) :=
    (Within.refl _).append_left [.blank, .blank] (.blank (.blank .nil))
  refine inClass.holds (holds_indented (balanced_lines _) ?_)
  cases lines with
  | nil => exact .rows [] _
  | cons line lines => exact holds_lines _

theorem balanced_enumerations (s : SchemaDecls) : Balanced (s.enums.flatMap enumeration) :=
  balanced_flatMap fun _ _ => balanced_classItems ..

theorem balanced_composites (s : SchemaDecls) : Balanced (s.composites.flatMap model) :=
  balanced_flatMap fun _ _ => balanced_classItems ..

theorem balanced_relationRecord (r : RecordDecl) : Balanced (relationRecord r) := by
  rw [relationRecord_eq]
  exact balanced_classItems ..

theorem balanced_schema (s : SchemaDecls) : Balanced (schema s) :=
  ((balanced_enumerations s).append (balanced_composites s)).append
    (balanced_flatMap fun r _ => balanced_relationRecord r)

theorem balanced_header : Balanced header :=
  .line (.blank (.line (.line (.line (.line (.blank (.line (.line .nil))))))))

theorem shows_relation {ds : Declarations} {s : SchemaDecls} (hs : s ∈ ds.schemas)
    {rd : RelationDecls} (hrd : rd ∈ s.relations) {r : RecordDecl} (hr : r ∈ rd.decls) :
    Shows "    " ["class " ++ r.name ++ "(" ++ base r ++ "):"] (r.fields.map (fieldText r))
      (render ds) := by
  have inSchema : Within (relationRecord r) (schema s) :=
    (within_flatMap (List.mem_flatMap_of_mem hrd hr)
      fun r _ => balanced_relationRecord r).append_left _
      ((balanced_enumerations s).append (balanced_composites s))
  have inSource : Within (relationRecord r) (source ds) :=
    (inSchema.trans (within_flatMap hs fun s _ => balanced_schema s)).append_left _ balanced_header
  rw [relationRecord_eq] at inSource
  exact ⟨_, rfl, inSource.holds (holds_classItems ..)⟩

end Python

/-! ## Swift -/

namespace Swift

/-- The line of a field, not indented yet. -/
def fieldText (access : String) (f : Field) : String := access ++ " let " ++ member f

/-- What a record has after its fields. -/
def extras (access : String) (isClass : Bool) (r : RecordDecl) : List Item :=
  (if isClass then classMembers access r else []) ++ codingKeys access r

theorem balanced_members (access : String) (isClass : Bool) (r : RecordDecl) :
    Balanced (if isClass then classMembers access r else []) := by
  have texts : ∀ f : Field → String, Balanced (r.fields.map fun x => .line (f x)) :=
    fun f => balanced_map fun _ _ => .line .nil
  split
  · refine .blank (.block (texts _) (.blank (.block (.line .nil) ?_)))
    exact .blank (.block (texts _) .nil)
  · exact .nil

theorem balanced_codingKeys (access : String) (r : RecordDecl) :
    Balanced (codingKeys access r) := by
  unfold codingKeys
  split
  · exact .nil
  · exact .blank (.block (balanced_map fun _ _ => .line .nil) .nil)

theorem balanced_extras (access : String) (isClass : Bool) (r : RecordDecl) :
    Balanced (extras access isClass r) :=
  (balanced_members access isClass r).append (balanced_codingKeys access r)

/-- What stands before the name of a record. -/
def keyword (isClass : Bool) : String := if isClass then " final class " else " struct "

def identity (r : RecordDecl) : String :=
  if r.fields.any (·.name == "id") then ", Identifiable" else ""

theorem record_eq (access : String) (isClass : Bool) (r : RecordDecl) :
    record access isClass r =
      .braces (access ++ keyword isClass ++ r.name ++ ": " ++ conformances ++ identity r)
        ((r.fields.map (fieldText access)).map .line ++ extras access isClass r) := by
  rw [List.map_map, extras, ← List.append_assoc]
  rfl

theorem balanced_record (access : String) (isClass : Bool) (r : RecordDecl) :
    Balanced [record access isClass r] := by
  rw [record_eq]
  exact ((balanced_lines _).append (balanced_extras ..)).braces _

theorem balanced_enumeration (access : String) (e : EnumDecl) :
    Balanced [enumeration access e] :=
  .block (balanced_map fun _ _ => .line .nil) .nil

/-- The declarations of a schema, a piece for each. -/
def pieces (access : String) (cyclic : Std.HashSet String) (s : SchemaDecls) : List (List Item) :=
  (s.enums.map fun e => [enumeration access e]) ++
    s.records.map fun r => [record access (cyclic.contains (s.name ++ "." ++ r.name)) r]

theorem balanced_of_mem_pieces {access : String} {cyclic : Std.HashSet String} {s : SchemaDecls} :
    ∀ piece ∈ pieces access cyclic s, Balanced piece := by
  intro piece hp
  rcases List.mem_append.mp hp with hp | hp
  · obtain ⟨e, -, rfl⟩ := List.mem_map.mp hp
    exact balanced_enumeration access e
  · obtain ⟨r, -, rfl⟩ := List.mem_map.mp hp
    exact balanced_record ..

theorem balanced_pieces (access : String) (cyclic : Std.HashSet String) (s : SchemaDecls) :
    Balanced (Item.between [.blank] id (pieces access cyclic s)) :=
  balanced_between (.blank .nil) balanced_of_mem_pieces

theorem balanced_schema (access : String) (cyclic : Std.HashSet String) (s : SchemaDecls) :
    Balanced [schema access cyclic s] := by
  unfold schema
  split
  · exact .line .nil
  · exact (balanced_pieces access cyclic s).braces _

section Pieces

variable {access : String} {cyclic : Std.HashSet String} {s : SchemaDecls} {piece : List Item}
  (hp : piece ∈ pieces access cyclic s)
include hp

theorem schema_eq :
    schema access cyclic s =
      .braces (access ++ " enum " ++ s.name)
        (Item.between [.blank] id (pieces access cyclic s)) := by
  have filled : s.isEmpty = false := by
    rw [Bool.eq_false_iff]
    intro h
    simp only [SchemaDecls.isEmpty, Bool.and_eq_true, List.isEmpty_iff] at h
    simp [pieces, SchemaDecls.records, h] at hp
  rw [schema, filled]
  rfl

theorem within_pieces : Within piece (Item.between [.blank] id (pieces access cyclic s)) :=
  within_between (f := id) hp (.blank .nil) balanced_of_mem_pieces

end Pieces

theorem record_mem_pieces (access : String) (cyclic : Std.HashSet String) {s : SchemaDecls}
    {r : RecordDecl} (hr : r ∈ s.records) :
    ∃ isClass, [record access isClass r] ∈ pieces access cyclic s :=
  ⟨_, List.mem_append_right _ (List.mem_map_of_mem hr)⟩

theorem within_source (access : Access) {ds : Declarations} {s : SchemaDecls}
    (hs : s ∈ ds.schemas) :
    Within [schema access.keyword (containment ds).cyclic s] (source access ds) := by
  let cyclic := (containment ds).cyclic
  have inSchemas : Within [schema access.keyword cyclic s]
      (ds.schemas.flatMap fun s => [.blank, schema access.keyword cyclic s]) :=
    ((Within.refl _).append_left [.blank] (.blank .nil)).trans
      (within_flatMap (f := fun s => [.blank, schema access.keyword cyclic s]) hs
        fun s _ => .blank (balanced_schema access.keyword cyclic s))
  exact inSchemas.append_left [.line "import Foundation", .line "import Supabase"]
    (.line (.line .nil))

theorem shows_record (access : Access) {ds : Declarations} {s : SchemaDecls} (hs : s ∈ ds.schemas)
    {r : RecordDecl} (hr : r ∈ s.records) :
    ∃ isClass, Shows "  "
      [access.keyword ++ " enum " ++ s.name ++ " \x7b",
        access.keyword ++ keyword isClass ++ r.name ++ ": " ++ conformances ++ identity r ++
          " \x7b"]
      (r.fields.map (fieldText access.keyword)) (render access ds) := by
  obtain ⟨isClass, listed⟩ := record_mem_pieces access.keyword (containment ds).cyclic hr
  refine ⟨isClass, _, rfl, (within_source access hs).holds ?_⟩
  rw [schema_eq listed]
  refine holds_braces (balanced_pieces ..) rfl ((within_pieces listed).holds ?_)
  rw [record_eq]
  exact holds_braces ((balanced_lines _).append (balanced_extras ..)) rfl (holds_lines_append _ _)

end Swift

/-! ## TypeScript -/

namespace TypeScript

/-- The line of a field, not indented yet. -/
def fieldText (omittable : Bool) (f : Field) : String :=
  f.name ++ (if omittable && f.isOptional then "?" else "") ++ ": " ++ typeText f.type

theorem object_eq (key : String) {fields : List Field} (h : fields ≠ []) (omittable : Bool) :
    object key fields omittable =
      .braces (key ++ ":") ((fields.map (fieldText omittable)).map .line) := by
  rw [object, if_neg (by simpa using h), List.map_map]
  rfl

theorem balanced_object (key : String) (fields : List Field) (omittable : Bool) :
    Balanced [object key fields omittable] := by
  unfold object
  split
  · exact .line .nil
  · exact (balanced_map fun _ _ => .line .nil).braces _

theorem balanced_decls (r : RelationDecls) :
    Balanced (r.decls.map fun decl => object (recordKey decl) decl.fields decl.isWrite) :=
  balanced_map fun _ _ => balanced_object ..

theorem balanced_relation (r : RelationDecls) : Balanced [relation r] :=
  (balanced_decls r).braces _

theorem balanced_entries {entries : List Item} (h : Balanced entries) :
    Balanced (if entries.isEmpty then [.line "[_ in never]: never"] else entries) := by
  split
  · exact .line .nil
  · exact h

theorem balanced_group (key : String) {entries : List Item} (h : Balanced entries) :
    Balanced [group key entries] :=
  (balanced_entries h).braces _

theorem balanced_relations (rs : List RelationDecls) : Balanced (rs.map relation) :=
  balanced_map fun r _ => balanced_relation r

/-- The groups of a schema. -/
def groups (s : SchemaDecls) : List Item := [
  group "Enums" (s.enums.map fun e => .line (e.name ++ ": " ++ union e)),
  group "CompositeTypes" (s.composites.map fun c => object c.name c.fields false),
  group "Tables" ((s.relations.filter isTableLike).map relation),
  group "Views" ((s.relations.filter (!isTableLike ·)).map relation)]

theorem balanced_of_mem_groups {s : SchemaDecls} : ∀ g ∈ groups s, Balanced [g] := by
  simp only [groups, List.forall_mem_cons, List.not_mem_nil, false_implies, implies_true, and_true]
  exact ⟨balanced_group _ (balanced_map fun _ _ => .line .nil),
    balanced_group _ (balanced_map fun _ _ => balanced_object ..),
    balanced_group _ (balanced_relations _), balanced_group _ (balanced_relations _)⟩

theorem balanced_groups (s : SchemaDecls) : Balanced (groups s) :=
  balanced_of_forall balanced_of_mem_groups

theorem balanced_schema (s : SchemaDecls) : Balanced [schema s] := (balanced_groups s).braces _

theorem balanced_header : Balanced header := by
  refine .line (@Balanced.indented [_, _, _, _, _, _] _ ?_ (.blank .nil))
  exact .line (.line (.line (.line (.line (.line .nil)))))

/-- The group that a relation is listed in. -/
def groupKey (r : RelationDecls) : String := if isTableLike r then "Tables" else "Views"

theorem within_groups {s : SchemaDecls} {g : Item} (hg : g ∈ groups s) : Within [g] (groups s) := by
  rw [← List.map_id (groups s)]
  exact within_map (f := id) hg balanced_of_mem_groups

theorem exists_group {s : SchemaDecls} {rd : RelationDecls} (hrd : rd ∈ s.relations) :
    ∃ rs : List RelationDecls, rd ∈ rs ∧ group (groupKey rd) (rs.map relation) ∈ groups s := by
  unfold groupKey
  by_cases table : isTableLike rd
  · rw [if_pos table]
    exact ⟨s.relations.filter isTableLike, List.mem_filter.mpr ⟨hrd, table⟩, by simp [groups]⟩
  · rw [if_neg table]
    refine ⟨s.relations.filter (!isTableLike ·), List.mem_filter.mpr ⟨hrd, ?_⟩, by simp [groups]⟩
    simpa using table

theorem balanced_schemas (ds : Declarations) : Balanced (ds.schemas.map schema) :=
  balanced_map fun s _ => balanced_schema s

theorem within_source {ds : Declarations} {s : SchemaDecls} (hs : s ∈ ds.schemas) :
    Within [.braces "export type Database =" (ds.schemas.map schema)] (source ds) := by
  rw [source, if_neg (by simpa using List.ne_nil_of_mem hs)]
  exact (Within.refl _).append_left header balanced_header

theorem within_schemas {ds : Declarations} {s : SchemaDecls} (hs : s ∈ ds.schemas) :
    Within [schema s] (ds.schemas.map schema) :=
  within_map hs fun s _ => balanced_schema s

section Shows

variable {ds : Declarations} {s : SchemaDecls} (hs : s ∈ ds.schemas) {headers rows : List String}
include hs

theorem shows_schema (h : Holds "  " 2 (lines "  " 2 (groups s)).1 headers rows) :
    Shows "  " ("export type Database = \x7b" :: (s.name ++ ": \x7b") :: headers) rows
      (render ds) := by
  refine ⟨_, rfl, (within_source hs).holds (holds_braces (balanced_schemas ds) rfl ?_)⟩
  exact (within_schemas hs).holds
    (holds_braces (balanced_groups s) (by simp [String.append_assoc]) h)

/-- What an entry of a group holds stands below the keys of the schema and of the group. -/
theorem shows_group {key : String} {entries : List Item} (hg : group key entries ∈ groups s)
    (balanced : Balanced entries) {entry : Item} (he : Within [entry] entries) {header : String}
    (h : Holds "  " 3 (lines "  " 3 [entry]).1 (header :: headers) rows) :
    Shows "  " ("export type Database = \x7b" :: (s.name ++ ": \x7b") :: (key ++ ": \x7b") ::
      header :: headers) rows (render ds) := by
  have filled : entries.isEmpty = false := by
    obtain ⟨before, after, rfl, -⟩ := he
    simp
  refine shows_schema hs ((within_groups hg).holds ?_)
  rw [group, filled]
  exact holds_braces balanced (by simp [String.append_assoc]) (he.holds h)

section Relation

variable {rd : RelationDecls} (hrd : rd ∈ s.relations)
include hrd

theorem shows_entry {header : String}
    (h : Holds "  " 3 (lines "  " 3 [relation rd]).1 (header :: headers) rows) :
    Shows "  " ("export type Database = \x7b" :: (s.name ++ ": \x7b") ::
      (groupKey rd ++ ": \x7b") :: header :: headers) rows (render ds) := by
  obtain ⟨rs, hrs, hg⟩ := exists_group hrd
  exact shows_group hs hg (balanced_relations rs) (within_map hrs fun r _ => balanced_relation r) h

/-- What the object of a record holds stands below the key of the relation as well. -/
theorem shows_object {r : RecordDecl} (hr : r ∈ rd.decls) {header : String}
    (h : Holds "  " 4 (lines "  " 4 [object (recordKey r) r.fields r.isWrite]).1
      (header :: headers) rows) :
    Shows "  " ("export type Database = \x7b" :: (s.name ++ ": \x7b") ::
      (groupKey rd ++ ": \x7b") :: (convention.escape rd.rawName ++ ": \x7b") ::
        header :: headers) rows (render ds) := by
  have inRelation : Within [object (recordKey r) r.fields r.isWrite]
      (rd.decls.map fun decl => object (recordKey decl) decl.fields decl.isWrite) :=
    within_map hr fun _ _ => balanced_object ..
  refine shows_entry hs hrd (holds_braces (balanced_decls rd) ?_ (inRelation.holds h))
  simp [String.append_assoc]

theorem shows_relation {r : RecordDecl} (hr : r ∈ rd.decls) (filled : r.fields ≠ []) :
    Shows "  " ["export type Database = \x7b", s.name ++ ": \x7b", groupKey rd ++ ": \x7b",
        convention.escape rd.rawName ++ ": \x7b", recordKey r ++ ": \x7b"]
      (r.fields.map (fieldText r.isWrite)) (render ds) := by
  refine shows_object hs hrd hr ?_
  rw [object_eq _ filled]
  exact holds_braces (balanced_lines _) (by simp [String.append_assoc]) (holds_lines _)

end Relation

end Shows

end TypeScript

end CatalogTypes
