import CatalogTypes.Proofs.Fallbacks
import CatalogTypes.Proofs.Fields

/-!
# What becomes of every entity

A snapshot can hold entities that are not declared: repeats of an id, columns of no relation,
entities in schemas that are not declared or not let through. `generate_accounts` goes through each
of the lists place by place. What is there is either declared, or kept out by the options, or a
warning names it; and no warning of this kind names anything else.
-/

namespace CatalogTypes

/-! ## Fates -/

/-- Every element of the list, place by place, is skipped because an element before it has its key,
or it is the first with its key and is kept. -/
def SkipsRepeats {α κ : Type} (key : α → κ) (xs : List α) (Skipped Kept : α → Prop) : Prop :=
  ∀ before x after, xs = before ++ x :: after →
    (∃ y ∈ before, key y = key x) ∧ Skipped x ∨ (∀ y ∈ before, key y ≠ key x) ∧ Kept x

section Fates

variable (s : Snapshot) (o : Options) (ds : Declarations) (ws : List Warning)

/-- What becomes of a kept entity of the schema. `Declares` says that a schema declares it. -/
inductive Settled (schema : String) (Declares : SchemaDecls → Prop) : Prop
  | declared {sd : SchemaDecls} (hsd : sd ∈ ds.schemas) (name : sd.rawName = schema)
      (h : Declares sd)
  | filtered (h : o.admits schema = false)
  | undeclared (h : ∀ x ∈ s.schemas, x.name ≠ schema) (reported : .undeclaredSchema schema ∈ ws)

/-- The schema declares the relation, at the place that it has in the order of the schema. -/
def SchemaDecls.DeclaresRelation (sd : SchemaDecls) (r : KindedRelation) : Prop :=
  ∃ rd, (r, rd) ∈ ((Index.ofSnapshot s).relations sd.rawName).zip sd.relations ∧ rd.Declares r

/-- The schema declares the enumeration or composite, at the place that it has in the order of the
schema. -/
inductive SchemaDecls.DeclaresType (sd : SchemaDecls) (t : TypeDef) : Prop
  | enumeration {e : EnumDecl} (kind : t.isEnumeration)
      (h : (t, e) ∈ ((Index.ofSnapshot s).enums sd.rawName).zip sd.enums) (declares : e.Declares t)
  | composite {c : RecordDecl} (kind : t.isComposite)
      (h : (t, c) ∈ ((Index.ofSnapshot s).composites sd.rawName).zip sd.composites)
      (declares : c.DeclaresComposite t)

/-- What becomes of a column. The relation that is kept for its id shows it in each declaration,
together with the other columns of that id. -/
inductive ColumnSettled (c : Column) : Prop
  | shown {r : KindedRelation} {sd : SchemaDecls} {rd : RelationDecls} {cs : List Column}
      (first : IsFirst (·.id) s.relations r) (owner : c.tableId = r.id) (hsd : sd ∈ ds.schemas)
      (name : sd.rawName = r.schema)
      (hrd : (r, rd) ∈ ((Index.ofSnapshot s).relations sd.rawName).zip sd.relations)
      (hc : c ∈ cs) (listed : s.ListsColumns r.id cs) (columns : rd.HasColumns r cs)
  | unwritten {r : KindedRelation} (first : IsFirst (·.id) s.relations r)
      (owner : c.tableId = r.id) (out : s.emits o r.schema = false)
  | orphan (h : ∀ r ∈ s.relations, r.id ≠ c.tableId)
      (reported : .orphanColumn c.tableId c.name ∈ ws)

/-- Nothing is lost without a trace, and every trace is of something lost. -/
structure Accounts : Prop where
  relations : SkipsRepeats (·.id) s.relations (fun r => .duplicateRelation r.id r.name ∈ ws)
    fun r => Settled s o ds ws r.schema (·.DeclaresRelation s r)
  types : SkipsRepeats (·.id) s.types (fun t => .duplicateType t.id t.name ∈ ws)
    fun t => t.isScalar = false → Settled s o ds ws t.schema (·.DeclaresType s t)
  columns : ∀ c ∈ s.columns, ColumnSettled s o ds ws c
  duplicateRelation : ∀ id name, .duplicateRelation id name ∈ ws ↔
    ∃ r, IsRepeat (·.id) s.relations r ∧ r.id = id ∧ r.name = name
  duplicateType : ∀ id name, .duplicateType id name ∈ ws ↔
    ∃ t, IsRepeat (·.id) s.types t ∧ t.id = id ∧ t.name = name
  ambiguousType : ∀ id name, .ambiguousType id name ∈ ws ↔
    ∃ t, IsFirst (·.id) s.types t ∧ t.isAmbiguous ∧ t.id = id ∧ t.name = name
  orphanColumn : ∀ id name, .orphanColumn id name ∈ ws ↔
    ∃ c ∈ s.columns, (∀ r ∈ s.relations, r.id ≠ c.tableId) ∧ c.tableId = id ∧ c.name = name
  undeclaredSchema : ∀ schema, .undeclaredSchema schema ∈ ws ↔
    s.Uses schema ∧ ∀ x ∈ s.schemas, x.name ≠ schema

end Fates

theorem SkipsRepeats.intro {α κ : Type} {key : α → κ} {xs : List α} {Skipped Kept : α → Prop}
    (repeats : ∀ x, IsRepeat key xs x → Skipped x) (firsts : ∀ x, IsFirst key xs x → Kept x) :
    SkipsRepeats key xs Skipped Kept := by
  intro before x after h
  by_cases again : ∃ y ∈ before, key y = key x
  · exact .inl ⟨again, repeats x ⟨before, after, h, again⟩⟩
  · have first : ∀ y ∈ before, key y ≠ key x := fun y hy heq => again ⟨y, hy, heq⟩
    exact .inr ⟨first, firsts x ⟨before, after, h, first⟩⟩

/-! ## Declared entities -/

namespace Dialect

variable (d : Dialect) (s : Snapshot) (o : Options)

theorem forall₂_declaresRelation : ∀ sd ∈ (d.build (.ofSnapshot s) o).declarations.schemas,
    List.Forall₂ (fun r rd => rd.Declares r) ((Index.ofSnapshot s).relations sd.rawName)
      sd.relations :=
  d.forall_mem_build _ o fun _ _ covers =>
    covers.forall₂_relations d _ (d.declareRelation_declares _ _)

theorem forall₂_declaresEnum : ∀ sd ∈ (d.build (.ofSnapshot s) o).declarations.schemas,
    List.Forall₂ (fun t e => e.Declares t) ((Index.ofSnapshot s).enums sd.rawName) sd.enums :=
  d.forall_mem_build _ o fun _ _ covers => covers.forall₂_enums d _

theorem forall₂_declaresComposite : ∀ sd ∈ (d.build (.ofSnapshot s) o).declarations.schemas,
    List.Forall₂ (fun t c => c.DeclaresComposite t) ((Index.ofSnapshot s).composites sd.rawName)
      sd.composites :=
  d.forall_mem_build _ o fun _ _ covers =>
    covers.forall₂_composites d _ (d.declareComposite_declares _ _)

end Dialect

section Declared

variable {d : Dialect} {s : Snapshot} {o : Options} {sd : SchemaDecls}
variable (hsd : sd ∈ (d.build (.ofSnapshot s) o).declarations.schemas)

include hsd

theorem declaresRelation_of_isFirst {r : KindedRelation} (first : IsFirst (·.id) s.relations r)
    (schema : sd.rawName = r.schema) : sd.DeclaresRelation s r :=
  exists_zip_of_forall₂ (d.forall₂_declaresRelation s o sd hsd) r
    (Index.mem_relations_iff.mpr ⟨first, schema.symm⟩)

theorem declaresType_of_isFirst {t : TypeDef} (first : IsFirst (·.id) s.types t)
    (kind : t.isScalar = false) (schema : sd.rawName = t.schema) : sd.DeclaresType s t := by
  rcases TypeDef.isScalar_eq_false_iff.mp kind with enum | composite
  · obtain ⟨e, he, declares⟩ := exists_zip_of_forall₂ (d.forall₂_declaresEnum s o sd hsd) t
      (Index.mem_enums_iff.mpr ⟨first, enum, schema.symm⟩)
    exact .enumeration enum he declares
  · obtain ⟨c, hc, declares⟩ := exists_zip_of_forall₂ (d.forall₂_declaresComposite s o sd hsd) t
      (Index.mem_composites_iff.mpr ⟨first, composite, schema.symm⟩)
    exact .composite composite hc declares

end Declared

section Settled

variable {d : Dialect} {s : Snapshot} {o : Options} {ws : List Warning}
variable (reported : ∀ w, s.Flaw w → w ∈ ws)

include reported

/-- A schema that is used is written, not let through, or reported. -/
theorem Settled.of_uses {schema : String} {Declares : SchemaDecls → Prop} (used : s.Uses schema)
    (h : ∀ sd ∈ (d.build (.ofSnapshot s) o).declarations.schemas, sd.rawName = schema →
      Declares sd) :
    Settled s o (d.build (.ofSnapshot s) o).declarations ws schema Declares := by
  cases emitted : s.emits o schema with
  | true =>
    obtain ⟨sd, hsd, name⟩ := List.mem_map.mp (d.mem_rawNames_build_iff.mpr emitted)
    exact .declared hsd name (h sd hsd name)
  | false =>
    rcases Snapshot.emits_eq_false_iff.mp emitted with undeclared | filtered
    · exact .undeclared undeclared (reported _ (.undeclaredSchema used undeclared))
    · exact .filtered filtered

theorem columnSettled {c : Column} (hc : c ∈ s.columns) :
    ColumnSettled s o (d.build (.ofSnapshot s) o).declarations ws c := by
  by_cases owned : ∃ r ∈ s.relations, r.id = c.tableId
  · obtain ⟨r', hr', owner⟩ := owned
    -- Of several relations with the id, the columns go to the first.
    obtain ⟨r, first, same⟩ :
        ∃ r, IsFirst (·.id) s.relations r ∧ r.id = r'.id := exists_isFirst hr'
    have owner : c.tableId = r.id := (same.trans owner).symm
    cases emitted : s.emits o r.schema with
    | true =>
      obtain ⟨sd, hsd, name⟩ := List.mem_map.mp (d.mem_rawNames_build_iff.mpr emitted)
      obtain ⟨rd, hrd, columns⟩ := exists_zip_of_forall₂ (d.forall₂_hasColumns s o sd hsd) r
        (Index.mem_relations_iff.mpr ⟨first, name.symm⟩)
      exact .shown first owner hsd name hrd ((Index.mem_columns_iff first.mem).mpr ⟨hc, owner⟩)
        (Index.listsColumns first.mem) columns
    | false => exact .unwritten first owner emitted
  · have orphan : ∀ r ∈ s.relations, r.id ≠ c.tableId := fun r hr id => owned ⟨r, hr, id⟩
    exact .orphan orphan (reported _ (.orphanColumn hc orphan))

end Settled

/-- The warnings about the snapshot itself are its flaws. -/
theorem mem_warnings_generate_iff_flaw {s : Snapshot} {o : Options} {w : Warning}
    (h : ∀ l : Lookup, ¬ l.Fails s o w) : w ∈ (generate s o).warnings ↔ s.Flaw w := by
  rw [mem_warnings_generate_iff, or_iff_left_iff_imp]
  intro built
  obtain ⟨l, -, fails⟩ := (Dialect.mem_warnings_build_iff _).mp built
  exact absurd fails (h l)

/-- In every language, each entity of a snapshot is declared where it belongs, or kept out by the
options, or named by a warning. -/
theorem generate_accounts (s : Snapshot) (o : Options) :
    Accounts s o (declare s o).declarations (generate s o).warnings := by
  have reported : ∀ w, s.Flaw w → w ∈ (generate s o).warnings :=
    fun w flaw => mem_warnings_generate_iff.mpr (.inl flaw)
  exact {
    relations := SkipsRepeats.intro (fun r again => reported _ (.duplicateRelation again))
      fun r first => .of_uses reported (.inr ⟨r, first, rfl⟩) fun sd hsd schema =>
        declaresRelation_of_isFirst hsd first schema
    types := SkipsRepeats.intro (fun t again => reported _ (.duplicateType again))
      fun t first kind => .of_uses reported (.inl ⟨t, first, kind, rfl⟩) fun sd hsd schema =>
        declaresType_of_isFirst hsd first kind schema
    columns := fun c hc => columnSettled reported hc
    duplicateRelation := by
      intro id name
      rw [mem_warnings_generate_iff_flaw (by rintro l ⟨⟩)]
      constructor
      · rintro (- | - | again)
        exact ⟨_, again, rfl, rfl⟩
      · rintro ⟨r, again, rfl, rfl⟩
        exact .duplicateRelation again
    duplicateType := by
      intro id name
      rw [mem_warnings_generate_iff_flaw (by rintro l ⟨⟩)]
      constructor
      · rintro (again | -)
        exact ⟨_, again, rfl, rfl⟩
      · rintro ⟨t, again, rfl, rfl⟩
        exact .duplicateType again
    ambiguousType := by
      intro id name
      rw [mem_warnings_generate_iff_flaw (by rintro l ⟨⟩)]
      constructor
      · rintro (- | ⟨first, both⟩)
        exact ⟨_, first, both, rfl, rfl⟩
      · rintro ⟨t, first, both, rfl, rfl⟩
        exact .ambiguousType first both
    orphanColumn := by
      intro id name
      rw [mem_warnings_generate_iff_flaw (by rintro l ⟨⟩)]
      constructor
      · rintro (- | - | - | ⟨hc, h⟩)
        exact ⟨_, hc, h, rfl, rfl⟩
      · rintro ⟨c, hc, h, rfl, rfl⟩
        exact .orphanColumn hc h
    undeclaredSchema := by
      intro schema
      rw [mem_warnings_generate_iff_flaw (by rintro l ⟨⟩)]
      constructor
      · rintro (- | - | - | - | ⟨used, h⟩)
        exact ⟨used, h⟩
      · rintro ⟨used, h⟩
        exact .undeclaredSchema used h }

end CatalogTypes
