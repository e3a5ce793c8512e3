import CatalogTypes.Proofs.Fallbacks
import CatalogTypes.Proofs.RawKeys
import CatalogTypes.Proofs.References

/-!
# Fewer schemas

In TypeScript the names of a schema are settled by the schema alone: keys are raw names, and no
registry is shared (`TypeScript.plan_eq`). When the options admit fewer schemas, those that are left
lose nothing but references, namely those to types that are written no more. Such a reference gives
way to the type of all values inside of the same lists and nullable types
(`Declarations.narrow`), and there is a warning about it.
-/

namespace CatalogTypes

/-! ## Other names in types -/

def TargetType.mapNames (f : String → String) : TargetType → TargetType
  | named name => named (f name)
  | list element => list (element.mapNames f)
  | nullable inner => nullable (inner.mapNames f)

theorem TargetType.mapNames_lists (f : String → String) (n : Nat) (name : String) :
    (lists n (named name)).mapNames f = lists n (named (f name)) := by
  induction n with
  | zero => rfl
  | succ n ih => exact congrArg list ih

def Field.mapNames (f : String → String) (field : Field) : Field :=
  { field with type := field.type.mapNames f }

def RecordDecl.mapNames (f : String → String) (r : RecordDecl) : RecordDecl :=
  { r with fields := r.fields.map (·.mapNames f) }

def RelationDecls.mapNames (f : String → String) (r : RelationDecls) : RelationDecls :=
  { r with decls := r.decls.map (·.mapNames f) }

def SchemaDecls.mapNames (f : String → String) (s : SchemaDecls) : SchemaDecls :=
  { s with composites := s.composites.map (·.mapNames f)
           relations := s.relations.map (·.mapNames f) }

/-! ## Narrower options -/

namespace Declarations

variable (ds : Declarations) (d : Dialect) (o : Options)

/-- The type of all values for a reference to a type in a schema that the options do not admit, and
every other name itself. -/
def withhold (name : String) : String :=
  if ds.targets.any fun t => t.reference d == name && !o.admits t.path.schemaRawName then d.anyType
  else name

/-- The schemas that the options admit, with references among them only. -/
def narrow : Declarations :=
  ⟨(ds.schemas.filter (o.admits ·.rawName)).map (·.mapNames (ds.withhold d o))⟩

end Declarations

theorem Declarations.withhold_eq_self {ds : Declarations} {d : Dialect} {o : Options}
    {name : String} (h : ∀ t ∈ ds.targets, t.reference d = name → o.admits t.path.schemaRawName) :
    ds.withhold d o name = name := by
  refine if_neg fun withheld => ?_
  obtain ⟨t, ht, withheld⟩ := List.any_eq_true.mp withheld
  obtain ⟨same, out⟩ := Bool.and_eq_true_iff.mp withheld
  simp [h t ht (eq_of_beq same)] at out

/-- `ds` is what is left of `ds'` when the options admit fewer schemas, and the warnings name each
type that a field of `ds` can no longer refer to. -/
structure Declarations.Narrows (ds ds' : Declarations) (d : Dialect) (o : Options)
    (ws : List Warning) : Prop where
  narrowed : ds = ds'.narrow d o
  reported : ∀ sd ∈ ds'.schemas, o.admits sd.rawName → ∀ r ∈ sd.records, ∀ f ∈ r.fields,
    ∀ t ∈ ds'.targets, f.type.base = t.reference d → o.admits t.path.schemaRawName = false →
      .excludedTypeReference t.path.schemaRawName t.path.rawName ∈ ws

/-! ## Fields under fewer references -/

section Fewer

/-- The map of references has lost some of its entries, and `f` says what becomes of their texts. -/
structure References.Loses (refs' refs : References) (d : Dialect) (s : Snapshot)
    (f : String → String) : Prop where
  scalar : ∀ scalar, f (d.scalarType scalar) = d.scalarType scalar
  any : f d.anyType = d.anyType
  reference : ∀ t ∈ s.keptTypes, refs[t.id]?.getD d.anyType = f (refs'[t.id]?.getD d.anyType)

theorem name_reference (d : Dialect) (refs : References) (t : TypeDef) :
    (Index.reference refs.contains t).name d (refs[·]?) = refs[t.id]?.getD d.anyType := by
  rw [Index.reference]
  split
  · rfl
  · next absent =>
    have none : refs[t.id]? = none := by simpa using absent
    rw [none]
    rfl

theorem Resolved.mapNames_typeOrNull {d : Dialect}
    {reference? reference?' : ObjectId → Option String} {f : String → String} {r r' : Resolved}
    (layers : r.layers = r'.layers)
    (name : r.meaning.name d reference? = f (r'.meaning.name d reference?')) (nullable : Bool) :
    r.typeOrNull d reference? nullable = (r'.typeOrNull d reference?' nullable).mapNames f := by
  simp only [typeOrNull, type_eq, TargetType.orNull_lists_named, layers, name]
  split
  · exact congrArg TargetType.nullable (TargetType.mapNames_lists ..).symm
  · exact (TargetType.mapNames_lists ..).symm

variable {refs refs' : References} {d : Dialect} {s : Snapshot} {f : String → String}
variable (loses : refs'.Loses refs d s f)

include loses

theorem name_meaning (home : Option String) (element : String) :
    ((Index.ofSnapshot s).meaning refs.contains home element).name d (refs[·]?) =
      f (((Index.ofSnapshot s).meaning refs'.contains home element).name d (refs'[·]?)) := by
  unfold Index.meaning
  cases Scalar.ofFormat? element with
  | some scalar => exact (loses.scalar scalar).symm
  | none =>
    cases found : ((Index.ofSnapshot s).typeNamed? element home).filter (!·.isScalar) with
    | none => exact loses.any.symm
    | some t =>
      have kept := Index.mem_keptTypes_of_typeNamed? (Option.filter_eq_some_iff.mp found).1
      simp only [name_reference]
      exact loses.reference t kept

theorem typeOrNull_resolve (home : Option String) (format : String) (nullable : Bool) :
    ((Index.ofSnapshot s).resolve refs.contains home format).typeOrNull d (refs[·]?) nullable =
      (((Index.ofSnapshot s).resolve refs'.contains home format).typeOrNull d (refs'[·]?)
        nullable).mapNames f := by
  refine Resolved.mapNames_typeOrNull ?_ ?_ nullable
  · rfl
  · exact name_meaning loses home _

theorem typeOrNull_resolveAttribute (t : TypeDef) (attr : Attribute) (nullable : Bool) :
    ((Index.ofSnapshot s).resolveAttribute refs.contains t attr).typeOrNull d (refs[·]?) nullable =
      (((Index.ofSnapshot s).resolveAttribute refs'.contains t attr).typeOrNull d (refs'[·]?)
        nullable).mapNames f := by
  unfold Index.resolveAttribute
  cases found : (Index.ofSnapshot s).type? attr.typeId with
  | none =>
    refine Resolved.mapNames_typeOrNull ?_ ?_ nullable
    · rfl
    · exact loses.any.symm
  | some u =>
    cases kind : u.isScalar with
    | true =>
      simp only [kind, ↓reduceIte]
      exact typeOrNull_resolve loses _ _ nullable
    | false =>
      have name := loses.reference u (Index.type?_eq_some_iff.mp found).1
      rw [← name_reference d refs, ← name_reference d refs'] at name
      simp only [kind, Bool.false_eq_true, ↓reduceIte]
      refine Resolved.mapNames_typeOrNull ?_ ?_ nullable
      · rfl
      · exact name

theorem declareComposite_loses (t : TypeDef) (name : String) :
    d.declareComposite (.ofSnapshot s) refs t name =
      (d.declareComposite (.ofSnapshot s) refs' t name).mapNames f := by
  refine congrArg (RecordDecl.mk _ _ _) ?_
  simp only [Dialect.declareComposite, Dialect.compositeFields, List.map_zipWith, Field.mapNames,
    typeOrNull_resolveAttribute loses]

theorem declareRelation_loses (r : KindedRelation) (names : List (Operation × String)) :
    d.declareRelation (.ofSnapshot s) refs r names =
      (d.declareRelation (.ofSnapshot s) refs' r names).mapNames f := by
  have fields : ∀ operation, d.relationFields (.ofSnapshot s) refs r operation =
      (d.relationFields (.ofSnapshot s) refs' r operation).map (·.mapNames f) := by
    intro operation
    simp only [Dialect.relationFields, Dialect.resolveColumn, List.map_zipWith, Field.mapNames,
      typeOrNull_resolve loses]
  simp only [Dialect.declareRelation, RelationDecls.mapNames, RecordDecl.mapNames, List.map_map,
    fields, Function.comp_def]

/-- A schema that is declared by the same plan shows nothing of the references that are lost but
in the types of its fields. -/
theorem declareSchema_loses (p : SchemaPlan) :
    d.declareSchema (.ofSnapshot s) refs p =
      (d.declareSchema (.ofSnapshot s) refs' p).mapNames f := by
  simp only [Dialect.declareSchema, SchemaDecls.mapNames, List.map_map, Function.comp_def,
    ← declareComposite_loses loses, ← declareRelation_loses loses]

end Fewer

/-- Each field of a schema that is written follows a look-up, which is also made under all other
options that let the schema be written. -/
theorem exists_looks {d : Dialect} {s : Snapshot} {o o' : Options} {sd : SchemaDecls}
    (hsd : sd ∈ (d.build (.ofSnapshot s) o').declarations.schemas) (emitted : s.emits o sd.rawName)
    {r : RecordDecl} (hr : r ∈ sd.records) {f : Field} (hf : f ∈ r.fields) :
    ∃ l, s.Looks o l ∧ f.Follows d s (d.build (.ofSnapshot s) o').declarations l := by
  rcases List.mem_append.mp hr with hc | hd
  · obtain ⟨t, ht, fields⟩ := exists_of_forall₂ (attributes_follow d s o' sd hsd) r hc
    obtain ⟨attr, ha, l, h, follows⟩ := exists_of_forall₂ fields f hf
    obtain ⟨first, kind, schema⟩ := Index.mem_composites_iff.mp ht
    exact ⟨l, .attribute first kind (schema ▸ emitted) ha h, follows⟩
  · obtain ⟨rd, hrd, hd⟩ := List.mem_flatMap.mp hd
    obtain ⟨rel, hrel, decls⟩ := exists_of_forall₂ (columns_follow d s o' sd hsd) rd hrd
    obtain ⟨c, hc, l, h, follows⟩ := exists_of_forall₂ (decls r hd) f hf
    obtain ⟨first, schema⟩ := Index.mem_relations_iff.mp hrel
    obtain ⟨hc, owner⟩ := (Index.mem_columns_iff first.mem).mp hc
    exact ⟨l, .column first (schema ▸ emitted) hc owner h, follows⟩

/-! ## TypeScript -/

namespace TypeScript

/-- The plan of a schema, whatever schemas are named before it. -/
def planOf (ix : Index) (schema : String) : SchemaPlan :=
  { (dialect.nameSchema ix ⟨.empty, .empty⟩ schema).1 with name := convention.escape schema }

theorem plan_eq (s : Snapshot) (o : Options) :
    dialect.plan (.ofSnapshot s) o =
      ((Index.ofSnapshot s).emittedNames o).map (planOf (.ofSnapshot s)) := by
  have entities : ∀ p ∈ dialect.plan (.ofSnapshot s) o,
      p = { planOf (.ofSnapshot s) p.schema with name := p.name } :=
    forall_mem_mapThread (P := fun p : SchemaPlan =>
      p = { planOf (.ofSnapshot s) p.schema with name := p.name }) (fun _ _ => rfl) _ _
  have same : ∀ p ∈ dialect.plan (.ofSnapshot s) o, p = planOf (.ofSnapshot s) p.schema := by
    intro p hp
    have eq := entities p hp
    rwa [name_plan s o p hp] at eq
  rw [Index.emittedNames, ← dialect.schema_plan, List.map_map]
  exact (List.map_id _).symm.trans (List.map_congr_left same)

theorem schemas_build_eq (s : Snapshot) (o : Options) :
    (dialect.build (.ofSnapshot s) o).declarations.schemas =
      ((Index.ofSnapshot s).emittedNames o).map fun schema =>
        dialect.declareSchema (.ofSnapshot s) (dialect.emitted (.ofSnapshot s) o)
          (planOf (.ofSnapshot s) schema) := by
  rw [Dialect.schemas_build, plan_eq, List.map_map]
  rfl

variable {s : Snapshot} {o o' : Options} {t : TypeDef} {text : String}

/-- A type is referred to by the plan of its own schema. -/
theorem getElem?_emitted_eq_some_iff_planOf (kept : t ∈ s.keptTypes) :
    (dialect.emitted (.ofSnapshot s) o)[t.id]? = some text ↔
      t.schema ∈ (Index.ofSnapshot s).emittedNames o ∧
        (planOf (.ofSnapshot s) t.schema).Refers dialect t text := by
  have covers := dialect.plan_covers (.ofSnapshot s) o
  rw [getElem?_emitted_eq_some_iff kept, refers_build_iff]
  rw [plan_eq] at covers ⊢
  constructor
  · rintro ⟨p, hp, refers⟩
    have own : t.schema = p.schema := (covers p hp).schema_eq refers
    obtain ⟨schema, hs, rfl⟩ := List.mem_map.mp hp
    have own : t.schema = schema := own
    exact ⟨own ▸ hs, own ▸ refers⟩
  · rintro ⟨hs, refers⟩
    exact ⟨_, List.mem_map_of_mem hs, refers⟩

theorem reference_ne (target : Target) {name : String} (h : name.toList.head? ≠ some 'D') :
    target.reference dialect ≠ name := by
  rintro rfl
  obtain ⟨cs, head⟩ := head_reference target.kind target.path
  exact h (congrArg List.head? head)

theorem head?_scalarType (scalar : Scalar) : (scalarType scalar).toList.head? ≠ some 'D' := by
  cases scalar <;> decide

theorem head?_anyType : dialect.anyType.toList.head? ≠ some 'D' := by decide

/-- What does not begin as a reference stays. -/
theorem withhold_of_head {ds : Declarations} {name : String} (h : name.toList.head? ≠ some 'D') :
    ds.withhold dialect o name = name :=
  Declarations.withhold_eq_self fun t _ same => absurd same (reference_ne t h)

theorem withhold_reference {ds : Declarations} {target : Target} (h : target ∈ ds.targets) :
    ds.withhold dialect o (target.reference dialect) =
      if o.admits target.path.schemaRawName then target.reference dialect else dialect.anyType := by
  split
  · next admitted =>
    refine ds.withhold_eq_self fun t _ same => ?_
    obtain ⟨-, schema, -⟩ := same_of_reference same
    rwa [schema]
  · next out =>
    refine if_pos (List.any_eq_true.mpr ⟨target, h, ?_⟩)
    simpa using out

/-- A reference to a type that is not written is looked up in vain. -/
theorem mem_warnings_of_lost {s : Snapshot} {sd : SchemaDecls}
    (hsd : sd ∈ (dialect.build (.ofSnapshot s) o').declarations.schemas)
    (admitted : o.admits sd.rawName) {r : RecordDecl} (hr : r ∈ sd.records) {f : Field}
    (hf : f ∈ r.fields) {t : Target} (base : f.type.base = t.reference dialect)
    (out : o.admits t.path.schemaRawName = false) :
    .excludedTypeReference t.path.schemaRawName t.path.rawName ∈
      (dialect.build (.ofSnapshot s) o).warnings := by
  have emitted' := dialect.mem_rawNames_build_iff.mp (List.mem_map_of_mem hsd)
  have emitted : s.emits o sd.rawName :=
    Bool.and_eq_true_iff.mpr ⟨(Bool.and_eq_true_iff.mp emitted').1, admitted⟩
  obtain ⟨l, looks, follows⟩ := exists_looks hsd emitted hr hf
  have found : ∃ name, l.Finds s dialect (dialect.build (.ofSnapshot s) o').declarations name := by
    by_contra nothing
    have any := follows.fallsBack (not_exists.mp nothing)
    exact reference_ne t head?_anyType (base.symm.trans any)
  obtain ⟨name, finds⟩ := found
  have same : t.reference dialect = name := base.symm.trans (follows.found name finds)
  cases finds with
  | builtin => exact absurd same (reference_ne t (head?_scalarType _))
  | reference selects refers =>
    obtain ⟨target, -, text, schema, rawName⟩ := refers.exists_target
    obtain ⟨-, schema', rawName'⟩ := same_of_reference (same.trans text.symm)
    have unwritten : s.emits o t.path.schemaRawName = false := by
      rw [Snapshot.emits, out, Bool.and_false]
    rw [schema', rawName', schema, rawName]
    rw [schema', schema] at unwritten
    exact (Dialect.mem_warnings_build_iff _).mpr ⟨l, looks, .excluded selects unwritten⟩

section Narrower

variable (narrower : ∀ schema, o.admits schema → o'.admits schema)

include narrower

theorem emittedNames_eq_filter (ix : Index) :
    ix.emittedNames o = (ix.emittedNames o').filter o.admits := by
  rw [Index.emittedNames, Index.emittedNames, List.filter_filter]
  refine List.filter_congr fun schema _ => ?_
  cases h : o.admits schema with
  | true => rw [narrower schema h, Bool.and_self]
  | false => rfl

/-- The references that are left are those to types in schemas that are admitted. -/
theorem getElem?_emitted (kept : t ∈ s.keptTypes) :
    (dialect.emitted (.ofSnapshot s) o)[t.id]? =
      if o.admits t.schema then (dialect.emitted (.ofSnapshot s) o')[t.id]? else none := by
  ext text
  rw [getElem?_emitted_eq_some_iff_planOf kept, emittedNames_eq_filter narrower, List.mem_filter]
  split
  · next admitted =>
    rw [getElem?_emitted_eq_some_iff_planOf kept, and_iff_left admitted]
  · next out => simp [out]

theorem emitted_loses :
    (dialect.emitted (.ofSnapshot s) o').Loses (dialect.emitted (.ofSnapshot s) o) dialect s
      ((dialect.build (.ofSnapshot s) o').declarations.withhold dialect o) where
  scalar scalar := withhold_of_head (head?_scalarType scalar)
  any := withhold_of_head head?_anyType
  reference t kept := by
    rw [getElem?_emitted narrower kept]
    cases found : (dialect.emitted (.ofSnapshot s) o')[t.id]? with
    | none => rw [ite_self, Option.getD_none, withhold_of_head head?_anyType]
    | some text =>
      obtain ⟨target, ht, rfl, schema, -⟩ :=
        ((getElem?_emitted_eq_some_iff kept).mp found).exists_target
      rw [Option.getD_some, withhold_reference ht, schema]
      split
      · rfl
      · rfl

theorem build_eq_narrow (s : Snapshot) :
    (dialect.build (.ofSnapshot s) o).declarations =
      (dialect.build (.ofSnapshot s) o').declarations.narrow dialect o := by
  have schemas : ((dialect.build (.ofSnapshot s) o').declarations.schemas.filter
      (o.admits ·.rawName)) = ((Index.ofSnapshot s).emittedNames o).map fun schema =>
        dialect.declareSchema (.ofSnapshot s) (dialect.emitted (.ofSnapshot s) o')
          (planOf (.ofSnapshot s) schema) := by
    rw [schemas_build_eq, List.filter_map, emittedNames_eq_filter narrower]
    rfl
  have same : ∀ schema,
      dialect.declareSchema (.ofSnapshot s) (dialect.emitted (.ofSnapshot s) o)
          (planOf (.ofSnapshot s) schema) = _ :=
    fun schema => declareSchema_loses (emitted_loses narrower) (planOf (.ofSnapshot s) schema)
  have fewer := schemas_build_eq s o
  simp only [same] at fewer
  rw [Declarations.narrow, schemas, List.map_map]
  exact congrArg Declarations.mk fewer

/-- Whatever the snapshot, with fewer schemas the declarations of those that are left are the same
but for references to the others. For each of these references there is a warning. -/
theorem declare_narrows (s : Snapshot) :
    (declare s { o with language := .typescript }).declarations.Narrows
      (declare s { o' with language := .typescript }).declarations dialect o
      (generate s { o with language := .typescript }).warnings where
  narrowed := build_eq_narrow narrower s
  reported _ hsd admitted _ hr _ hf _ _ base out :=
    mem_warnings_generate_iff.mpr (.inr (mem_warnings_of_lost hsd admitted hr hf base out))

end Narrower

end TypeScript

/-- A column of a schema has an enumeration of another one. -/
def Snapshot.borrowing : Snapshot where
  schemas := [⟨1, "app"⟩, ⟨2, "auth"⟩]
  tables := [⟨10, "app", "users"⟩]
  columns := [{ tableId := 10, name := "roles", format := "_role" }]
  types := [{ id := 20, schema := "auth", name := "role", enums := ["reader", "writer"] }]

theorem TypeScript.declare_narrows_borrowing :
    let o : Options := { excluded := some ["auth"] }
    (∀ schema, o.admits schema → Options.admits {} schema) ∧
      (declare .borrowing { o with language := .typescript }).declarations.Narrows
        (declare .borrowing { language := .typescript }).declarations dialect o
        (generate .borrowing { o with language := .typescript }).warnings := by
  intro o
  have all : ∀ schema, Options.admits {} schema := fun _ => rfl
  exact ⟨fun schema _ => all schema, declare_narrows (fun schema _ => all schema) .borrowing⟩

end CatalogTypes
