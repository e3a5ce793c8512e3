import CatalogTypes.Proofs.Rendering
import CatalogTypes.Proofs.TypeTexts

/-!
# What the text says about missing values

A column may be null, and a payload may leave a column out. Declarations keep the two apart, as the
type of a field and as a flag beside it, and every language puts them together in its own way. Here
the line of each field is compared with the column it stands for.
-/

namespace CatalogTypes

open Layout

namespace Operation

def isWrite (operation : Operation) : Bool := operation == .insert || operation == .update

/-- Whether a payload for the operation may leave the column out. -/
def mayOmit (operation : Operation) (c : Column) : Bool :=
  operation.isWrite && operation.isOptional c

/-- What may be null is missing from a row that is read, and may be left out of one that is
written. -/
theorem isOptional_of_isNullable (operation : Operation) {c : Column} (h : c.isNullable) :
    operation.isOptional c := by
  cases operation <;> simp [isOptional, h]

end Operation

/-! ## Lines -/

/-- The key, a mark if the key may be missing, and a type that says whether the value may be
null. -/
structure TypeScript.Writes (operation : Operation) (c : Column) (f : Field) (line : String) :
    Prop where
  line : line = f.name ++ (if operation.mayOmit c then "?" else "") ++ ": " ++ typeText f.type
  nullable : (∃ inner, typeText f.type = inner ++ " | null") ↔ c.isNullable

/-- The name, a type that has `nil` if a value may be missing, and the tag. No pointer leads to a
pointer or to what has `nil` already, and without need there is none. -/
structure Go.Writes (operation : Operation) (c : Column) (f : Field) (line : String) : Prop where
  line : ∃ nameWidth typeWidth, line = pad nameWidth f.name ++ " " ++
    pad typeWidth (typeText f.effectiveType) ++ " " ++ tag c.name (operation.mayOmit c)
  hasNil : operation.isOptional c →
    HasNil (typeText f.effectiveType) ∨ ∃ rest, typeText f.effectiveType = "*" ++ rest
  pointee : ∀ before after, typeText f.effectiveType = before ++ "*" ++ after →
    ¬ HasNil after ∧ ∀ rest, after ≠ "*" ++ rest
  value : operation.isOptional c = false → ∀ rest, typeText f.effectiveType ≠ "*" ++ rest

/-- The name and a type that is optional if a value may be missing. -/
structure Swift.Writes (access : String) (operation : Operation) (c : Column) (f : Field)
    (line : String) : Prop where
  line : line = access ++ " let " ++ f.name ++ ": " ++ typeText f.effectiveType
  optional : (∃ inner, typeText f.effectiveType = inner ++ "?") ↔ operation.isOptional c

/-- What stands after the name of a field: in a payload the type with its alias, wrapped once more
if the key may be missing, and in a model the type alone. -/
def Python.ascription (operation : Operation) (c : Column) (f : Field) : String :=
  let annotated := "Annotated[" ++ typeText f.type ++ ", " ++ fieldAlias f ++ "]"
  if operation.mayOmit c then "NotRequired[" ++ annotated ++ "]"
  else if operation.isWrite then annotated
  else typeText f.type

/-- The name, its ascription, and in a model the alias. The type alone says whether the value may be
null. -/
structure Python.Writes (operation : Operation) (c : Column) (f : Field) (line : String) :
    Prop where
  line : line = f.name ++ ": " ++ ascription operation c f ++
    if operation.isWrite then "" else " = " ++ fieldAlias f
  notRequired : Applies "NotRequired" (ascription operation c f) ↔ operation.mayOmit c
  nullable : Applies "Optional" (typeText f.type) ↔ c.isNullable

namespace Language

def unit : Language → String
  | typescript => "  "
  | go => "\t"
  | swift => "  "
  | python => "    "

/-- The line is that of the field for the column. -/
def Writes (language : Language) (access : Access) (operation : Operation) (c : Column)
    (f : Field) (line : String) : Prop :=
  match language with
  | typescript => TypeScript.Writes operation c f line
  | go => Go.Writes operation c f line
  | swift => Swift.Writes access.keyword operation c f line
  | python => Python.Writes operation c f line

/-- The headers lead to the fields of the declaration `r` of the relation `rd`. -/
def Leads (language : Language) (access : Access) (s : SchemaDecls) (rd : RelationDecls)
    (r : RecordDecl) (headers : List String) : Prop :=
  match language with
  | typescript => headers = [
      "export type Database = \x7b", s.name ++ ": \x7b", TypeScript.groupKey rd ++ ": \x7b",
      TypeScript.convention.escape rd.rawName ++ ": \x7b", TypeScript.recordKey r ++ ": \x7b"]
  | go => headers = ["type " ++ r.name ++ " struct \x7b"]
  | swift => ∃ isClass, headers = [
      access.keyword ++ " enum " ++ s.name ++ " \x7b",
      access.keyword ++ Swift.keyword isClass ++ r.name ++ ": " ++ Swift.conformances ++
        Swift.identity r ++ " \x7b"]
  | python => headers = ["class " ++ r.name ++ "(" ++ Python.base r ++ "):"]

end Language

/-- Below its headers, the declaration of a relation for an operation has one line for each column,
in order. Without columns, nothing need be below them. -/
structure RecordDecl.ShowsColumns (r : RecordDecl) (language : Language) (access : Access)
    (s : SchemaDecls) (rd : RelationDecls) (operation : Operation) (columns : List Column)
    (rows : List String) (text : String) : Prop where
  length : rows.length = r.fields.length
  lines : List.Forall₂
    (fun c q => q.1.rawName = c.name ∧ language.Writes access operation c q.1 q.2) columns
    (r.fields.zip rows)
  shows : columns ≠ [] → ∃ headers, language.Leads access s rd r headers ∧
    Shows language.unit headers rows text

/-- Each relation that is written is declared in its schema for each of its operations, and every
declaration has the lines of the relation's columns. -/
def Declarations.ShowColumns (ds : Declarations) (s : Snapshot) (o : Options) (text : String) :
    Prop :=
  ∀ r, IsFirst (·.id) s.relations r → s.emits o r.schema → ∀ operation ∈ r.kind.operations,
    ∃ sd ∈ ds.schemas, sd.rawName = r.schema ∧ ∃ rd ∈ sd.relations, rd.id = r.id ∧
      ∃ decl ∈ rd.decls, decl.origin = .relation r.kind operation ∧
        ∃ columns : List Column, ∃ rows, columns.Perm (s.columns.filter (·.tableId == r.id)) ∧
          decl.ShowsColumns o.language o.access sd rd operation columns rows text

/-! ## Fields of relations -/

/-- The type of a column is a name within lists, and nullable as a whole if the column is. -/
theorem ColumnType.shape {d : Dialect} {ix : Index} {ds : Declarations} {r : KindedRelation}
    {c : Column} {type : TargetType} (h : ColumnType d ix ds r c type) :
    ∃ n name, Grounded d ix ds name ∧ type =
      if c.isNullable then .nullable (.lists n (.named name)) else .lists n (.named name) := by
  cases h with
  | nullable nullable spells =>
    have grounded := spells.grounded
    obtain ⟨-, -⟩ := spells
    rw [TargetType.base_lists] at grounded
    exact ⟨_, _, grounded, (if_pos nullable).symm⟩
  | plain required spells =>
    have grounded := spells.grounded
    obtain ⟨-, -⟩ := spells
    rw [TargetType.base_lists] at grounded
    exact ⟨_, _, grounded, (if_neg (by simp [required])).symm⟩

/-- What is known of the field for a column in a declaration for an operation. -/
structure Field.Stands (f : Field) (d : Dialect) (ix : Index) (o : Options)
    (operation : Operation) (c : Column) : Prop where
  rawName : f.rawName = c.name
  isOptional : f.isOptional = operation.isOptional c
  type : ∃ n name, Grounded d ix (d.build ix o).declarations name ∧
    f.type = if c.isNullable then .nullable (.lists n (.named name)) else .lists n (.named name)

/-- Without a mark beside it, the type tells whether a value may be missing. -/
theorem Field.Stands.effectiveType {f : Field} {d : Dialect} {ix : Index} {o : Options}
    {operation : Operation} {c : Column} (h : f.Stands d ix o operation c) :
    ∃ n name, Grounded d ix (d.build ix o).declarations name ∧
      f.effectiveType =
        if operation.isOptional c then .nullable (.lists n (.named name))
        else .lists n (.named name) := by
  obtain ⟨n, name, grounded, type⟩ := h.type
  refine ⟨n, name, grounded, ?_⟩
  rw [Field.effectiveType, h.isOptional, type]
  cases optional : operation.isOptional c with
  | true =>
    cases c.isNullable with
    | true => rfl
    | false => exact TargetType.orNull_lists_named n name
  | false =>
    have required : c.isNullable = false := by
      rw [Bool.eq_false_iff]
      intro nullable
      simp [operation.isOptional_of_isNullable nullable] at optional
    simp [required]

variable {ix : Index} {o : Options} {operation : Operation} {c : Column} {f : Field}

theorem TypeScript.writes (h : f.Stands dialect ix o operation c) :
    Writes operation c f (fieldText operation.isWrite f) where
  line := by rw [fieldText, h.isOptional, Operation.mayOmit]
  nullable := by
    obtain ⟨n, name, grounded, type⟩ := h.type
    rw [type]
    cases c.isNullable with
    | true => exact iff_of_true ⟨_, rfl⟩ rfl
    | false =>
      refine iff_of_false ?_ (by simp)
      rintro ⟨inner, heq⟩
      exact typeText_lists_ne grounded n inner heq

theorem Swift.writes (access : String) (h : f.Stands dialect ix o operation c) :
    Writes access operation c f (fieldText access f) where
  line := by simp only [fieldText, member, String.append_assoc]
  optional := by
    obtain ⟨n, name, grounded, type⟩ := h.effectiveType
    rw [type]
    cases operation.isOptional c with
    | true => exact iff_of_true ⟨_, rfl⟩ rfl
    | false =>
      refine iff_of_false ?_ (by simp)
      rintro ⟨inner, heq⟩
      exact typeText_lists_ne grounded n inner heq

theorem Go.hasNil_or_pointer (t : TargetType) :
    HasNil (typeText (.nullable t)) ∨ ∃ rest, typeText (.nullable t) = "*" ++ rest := by
  rcases typeText_nullable t with ⟨hasNil, eq⟩ | ⟨-, eq⟩
  · exact .inl (eq ▸ hasNil)
  · exact .inr ⟨_, eq⟩

/-- The only pointer of a nullable type is at its head, and leads to what has no `nil`. -/
theorem Go.pointee_of_nullable {t : TargetType} (h : '*' ∉ (typeText t).toList)
    {before after : String} (eq : typeText (.nullable t) = before ++ "*" ++ after) :
    ¬ HasNil after ∧ ∀ rest, after ≠ "*" ++ rest := by
  rcases typeText_nullable t with ⟨-, plain⟩ | ⟨noNil, pointer⟩
  · rw [plain] at eq
    exact absurd (by simp [eq]) h
  · rw [pointer] at eq
    have chars := congrArg String.toList eq
    simp only [String.toList_append, String.reduceToList, List.singleton_append,
      List.append_assoc] at chars
    cases hb : before.toList with
    | nil =>
      rw [hb] at chars
      have same : after = typeText t := String.toList_inj.mp (List.cons.inj chars).2.symm
      subst same
      refine ⟨noNil, fun rest hrest => h ?_⟩
      simp [hrest]
    | cons b bs =>
      rw [hb] at chars
      exact absurd (by rw [(List.cons.inj chars).2]; simp) h

theorem Go.writes {r : RecordDecl} (hw : r.isWrite = operation.isWrite)
    (h : f.Stands dialect ix o operation c) : Writes operation c f (fieldText r f) := by
  obtain ⟨n, name, grounded, type⟩ := h.effectiveType
  have noStar := star_not_mem_typeText grounded n
  constructor
  case line =>
    rw [fieldText, h.rawName, h.isOptional, hw, Operation.mayOmit]
    exact ⟨_, _, rfl⟩
  case hasNil =>
    intro optional
    rw [type, if_pos optional]
    exact hasNil_or_pointer _
  case pointee =>
    intro before after eq
    rw [type] at eq
    split at eq
    · exact pointee_of_nullable noStar eq
    · exact absurd (by simp [eq]) noStar
  case value =>
    intro required rest eq
    rw [type, if_neg (by simp [required])] at eq
    exact noStar (by simp [eq])

theorem Python.fieldText_eq {r : RecordDecl} (hw : r.isWrite = operation.isWrite)
    (h : f.isOptional = operation.isOptional c) :
    fieldText r f = f.name ++ ": " ++ ascription operation c f ++
      if operation.isWrite then "" else " = " ++ fieldAlias f := by
  unfold fieldText ascription payloadType Operation.mayOmit
  rw [hw, h]
  cases operation.isWrite with
  | true => simp only [↓reduceIte, Bool.true_and, String.append_empty]
  | false => simp [String.append_assoc]

theorem Python.applies_ascription_iff
    (h : ¬ Applies "NotRequired" (typeText f.type)) :
    Applies "NotRequired" (ascription operation c f) ↔ operation.mayOmit c := by
  unfold ascription
  cases operation.mayOmit c with
  | true => exact iff_of_true ⟨_, rfl⟩ rfl
  | false =>
    refine iff_of_false ?_ (by simp)
    cases operation.isWrite with
    | true =>
      rintro ⟨inner, eq⟩
      simp [← String.toList_inj] at eq
    | false => exact h

theorem Python.writes {r : RecordDecl} (hw : r.isWrite = operation.isWrite)
    (h : f.Stands dialect ix o operation c) : Writes operation c f (fieldText r f) := by
  obtain ⟨n, name, grounded, type⟩ := h.type
  have notRequired : ¬ Applies "NotRequired" (typeText f.type) := by
    rw [type]
    cases c.isNullable with
    | true =>
      rintro ⟨inner, eq⟩
      simp [typeText, ← String.toList_inj] at eq
    | false => exact not_applies_typeText (.inr rfl) grounded n
  constructor
  case line => exact fieldText_eq hw h.isOptional
  case notRequired => exact applies_ascription_iff notRequired
  case nullable =>
    rw [type]
    cases c.isNullable with
    | true => exact iff_of_true ⟨_, rfl⟩ rfl
    | false => exact iff_of_false (not_applies_typeText (.inl rfl) grounded n) (by simp)

/-! ## The whole text -/

theorem RecordDecl.isWrite_of_origin {r : RecordDecl} {kind : RelationKind}
    (h : r.origin = .relation kind operation) : r.isWrite = operation.isWrite := by
  rw [isWrite, operation?, h]
  cases operation <;> rfl

section Declared

variable (s : Snapshot) (o : Options)

/-- Relations are declared for their operations, with fields that stand for their columns. -/
theorem Dialect.forall₂_stands (d : Dialect) :
    ∀ sd ∈ (d.build (.ofSnapshot s) o).declarations.schemas,
      List.Forall₂ (fun r rd => rd.id = r.id ∧
        List.Forall₂ (fun operation decl => decl.origin = .relation r.kind operation ∧
          List.Forall₂ (fun c f => Field.Stands f d (.ofSnapshot s) o operation c)
            ((Index.ofSnapshot s).columns r.id) decl.fields) r.kind.operations rd.decls)
        ((Index.ofSnapshot s).relations sd.rawName) sd.relations := by
  refine d.forall_mem_build _ o fun p _ covers => covers.forall₂_relations d _ ?_
  intro r names operations
  refine ⟨rfl, ?_⟩
  rw [← operations, declareRelation, List.forall₂_map_left_iff, List.forall₂_map_right_iff,
    List.forall₂_same]
  rintro ⟨operation, name⟩ -
  refine ⟨rfl, d.forall₂_relationFields _ r operation fun name c => ⟨rfl, rfl, ?_⟩⟩
  refine ColumnType.shape (r := r) ?_
  exact (columnType_iff fun t kept text => getElem?_emitted_eq_some_iff kept).mpr rfl

/-- The declarations of a language for one relation have the lines of its columns in the text. -/
theorem Language.shows_declare (language : Language) (access : Access) (ix : Index)
    {ds : Declarations} {sd : SchemaDecls} (hsd : sd ∈ ds.schemas) {rd : RelationDecls}
    (hrd : rd ∈ sd.relations) {r : RecordDecl} (hr : r ∈ rd.decls) {kind : RelationKind}
    {operation : Operation} (origin : r.origin = .relation kind operation) {columns : List Column}
    (stands : List.Forall₂ (fun c f => Field.Stands f language.dialect ix o operation c) columns
      r.fields) :
    ∃ rows, r.ShowsColumns language access sd rd operation columns rows
      (language.render access ds) := by
  have hw := RecordDecl.isWrite_of_origin origin
  have record : r ∈ sd.records :=
    List.mem_append_right _ (List.mem_flatMap_of_mem hrd hr)
  have zip : ∀ text : Field → String, r.fields.zip (r.fields.map text) =
      r.fields.map fun f => (f, text f) :=
    fun _ => List.map_prod_left_eq_zip.symm
  have filled : columns ≠ [] → r.fields ≠ [] := by
    rintro ne heq
    rw [heq] at stands
    exact ne (List.forall₂_nil_right_iff.mp stands)
  cases language with
  | typescript =>
    refine ⟨r.fields.map (TypeScript.fieldText r.isWrite), List.length_map _, ?_, fun ne => ?_⟩
    · rw [zip, List.forall₂_map_right_iff]
      exact stands.imp fun c f h => ⟨h.rawName, hw ▸ TypeScript.writes h⟩
    · exact ⟨_, rfl, TypeScript.shows_relation hsd hrd hr (filled ne)⟩
  | go =>
    refine ⟨r.fields.map (Go.fieldText r), List.length_map _, ?_, fun _ => ?_⟩
    · rw [zip, List.forall₂_map_right_iff]
      exact stands.imp fun c f h => ⟨h.rawName, Go.writes hw h⟩
    · exact ⟨_, rfl, Go.shows_record hsd record⟩
  | swift =>
    refine ⟨r.fields.map (Swift.fieldText access.keyword), List.length_map _, ?_, fun _ => ?_⟩
    · rw [zip, List.forall₂_map_right_iff]
      exact stands.imp fun c f h => ⟨h.rawName, Swift.writes _ h⟩
    · obtain ⟨isClass, shows⟩ := Swift.shows_record access hsd record
      exact ⟨_, ⟨isClass, rfl⟩, shows⟩
  | python =>
    refine ⟨r.fields.map (Python.fieldText r), List.length_map _, ?_, fun _ => ?_⟩
    · rw [zip, List.forall₂_map_right_iff]
      exact stands.imp fun c f h => ⟨h.rawName, Python.writes hw h⟩
    · exact ⟨_, rfl, Python.shows_relation hsd hrd hr⟩

/-- In every language and for every operation, the line of a column says what the column allows to
be missing. -/
theorem render_showColumns :
    (declare s o).declarations.ShowColumns s o
      (o.language.render o.access (declare s o).declarations) := by
  intro r first emits operation hop
  have emitted : r.schema ∈ (declare s o).declarations.schemas.map (·.rawName) := by
    rw [declare, Dialect.rawName_schemas_build]
    exact Index.mem_emittedNames_iff.mpr emits
  obtain ⟨sd, hsd, hname⟩ := List.mem_map.mp emitted
  have hr : r ∈ (Index.ofSnapshot s).relations sd.rawName :=
    Index.mem_relations_iff.mpr ⟨first, hname.symm⟩
  obtain ⟨rd, hrd, hid, decls⟩ :=
    exists_of_forall₂ (Dialect.forall₂_stands s o o.language.dialect sd hsd).flip r hr
  obtain ⟨decl, hdecl, origin, stands⟩ := exists_of_forall₂ decls.flip operation hop
  obtain ⟨rows, shows⟩ :=
    o.language.shows_declare o o.access (.ofSnapshot s) hsd hrd hdecl origin stands
  exact ⟨sd, hsd, hname, rd, hrd, hid, decl, hdecl, origin, _, rows,
    Index.columns_perm first.mem, shows⟩

end Declared

end CatalogTypes
