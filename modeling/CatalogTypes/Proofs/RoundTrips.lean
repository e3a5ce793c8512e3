import CatalogTypes.Generate
import CatalogTypes.Proofs.Recasts

/-!
# Catalogs and options are read back

What is written of a snapshot or of options is read back, and so is every text that differs from it
in blanks between tokens, in the order of members and in members left out that hold their default.
The shapes list all defaults: a reader with another default would read another value, and a reader
with another name would pass the member over.
-/

namespace CatalogTypes

open Json

/-! ## Texts -/

/-- A text of a recast value is decoded. -/
theorem Json.Reader.Reads.decode {α : Type} {reader : Reader α} {shape : Shape} {x : α}
    {v v' : Value} (h : reader.Reads shape x v) (recast : shape.Recasts v v') {text : String}
    (spells : v'.Spells text) : reader.decode text = .ok x := by
  have spaced : Spaced (v'.tokens ++ []) text.toList := by rwa [List.append_nil]
  obtain ⟨r, run, rest⟩ := h v' recast follows_nil spaced
  simp only [Reader.decode, run, rest.skip_nil]

/-- What is written is read back from every text of every recast. -/
structure RoundTrips {α ε : Type} (write : α → Value) (shape : Shape)
    (read : String → Except ε α) : Prop where
  compact : ∀ x, read (write x).compact = .ok x
  recast : ∀ x v text, shape.Recasts (write x) v → v.Spells text → read text = .ok x

theorem roundTrips_decode {α : Type} {write : α → Value} {shape : Shape} {reader : Reader α}
    (h : ∀ x, reader.Reads shape x (write x)) : RoundTrips write shape reader.decode where
  compact x := (h x).decode (.refl shape _) (write x).spells_compact
  recast x _ _ recast spells := (h x).decode recast spells

/-! ## Values -/

section Values

variable {α : Type} {reader : Reader α} {write : α → Value}

theorem Json.Reader.takes_optional (h : ∀ x, reader.Takes x (write x))
    (nonnull : ∀ x, write x ≠ .null) (x? : Option α) :
    reader.orNull.Takes x? (.orNull write x?) := by
  cases x? with
  | none => exact Reader.takes_null reader
  | some x => exact (h x).orNull (nonnull x)

/-- A member whose default is null is left out only if there is nothing to write. -/
theorem eq_none_of_standard (nonnull : ∀ x, write x ≠ .null) {standard? : Option Value}
    (standard : standard? = some .null) {x? : Option α}
    (h : standard? = some (.orNull write x?)) : some none = some x? := by
  have null : .null = Value.orNull write x? := Option.some.inj (standard.symm.trans h)
  cases x? with
  | none => rfl
  | some x => exact absurd null.symm (nonnull x)

end Values

theorem takes_textsValue (texts : List String) :
    (Reader.list .text).Takes texts (textsValue texts) := by
  refine Reader.takes_list (List.forall₂_map_right_iff.mpr ?_)
  exact List.forall₂_same.mpr fun s _ => Reader.takes_text s

theorem eq_zero_of_idValue {n : UInt32} (h : .number 0 = idValue n) : n = 0 := by
  have zero : n.toNat = 0 := by simpa [idValue] using h.symm
  exact UInt32.toNat_inj.mp zero

/-! ## Catalogs -/

namespace Schema

def shape : Shape := .object [] []

theorem reads (s : Schema) : reader.Reads shape s s.toJson := by
  -- For each field: how it is read, what it is if it is left out, and that its name is not again.
  refine Reader.reads_record (Fields.Tells.map (x := (s.id, s.name)) ?_ _) (by simp) _
  refine .cons ?_ (Reader.takes_uint32 s.id).reads (by simp) (by simp)
  exact Fields.tells_single (Reader.takes_text s.name).reads (by simp)

end Schema

namespace Relation

def shape : Shape := .object [] []

theorem reads (r : Relation) : reader.Reads shape r r.toJson := by
  refine Reader.reads_record (Fields.Tells.map (x := (r.id, r.schema, r.name)) ?_ _) (by simp) _
  refine .cons ?_ (Reader.takes_uint32 r.id).reads (by simp) (by simp)
  refine .cons ?_ (Reader.takes_text r.schema).reads (by simp) (by simp)
  exact Fields.tells_single (Reader.takes_text r.name).reads (by simp)

end Relation

namespace Column

/-- The flags, the default value and the position may be left out. -/
def shape : Shape := .object [] [
  ("is_nullable", .boolean false), ("is_identity", .boolean false),
  ("is_generated", .boolean false), ("default_value", .null), ("ordinal_position", .number 0)]

theorem reads (c : Column) : reader.Reads shape c c.toJson := by
  have defaultValue := Reader.takes_optional Reader.takes_text (by simp) c.defaultValue
  refine Reader.reads_record (Fields.Tells.map (x := (c.tableId, c.name, c.format, c.isNullable,
    c.isIdentity, c.isGenerated, c.defaultValue, c.ordinalPosition)) ?_ _) (by simp) _
  refine .cons ?_ (Reader.takes_uint32 c.tableId).reads (by simp [List.lookup_cons]) (by simp)
  refine .cons ?_ (Reader.takes_text c.name).reads (by simp [List.lookup_cons]) (by simp)
  refine .cons ?_ (Reader.takes_text c.format).reads (by simp [List.lookup_cons]) (by simp)
  refine .cons ?_ (Reader.takes_boolean c.isNullable).reads (by simp) (by simp)
  refine .cons ?_ (Reader.takes_boolean c.isIdentity).reads (by simp [List.lookup_cons]) (by simp)
  refine .cons ?_ (Reader.takes_boolean c.isGenerated).reads (by simp [List.lookup_cons]) (by simp)
  refine .cons ?_ defaultValue.reads (eq_none_of_standard (by simp) rfl) (by simp)
  refine Fields.tells_single (Reader.takes_uint32 c.ordinalPosition).reads fun same => ?_
  have zero : c.ordinalPosition = 0 := eq_zero_of_idValue (by simpa [List.lookup_cons] using same)
  rw [zero]

end Column

namespace Attribute

def shape : Shape := .object [] []

theorem reads (a : Attribute) : reader.Reads shape a a.toJson := by
  refine Reader.reads_record (Fields.Tells.map (x := (a.name, a.typeId)) ?_ _) (by simp) _
  refine .cons ?_ (Reader.takes_text a.name).reads (by simp) (by simp)
  exact Fields.tells_single (Reader.takes_uint32 a.typeId).reads (by simp)

end Attribute

namespace TypeDef

/-- The format, the labels and the attributes may be left out. -/
def shape : Shape := .object [("attributes", .list Attribute.shape)] [
  ("format", .text ""), ("enums", .array []), ("attributes", .array [])]

theorem reads (t : TypeDef) : reader.Reads shape t t.toJson := by
  have attributes := Reader.reads_list Attribute.reads t.attributes
  refine Reader.reads_record (Fields.Tells.map (x := (t.id, t.name, t.schema, t.format, t.enums,
    t.attributes)) ?_ _) (by simp) _
  refine .cons ?_ (Reader.takes_uint32 t.id).reads (by simp [List.lookup_cons]) (by simp)
  refine .cons ?_ (Reader.takes_text t.name).reads (by simp [List.lookup_cons]) (by simp)
  refine .cons ?_ (Reader.takes_text t.schema).reads (by simp [List.lookup_cons]) (by simp)
  refine .cons ?_ (Reader.takes_text t.format).reads (by simp) (by simp)
  refine .cons ?_ (takes_textsValue t.enums).reads ?_ (by simp)
  · exact Fields.tells_single attributes (by simp [List.lookup_cons])
  · simp [List.lookup_cons, textsValue]

end TypeDef

namespace Snapshot

/-- Every list may be left out. -/
def shape : Shape := .object [
  ("schemas", .list Schema.shape), ("tables", .list Relation.shape),
  ("views", .list Relation.shape), ("materialized_views", .list Relation.shape),
  ("foreign_tables", .list Relation.shape), ("columns", .list Column.shape),
  ("types", .list TypeDef.shape)] [
  ("schemas", .array []), ("tables", .array []), ("views", .array []),
  ("materialized_views", .array []), ("foreign_tables", .array []), ("columns", .array []),
  ("types", .array [])]

theorem reads (s : Snapshot) : reader.Reads shape s s.toJson := by
  refine Reader.reads_record (Fields.Tells.map (x := (s.schemas, s.tables, s.views,
    s.materializedViews, s.foreignTables, s.columns, s.types)) ?_ _) (by simp) _
  have relations := Reader.reads_list Relation.reads
  refine .cons ?_ (Reader.reads_list Schema.reads s.schemas) (by simp) (by simp)
  refine .cons ?_ (relations s.tables) (by simp [List.lookup_cons]) (by simp)
  refine .cons ?_ (relations s.views) (by simp [List.lookup_cons]) (by simp)
  refine .cons ?_ (relations s.materializedViews) (by simp [List.lookup_cons]) (by simp)
  refine .cons ?_ (relations s.foreignTables) (by simp [List.lookup_cons]) (by simp)
  refine .cons ?_ (Reader.reads_list Column.reads s.columns) (by simp [List.lookup_cons]) (by simp)
  exact Fields.tells_single (Reader.reads_list TypeDef.reads s.types) (by simp [List.lookup_cons])

end Snapshot

/-! ## Options -/

theorem Language.takes (language : Language) : reader.Takes language language.toJson := by
  refine Reader.takes_oneOf ?_
  cases language
  all_goals rfl

theorem Access.takes (access : Access) : reader.Takes access access.toJson := by
  refine Reader.takes_oneOf ?_
  cases access
  all_goals rfl

namespace Options

/-- All of the options may be left out. -/
def shape : Shape := .object [] [
  ("backend", .text "typescript"), ("included_schemas", .null), ("excluded_schemas", .null),
  ("access_control", .text "public")]

theorem reads (o : Options) : reader.Reads shape o o.toJson := by
  have nonnull : ∀ texts, textsValue texts ≠ .null := by simp [textsValue]
  have texts := Reader.takes_optional takes_textsValue nonnull
  refine Reader.reads_record (Fields.Tells.map
    (x := (o.language, o.included, o.excluded, o.access)) ?_ _) (by simp) _
  refine .cons ?_ o.language.takes.reads ?language (by simp)
  refine .cons ?_ (texts o.included).reads (eq_none_of_standard nonnull rfl) (by simp)
  refine .cons ?_ (texts o.excluded).reads (eq_none_of_standard nonnull rfl) (by simp)
  refine Fields.tells_single o.access.takes.reads ?access
  case language =>
    cases o.language
    all_goals simp [Language.toJson, Language.name]
  case access =>
    cases o.access
    all_goals simp [List.lookup_cons, Access.toJson, Access.keyword]

end Options

/-! ## Round trips -/

/-- Snapshots and options are read back, whatever their lists and texts hold. -/
theorem catalog_roundTrips :
    RoundTrips Snapshot.toJson Snapshot.shape Snapshot.ofText ∧
      RoundTrips Options.toJson Options.shape Options.ofJson := by
  have snapshots := roundTrips_decode Snapshot.reads
  have ofText : ∀ {s text}, Snapshot.reader.decode text = .ok s → Snapshot.ofText text = .ok s :=
    fun h => by simp only [Snapshot.ofText, Snapshot.ofJson, h, Except.mapError]
  refine ⟨⟨fun s => ?_, fun s v text recast spells => ?_⟩, roundTrips_decode Options.reads⟩
  · exact ofText (snapshots.compact s)
  · exact ofText (snapshots.recast s v text recast spells)

/-- A table with a column that has the defaults. -/
def Snapshot.ofColumn : Snapshot where
  tables := [⟨10, "app", "todos"⟩]
  columns := [{ tableId := 10, name := "id", format := "int8" }]

/-- The same, with members in another order and without defaults. -/
def Snapshot.ofColumnRecast : Value :=
  .object [
    ("columns", .array [
      .object [("name", .text "id"), ("table_id", .number 10), ("format", .text "int8")]]),
    ("tables", .array [
      .object [("schema", .text "app"), ("id", .number 10), ("name", .text "todos")]])]

theorem catalog_roundTrips_recast :
    Snapshot.shape.Recasts Snapshot.ofColumn.toJson Snapshot.ofColumnRecast ∧
      Snapshot.ofText (String.ofList (Snapshot.ofColumnRecast.tokens.flatMap (['\n', ' '] ++ ·))) =
        .ok .ofColumn := by
  have table : Relation.shape.Recasts (Relation.toJson ⟨10, "app", "todos"⟩)
      (.object [("schema", .text "app"), ("id", .number 10), ("name", .text "todos")]) :=
    ⟨_, .refl (fun _ => Shape.Recasts.refl _) _, .swap _ _ _⟩
  have column : Column.shape.Recasts
      (Column.toJson { tableId := 10, name := "id", format := "int8" })
      (.object [("name", .text "id"), ("table_id", .number 10), ("format", .text "int8")]) := by
    refine ⟨_, ?_, .swap _ _ _⟩
    refine .keep rfl (.keep rfl (.keep rfl ?_))
    exact .drop rfl (.drop rfl (.drop rfl (.drop rfl (.drop rfl .nil))))
  have recast : Snapshot.shape.Recasts Snapshot.ofColumn.toJson Snapshot.ofColumnRecast := by
    refine ⟨_, ?_, .swap _ _ _⟩
    refine .drop rfl (.keep (.cons table .nil) ?_)
    refine .drop rfl (.drop rfl (.drop rfl ?_))
    exact .keep (.cons column .nil) (.drop rfl .nil)
  refine ⟨recast, catalog_roundTrips.1.recast _ _ _ recast ?_⟩
  rw [Value.Spells, String.toList_ofList]
  exact @spaced_flatMap ['\n', ' '] (by simp [isBlank]) _

end CatalogTypes
