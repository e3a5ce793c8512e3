import CatalogTypes.Proofs.Bases
import Mathlib.Data.List.DropRight

/-!
# Names that the text relies on

The text uses names that no schema declares: in Swift those of built-in types and of the namespaces
themselves, in Python those that the header imports. Registries start empty and give out such a name
like any other. So a declaration hides one of them if its raw name converts to it. Besides, only the
numbers of duplicates hide names, as in `Int16`, where fifteen types have the names from `Int` up to
`Int15`; suffixes for operations and capital letters keep other declarations apart.
-/

namespace CatalogTypes

open Text

/-! ## Endings -/

/-- The characters of a name, without the number at its end. -/
def stem (name : String) : List Char := name.toList.rdropWhile Char.isDigit

/-- The name ends so, perhaps with a number behind. -/
def Ends (ending name : String) : Prop := ending.toList <:+ stem name

instance (ending name : String) : Decidable (Ends ending name) :=
  inferInstanceAs (Decidable (_ <:+ _))

theorem stem_candidate (base : String) (n : Nat) :
    stem (Registry.candidate base n) = stem base := by
  have digits : ∀ c ∈ (Registry.suffix n).reverse, c.isDigit := fun c hc =>
    Registry.isDigit_of_mem_suffix c (List.mem_reverse.mp hc)
  rw [stem, Registry.toList_candidate, List.rdropWhile, List.reverse_append,
    List.dropWhile_append_of_pos digits]
  rfl

/-- The endings by which the names of schemas and of declarations of relations are told from
others. -/
def endings : List String := ["Schema", "Select", "Insert", "Update"]

theorem suffix_mem_endings (operation : Operation) : operation.suffix ∈ endings := by
  cases operation
  all_goals decide

theorem ends_candidate {start ending : String} (h : ending ∈ endings) (n : Nat) :
    Ends ending (Registry.candidate (start ++ ending) n) := by
  have letter : ∀ ending ∈ endings, ending.toList.getLast?.any (!·.isDigit) := by decide
  obtain ⟨c, last, hc⟩ := Option.any_eq_true _ _ |>.mp (letter ending h)
  obtain ⟨init, chars⟩ := List.getLast?_eq_some_iff.mp last
  have whole : stem (start ++ ending) = start.toList ++ ending.toList := by
    rw [stem, String.toList_append, chars, ← List.append_assoc, List.rdropWhile_concat_neg]
    simpa using hc
  rw [Ends, stem_candidate, whole]
  exact List.suffix_append _ _

/-- All of the endings have six characters, so a name has one of them at most. -/
theorem Ends.unique {a b name : String} (ha : a ∈ endings) (hb : b ∈ endings) (h : Ends a name)
    (h' : Ends b name) : a = b := by
  have length : ∀ ending ∈ endings, ending.toList.length = 6 := by decide
  have eq : a.toList.length = b.toList.length := (length a ha).trans (length b hb).symm
  exact String.toList_inj.mp
    ((List.suffix_of_suffix_length_le h h' (Nat.le_of_eq eq)).eq_of_length eq)

/-! ## Capitals -/

namespace Text

/-- A run that leads to one character only does not lead to a small letter of ASCII. -/
theorem isLower_upperRuns : ∀ run ∈ upperRuns, run.first = run.last →
    (Char.ofNat (run.first + run.offset).toNat).isLower = false := by decide +kernel

theorem isLower_upperSpecial :
    ∀ entry ∈ upperSpecial, ∀ n ∈ entry.2, (Char.ofNat n).isLower = false := by decide +kernel

theorem isLower_of_above {c : Char} (h : 0x80 ≤ c.toNat) : c.isLower = false := by
  have above : 122 < c.val := UInt32.lt_iff_toNat_lt.mpr (Nat.lt_of_lt_of_le (by decide) h)
  have lower : c.isLower = (decide (97 ≤ c.val) && decide (c.val ≤ 122)) := rfl
  rw [lower, decide_eq_false (UInt32.not_le.mpr above), Bool.and_false]

theorem isLower_upper (c : Char) : ∀ d ∈ upper c, d.isLower = false := by
  apply forall_upper
  · exact forall_ascii (P := fun c => c.toUpper.isLower = false) (by decide)
  · exact forall_mapCase_of_above (P := fun d => d.isLower = false) (fun _ => isLower_of_above)
      lands_upperRuns isLower_upperRuns isLower_upperSpecial

/-- Words in Pascal case do not begin with a small letter of ASCII. -/
theorem head_flatMap_capitalize (ws : List (List Char)) :
    (ws.flatMap capitalize).head?.all (!·.isLower) := by
  induction ws with
  | nil => rfl
  | cons word ws ih =>
    cases word with
    | nil => exact ih
    | cons c cs =>
      obtain ⟨d, ds, image⟩ := List.exists_cons_of_ne_nil (upper_ne_nil c)
      have capital := isLower_upper c d (by simp [image])
      simp [capitalize, image, capital]

end Text

theorem head_typeName (raw : String) : (typeName raw).toList.head?.all (!·.isLower) := by
  have pascal := head_flatMap_capitalize (words raw.toList)
  rw [show (words raw.toList).flatMap capitalize = (Casing.pascal.apply raw).toList by
    rw [Casing.toList_apply]; rfl] at pascal
  rw [typeName]
  split
  · decide
  · split
    · simp
    · exact pascal

/-! ## Swift -/

namespace Swift

/-- The types that fields have when they refer to no declaration. The one for records, a dictionary,
is made of two of them. -/
def builtins : List String := [
  "Bool", "Int16", "Int32", "Int64", "Float", "Double", "Decimal", "UUID", "AnyJSON", "Void",
  "String"]

theorem mem_builtins_iff {name : String} : name ∈ builtins ↔
    name = dialect.anyType ∨ ∃ scalar, scalar ≠ .record ∧ scalarType scalar = name := by
  constructor
  · intro h
    have named : ∀ name ∈ builtins, name = "AnyJSON" ∨
        ∃ scalar ∈ Scalar.all, scalar ≠ .record ∧ scalarType scalar = name := by decide
    exact (named name h).imp_right fun ⟨scalar, _, h⟩ => ⟨scalar, h⟩
  · rintro (rfl | ⟨scalar, single, rfl⟩)
    · decide
    · have listed : ∀ scalar ∈ Scalar.all, scalar ≠ .record → scalarType scalar ∈ builtins := by
        decide
      exact listed scalar scalar.mem_all single

/-- The names that the text looks up from inside of a schema. -/
def relied (ds : Declarations) : List String := builtins ++ ds.schemas.map (·.name)

/-- No declaration hides one of the names. -/
def HidesNothing (ds : Declarations) : Prop :=
  ∀ sd ∈ ds.schemas, ∀ name ∈ sd.typeNames, name ∉ relied ds

/-- The raw name converts to the name, or to what stands before the number at its end; and types of
the schema have all the names that come before. -/
def ConvertsTo (sd : SchemaDecls) (raw name : String) : Prop :=
  ∃ n, Registry.candidate (typeName raw) n = name ∧
    ∀ j < n, dialect.escape (Registry.candidate (typeName raw) j) ∈ sd.typeNames

/-- A declaration hides one of the names only if it is an enumeration or a composite whose raw name
converts to it. Where some raw name converts to it without a number, it is hidden. -/
structure HidesNamesakes (ds : Declarations) : Prop where
  relations : ∀ sd ∈ ds.schemas, ∀ rd ∈ sd.relations, ∀ r ∈ rd.decls, r.name ∉ relied ds
  enums : ∀ sd ∈ ds.schemas, ∀ e ∈ sd.enums, e.name ∈ relied ds → ConvertsTo sd e.rawName e.name
  composites : ∀ sd ∈ ds.schemas, ∀ c ∈ sd.composites, c.name ∈ relied ds →
    ConvertsTo sd c.rawName c.name
  namesakes : ∀ sd ∈ ds.schemas, ∀ raw ∈ sd.rawTypes, typeName raw ∈ relied ds →
    typeName raw ∈ sd.typeNames

theorem HidesNamesakes.not_hidesNothing {ds : Declarations} (h : HidesNamesakes ds)
    {sd : SchemaDecls} (hsd : sd ∈ ds.schemas) {raw : String} (hraw : raw ∈ sd.rawTypes)
    (hn : typeName raw ∈ relied ds) : ¬ HidesNothing ds :=
  fun nothing => nothing sd hsd _ (h.namesakes sd hsd raw hraw hn) hn

theorem not_isReserved_of_ends {ending name : String} (h : ending ∈ endings)
    (ends : Ends ending name) : convention.isReserved name = false := by
  have keyword : ∀ word ∈ convention.reserved, ∀ ending ∈ endings, ¬ Ends ending word := by decide
  rw [Bool.eq_false_iff]
  intro reserved
  exact keyword name (by simpa [Convention.isReserved] using reserved) ending h ends

/-- A base with one of the endings is never escaped. -/
theorem candidate_of_gives {start ending name : String} (h : ending ∈ endings)
    (gives : dialect.Gives (start ++ ending) name) :
    ∃ n, name = Registry.candidate (start ++ ending) n := by
  obtain ⟨n, rfl⟩ := gives
  exact ⟨n, Convention.escape_eq (by decide) (not_isReserved_of_ends h (ends_candidate h n))⟩

theorem convertsTo_of_isClean {sd : SchemaDecls} {raw name : String}
    (gives : dialect.GivesAfter (· ∈ sd.typeNames) (typeName raw) name) (clean : IsClean name) :
    ConvertsTo sd raw name := by
  obtain ⟨n, eq, before⟩ := gives
  refine ⟨n, ?_, before⟩
  generalize typeName raw = base at eq
  have escape : dialect.escape (Registry.candidate base n) =
      if convention.isReserved (Registry.candidate base n) then
        "`" ++ Registry.candidate base n ++ "`" else Registry.candidate base n := rfl
  rw [escape] at eq
  split at eq
  · have backtick := clean '\x60' (by simp [eq])
    exact absurd backtick (by decide)
  · exact eq.symm

theorem name_eq {sd : SchemaDecls} (h : sd.Numbered dialect) :
    ∃ n, sd.name = Registry.candidate (typeName sd.rawName ++ "Schema") n :=
  candidate_of_gives (by decide) h.name

theorem ends_schema {sd : SchemaDecls} (h : sd.Numbered dialect) : Ends "Schema" sd.name := by
  obtain ⟨n, eq⟩ := name_eq h
  rw [eq]
  exact ends_candidate (by decide) n

/-- Each record of a relation ends in its operation. -/
theorem ends_relation {sd : SchemaDecls} (h : sd.Numbered dialect) {r : RecordDecl}
    (hr : r ∈ sd.records) {kind : RelationKind} {operation : Operation}
    (origin : r.origin = .relation kind operation) : Ends operation.suffix r.name := by
  have ending := suffix_mem_endings operation
  have base : r.base dialect sd.rawName = typeName r.rawName ++ operation.suffix := by
    rw [RecordDecl.base, origin]
    rfl
  obtain ⟨n, eq⟩ := candidate_of_gives ending (base ▸ h.records r hr)
  rw [eq]
  exact ends_candidate ending n

section Relied

variable {ds : Declarations} (numbered : ∀ sd ∈ ds.schemas, sd.Numbered dialect)
include numbered

theorem isClean_relied : ∀ name ∈ relied ds, IsClean name := by
  have builtin : ∀ name ∈ builtins, IsClean name := by decide
  intro name hn
  rcases List.mem_append.mp hn with hn | hn
  · exact builtin name hn
  · obtain ⟨sd, hsd, rfl⟩ := List.mem_map.mp hn
    obtain ⟨n, eq⟩ := name_eq (numbered sd hsd)
    rw [eq]
    exact isClean_candidate ((isClean_typeName _).append (by decide)) n

/-- No name of a schema or of a built-in type ends like the name of a relation. -/
theorem not_ends_relied (operation : Operation) :
    ∀ name ∈ relied ds, ¬ Ends operation.suffix name := by
  have builtin : ∀ name ∈ builtins, ∀ ending ∈ endings, ¬ Ends ending name := by decide
  have other : operation.suffix ≠ "Schema" := by
    cases operation
    all_goals decide
  intro name hn ends
  rcases List.mem_append.mp hn with hn | hn
  · exact builtin name hn _ (suffix_mem_endings operation) ends
  · obtain ⟨sd, hsd, rfl⟩ := List.mem_map.mp hn
    exact other
      (Ends.unique (suffix_mem_endings operation) (by decide) ends (ends_schema (numbered sd hsd)))

/-- None of the names is a reserved word. -/
theorem escape_relied : ∀ name ∈ relied ds, dialect.escape name = name := by
  have builtin : ∀ name ∈ builtins, convention.isReserved name = false := by decide
  intro name hn
  refine Convention.escape_eq (by decide) ?_
  rcases List.mem_append.mp hn with hn | hn
  · exact builtin name hn
  · obtain ⟨sd, hsd, rfl⟩ := List.mem_map.mp hn
    exact not_isReserved_of_ends (by decide) (ends_schema (numbered sd hsd))

end Relied

theorem enumName_eq (schema name : String) : dialect.enumName schema name = typeName name := by
  simp only [dialect]

theorem compositeName_eq (schema name : String) :
    dialect.compositeName schema name = typeName name := by
  simp only [dialect]

theorem base_composite {s : Snapshot} {o : Options} {sd : SchemaDecls}
    (hsd : sd ∈ (dialect.build (.ofSnapshot s) o).declarations.schemas) {c : RecordDecl}
    (hc : c ∈ sd.composites) : c.base dialect sd.rawName = typeName c.rawName := by
  rw [RecordDecl.base, origin_of_mem_composites hsd hc]
  exact compositeName_eq ..

theorem hidesNamesakes (s : Snapshot) (o : Options) :
    HidesNamesakes (dialect.build (.ofSnapshot s) o).declarations := by
  have numbered := dialect.numbered_build (.ofSnapshot s) o
  have clean := isClean_relied numbered
  have unnumbered : dialect.convention.Unnumbered := Language.unnumbered .swift
  have after := Dialect.givesAfter_build unnumbered rfl rfl (.ofSnapshot s) o rfl
  constructor
  case relations =>
    intro sd hsd rd hrd r hr hidden
    obtain ⟨-, kind, operation, origin⟩ := origin_of_mem_decls hsd hrd hr
    refine not_ends_relied numbered operation r.name hidden
      (ends_relation (numbered sd hsd) ?_ origin)
    exact List.mem_append_right _ (List.mem_flatMap.mpr ⟨rd, hrd, hr⟩)
  case enums =>
    intro sd hsd e he hidden
    have gives := (after sd hsd).1 e he
    rw [enumName_eq] at gives
    exact convertsTo_of_isClean gives (clean e.name hidden)
  case composites =>
    intro sd hsd c hc hidden
    have gives := (after sd hsd).2 c hc
    rw [compositeName_eq] at gives
    exact convertsTo_of_isClean gives (clean c.name hidden)
  case namesakes =>
    intro sd hsd raw hraw hidden
    have base : typeName raw ∈ sd.bases dialect := by
      rcases List.mem_append.mp hraw with hraw | hraw
      · obtain ⟨e, he, rfl⟩ := List.mem_map.mp hraw
        exact List.mem_append_left _ (List.mem_map.mpr ⟨e, he, enumName_eq ..⟩)
      · obtain ⟨c, hc, rfl⟩ := List.mem_map.mp hraw
        refine List.mem_append_right _ (List.mem_map.mpr ⟨c, List.mem_append_left _ hc, ?_⟩)
        exact base_composite hsd hc
    have taken := Dialect.mem_typeNames_of_mem_bases unnumbered rfl rfl (.ofSnapshot s) o rfl sd
      hsd _ base
    rwa [escape_relied numbered _ hidden] at taken

end Swift

/-! ## Python -/

/-- The words of two texts with a separator between. -/
theorem Text.words_append (cs cs' : List Char) :
    words (cs ++ '_' :: cs') = words cs ++ words cs' := by
  rw [words, pieces, List.splitOnP_append_cons cs cs' (by decide), List.flatMap_append]
  rfl

/-- A type name that is made for an operation ends in it. -/
theorem suffix_typeName (start : String) (operation : Operation) :
    ∃ init, typeName (start ++ "_" ++ operation.word) = init ++ operation.suffix := by
  have last : ∀ operation ∈ Operation.all,
      (words operation.word.toList).flatMap capitalize = operation.suffix.toList := by decide
  have all : operation ∈ Operation.all := by
    cases operation
    all_goals decide
  have pascal : Casing.pascal.apply (start ++ "_" ++ operation.word) =
      Casing.pascal.apply start ++ operation.suffix := by
    refine String.toList_inj.mp ?_
    simp only [Casing.toList_apply, Casing.spell, String.toList_append, List.append_assoc]
    rw [show "_".toList ++ operation.word.toList = '_' :: operation.word.toList from rfl,
      words_append, List.flatMap_append, last operation all]
  have nonempty : (Casing.pascal.apply start ++ operation.suffix).toList ≠ [] := by
    cases operation
    all_goals simp [Operation.suffix]
  rw [typeName, pascal]
  split
  · next h => exact absurd h nonempty
  · split
    · exact ⟨"T" ++ Casing.pascal.apply start, by rw [String.append_assoc]⟩
    · exact ⟨Casing.pascal.apply start, rfl⟩

namespace Python

/-- The names that the header imports. -/
def imports : List String := [
  "Enum", "Annotated", "Any", "Dict", "List", "Optional", "BaseModel", "Field", "NotRequired",
  "TypedDict", "datetime", "uuid"]

/-- No declaration hides one of the names. -/
def HidesNothing (ds : Declarations) : Prop :=
  ∀ sd ∈ ds.schemas, ∀ name ∈ sd.typeNames, name ∉ imports

/-- The names that the header imports are hidden just where the raw name of a schema with that of an
enumeration, a composite or a relation converts to them. The names of modules are never hidden, and
no payload hides anything. -/
structure HidesNamesakes (ds : Declarations) : Prop where
  namesakes : ∀ name ∈ imports, name ∈ ds.schemas.flatMap (·.typeNames) ↔
    ∃ sd ∈ ds.schemas, ∃ raw ∈ sd.rawEntities, typeName (sd.rawName ++ "_" ++ raw) = name
  writes : ∀ sd ∈ ds.schemas, ∀ r ∈ sd.records, r.isWrite → r.name ∉ imports
  modules : ∀ sd ∈ ds.schemas, ∀ name ∈ sd.typeNames, name ≠ "datetime" ∧ name ≠ "uuid"

theorem not_ends_imports (operation : Operation) :
    ∀ name ∈ imports, ¬ operation.suffix.toList <:+ name.toList := by
  cases operation
  all_goals decide

/-- No base for a write is among the imports. -/
theorem relationName_not_mem {schema relation : String} {operation : Operation}
    (h : operation ≠ .select) : relationName schema relation operation ∉ imports := by
  obtain ⟨init, eq⟩ := suffix_typeName (schema ++ "_" ++ relation) operation
  have name : relationName schema relation operation = init ++ operation.suffix := by
    cases operation
    · exact absurd rfl h
    · exact eq
    · exact eq
  rw [name]
  exact fun mem => not_ends_imports operation _ mem ⟨init.toList, by simp⟩

theorem eq_of_gives {base name : String} (hn : name ∈ imports) (gives : dialect.Gives base name) :
    base = name := by
  have last : ∀ name ∈ imports, name.toList.getLast?.all fun c => c ≠ '_' && !c.isDigit := by
    decide
  have last := last name hn
  obtain ⟨n, eq⟩ := gives
  have escape : dialect.escape (Registry.candidate base n) =
      if convention.isReserved (Registry.candidate base n) then Registry.candidate base n ++ "_"
      else Registry.candidate base n := rfl
  rw [escape] at eq
  split at eq
  · simp [eq] at last
  · cases n with
    | zero => exact eq.symm
    | succ n =>
      obtain ⟨init, c, chars, digit⟩ := Registry.exists_digit_of_candidate base n.succ_ne_zero
      simp [eq, chars, digit] at last

theorem enumName_eq (schema name : String) :
    dialect.enumName schema name = typeName (schema ++ "_" ++ name) := by
  simp only [dialect]

theorem compositeName_eq (schema name : String) :
    dialect.compositeName schema name = typeName (schema ++ "_" ++ name) := by
  simp only [dialect]

theorem relationName_eq (schema relation : String) :
    dialect.relationName schema relation .select = typeName (schema ++ "_" ++ relation) := by
  simp only [dialect, relationName]

section Built

variable {s : Snapshot} {o : Options} {sd : SchemaDecls}
  (hsd : sd ∈ (dialect.build (.ofSnapshot s) o).declarations.schemas)
include hsd

/-- Only a declaration for rows read back has one of the names. -/
theorem select_of_mem_imports {r : RecordDecl} (hr : r ∈ sd.records) {kind : RelationKind}
    {operation : Operation} (origin : r.origin = .relation kind operation)
    (hn : r.name ∈ imports) : operation = .select := by
  have base := eq_of_gives hn ((dialect.numbered_build _ o sd hsd).records r hr)
  rw [RecordDecl.base, origin] at base
  by_contra write
  exact relationName_not_mem write (base ▸ hn)

/-- A declaration with one of the names has a raw name that converts to it. -/
theorem exists_raw {name : String} (hn : name ∈ imports) (mem : name ∈ sd.typeNames) :
    ∃ raw ∈ sd.rawEntities, typeName (sd.rawName ++ "_" ++ raw) = name := by
  have numbered := dialect.numbered_build (.ofSnapshot s) o sd hsd
  rcases List.mem_append.mp mem with mem | mem
  · obtain ⟨e, he, rfl⟩ := List.mem_map.mp mem
    have base := eq_of_gives hn (numbered.enums e he)
    rw [enumName_eq] at base
    exact ⟨e.rawName, List.mem_append_left _ (List.mem_append_left _ (List.mem_map_of_mem he)),
      base⟩
  · obtain ⟨r, hr, rfl⟩ := List.mem_map.mp mem
    have base := eq_of_gives hn (numbered.records r hr)
    rcases List.mem_append.mp hr with hc | hd
    · rw [RecordDecl.base, origin_of_mem_composites hsd hc] at base
      simp only [compositeName_eq] at base
      exact ⟨r.rawName,
        List.mem_append_left _ (List.mem_append_right _ (List.mem_map_of_mem hc)), base⟩
    · obtain ⟨rd, hrd, hd⟩ := List.mem_flatMap.mp hd
      obtain ⟨rawName, kind, operation, origin⟩ := origin_of_mem_decls hsd hrd hd
      obtain rfl := select_of_mem_imports hsd hr origin hn
      rw [RecordDecl.base, origin] at base
      simp only [relationName_eq] at base
      exact ⟨rd.rawName, List.mem_append_right _ (List.mem_map_of_mem hrd), rawName ▸ base⟩

/-- The select declaration of a relation, an enumeration and a composite have such bases. -/
theorem mem_bases {raw : String} (hraw : raw ∈ sd.rawEntities) :
    typeName (sd.rawName ++ "_" ++ raw) ∈ sd.bases dialect := by
  rcases List.mem_append.mp hraw with hraw | hraw
  · rcases List.mem_append.mp hraw with hraw | hraw
    · obtain ⟨e, he, rfl⟩ := List.mem_map.mp hraw
      exact List.mem_append_left _ (List.mem_map.mpr ⟨e, he, enumName_eq ..⟩)
    · obtain ⟨c, hc, rfl⟩ := List.mem_map.mp hraw
      refine List.mem_append_right _ (List.mem_map.mpr ⟨c, List.mem_append_left _ hc, ?_⟩)
      rw [RecordDecl.base, origin_of_mem_composites hsd hc]
      exact compositeName_eq ..
  · obtain ⟨rd, hrd, rfl⟩ := List.mem_map.mp hraw
    obtain ⟨r, hr, kind, origin⟩ := exists_select hsd hrd
    have listed : r ∈ sd.records :=
      List.mem_append_right _ (List.mem_flatMap.mpr ⟨rd, hrd, hr⟩)
    refine List.mem_append_right _ (List.mem_map.mpr ⟨r, listed, ?_⟩)
    rw [RecordDecl.base, origin, ← (origin_of_mem_decls hsd hrd hr).1]
    exact relationName_eq ..

end Built

theorem escape_imports : ∀ name ∈ imports, dialect.escape name = name := by
  have plain : ∀ name ∈ imports, convention.isReserved name = false := by decide
  exact fun name hn => Convention.escape_eq (by decide) (plain name hn)

theorem hidesNamesakes (s : Snapshot) (o : Options) :
    HidesNamesakes (dialect.build (.ofSnapshot s) o).declarations := by
  constructor
  case namesakes =>
    intro name hn
    constructor
    · intro mem
      obtain ⟨sd, hsd, mem⟩ := List.mem_flatMap.mp mem
      exact ⟨sd, hsd, exists_raw hsd hn mem⟩
    · rintro ⟨sd, hsd, raw, hraw, rfl⟩
      have unnumbered : dialect.convention.Unnumbered := Language.unnumbered .python
      have taken := Dialect.mem_flatMap_typeNames_of_mem_bases unnumbered rfl rfl (.ofSnapshot s) o
        rfl sd hsd _ (mem_bases hsd hraw)
      rwa [escape_imports _ hn] at taken
  case writes =>
    intro sd hsd r hr write hn
    cases origin : r.origin with
    | composite => simp [RecordDecl.isWrite, RecordDecl.operation?, origin] at write
    | relation kind operation =>
      obtain rfl := select_of_mem_imports hsd hr origin hn
      simp [RecordDecl.isWrite, RecordDecl.operation?, origin] at write
  case modules =>
    intro sd hsd name mem
    have capital : name ∈ imports → name.toList.head?.all (!·.isLower) := by
      intro hn
      obtain ⟨raw, -, rfl⟩ := exists_raw hsd hn mem
      exact head_typeName _
    constructor
    · rintro rfl
      exact absurd (capital (by decide)) (by decide)
    · rintro rfl
      exact absurd (capital (by decide)) (by decide)

end Python

/-! ## Languages -/

/-- No declaration has a name that the text of the language relies on. -/
def Declarations.HidesNothing (ds : Declarations) : Language → Prop
  | .swift => Swift.HidesNothing ds
  | .python => Python.HidesNothing ds
  | _ => True

/-- Only declarations whose raw names convert to the names that the text of the language relies on
have such names. -/
def Declarations.HidesNamesakes (ds : Declarations) : Language → Prop
  | .swift => Swift.HidesNamesakes ds
  | .python => Python.HidesNamesakes ds
  | _ => True

theorem declare_hidesNamesakes (s : Snapshot) (o : Options) :
    (declare s o).declarations.HidesNamesakes o.language := by
  rw [declare]
  cases o.language with
  | swift => exact Swift.hidesNamesakes s o
  | python => exact Python.hidesNamesakes s o
  | typescript => trivial
  | go => trivial

/-- A schema with an enumeration. -/
def Snapshot.ofEnum (schema name : String) : Snapshot where
  schemas := [⟨1, schema⟩]
  types := [.enumeration 10 schema name ["low", "high"]]

/-- A schema with a table. -/
def Snapshot.ofTable (schema name : String) : Snapshot where
  schemas := [⟨1, schema⟩]
  tables := [⟨10, schema, name⟩]

theorem exists_rawTypes_ofEnum (d : Dialect) (o : Options) (schema name : String)
    (emits : (Snapshot.ofEnum schema name).emits o schema) :
    ∃ sd ∈ (d.build (.ofSnapshot (.ofEnum schema name)) o).declarations.schemas,
      sd.rawName = schema ∧ name ∈ sd.rawTypes := by
  obtain ⟨sd, hsd, rawName⟩ := List.mem_map.mp (d.mem_rawNames_build_iff.mpr emits)
  exact ⟨sd, hsd, rawName,
    mem_rawTypes_of_isFirst hsd (isFirst_cons_iff.mpr (.inl rfl)) (by rfl) rawName⟩

theorem exists_rawEntities_ofTable (d : Dialect) (o : Options) (schema name : String)
    (emits : (Snapshot.ofTable schema name).emits o schema) :
    ∃ sd ∈ (d.build (.ofSnapshot (.ofTable schema name)) o).declarations.schemas,
      sd.rawName = schema ∧ name ∈ sd.rawEntities := by
  obtain ⟨sd, hsd, rawName⟩ := List.mem_map.mp (d.mem_rawNames_build_iff.mpr emits)
  exact ⟨sd, hsd, rawName,
    mem_rawEntities_of_isFirst hsd (isFirst_cons_iff.mpr (.inl rfl)) rawName⟩

/-- An enumeration hides a built-in type, or the namespace that it is in; a class for the rows of a
table hides a class that it is derived from. -/
theorem declare_hides :
    ¬ (declare (.ofEnum "public" "string")
      { language := .swift }).declarations.HidesNothing .swift ∧
    ¬ (declare (.ofEnum "public" "public_schema")
      { language := .swift }).declarations.HidesNothing .swift ∧
    ¬ (declare (.ofTable "base" "model")
      { language := .python }).declarations.HidesNothing .python := by
  refine ⟨?builtin, ?namespaces, ?imports⟩
  case builtin =>
    obtain ⟨sd, hsd, -, raw⟩ := exists_rawTypes_ofEnum Swift.dialect { language := .swift }
      "public" "string" (by decide)
    refine (Swift.hidesNamesakes _ _).not_hidesNothing hsd raw (List.mem_append_left _ ?_)
    decide
  case namespaces =>
    obtain ⟨sd, hsd, rawName, raw⟩ := exists_rawTypes_ofEnum Swift.dialect { language := .swift }
      "public" "public_schema" (by decide)
    refine (Swift.hidesNamesakes _ _).not_hidesNothing hsd raw (List.mem_append_right _ ?_)
    have unnumbered : Swift.dialect.convention.Unnumbered := Language.unnumbered .swift
    have named := Dialect.mem_names_of_namespaceName unnumbered _ _ sd hsd
    have name : Swift.dialect.escape (Swift.dialect.namespaceName "public") =
        typeName "public_schema" := by decide
    rwa [rawName, name] at named
  case imports =>
    obtain ⟨sd, hsd, rawName, raw⟩ := exists_rawEntities_ofTable Python.dialect
      { language := .python } "base" "model" (by decide)
    have name : typeName (sd.rawName ++ "_" ++ "model") = "BaseModel" := by
      rw [rawName]
      decide
    intro nothing
    obtain ⟨sd, hsd, mem⟩ := List.mem_flatMap.mp
      (((Python.hidesNamesakes _ _).namesakes "BaseModel" (by decide)).mpr ⟨sd, hsd, _, raw, name⟩)
    exact nothing sd hsd _ mem (by decide)

end CatalogTypes
