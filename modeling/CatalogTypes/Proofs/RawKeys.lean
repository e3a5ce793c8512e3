import CatalogTypes.Proofs.Inventory
import CatalogTypes.Proofs.Rendering
import CatalogTypes.Proofs.RoundTrips
import CatalogTypes.Proofs.WireValues

/-!
# Keys are raw names

TypeScript keeps the names of a catalog: one that is a plain identifier is its own key, and any
other stands between quotes. The registries that tell other names apart have nothing to do here.
Different names have different keys (`TypeScript.KeyOf.unique`), so each key is free when it is
claimed, and no number is put behind it.
-/

namespace CatalogTypes

open Text Layout

/-! ## Claims without collisions -/

/-- Where the finished bases differ and none of them is taken, they are the names given out. -/
theorem Registry.names_mapThread {σ α β : Type} {f : σ → α → β × σ} (reg : σ → Registry)
    (name : β → String) (key : α → String)
    (step : ∀ s x, ∃ base finish, finish base = key x ∧
      (name (f s x).1, reg (f s x).2) = (reg s).claim base finish) {s : σ} {xs : List α}
    (free : ∀ x ∈ xs, key x ∉ (reg s).taken) (nodup : (xs.map key).Nodup) :
    (mapThread f s xs).1.map name = xs.map key := by
  induction xs generalizing s with
  | nil => rfl
  | cons x xs ih =>
    obtain ⟨fresh, nodup⟩ := List.nodup_cons.mp nodup
    obtain ⟨base, finish, finished, claimed⟩ := step s x
    have head : name (f s x).1 = ((reg s).claim base finish).1 := congrArg Prod.fst claimed
    have later : reg (f s x).2 = ((reg s).claim base finish).2 := congrArg Prod.snd claimed
    have given : name (f s x).1 = key x := by
      rw [head, claim_of_free (by simpa [finished] using free x List.mem_cons_self), finished]
    have taken : (reg (f s x).2).taken = (reg s).taken.insert (key x) := by
      rw [later, claim_snd, ← head, given, taken_insert]
    refine congrArg₂ List.cons given (ih (fun y hy => ?_) nodup)
    rw [taken, Std.HashSet.mem_insert, beq_iff_eq, not_or]
    refine ⟨fun same => fresh (List.mem_map.mpr ⟨y, hy, same.symm⟩), ?_⟩
    exact free y (List.mem_cons_of_mem x hy)

namespace TypeScript

/-! ## Keys -/

/-- The name is made of ASCII letters and digits, `_` and `$`, and does not begin with a digit. -/
def IsPlain (name : String) : Prop :=
  ∃ c cs, name.toList = c :: cs ∧ (c.isAlpha ∨ c = '_' ∨ c = '$') ∧
    ∀ d ∈ cs, d.isAlphanum ∨ d = '_' ∨ d = '$'

/-- `key` stands for the raw name: it is the name itself if that is plain, and else a literal
between double quotes that JSON reads as the name. -/
inductive KeyOf (raw : String) : String → Prop
  | plain (h : IsPlain raw) : KeyOf raw raw
  | quoted {body : String} (h : ¬ IsPlain raw)
      (reads : Json.Reader.text.decode ("\"" ++ body ++ "\"") = .ok raw) :
      KeyOf raw ("\"" ++ body ++ "\"")

theorem isPlain_iff {name : String} : IsPlain name ↔ isIdentifier name := by
  have start : ∀ c, isIdentifierStart c ↔ c.isAlpha ∨ c = '_' ∨ c = '$' := by
    simp [isIdentifierStart, or_assoc]
  have later : ∀ d, (isIdentifierStart d || d.isDigit) ↔ d.isAlphanum ∨ d = '_' ∨ d = '$' := by
    intro d
    rw [Bool.or_eq_true, start, Char.isAlphanum, Bool.or_eq_true]
    exact or_right_comm
  unfold isIdentifier IsPlain
  cases h : name.toList with
  | nil => simp
  | cons c cs => simp [start, later]

theorem decode_quote (raw : String) : Json.Reader.text.decode (quote raw) = .ok raw := by
  have compact : (Json.Value.text raw).compact = quote raw := String.ofList_toList
  rw [← compact]
  exact (Json.Reader.takes_text raw).reads.decode (.refl _ _) (Json.Value.spells_compact _)

theorem keyOf_escape (raw : String) : KeyOf raw (convention.escape raw) := by
  rw [escape_eq]
  by_cases h : isIdentifier raw
  · rw [if_pos h]
    exact .plain (isPlain_iff.mpr h)
  · have text : quote raw =
        "\"" ++ String.ofList (raw.toList.flatMap escapeChar) ++ "\"" := by
      simp [← String.toList_inj]
    rw [if_neg h, text]
    exact .quoted (mt isPlain_iff.mp h) (text ▸ decode_quote raw)

/-- Different names have different keys. -/
theorem KeyOf.unique {raw raw' key : String} (h : KeyOf raw key) (h' : KeyOf raw' key) :
    raw = raw' := by
  have special : ∀ body, ¬ IsPlain ("\"" ++ body ++ "\"") := by
    rintro body ⟨c, cs, name, first, -⟩
    rw [String.toList_append, String.toList_append] at name
    obtain rfl : '"' = c := (List.cons.inj name).1
    revert first
    decide
  cases h with
  | plain h =>
    cases h' with
    | plain => rfl
    | quoted => exact absurd h (special _)
  | @quoted body _ reads =>
    generalize eq : "\"" ++ body ++ "\"" = key at h'
    cases h' with
    | plain h => exact absurd (eq ▸ h) (special _)
    | quoted _ reads' =>
      rw [eq, reads'] at reads
      exact (Except.ok.inj reads).symm

theorem escape_injective : Function.Injective convention.escape := fun raw raw' same =>
  (keyOf_escape raw).unique (same ▸ keyOf_escape raw')

/-! ## Names that are given out -/

/-- A raw name is not converted. -/
theorem fieldName_eq (raw : String) : convention.fieldName raw = raw := by
  have kept : convention.casing.apply raw = raw := Casing.apply_preserve raw
  rw [Convention.fieldName, if_neg (by simp [convention]), kept]
  dsimp only
  split
  · exact String.empty_append
  · rfl

theorem fieldNames_eq {rawNames : List String} (distinct : rawNames.Nodup) :
    dialect.fieldNames rawNames = rawNames.map convention.escape := by
  have names := Registry.names_mapThread id id convention.escape
    (f := fun reg raw => dialect.claim reg (dialect.convention.fieldName raw))
    (fun _ raw => ⟨_, dialect.escape, congrArg convention.escape (fieldName_eq raw), rfl⟩)
    (s := .empty) (fun _ _ => Std.HashSet.not_mem_empty) (distinct.map escape_injective)
  rwa [List.map_id] at names

example : dialect.fieldNames ["a", "a2", "\"a\""] = ["a", "a2", "\"\\\"a\\\"\""] :=
  (fieldNames_eq (by decide)).trans (by decide)

theorem name_plan (s : Snapshot) (o : Options) :
    ∀ p ∈ dialect.plan (.ofSnapshot s) o, p.name = convention.escape p.schema := by
  have names := Registry.names_mapThread Dialect.Names.schemas SchemaPlan.name convention.escape
    (f := dialect.nameSchema (.ofSnapshot s)) (fun _ schema => ⟨schema, dialect.escape, rfl, rfl⟩)
    (s := ⟨.empty, .empty⟩) (fun _ _ => Std.HashSet.not_mem_empty)
    ((Index.nodup_emittedNames s o).map escape_injective)
  refine List.map_inj_left.mp (names.trans ?_)
  rw [Index.emittedNames, ← dialect.schema_plan, List.map_map]
  rfl

/-! ## Keys in the text -/

/-- The line begins with the key and a colon, perhaps with a question mark between them. -/
def IsKeyLine (key line : String) : Prop :=
  ∃ rest, line = key ++ ":" ++ rest ∨ line = key ++ "?:" ++ rest

/-- The headers that an entry of a group stands below. -/
def entryPath (s : SchemaDecls) (group : String) : List String :=
  ["export type Database = \x7b", s.name ++ ": \x7b", group ++ ": \x7b"]

/-- `key` stands for the raw name, and the text has a line for it below the headers. -/
structure ShowsKey (text : String) (path : List String) (raw key : String) : Prop where
  keyOf : KeyOf raw key
  line : ∃ line, IsKeyLine key line ∧ Shows "  " (path ++ [line]) [] text

theorem isKeyLine_fieldText (omittable : Bool) (f : Field) :
    IsKeyLine f.name (fieldText omittable f) := by
  unfold fieldText
  refine ⟨" " ++ typeText f.type, ?_⟩
  split
  · exact .inr (by simp [← String.toList_inj])
  · exact .inl (by simp [← String.toList_inj])

theorem isKeyLine_braces (key : String) : IsKeyLine key (key ++ ": \x7b") :=
  ⟨" \x7b", .inl (by simp [← String.toList_inj])⟩

theorem holds_object (depth : Nat) (key : String) (fields : List Field) (omittable : Bool) :
    ∃ line, IsKeyLine key line ∧
      Holds "  " depth (lines "  " depth [object key fields omittable]).1 [line] [] := by
  by_cases h : fields = []
  · rw [object, if_pos (by simpa using h)]
    exact ⟨_, ⟨" \x7b\x7d", .inl (by simp [← String.toList_inj])⟩, holds_line _⟩
  · rw [object_eq key h]
    refine ⟨_, isKeyLine_braces key, holds_braces (balanced_lines _) ?_ (holds_nil _)⟩
    simp [← String.toList_inj]

theorem holds_object_field {depth : Nat} {key : String} {fields : List Field} {omittable : Bool}
    {f : Field} (hf : f ∈ fields) :
    Holds "  " depth (lines "  " depth [object key fields omittable]).1
      [key ++ ": \x7b", fieldText omittable f] [] := by
  rw [object_eq key (List.ne_nil_of_mem hf)]
  refine holds_braces (balanced_lines _) (by simp [← String.toList_inj]) ?_
  have line : Within [.line (fieldText omittable f)]
      ((fields.map (fieldText omittable)).map .line) :=
    within_map (List.mem_map_of_mem hf) fun _ _ => .line .nil
  exact line.holds (holds_line _)

section Shown

variable {ds : Declarations} {s : SchemaDecls} (hs : s ∈ ds.schemas)
include hs

theorem showsKey_schema {raw : String} (h : KeyOf raw s.name) :
    ShowsKey (render ds) ["export type Database = \x7b"] raw s.name :=
  ⟨h, _, isKeyLine_braces s.name, shows_schema hs (holds_nil _)⟩

theorem showsKey_enum {e : EnumDecl} (he : e ∈ s.enums) {raw : String} (h : KeyOf raw e.name) :
    ShowsKey (render ds) (entryPath s "Enums") raw e.name := by
  refine ⟨h, e.name ++ ": " ++ union e, ⟨" " ++ union e, .inl (by simp [← String.toList_inj])⟩, ?_⟩
  have plain : ∀ e ∈ s.enums, Balanced [.line (e.name ++ ": " ++ union e)] :=
    fun _ _ => .line .nil
  exact shows_group hs (by simp [groups]) (balanced_map plain) (within_map he plain) (holds_line _)

section Composites

variable {c : RecordDecl} (hc : c ∈ s.composites)
include hc

theorem shows_composite {header : String} {headers rows : List String}
    (h : Holds "  " 3 (lines "  " 3 [object c.name c.fields false]).1 (header :: headers) rows) :
    Shows "  " (entryPath s "CompositeTypes" ++ header :: headers) rows (render ds) :=
  shows_group hs (by simp [groups]) (balanced_map fun _ _ => balanced_object ..)
    (within_map hc fun _ _ => balanced_object ..) h

theorem showsKey_composite {raw : String} (h : KeyOf raw c.name) :
    ShowsKey (render ds) (entryPath s "CompositeTypes") raw c.name := by
  obtain ⟨line, key, holds⟩ := holds_object 3 c.name c.fields false
  exact ⟨h, line, key, shows_composite hs hc holds⟩

theorem showsKey_attribute {f : Field} (hf : f ∈ c.fields) {raw : String} (h : KeyOf raw f.name) :
    ShowsKey (render ds) (entryPath s "CompositeTypes" ++ [c.name ++ ": \x7b"]) raw f.name :=
  ⟨h, _, isKeyLine_fieldText false f, shows_composite hs hc (holds_object_field hf)⟩

end Composites

section Relations

variable {rd : RelationDecls} (hrd : rd ∈ s.relations)
include hrd

theorem showsKey_relation {raw : String} (h : KeyOf raw (convention.escape rd.rawName)) :
    ShowsKey (render ds) (entryPath s (groupKey rd)) raw (convention.escape rd.rawName) := by
  refine ⟨h, _, isKeyLine_braces _, shows_entry hs hrd ?_⟩
  exact holds_braces (balanced_decls rd) (by simp [← String.toList_inj]) (holds_nil _)

theorem showsKey_column {r : RecordDecl} (hr : r ∈ rd.decls) {f : Field} (hf : f ∈ r.fields)
    {raw : String} (h : KeyOf raw f.name) :
    ShowsKey (render ds) (entryPath s (groupKey rd) ++
      [convention.escape rd.rawName ++ ": \x7b", recordKey r ++ ": \x7b"]) raw f.name :=
  ⟨h, _, isKeyLine_fieldText r.isWrite f, shows_object hs hrd hr (holds_object_field hf)⟩

end Relations

end Shown

/-! ## The whole text -/

/-- All keys of the schema are those of the raw names: the keys of the schema itself and of its
entities, and those of fields where no two columns or attributes have one name. -/
structure Keyed (sd : SchemaDecls) (s : Snapshot) (text : String) : Prop where
  schema : ShowsKey text ["export type Database = \x7b"] sd.rawName sd.name
  enums : List.Forall₂ (fun t e => ShowsKey text (entryPath sd "Enums") t.name e.name)
    ((Index.ofSnapshot s).enums sd.rawName) sd.enums
  composites : List.Forall₂ (fun t c =>
      ShowsKey text (entryPath sd "CompositeTypes") t.name c.name ∧
      ((t.attributes.map (·.name)).Nodup → List.Forall₂ (fun attr f =>
        ShowsKey text (entryPath sd "CompositeTypes" ++ [c.name ++ ": \x7b"]) attr.name f.name)
        t.attributes c.fields))
    ((Index.ofSnapshot s).composites sd.rawName) sd.composites
  relations : List.Forall₂ (fun r rd => ∃ key,
      ShowsKey text (entryPath sd (groupKey rd)) r.name key ∧
      ∃ cs : List Column, cs.Perm (s.columns.filter (·.tableId == r.id)) ∧
        ((cs.map (·.name)).Nodup → ∀ decl ∈ rd.decls, List.Forall₂ (fun c f =>
          ShowsKey text
            (entryPath sd (groupKey rd) ++ [key ++ ": \x7b", recordKey decl ++ ": \x7b"])
            c.name f.name) cs decl.fields))
    ((Index.ofSnapshot s).relations sd.rawName) sd.relations

theorem keyOf_zipWith {α : Type} {raw : α → String} {field : String → α → Field}
    (named : ∀ key x, (field key x).name = key) {xs : List α} (distinct : (xs.map raw).Nodup) :
    List.Forall₂ (fun x f => KeyOf (raw x) f.name) xs
      ((dialect.fieldNames (xs.map raw)).zipWith field xs) := by
  rw [fieldNames_eq distinct, List.map_map, List.zipWith_map_left, List.zipWith_self,
    List.forall₂_map_right_iff, List.forall₂_same]
  intro x _
  rw [named]
  exact keyOf_escape (raw x)

section Build

variable (s : Snapshot) (o : Options)

theorem name_schemas_build : ∀ sd ∈ (dialect.build (.ofSnapshot s) o).declarations.schemas,
    sd.name = convention.escape sd.rawName :=
  dialect.forall_mem_build _ o fun p hp _ => name_plan s o p hp

theorem name_composites_build : ∀ sd ∈ (dialect.build (.ofSnapshot s) o).declarations.schemas,
    ∀ c ∈ sd.composites, c.name = convention.escape c.rawName := by
  have planned : ∀ p ∈ dialect.plan (.ofSnapshot s) o, ∀ q ∈ p.composites,
      q.2 = convention.escape q.1.name :=
    forall_mem_mapThread
      (P := fun p : SchemaPlan => ∀ q ∈ p.composites, q.2 = convention.escape q.1.name)
      (fun _ _ => forall_mem_mapThread
        (P := fun q : TypeDef × String => q.2 = convention.escape q.1.name) (fun _ _ => rfl) _ _)
      _ _
  refine dialect.forall_mem_build _ o fun p hp _ c hc => ?_
  obtain ⟨q, hq, rfl⟩ := List.mem_map.mp hc
  exact planned p hp q hq

theorem enums_build : ∀ sd ∈ (dialect.build (.ofSnapshot s) o).declarations.schemas,
    List.Forall₂ (fun t e => e.Declares t) ((Index.ofSnapshot s).enums sd.rawName) sd.enums :=
  dialect.forall_mem_build _ o fun _ _ covers => covers.forall₂_enums dialect _

theorem composites_build : ∀ sd ∈ (dialect.build (.ofSnapshot s) o).declarations.schemas,
    List.Forall₂ (fun t c => c.rawName = t.name ∧ ((t.attributes.map (·.name)).Nodup →
        List.Forall₂ (fun attr f => KeyOf attr.name f.name) t.attributes c.fields))
      ((Index.ofSnapshot s).composites sd.rawName) sd.composites :=
  dialect.forall_mem_build _ o fun _ _ covers => covers.forall₂_composites dialect _ fun _ _ =>
    ⟨rfl, keyOf_zipWith fun _ _ => rfl⟩

theorem relations_build : ∀ sd ∈ (dialect.build (.ofSnapshot s) o).declarations.schemas,
    List.Forall₂ (fun r rd => rd.rawName = r.name ∧
        ((((Index.ofSnapshot s).columns r.id).map (·.name)).Nodup → ∀ decl ∈ rd.decls,
          List.Forall₂ (fun c f => KeyOf c.name f.name) ((Index.ofSnapshot s).columns r.id)
            decl.fields))
      ((Index.ofSnapshot s).relations sd.rawName) sd.relations := by
  refine dialect.forall_mem_build _ o fun _ _ covers => covers.forall₂_relations dialect _ ?_
  refine fun r names _ => ⟨rfl, fun distinct decl hd => ?_⟩
  obtain ⟨q, -, rfl⟩ := List.mem_map.mp hd
  exact keyOf_zipWith (fun _ _ => rfl) distinct

/-- Each schema of the declarations has the keys of the raw names. -/
theorem keyed_build : ∀ sd ∈ (dialect.build (.ofSnapshot s) o).declarations.schemas,
    Keyed sd s (render (dialect.build (.ofSnapshot s) o).declarations) := by
  intro sd hsd
  constructor
  case schema =>
    refine showsKey_schema hsd ?_
    rw [name_schemas_build s o sd hsd]
    exact keyOf_escape sd.rawName
  case enums =>
    refine (forall₂_mem (enums_build s o sd hsd)).imp ?_
    intro t e ⟨⟨_, he⟩, declares⟩
    refine showsKey_enum hsd he ?_
    rw [name_enums_build _ o sd hsd e he, declares.rawName]
    exact keyOf_escape t.name
  case composites =>
    refine (forall₂_mem (composites_build s o sd hsd)).imp ?_
    intro t c ⟨⟨_, hc⟩, rawName, fields⟩
    have key : KeyOf t.name c.name := by
      rw [name_composites_build s o sd hsd c hc, rawName]
      exact keyOf_escape t.name
    refine ⟨showsKey_composite hsd hc key, fun distinct => ?_⟩
    exact (forall₂_mem (fields distinct)).imp fun attr f ⟨⟨_, hf⟩, key⟩ =>
      showsKey_attribute hsd hc hf key
  case relations =>
    refine (forall₂_mem (relations_build s o sd hsd)).imp ?_
    intro r rd ⟨⟨hr, hrd⟩, rawName, fields⟩
    have first := (Index.mem_relations_iff.mp hr).1
    refine ⟨_, showsKey_relation hsd hrd (rawName ▸ keyOf_escape rd.rawName), _,
      Index.columns_perm first.mem, fun distinct decl hd => ?_⟩
    exact (forall₂_mem (fields distinct decl hd)).imp fun c f ⟨⟨_, hf⟩, key⟩ =>
      showsKey_column hsd hrd hd hf key

end Build

/-- The schemas that the options let through are declared, with the keys of the raw names. -/
structure RawKeyed (ds : Declarations) (s : Snapshot) (o : Options) (text : String) : Prop where
  schemas : ∀ name, name ∈ ds.schemas.map (·.rawName) ↔ s.emits o name
  keys : ∀ sd ∈ ds.schemas, Keyed sd s text

/-- Whatever other names there are, a key of the output is the raw name or the literal of it. -/
theorem generate_rawKeyed (s : Snapshot) (o : Options) :
    RawKeyed (declare s { o with language := .typescript }).declarations s o
      (generate s { o with language := .typescript }).output where
  schemas _ := dialect.mem_rawNames_build_iff
  keys := keyed_build s { o with language := .typescript }

end TypeScript

end CatalogTypes
