import CatalogTypes.Proofs.Fields
import CatalogTypes.Proofs.LiteralLines
import CatalogTypes.Proofs.Outline

/-!
# Values on the wire

Labels and raw names are what generated code exchanges with the database. They stand in the text as
string literals, and each of these is read back to just what the catalog has: in an enumeration its
labels, and in the records of Swift and Python the raw names of the fields (`generate_wired`).
-/

namespace CatalogTypes

open Text Layout

/-! ## Parts of the text -/

theorem enumeration_mem_listing {ds : Declarations} {s : SchemaDecls} (hs : s ∈ ds.schemas)
    {e : EnumDecl} (he : e ∈ s.enums) : .enumeration e ∈ ds.listing :=
  List.mem_flatMap_of_mem hs (List.mem_append_left _ (List.mem_map_of_mem he))

theorem record_mem_listing {ds : Declarations} {s : SchemaDecls} (hs : s ∈ ds.schemas)
    {r : RecordDecl} (hr : r ∈ s.records) : .record r ∈ ds.listing :=
  List.mem_flatMap_of_mem hs (List.mem_append_right _ (List.mem_map_of_mem hr))

namespace Language

/-- How string literals are read. -/
def stringReader : Language → StringReader
  | swift => Swift.stringReader
  | _ => Json.stringReader

/-- The lines of an enumeration. -/
def enumLines (language : Language) (access : Access) (e : EnumDecl) : List String :=
  match language with
  | typescript => (Layout.lines "  " 3 [.line (e.name ++ ": " ++ TypeScript.union e)]).1
  | go => (Layout.lines "\t" 0 (Go.enumeration e)).1
  | swift => (Layout.lines "  " 1 [Swift.enumeration access.keyword e]).1
  | python => (Layout.lines "    " 0 (Python.enumeration e)).1

/-- The literals that stand before those of the labels: a key that is no plain identifier. -/
def keyLiterals (language : Language) (e : EnumDecl) : List String :=
  match language with
  | typescript => if isIdentifier e.rawName then [] else [e.rawName]
  | _ => []

end Language

/-- The enumeration is in the output, and its literals are the labels, one for each and in order. -/
structure EnumDecl.Wired (e : EnumDecl) (language : Language) (access : Access)
    (labels : List String) (output : String) : Prop where
  appears : Appears (language.enumLines access e) output
  literals : Literals language.stringReader (joined (language.enumLines access e)).toList
    (language.keyLiterals e ++ labels)

/-- The record is in the output as `part`, and its literals are the raw names, one for each field
and in order: each of them stands in the line of its field. -/
structure RecordDecl.Wired (r : RecordDecl) (read : StringReader) (line : Field → String)
    (part rawNames : List String) (output : String) : Prop where
  appears : Appears part output
  literals : Literals read (joined part).toList rawNames
  rows : r.fields.map line <:+: part
  row : List.Forall₂ (fun f rawName => Literals read (line f).toList [rawName]) r.fields rawNames

/-- The line of a field among the coding keys of a record. -/
def Swift.keyLine (f : Field) : String := "      case " ++ f.name ++ " = " ++ literal f.rawName

/-- The line of a field in a class. -/
def Python.fieldLine (r : RecordDecl) (f : Field) : String := "    " ++ fieldText r f

/-- In Swift and Python, fields are tied to their raw names by literals. -/
def Language.TiesFields (language : Language) (access : Access) (r : RecordDecl)
    (rawNames : List String) (output : String) : Prop :=
  match language with
  | swift => ∃ isClass, r.Wired Swift.stringReader Swift.keyLine
      (Layout.lines "  " 1 [Swift.record access.keyword isClass r]).1 rawNames output
  | python => r.Wired Json.stringReader (Python.fieldLine r)
      (Layout.lines "    " 0 (Python.relationRecord r)).1 rawNames output
  | _ => True

/-! ## TypeScript -/

namespace TypeScript

theorem literals_escape (name : String) :
    Literals Json.stringReader (convention.escape name).toList
      (if isIdentifier name then [] else [name]) := by
  rw [escape_eq]
  split
  · next plain => exact literals_of_lacks (lacks_of_isIdentifier plain (by decide))
  · exact literals_quote name

theorem literals_union (e : EnumDecl) :
    Literals Json.stringReader (union e).toList (e.variants.map (·.value)) := by
  unfold union
  generalize e.variants = variants
  induction variants with
  | nil => exact literals_of_lacks (by decide)
  | cons v vs ih =>
    cases vs with
    | nil =>
      simp only [List.isEmpty_cons, Bool.false_eq_true, if_false, List.map_cons, List.map_nil,
        String.intercalate_singleton]
      exact literals_quote v.value
    | cons w ws =>
      simp only [List.isEmpty_cons, Bool.false_eq_true, if_false, List.map_cons,
        String.intercalate_cons_cons] at ih ⊢
      rw [String.toList_append]
      exact ((literals_quote v.value).before (by decide)).append ih

/-- Enumerations are named by their raw names. -/
theorem name_enums_build (ix : Index) (o : Options) :
    ∀ sd ∈ (dialect.build ix o).declarations.schemas, ∀ e ∈ sd.enums,
      e.name = convention.escape e.rawName := by
  have planned : ∀ p ∈ dialect.plan ix o, ∀ q ∈ p.enums,
      q.2.name = convention.escape q.2.rawName :=
    forall_mem_mapThread
      (P := fun p : SchemaPlan => ∀ q ∈ p.enums, q.2.name = convention.escape q.2.rawName)
      (fun _ _ => forall_mem_mapThread
        (P := fun q : TypeDef × EnumDecl => q.2.name = convention.escape q.2.rawName)
        (fun _ _ => rfl) _ _) _ _
  refine dialect.forall_mem_build ix o fun p hp _ e he => ?_
  obtain ⟨q, hq, rfl⟩ := List.mem_map.mp he
  exact planned p hp q hq

theorem infix_enumeration {ds : Declarations} {s : SchemaDecls} (hs : s ∈ ds.schemas)
    {e : EnumDecl} (he : e ∈ s.enums) :
    (lines "  " 3 [.line (e.name ++ ": " ++ union e)]).1 <:+: (lines "  " 0 (source ds)).1 := by
  let entries : List Item := s.enums.map fun e => .line (e.name ++ ": " ++ union e)
  have plain : ∀ e ∈ s.enums, Balanced [.line (e.name ++ ": " ++ union e)] :=
    fun _ _ => .line .nil
  have filled : entries.isEmpty = false := by simpa [entries] using List.ne_nil_of_mem he
  have inEntries : Within [.line (e.name ++ ": " ++ union e)] entries := within_map he plain
  have inGroup : (lines "  " 3 entries).1 <:+: (lines "  " 2 [group "Enums" entries]).1 := by
    rw [group, filled]
    exact infix_block (balanced_map plain) _ _
  have inGroups : Within [group "Enums" entries] (groups s) := ⟨[], (groups s).drop 1, rfl, .nil⟩
  have inSchema : (lines "  " 2 (groups s)).1 <:+: (lines "  " 1 [schema s]).1 :=
    infix_block (balanced_groups s) _ _
  have inDatabase : (lines "  " 1 (ds.schemas.map schema)).1 <:+:
      (lines "  " 0 [.braces "export type Database =" (ds.schemas.map schema)]).1 :=
    infix_block (balanced_schemas ds) _ _
  have inSource : (lines "  " 1 [schema s]).1 <:+: (lines "  " 0 (source ds)).1 :=
    (within_schemas hs).infix_lines.trans (inDatabase.trans (within_source hs).infix_lines)
  exact inEntries.infix_lines.trans
    (inGroup.trans (inGroups.infix_lines.trans (inSchema.trans inSource)))

theorem values_enumeration {e : EnumDecl} (name : e.name = convention.escape e.rawName) :
    Values Json.stringReader [.line (e.name ++ ": " ++ union e)]
      ((if isIdentifier e.rawName then [] else [e.rawName]) ++ e.variants.map (·.value)) := by
  rw [← List.append_nil (_ ++ _)]
  refine .line ?_ .nil
  rw [String.toList_append]
  refine Literals.append (Literals.before ?_ (by decide)) (literals_union e)
  rw [name]
  exact literals_escape e.rawName

end TypeScript

/-! ## Go -/

namespace Go

theorem infix_enumeration {ds : Declarations} {s : SchemaDecls} (hs : s ∈ ds.schemas)
    {e : EnumDecl} (he : e ∈ s.enums) :
    (lines "\t" 0 (enumeration e)).1 <:+: (lines "\t" 0 (source ds)).1 := by
  have inItems : Within (enumeration e) (items (.enumeration e)) :=
    (Within.refl _).append_left [.blank] (.blank .nil)
  have inSchemas : Within (items (.enumeration e)) (ds.schemas.flatMap schema) :=
    lays.within (fun s _ => schema_eq s) (enumeration_mem_listing hs he)
  have inSource : Within (enumeration e) (source ds) :=
    (inItems.trans inSchemas).append_left [.line "package database"] (.line .nil)
  exact inSource.infix_lines

theorem values_enumeration {e : EnumDecl} (name : Lacks '"' e.name)
    (variants : ∀ v ∈ e.variants, Lacks '"' v.name) :
    Values Json.stringReader (enumeration e) (e.variants.map (·.value)) := by
  have header : Lacks '"' ("type " ++ e.name ++ " string") := by
    rw [lacks_append, lacks_append]
    exact ⟨⟨by decide, name⟩, by decide⟩
  have rows : ∀ v ∈ e.variants, Literals Json.stringReader (variantText e v).toList [v.value] := by
    intro v hv
    refine (literals_quote v.value).after ?_
    simp only [lacks_append]
    exact ⟨⟨⟨lacks_pad (by decide) _ (variants v hv), by decide⟩, name⟩, by decide⟩
  rw [enumeration_eq, ← List.nil_append (e.variants.map (·.value))]
  refine .line (literals_of_lacks header) ?_
  split
  · next empty =>
    rw [List.isEmpty_iff.mp empty]
    exact .nil
  · rw [← List.append_nil (e.variants.map (·.value)), List.map_map]
    exact .blank (.block (by decide) (by decide) (values_lines rows) .nil)

end Go

/-! ## Python -/

namespace Python

theorem infix_items {ds : Declarations}
    (h : ∀ s ∈ ds.schemas, ∀ c ∈ s.composites, c.isWrite = false) {d : Decl}
    (hd : d ∈ ds.listing) :
    (lines "    " 0 (items d)).1 <:+: (lines "    " 0 (source ds)).1 := by
  have inSchemas : Within (items d) (ds.schemas.flatMap schema) :=
    lays.within (fun s hs => schema_eq (h s hs)) hd
  exact (inSchemas.append_left header balanced_header).infix_lines

theorem values_classItems {α : Type} {name base : String} {text value : α → String} {xs : List α}
    (hn : Lacks '"' name) (hb : Lacks '"' base)
    (h : ∀ x ∈ xs, Literals Json.stringReader (text x).toList [value x]) :
    Values Json.stringReader (classItems name base (xs.map text)) (xs.map value) := by
  have header : Lacks '"' ("class " ++ name ++ "(" ++ base ++ "):") := by
    simp only [lacks_append]
    exact ⟨⟨⟨⟨by decide, hn⟩, by decide⟩, hb⟩, by decide⟩
  have body : Values Json.stringReader
      ((if (xs.map text).isEmpty then ["pass"] else xs.map text).map .line) (xs.map value) := by
    cases xs with
    | nil => exact .line (literals_of_lacks (by decide)) .nil
    | cons x xs =>
      rw [if_neg (by simp), List.map_map]
      exact values_lines h
  rw [← List.append_nil (xs.map value), ← List.nil_append (xs.map value ++ [])]
  exact .blank (.blank (.line (literals_of_lacks header) (.indent (body.append (.dedent .nil)))))

theorem literals_fieldAlias (f : Field) :
    Literals Json.stringReader (fieldAlias f).toList [f.rawName] :=
  ((literals_quote f.rawName).after (by decide)).before (by decide)

theorem literals_payloadType {f : Field} (type : Lacks '"' (typeText f.type)) :
    Literals Json.stringReader (payloadType f).toList [f.rawName] := by
  have start : Lacks '"' ("Annotated[" ++ typeText f.type ++ ", ") := by
    rw [lacks_append, lacks_append]
    exact ⟨⟨by decide, type⟩, by decide⟩
  have annotated := ((literals_fieldAlias f).after start).before (b := "]") (by decide)
  unfold payloadType
  split
  · exact (annotated.after (by decide)).before (by decide)
  · exact annotated

theorem literals_fieldText {f : Field} (name : Lacks '"' f.name)
    (type : Lacks '"' (typeText f.type)) (r : RecordDecl) :
    Literals Json.stringReader (fieldText r f).toList [f.rawName] := by
  have key : Lacks '"' (f.name ++ ": ") := lacks_append.mpr ⟨name, by decide⟩
  unfold fieldText
  split
  · exact (literals_payloadType type).after key
  · refine (literals_fieldAlias f).after ?_
    rw [lacks_append, lacks_append]
    exact ⟨⟨key, type⟩, by decide⟩

theorem values_enumeration {e : EnumDecl} (name : Lacks '"' e.name)
    (variants : ∀ v ∈ e.variants, Lacks '"' v.name) :
    Values Json.stringReader (enumeration e) (e.variants.map (·.value)) := by
  refine values_classItems name (by decide) fun v hv => (literals_quote v.value).after ?_
  exact lacks_append.mpr ⟨variants v hv, by decide⟩

theorem values_relationRecord {r : RecordDecl} (name : Lacks '"' r.name)
    (fields : ∀ f ∈ r.fields, Lacks '"' f.name ∧ Lacks '"' (typeText f.type)) :
    Values Json.stringReader (relationRecord r) (r.fields.map (·.rawName)) := by
  have extended : Lacks '"' (base r) := by
    unfold base
    split
    all_goals decide
  rw [relationRecord_eq]
  exact values_classItems name extended fun f hf =>
    literals_fieldText (fields f hf).1 (fields f hf).2 r

theorem infix_fieldLine (r : RecordDecl) :
    r.fields.map (fieldLine r) <:+: (lines "    " 0 (relationRecord r)).1 := by
  have laid := (lays (.record r)).2
  rw [items] at laid
  rw [laid]
  by_cases empty : r.fields = []
  · rw [empty]
    exact List.nil_infix
  · refine ⟨["", "", (outline.entry (.record r)).header], [], ?_⟩
    have filled : (r.fields.map (fieldText r)).isEmpty = false := by simpa using empty
    simp only [outline, entry, classEntry, filled, List.map_map]
    exact List.append_nil _

end Python

/-! ## Swift -/

namespace Swift

theorem infix_pieces (access : Access) {ds : Declarations} {s : SchemaDecls} (hs : s ∈ ds.schemas)
    {piece : List Item} (hp : piece ∈ pieces access.keyword (containment ds).cyclic s) :
    (lines "  " 1 piece).1 <:+: (lines "  " 0 (source access ds)).1 := by
  have inSchema : (lines "  " 1 (Item.between [.blank] id
        (pieces access.keyword (containment ds).cyclic s))).1 <:+:
      (lines "  " 0 [schema access.keyword (containment ds).cyclic s]).1 := by
    rw [schema_eq hp]
    exact infix_block (balanced_pieces ..) _ _
  exact (within_pieces hp).infix_lines.trans
    (inSchema.trans (within_source access hs).infix_lines)

theorem infix_enumeration (access : Access) {ds : Declarations} {s : SchemaDecls}
    (hs : s ∈ ds.schemas) {e : EnumDecl} (he : e ∈ s.enums) :
    (lines "  " 1 [enumeration access.keyword e]).1 <:+: (lines "  " 0 (source access ds)).1 :=
  infix_pieces access hs (List.mem_append_left _ (List.mem_map_of_mem he))

theorem values_enumeration {access : String} (ha : Lacks '"' access) {e : EnumDecl}
    (name : Lacks '"' e.name) (variants : ∀ v ∈ e.variants, Lacks '"' v.name) :
    Values stringReader [enumeration access e] (e.variants.map (·.value)) := by
  have header : Lacks '"' (access ++ " enum " ++ e.name ++ ": String, " ++ conformances) := by
    simp only [lacks_append]
    exact ⟨⟨⟨⟨ha, by decide⟩, name⟩, by decide⟩, by decide⟩
  rw [← List.append_nil (e.variants.map (·.value))]
  refine .block (lacks_braces header (by decide)) (by decide) (values_lines fun v hv => ?_) .nil
  refine (literals_literal v.value).after ?_
  rw [lacks_append, lacks_append]
  exact ⟨⟨by decide, variants v hv⟩, by decide⟩

/-- The text of a field among the coding keys, not indented yet. -/
def keyText (f : Field) : String := "case " ++ f.name ++ " = " ++ literal f.rawName

theorem literals_keyText {f : Field} (name : Lacks '"' f.name) :
    Literals stringReader (keyText f).toList [f.rawName] := by
  refine (literals_literal f.rawName).after ?_
  rw [lacks_append, lacks_append]
  exact ⟨⟨by decide, name⟩, by decide⟩

theorem lineAt_keyText (f : Field) : lineAt "  " 3 (keyText f) = keyLine f := by
  have ne : (keyText f).isEmpty = false := by
    rw [Bool.eq_false_iff]
    intro empty
    have chars := congrArg String.toList (String.isEmpty_iff.mp empty)
    simp [keyText] at chars
  rw [lineAt, ne]
  simp [keyText, keyLine, ← String.toList_inj]

theorem values_codingKeys {access : String} (ha : Lacks '"' access) {r : RecordDecl}
    (h : Lack r '"') : Values stringReader (codingKeys access r) (r.fields.map (·.rawName)) := by
  have header : Lacks '"' (access ++ " enum CodingKeys: String, CodingKey") :=
    lacks_append.mpr ⟨ha, by decide⟩
  unfold codingKeys
  split
  · next empty =>
    rw [List.isEmpty_iff.mp empty]
    exact .nil
  · rw [← List.append_nil (r.fields.map (·.rawName))]
    exact .blank (.block (lacks_braces header (by decide)) (by decide)
      (values_lines fun f hf => literals_keyText (h.fields f hf)) .nil)

/-- Besides the coding keys, a record has no literals. -/
theorem values_record {access : String} (ha : Lacks '"' access) (isClass : Bool) {r : RecordDecl}
    (h : Lack r '"') :
    Values stringReader [record access isClass r] (r.fields.map (·.rawName)) := by
  have fields : Values stringReader ((r.fields.map (fieldText access)).map .line) [] :=
    values_of_every (every_lines (lacks_fieldText (.inr rfl) ha h))
  have members : Values stringReader (if isClass then classMembers access r else []) [] := by
    split
    · exact values_of_every (every_classMembers (.inr rfl) ha h)
    · exact .nil
  rw [record_eq, ← List.append_nil (r.fields.map (·.rawName))]
  exact .block (lacks_braces (lacks_header (.inr rfl) ha isClass h) (by decide)) (by decide)
    (fields.append (members.append (values_codingKeys ha h))) .nil

theorem infix_keyLine (access : String) (isClass : Bool) (r : RecordDecl) :
    r.fields.map keyLine <:+: (lines "  " 1 [record access isClass r]).1 := by
  by_cases empty : r.fields = []
  · rw [empty]
    exact List.nil_infix
  let keys : List Item := (r.fields.map keyText).map .line
  let block : Item := .braces (access ++ " enum CodingKeys: String, CodingKey") keys
  have rows : (lines "  " 3 keys).1 = r.fields.map keyLine := by
    rw [lines_texts, List.map_map]
    exact List.map_congr_left fun f _ => lineAt_keyText f
  have keys_eq : codingKeys access r = [.blank, block] := by
    rw [codingKeys, if_neg (by simpa using empty)]
    simp only [block, keys, List.map_map]
    rfl
  have inBlock : (lines "  " 3 keys).1 <:+: (lines "  " 2 [block]).1 :=
    infix_block (balanced_lines _) _ _
  have inKeys : Within [block] (codingKeys access r) :=
    keys_eq ▸ (Within.refl _).append_left [.blank] (.blank .nil)
  have inExtras : Within [block] (extras access isClass r) :=
    inKeys.append_left _ (balanced_members access isClass r)
  have inBody : Within [block]
      ((r.fields.map (fieldText access)).map .line ++ extras access isClass r) :=
    inExtras.append_left _ (balanced_lines _)
  rw [← rows, record_eq]
  exact inBlock.trans (inBody.infix_lines.trans
    (infix_block ((balanced_lines _).append (balanced_extras ..)) _ _))

end Swift

/-! ## Wired declarations -/

section Wired

variable {s : Snapshot} {o : Options} {sd : SchemaDecls}

theorem TypeScript.wired_enumeration
    (hsd : sd ∈ (dialect.build (.ofSnapshot s) o).declarations.schemas) (access : Access)
    {e : EnumDecl} (he : e ∈ sd.enums) :
    e.Wired .typescript access (e.variants.map (·.value))
      (render (dialect.build (.ofSnapshot s) o).declarations) where
  appears := appears_text (infix_enumeration hsd he)
  literals := (values_enumeration (name_enums_build _ o sd hsd e he)).literals (by decide) 3

theorem Go.wired_enumeration
    (hsd : sd ∈ (dialect.build (.ofSnapshot s) o).declarations.schemas) (access : Access)
    {e : EnumDecl} (he : e ∈ sd.enums) :
    e.Wired .go access (e.variants.map (·.value))
      (render (dialect.build (.ofSnapshot s) o).declarations) where
  appears := appears_text (infix_enumeration hsd he)
  literals := by
    obtain ⟨name, variants⟩ := (lack_build s o (.inr rfl) sd hsd).named.enums e he
    exact (values_enumeration name variants).literals (by decide) 0

theorem Swift.wired_enumeration
    (hsd : sd ∈ (dialect.build (.ofSnapshot s) o).declarations.schemas) (access : Access)
    {e : EnumDecl} (he : e ∈ sd.enums) :
    e.Wired .swift access (e.variants.map (·.value))
      (render access (dialect.build (.ofSnapshot s) o).declarations) where
  appears := appears_text (infix_enumeration access hsd he)
  literals := by
    obtain ⟨name, variants⟩ := (lack_build s o (.inr rfl) sd hsd).named.enums e he
    have keyword : Lacks '"' access.keyword := lacks_keyword (.inr rfl) access
    exact (values_enumeration keyword name variants).literals (by decide) 1

theorem Python.wired_enumeration
    (hsd : sd ∈ (dialect.build (.ofSnapshot s) o).declarations.schemas) (access : Access)
    {e : EnumDecl} (he : e ∈ sd.enums) :
    e.Wired .python access (e.variants.map (·.value))
      (render (dialect.build (.ofSnapshot s) o).declarations) where
  appears := appears_text
    (infix_items (isWrite_composites_build dialect s o) (enumeration_mem_listing hsd he))
  literals := by
    obtain ⟨name, variants⟩ := (lack_build s o (.inr rfl) sd hsd).named.enums e he
    exact (values_enumeration name variants).literals (by decide) 0

theorem Swift.wired_record
    (hsd : sd ∈ (dialect.build (.ofSnapshot s) o).declarations.schemas) (access : Access)
    {r : RecordDecl} (hr : r ∈ sd.records) :
    ∃ isClass, r.Wired stringReader keyLine (lines "  " 1 [record access.keyword isClass r]).1
      (r.fields.map (·.rawName))
      (render access (dialect.build (.ofSnapshot s) o).declarations) := by
  have lack : Lack r '"' := lack_of_mem_records (.inr rfl) (lack_build s o (.inr rfl) sd hsd) hr
  have keyword : Lacks '"' access.keyword := lacks_keyword (.inr rfl) access
  obtain ⟨isClass, listed⟩ := record_mem_pieces access.keyword (containment _).cyclic hr
  refine ⟨isClass, appears_text (infix_pieces access hsd listed),
    (values_record keyword isClass lack).literals (by decide) 1, infix_keyLine .., ?_⟩
  rw [List.forall₂_map_right_iff, List.forall₂_same]
  intro f hf
  rw [← lineAt_keyText]
  exact literals_lineAt (by decide) 3 (literals_keyText (lack.fields f hf))

theorem Python.wired_record
    (hsd : sd ∈ (dialect.build (.ofSnapshot s) o).declarations.schemas)
    {r : RecordDecl} (hr : r ∈ sd.records) :
    r.Wired Json.stringReader (fieldLine r) (lines "    " 0 (relationRecord r)).1
      (r.fields.map (·.rawName)) (render (dialect.build (.ofSnapshot s) o).declarations) := by
  obtain ⟨named, types⟩ := lack_build s o (.inr rfl) sd hsd
  obtain ⟨name, fields⟩ := named.records r hr
  have texts : ∀ f ∈ r.fields, Lacks '"' f.name ∧ Lacks '"' (typeText f.type) :=
    fun f hf => ⟨fields f hf, (types r hr f hf).1⟩
  refine ⟨appears_text ?_, (values_relationRecord name texts).literals (by decide) 0,
    infix_fieldLine r, ?_⟩
  · exact infix_items (isWrite_composites_build dialect s o) (record_mem_listing hsd hr)
  · rw [List.forall₂_map_right_iff, List.forall₂_same]
    intro f hf
    exact (literals_fieldText (texts f hf).1 (texts f hf).2 r).after (by decide)

namespace Language

variable {language : Language} (access : Access)
  (hsd : sd ∈ (language.dialect.build (.ofSnapshot s) o).declarations.schemas)
include hsd

theorem wired_enumeration {e : EnumDecl} (he : e ∈ sd.enums) :
    e.Wired language access (e.variants.map (·.value))
      (language.render access (language.dialect.build (.ofSnapshot s) o).declarations) := by
  cases language with
  | typescript => exact TypeScript.wired_enumeration hsd access he
  | go => exact Go.wired_enumeration hsd access he
  | swift => exact Swift.wired_enumeration hsd access he
  | python => exact Python.wired_enumeration hsd access he

theorem tiesFields {r : RecordDecl} (hr : r ∈ sd.records) :
    language.TiesFields access r (r.fields.map (·.rawName))
      (language.render access (language.dialect.build (.ofSnapshot s) o).declarations) := by
  cases language with
  | typescript => exact trivial
  | go => exact trivial
  | swift => exact Swift.wired_record hsd access hr
  | python => exact Python.wired_record hsd hr

end Language

/-- The literals of the output are what the snapshot has: in each enumeration of the schema the
labels of its type, and with the fields of each record the names of the columns or attributes. -/
structure SchemaDecls.Wired (sd : SchemaDecls) (s : Snapshot) (language : Language)
    (access : Access) (output : String) : Prop where
  enums : ∃ ts : List TypeDef, ts.Pairwise TypeDef.Before ∧
    (∀ t, t ∈ ts ↔ IsFirst (·.id) s.types t ∧ t.isEnumeration ∧ t.schema = sd.rawName) ∧
    List.Forall₂ (fun t e => e.id = t.id ∧ e.Wired language access t.enums output) ts sd.enums
  composites : ∃ ts : List TypeDef, ts.Pairwise TypeDef.Before ∧
    (∀ t, t ∈ ts ↔ IsFirst (·.id) s.types t ∧ t.isComposite ∧ t.schema = sd.rawName) ∧
    List.Forall₂ (fun t c => c.rawName = t.name ∧
      language.TiesFields access c (t.attributes.map (·.name)) output) ts sd.composites
  relations : ∃ rs : List KindedRelation, rs.Pairwise KindedRelation.Before ∧
    (∀ r, r ∈ rs ↔ IsFirst (·.id) s.relations r ∧ r.schema = sd.rawName) ∧
    List.Forall₂ (fun r rd => rd.id = r.id ∧ ∃ cs, s.ListsColumns r.id cs ∧
      ∀ decl ∈ rd.decls, language.TiesFields access decl (cs.map (·.name)) output) rs sd.relations

/-- What holds of every schema. -/
def Declarations.Wired (ds : Declarations) (s : Snapshot) (language : Language) (access : Access)
    (output : String) : Prop :=
  ∀ sd ∈ ds.schemas, sd.Wired s language access output

theorem enums_wired {language : Language} (access : Access)
    (hsd : sd ∈ (language.dialect.build (.ofSnapshot s) o).declarations.schemas) :
    List.Forall₂ (fun t e => e.id = t.id ∧ e.Wired language access t.enums
        (language.render access (language.dialect.build (.ofSnapshot s) o).declarations))
      ((Index.ofSnapshot s).enums sd.rawName) sd.enums := by
  have declared := language.dialect.forall_mem_build (.ofSnapshot s) o
    (P := fun sd => List.Forall₂ (fun t e => e.Declares t)
      ((Index.ofSnapshot s).enums sd.rawName) sd.enums)
    (fun _ _ covers => covers.forall₂_enums _ _) sd hsd
  apply (forall₂_mem declared).imp
  rintro t e ⟨⟨-, he⟩, declares⟩
  refine ⟨declares.id, ?_⟩
  rw [← declares.labels]
  exact language.wired_enumeration access hsd he

theorem composites_wired {language : Language} (access : Access)
    (hsd : sd ∈ (language.dialect.build (.ofSnapshot s) o).declarations.schemas) :
    List.Forall₂ (fun t c => c.rawName = t.name ∧
        language.TiesFields access c (t.attributes.map (·.name))
          (language.render access (language.dialect.build (.ofSnapshot s) o).declarations))
      ((Index.ofSnapshot s).composites sd.rawName) sd.composites := by
  apply (forall₂_mem (attributes_build language.dialect s o sd hsd)).imp
  rintro t c ⟨⟨-, hc⟩, rawName, fields⟩
  have rawNames : c.fields.map (·.rawName) = t.attributes.map (·.name) :=
    map_eq_map_of_forall₂ (fields.imp fun _ _ h => h.1)
  refine ⟨rawName, ?_⟩
  rw [← rawNames]
  exact language.tiesFields access hsd (List.mem_append_left _ hc)

theorem relations_wired {language : Language} (access : Access)
    (hsd : sd ∈ (language.dialect.build (.ofSnapshot s) o).declarations.schemas) :
    List.Forall₂ (fun r rd => rd.id = r.id ∧ ∃ cs, s.ListsColumns r.id cs ∧
        ∀ decl ∈ rd.decls, language.TiesFields access decl (cs.map (·.name))
          (language.render access (language.dialect.build (.ofSnapshot s) o).declarations))
      ((Index.ofSnapshot s).relations sd.rawName) sd.relations := by
  apply (forall₂_mem (columns_build language.dialect s o sd hsd)).imp
  rintro r rd ⟨⟨hr, hrd⟩, id, decls⟩
  have present : r ∈ s.relations := (Index.mem_relations_iff.mp hr).1.mem
  refine ⟨id, _, Index.listsColumns present, fun decl hd => ?_⟩
  have rawNames : decl.fields.map (·.rawName) = ((Index.ofSnapshot s).columns r.id).map (·.name) :=
    map_eq_map_of_forall₂ ((decls decl hd).imp fun _ _ h => h.1)
  rw [← rawNames]
  exact language.tiesFields access hsd (List.mem_append_right _ (List.mem_flatMap_of_mem hrd hd))

end Wired

/-- Labels and raw names come back from the output as the catalog has them, by the rules that the
language has for its literals. -/
theorem generate_wired (s : Snapshot) (o : Options) :
    (declare s o).declarations.Wired s o.language o.access (generate s o).output := by
  intro sd hsd
  exact {
    enums := ⟨_, Index.enums_pairwise s sd.rawName, fun _ => Index.mem_enums_iff,
      enums_wired o.access hsd⟩
    composites := ⟨_, Index.composites_pairwise s sd.rawName, fun _ => Index.mem_composites_iff,
      composites_wired o.access hsd⟩
    relations := ⟨_, Index.relations_pairwise s sd.rawName, fun _ => Index.mem_relations_iff,
      relations_wired o.access hsd⟩ }

end CatalogTypes
