import CatalogTypes.Proofs.Nullability
import CatalogTypes.Proofs.PlainTexts

/-!
# No text breaks a line

Raw names and labels stand in keys, references, tags, aliases and literals. Text by text, what a
language writes has no line feed, whatever the snapshot is made of (`Language.every_source`).
-/

namespace CatalogTypes

open Text Layout

/-! ## Go -/

theorem Go.every_source {ds : Declarations} (h : ∀ s ∈ ds.schemas, s.Lack dialect '\n') :
    Every (Lacks '\n') (source ds) := by
  have pads : ∀ width text, Lacks '\n' text → Lacks '\n' (pad width text) :=
    fun width text => lacks_pad (by decide) width
  refine .line (by decide) (every_flatMap fun s hs => ?_)
  obtain ⟨named, types⟩ := h s hs
  refine Every.append (every_flatMap fun e he => ?_) (every_flatMap fun r hr => ?_)
  · obtain ⟨name, variants⟩ := named.enums e he
    have header : Lacks '\n' ("type " ++ e.name ++ " string") := by
      rw [lacks_append, lacks_append]
      exact ⟨⟨by decide, name⟩, by decide⟩
    refine .blank (.line header ?_)
    split
    · exact .nil
    · refine .blank (.block (by decide) (by decide) (every_map fun v hv => .line ?_ .nil) .nil)
      simp only [lacks_append]
      exact ⟨⟨⟨⟨pads _ _ (variants v hv), by decide⟩, name⟩, by decide⟩,
        lacks_quote (by decide) v.value⟩
  · obtain ⟨name, fields⟩ := named.records r hr
    rw [record_eq]
    refine .blank (.block ?_ (by decide) (every_lines fun text ht => ?_) .nil)
    · simp only [lacks_append]
      exact ⟨⟨⟨by decide, name⟩, by decide⟩, by decide⟩
    · obtain ⟨f, hf, rfl⟩ := List.mem_map.mp ht
      simp only [fieldText, lacks_append]
      exact ⟨⟨⟨⟨pads _ _ (fields f hf), by decide⟩, pads _ _ (types r hr f hf).2⟩, by decide⟩,
        lacks_tag _ _⟩

/-! ## Python -/

theorem Python.lacks_fieldAlias (f : Field) : Lacks '\n' (fieldAlias f) := by
  simp only [fieldAlias, lacks_append]
  exact ⟨⟨by decide, lacks_quote (by decide) f.rawName⟩, by decide⟩

theorem Python.every_classItems {name base : String} {texts : List String}
    (hn : Lacks '\n' name) (hb : Lacks '\n' base) (h : ∀ text ∈ texts, Lacks '\n' text) :
    Every (Lacks '\n') (classItems name base texts) := by
  have header : Lacks '\n' ("class " ++ name ++ "(" ++ base ++ "):") := by
    simp only [lacks_append]
    exact ⟨⟨⟨⟨by decide, hn⟩, by decide⟩, hb⟩, by decide⟩
  refine .blank (.blank (.line header (.indent ((every_lines ?_).append (.dedent .nil)))))
  split
  · simp only [List.forall_mem_cons]
    exact ⟨by decide, by simp⟩
  · exact h

theorem Python.lacks_payloadType {f : Field} (type : Lacks '\n' (typeText f.type)) :
    Lacks '\n' (payloadType f) := by
  have annotated : Lacks '\n' ("Annotated[" ++ typeText f.type ++ ", " ++ fieldAlias f ++ "]") := by
    simp only [lacks_append]
    exact ⟨⟨⟨⟨by decide, type⟩, by decide⟩, lacks_fieldAlias f⟩, by decide⟩
  unfold payloadType
  split
  · rw [lacks_append, lacks_append]
    exact ⟨⟨by decide, annotated⟩, by decide⟩
  · exact annotated

theorem Python.every_model {s : SchemaDecls} (h : s.Lack dialect '\n') {r : RecordDecl}
    (hr : r ∈ s.records) : Every (Lacks '\n') (model r) := by
  obtain ⟨name, fields⟩ := h.named.records r hr
  refine every_classItems name (by decide) fun text ht => ?_
  obtain ⟨f, hf, rfl⟩ := List.mem_map.mp ht
  simp only [lacks_append]
  exact ⟨⟨⟨⟨fields f hf, by decide⟩, (h.types r hr f hf).1⟩, by decide⟩, lacks_fieldAlias f⟩

theorem Python.every_payload {s : SchemaDecls} (h : s.Lack dialect '\n') {r : RecordDecl}
    (hr : r ∈ s.records) : Every (Lacks '\n') (payload r) := by
  obtain ⟨name, fields⟩ := h.named.records r hr
  refine every_classItems name (by decide) fun text ht => ?_
  obtain ⟨f, hf, rfl⟩ := List.mem_map.mp ht
  simp only [lacks_append]
  exact ⟨⟨fields f hf, by decide⟩, lacks_payloadType (h.types r hr f hf).1⟩

theorem Python.every_source {ds : Declarations} (h : ∀ s ∈ ds.schemas, s.Lack dialect '\n') :
    Every (Lacks '\n') (source ds) := by
  have head : Every (Lacks '\n') header := by
    refine .line (by decide) (.blank ?_)
    refine .line (by decide) (.line (by decide) (.line (by decide) (.line (by decide) (.blank ?_))))
    exact .line (by decide) (.line (by decide) .nil)
  refine head.append (every_flatMap fun s hs => ?_)
  refine ((every_flatMap fun e he => ?_).append (every_flatMap fun r hr => ?_)).append
    (every_flatMap fun r hr => ?_)
  · obtain ⟨name, variants⟩ := (h s hs).named.enums e he
    refine every_classItems name (by decide) fun text ht => ?_
    obtain ⟨v, hv, rfl⟩ := List.mem_map.mp ht
    simp only [lacks_append]
    exact ⟨⟨variants v hv, by decide⟩, lacks_quote (by decide) v.value⟩
  · exact every_model (h s hs) (List.mem_append_left _ hr)
  · unfold relationRecord
    split
    · exact every_payload (h s hs) (List.mem_append_right _ hr)
    · exact every_model (h s hs) (List.mem_append_right _ hr)

/-! ## TypeScript -/

theorem TypeScript.lacks_union (e : EnumDecl) : Lacks '\n' (union e) := by
  unfold union
  split
  · decide
  · refine lacks_intercalate (by decide) fun text ht => ?_
    obtain ⟨v, -, rfl⟩ := List.mem_map.mp ht
    exact lacks_quote (by decide) v.value

theorem TypeScript.every_object {key : String} {fields : List Field} (hk : Lacks '\n' key)
    (h : ∀ f ∈ fields, Lacks '\n' f.name ∧ Lacks '\n' (typeText f.type)) (omittable : Bool) :
    Every (Lacks '\n') [object key fields omittable] := by
  unfold object
  split
  · refine .line ?_ .nil
    rw [lacks_append]
    exact ⟨hk, by decide⟩
  · refine .block ?_ (by decide) (every_map fun f hf => .line ?_ .nil) .nil
    · rw [lacks_append, lacks_append]
      exact ⟨⟨hk, by decide⟩, by decide⟩
    · simp only [lacks_append]
      refine ⟨⟨⟨(h f hf).1, ?_⟩, by decide⟩, (h f hf).2⟩
      split
      all_goals decide

theorem TypeScript.every_group {key : String} {entries : List Item} (hk : Lacks '\n' key)
    (h : Every (Lacks '\n') entries) : Every (Lacks '\n') [group key entries] := by
  refine .block ?_ (by decide) ?_ .nil
  · rw [lacks_append, lacks_append]
    exact ⟨⟨hk, by decide⟩, by decide⟩
  · split
    · exact .line (by decide) .nil
    · exact h

theorem TypeScript.every_schema {s : SchemaDecls} (h : s.Lack dialect '\n') :
    Every (Lacks '\n') [schema s] := by
  have fields : ∀ r ∈ s.records, ∀ f ∈ r.fields,
      Lacks '\n' f.name ∧ Lacks '\n' (typeText f.type) :=
    fun r hr f hf => ⟨(h.named.records r hr).2 f hf, (h.types r hr f hf).1⟩
  have relations : ∀ rs : List RelationDecls, (∀ rd ∈ rs, rd ∈ s.relations) →
      Every (Lacks '\n') (rs.map relation) := by
    intro rs sub
    refine every_map fun rd hrd => .block ?_ (by decide) (every_map fun r hr => ?_) .nil
    · have key := (isKey_escape rd.rawName).lacks (c := '\n') (by decide) (by decide)
      rw [lacks_append, lacks_append]
      exact ⟨⟨key, by decide⟩, by decide⟩
    · refine every_object ?_ (fields r ?_) _
      · unfold recordKey
        split
        all_goals decide
      · exact List.mem_append_right _ (List.mem_flatMap_of_mem (sub rd hrd) hr)
  have enums : Every (Lacks '\n') (s.enums.map fun e => .line (e.name ++ ": " ++ union e)) := by
    refine every_map fun e he => .line ?_ .nil
    rw [lacks_append, lacks_append]
    exact ⟨⟨(h.named.enums e he).1, by decide⟩, lacks_union e⟩
  have composites : Every (Lacks '\n') (s.composites.map fun c => object c.name c.fields false) :=
    every_map fun r hr => every_object (h.named.records r (List.mem_append_left _ hr)).1
      (fields r (List.mem_append_left _ hr)) false
  have tables := relations (s.relations.filter isTableLike) fun rd hrd => (List.mem_filter.mp hrd).1
  have views := relations (s.relations.filter (!isTableLike ·))
    fun rd hrd => (List.mem_filter.mp hrd).1
  refine .block ?_ (by decide) ?_ .nil
  · rw [lacks_append, lacks_append]
    exact ⟨⟨h.named.name, by decide⟩, by decide⟩
  · exact (every_group (by decide) enums).append ((every_group (by decide) composites).append
      ((every_group (by decide) tables).append (every_group (by decide) views)))

theorem TypeScript.every_source {ds : Declarations} (h : ∀ s ∈ ds.schemas, s.Lack dialect '\n') :
    Every (Lacks '\n') (source ds) := by
  have head : Every (Lacks '\n') header := by
    refine .line (by decide) (.indent ?_)
    refine .line (by decide) (.line (by decide) (.line (by decide) (.line (by decide) ?_)))
    exact .line (by decide) (.line (by decide) (.dedent (.blank .nil)))
  refine head.append ?_
  split
  · exact .line (by decide) .nil
  · exact .block (by decide) (by decide) (every_map fun s hs => every_schema (h s hs)) .nil

/-! ## Swift -/

theorem lacks_braces {c : Char} {header : String} (h : Lacks c header) (hc : Lacks c " \x7b") :
    Lacks c (header ++ " \x7b") :=
  lacks_append.mpr ⟨h, hc⟩

namespace Swift

/-- The character is neither in the names nor in the types of the record. -/
structure Lack (r : RecordDecl) (c : Char) : Prop where
  name : Lacks c r.name
  fields : ∀ f ∈ r.fields, Lacks c f.name
  members : ∀ f ∈ r.fields, Lacks c (member f)

section Breaks

variable {c : Char} (hc : Breaks c)
include hc

theorem lack_of_mem_records {s : SchemaDecls} (h : s.Lack dialect c) {r : RecordDecl}
    (hr : r ∈ s.records) : Lack r c where
  name := (h.named.records r hr).1
  fields := (h.named.records r hr).2
  members := by
    intro f hf
    rw [member, lacks_append, lacks_append]
    exact ⟨⟨(h.named.records r hr).2 f hf, hc.lacks (by decide)⟩, (h.types r hr f hf).2⟩

theorem lacks_keyword (access : Access) : Lacks c access.keyword := by
  refine hc.lacks ?_
  cases access
  all_goals decide

/-- The line that opens a record. -/
theorem lacks_header {access : String} (ha : Lacks c access) (isClass : Bool) {r : RecordDecl}
    (h : Lack r c) :
    Lacks c (access ++ keyword isClass ++ r.name ++ ": " ++ conformances ++ identity r) := by
  have keyword : Lacks c (keyword isClass) := by
    refine hc.lacks ?_
    cases isClass
    all_goals decide
  have identity : Lacks c (identity r) := by
    refine hc.lacks ?_
    unfold identity
    split
    all_goals decide
  have fixed : Lacks c conformances := hc.lacks (by decide)
  simp only [lacks_append]
  exact ⟨⟨⟨⟨⟨ha, keyword⟩, h.name⟩, hc.lacks (by decide)⟩, fixed⟩, identity⟩

theorem lacks_fieldText {access : String} (ha : Lacks c access) {r : RecordDecl} (h : Lack r c) :
    ∀ text ∈ r.fields.map (fieldText access), Lacks c text := by
  intro text ht
  obtain ⟨f, hf, rfl⟩ := List.mem_map.mp ht
  rw [fieldText, lacks_append, lacks_append]
  exact ⟨⟨ha, hc.lacks (by decide)⟩, h.members f hf⟩

theorem every_classMembers {access : String} (ha : Lacks c access) {r : RecordDecl}
    (h : Lack r c) : Every (Lacks c) (classMembers access r) := by
  have brace : Lacks c " \x7b" := hc.lacks (by decide)
  have close : Lacks c "\x7d" := hc.lacks (by decide)
  have initializer : Lacks c
      (access ++ " init(" ++ ", ".intercalate (r.fields.map member) ++ ")") := by
    rw [lacks_append, lacks_append, lacks_append]
    refine ⟨⟨⟨ha, hc.lacks (by decide)⟩, lacks_intercalate (hc.lacks (by decide)) ?_⟩,
      hc.lacks (by decide)⟩
    intro text ht
    obtain ⟨f, hf, rfl⟩ := List.mem_map.mp ht
    exact h.members f hf
  have equality : Lacks c
      (access ++ " static func == (lhs: " ++ r.name ++ ", rhs: " ++ r.name ++ ") -> Bool") := by
    simp only [lacks_append]
    exact ⟨⟨⟨⟨⟨ha, hc.lacks (by decide)⟩, h.name⟩, hc.lacks (by decide)⟩, h.name⟩,
      hc.lacks (by decide)⟩
  have comparison : Lacks c (
      if r.fields.isEmpty then "true"
      else " && ".intercalate
        (r.fields.map fun f => "lhs." ++ f.name ++ " == rhs." ++ f.name)) := by
    split
    · exact hc.lacks (by decide)
    · refine lacks_intercalate (hc.lacks (by decide)) ?_
      intro text ht
      obtain ⟨f, hf, rfl⟩ := List.mem_map.mp ht
      simp only [lacks_append]
      exact ⟨⟨⟨hc.lacks (by decide), h.fields f hf⟩, hc.lacks (by decide)⟩, h.fields f hf⟩
  have hash : Lacks c (access ++ " func hash(into hasher: inout Hasher)") :=
    lacks_append.mpr ⟨ha, hc.lacks (by decide)⟩
  refine .blank (.block (lacks_braces initializer brace) close (every_map fun f hf => ?_)
    (.blank (.block (lacks_braces equality brace) close (.line comparison .nil)
      (.blank (.block (lacks_braces hash brace) close (every_map fun f hf => ?_) .nil)))))
  · refine .line ?_ .nil
    simp only [lacks_append]
    exact ⟨⟨⟨hc.lacks (by decide), h.fields f hf⟩, hc.lacks (by decide)⟩, h.fields f hf⟩
  · refine .line ?_ .nil
    rw [lacks_append, lacks_append]
    exact ⟨⟨hc.lacks (by decide), h.fields f hf⟩, hc.lacks (by decide)⟩

end Breaks

theorem every_enumeration {access : String} (ha : Lacks '\n' access) {e : EnumDecl}
    (name : Lacks '\n' e.name) (variants : ∀ v ∈ e.variants, Lacks '\n' v.name) :
    Every (Lacks '\n') [enumeration access e] := by
  refine .block (lacks_braces ?_ (by decide)) (by decide) (every_map fun v hv => .line ?_ .nil) .nil
  · simp only [lacks_append]
    exact ⟨⟨⟨⟨ha, by decide⟩, name⟩, by decide⟩, by decide⟩
  · simp only [lacks_append]
    exact ⟨⟨⟨by decide, variants v hv⟩, by decide⟩, lacks_literal (by decide) v.value⟩

theorem every_codingKeys {access : String} (ha : Lacks '\n' access) {r : RecordDecl}
    (h : Lack r '\n') : Every (Lacks '\n') (codingKeys access r) := by
  unfold codingKeys
  split
  · exact .nil
  · refine .blank (.block (lacks_braces ?_ (by decide)) (by decide)
      (every_map fun f hf => .line ?_ .nil) .nil)
    · exact lacks_append.mpr ⟨ha, by decide⟩
    · simp only [lacks_append]
      exact ⟨⟨⟨by decide, h.fields f hf⟩, by decide⟩, lacks_literal (by decide) f.rawName⟩

theorem every_record {access : String} (ha : Lacks '\n' access) (isClass : Bool) {r : RecordDecl}
    (h : Lack r '\n') : Every (Lacks '\n') [record access isClass r] := by
  rw [record_eq]
  refine .block (lacks_braces (lacks_header (.inl rfl) ha isClass h) (by decide)) (by decide)
    (Every.append ?_ (Every.append ?_ ?_)) .nil
  · exact every_lines (lacks_fieldText (.inl rfl) ha h)
  · split
    · exact every_classMembers (.inl rfl) ha h
    · exact .nil
  · exact every_codingKeys ha h

theorem every_schema {access : String} (ha : Lacks '\n' access) (cyclic : Std.HashSet String)
    {s : SchemaDecls} (h : s.Lack dialect '\n') :
    Every (Lacks '\n') [schema access cyclic s] := by
  have header : Lacks '\n' (access ++ " enum " ++ s.name) := by
    rw [lacks_append, lacks_append]
    exact ⟨⟨ha, by decide⟩, h.named.name⟩
  unfold schema
  split
  · exact .line (lacks_append.mpr ⟨header, by decide⟩) .nil
  · refine .block (lacks_braces header (by decide)) (by decide)
      (every_between (.blank .nil) fun piece hp => ?_) .nil
    rcases List.mem_append.mp hp with hp | hp
    · obtain ⟨e, he, rfl⟩ := List.mem_map.mp hp
      exact every_enumeration ha (h.named.enums e he).1 (h.named.enums e he).2
    · obtain ⟨r, hr, rfl⟩ := List.mem_map.mp hp
      exact every_record ha _ (lack_of_mem_records (.inl rfl) h hr)

theorem every_source (access : Access) {ds : Declarations}
    (h : ∀ s ∈ ds.schemas, s.Lack dialect '\n') : Every (Lacks '\n') (source access ds) := by
  refine .line (by decide) (.line (by decide) (every_flatMap fun s hs => .blank ?_))
  exact every_schema (lacks_keyword (.inl rfl) access) _ (h s hs)

end Swift

/-! ## All languages -/

namespace Language

/-- The items of which the text is made. -/
def source (language : Language) (access : Access) (ds : Declarations) : List Item :=
  match language with
  | typescript => TypeScript.source ds
  | go => Go.source ds
  | swift => Swift.source access ds
  | python => Python.source ds

theorem render_eq (language : Language) (access : Access) (ds : Declarations) :
    language.render access ds = Layout.text language.unit (language.source access ds) := by
  cases language
  all_goals rfl

/-- Whatever the names and labels are, no text of the declarations has a line feed. -/
theorem every_source (language : Language) (access : Access) (s : Snapshot) (o : Options) :
    Every (Lacks '\n')
      (language.source access (language.dialect.build (.ofSnapshot s) o).declarations) := by
  have lack := language.lack_build s o
  cases language with
  | typescript => exact TypeScript.every_source lack
  | go => exact Go.every_source lack
  | swift => exact Swift.every_source access lack
  | python => exact Python.every_source lack

theorem lacks_unit (language : Language) : Lacks '\n' language.unit := by
  cases language
  all_goals decide

end Language

end CatalogTypes
