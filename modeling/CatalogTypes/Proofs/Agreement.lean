import CatalogTypes.Proofs.Fallbacks

/-!
# Languages agree on everything but spelling

Which entities are declared, which fields they have and what the types of these mean is settled by
the snapshot and the options; a language has no say in it. `Snapshot.columnMeaning` and
`Snapshot.attributeMeaning` give the meanings without a language. A build writes down just these
(`forall₂_columns_express`, `forall₂_attributes_express`), so the builds of two languages follow one
another entity by entity and field by field.
-/

namespace CatalogTypes

/-! ## Lists side by side -/

/-- The lists have one length, and the elements of each place are related. -/
inductive Aligned {α β γ : Type} (R : α → β → γ → Prop) : List α → List β → List γ → Prop
  | nil : Aligned R [] [] []
  | cons {a : α} {b : β} {c : γ} {as : List α} {bs : List β} {cs : List γ} (h : R a b c)
      (rest : Aligned R as bs cs) : Aligned R (a :: as) (b :: bs) (c :: cs)

section Aligned

variable {α β γ : Type} {as : List α} {bs : List β} {cs : List γ}

theorem Aligned.imp {R S : α → β → γ → Prop} (h : Aligned R as bs cs)
    (step : ∀ a b c, R a b c → S a b c) : Aligned S as bs cs := by
  induction h with
  | nil => exact .nil
  | cons h _ ih => exact .cons (step _ _ _ h) ih

/-- Two lists that follow a third one stand side by side with it. -/
theorem aligned_of_forall₂ {R : α → β → Prop} {S : α → γ → Prop} (h : List.Forall₂ R as bs)
    (h' : List.Forall₂ S as cs) : Aligned (fun a b c => R a b ∧ S a c) as bs cs := by
  induction h generalizing cs with
  | nil =>
    cases h'
    exact .nil
  | cons hab _ ih =>
    obtain _ | ⟨hac, rest⟩ := h'
    exact .cons ⟨hab, hac⟩ (ih rest)

theorem Aligned.forall₂ {R : α → β → γ → Prop} (h : Aligned R as bs cs) :
    List.Forall₂ (fun b c => ∃ a, R a b c) bs cs := by
  induction h with
  | nil => exact .nil
  | cons h _ ih => exact .cons ⟨_, h⟩ ih

/-- Lists with the same keys pair up by their keys. -/
theorem forall₂_of_map_eq {κ : Type} {f : β → κ} {g : γ → κ} (h : bs.map f = cs.map g) :
    List.Forall₂ (fun b c => (b ∈ bs ∧ c ∈ cs) ∧ f b = g c) bs cs := by
  have same : List.Forall₂ Eq (bs.map f) (cs.map g) := by
    rw [List.forall₂_eq_eq_eq]
    exact h
  rw [List.forall₂_map_left_iff, List.forall₂_map_right_iff] at same
  exact forall₂_mem same

end Aligned

/-! ## Meanings without a language -/

namespace Snapshot

variable (s : Snapshot) (o : Options)

/-- Whether an enumeration or composite with the id is declared. -/
def declares (id : ObjectId) : Bool :=
  s.keptTypes.any fun t => t.id == id && !t.isScalar && s.emits o t.schema

/-- What the type of a column of `r` denotes. -/
def columnMeaning (r : KindedRelation) (c : Column) : Resolved :=
  (Index.ofSnapshot s).resolve (s.declares o) (some r.schema) c.format

/-- What the type of an attribute of `t` denotes. -/
def attributeMeaning (t : TypeDef) (attr : Attribute) : Resolved :=
  (Index.ofSnapshot s).resolveAttribute (s.declares o) t attr

end Snapshot

/-- Which types a map of references has does not depend on the language. -/
theorem contains_emitted_eq (d : Dialect) (s : Snapshot) (o : Options) :
    (d.emitted (.ofSnapshot s) o).contains = s.declares o := by
  funext id
  rw [Bool.eq_iff_iff, Dialect.emitted, Dialect.references, Std.HashMap.contains_ofList,
    List.contains_iff_mem, ids_references_plan, List.mem_map]
  simp only [Index.mem_declaredTypes_iff, Snapshot.declares, List.any_eq_true,
    Snapshot.mem_keptTypes_iff, Bool.and_eq_true, beq_iff_eq, Bool.not_eq_true']
  constructor
  · rintro ⟨t, ⟨first, kind, emitted⟩, rfl⟩
    exact ⟨t, first, ⟨rfl, kind⟩, emitted⟩
  · rintro ⟨t, first, ⟨rfl, kind⟩, emitted⟩
    exact ⟨t, ⟨first, kind, emitted⟩, rfl⟩

section Sound

variable {s : Snapshot} {isEmitted : ObjectId → Bool}

/-- A meaning refers to kept types only, and to those that are emitted. -/
def Meaning.Sound (m : Meaning) (s : Snapshot) (isEmitted : ObjectId → Bool) : Prop :=
  ∀ t, m = .declared t → t ∈ s.keptTypes ∧ isEmitted t.id

theorem sound_reference {t : TypeDef} (kept : t ∈ s.keptTypes) :
    (Index.reference isEmitted t).Sound s isEmitted := by
  intro u h
  unfold Index.reference at h
  split at h
  · next emitted =>
    obtain rfl := Meaning.declared.inj h
    exact ⟨kept, emitted⟩
  · cases h

theorem sound_resolve (home : Option String) (format : String) :
    ((Index.ofSnapshot s).resolve isEmitted home format).meaning.Sound s isEmitted := by
  show ((Index.ofSnapshot s).meaning isEmitted home _).Sound s isEmitted
  unfold Index.meaning
  split
  · intro t h
    cases h
  · split
    · next t found =>
      apply sound_reference
      exact Index.mem_keptTypes_of_typeNamed? (Option.filter_eq_some_iff.mp found).1
    · intro t h
      cases h

theorem sound_resolveAttribute (t : TypeDef) (attr : Attribute) :
    ((Index.ofSnapshot s).resolveAttribute isEmitted t attr).meaning.Sound s isEmitted := by
  unfold Index.resolveAttribute
  split
  · next u found =>
    split
    · exact sound_resolve _ _
    · exact sound_reference (Index.type?_eq_some_iff.mp found).1
  · intro u h
    cases h

end Sound

/-! ## Fields that express meanings -/

/-- What stands for a meaning in a language: the type of the scalar, the reference to the type's own
declaration, or, where nothing is known, the type of all values. -/
inductive Meaning.Reads (d : Dialect) (ix : Index) (ds : Declarations) : Meaning → String → Prop
  | builtin {scalar : Scalar} : Reads d ix ds (.builtin scalar) (d.scalarType scalar)
  | declared {t : TypeDef} {text : String} (refers : Refers d ix ds t text) :
      Reads d ix ds (.declared t) text
  | unknown {w : Warning} : Reads d ix ds (.unknown w) d.anyType

/-- The type that has `name` in its innermost place. -/
def Resolved.around (v : Resolved) (nullable : Bool) (name : String) : TargetType :=
  if nullable then .nullable (.lists v.layers (.named name)) else .lists v.layers (.named name)

/-- The field has the raw name and the flag, and a type that expresses the resolved name in a
language. `R` says what stands for a meaning there. -/
structure Field.Expresses (f : Field) (R : Meaning → String → Prop) (rawName : String)
    (isOptional nullable : Bool) (v : Resolved) : Prop where
  rawName : f.rawName = rawName
  isOptional : f.isOptional = isOptional
  type : ∃ name, R v.meaning name ∧ f.type = v.around nullable name

theorem Resolved.typeOrNull_eq_around (v : Resolved) (d : Dialect)
    (reference? : ObjectId → Option String) (nullable : Bool) :
    v.typeOrNull d reference? nullable = v.around nullable (v.meaning.name d reference?) := by
  unfold around
  cases nullable with
  | true => rw [typeOrNull_true, type_eq, if_pos rfl]
  | false => exact type_eq d reference? v

/-- The name that a build has for a meaning stands for it. -/
theorem Meaning.Sound.reads (d : Dialect) {s : Snapshot} {o : Options} {m : Meaning}
    (sound : m.Sound s (s.declares o)) :
    m.Reads d (.ofSnapshot s) (d.build (.ofSnapshot s) o).declarations
      (m.name d ((d.emitted (.ofSnapshot s) o)[·]?)) := by
  cases m with
  | builtin scalar => exact .builtin
  | unknown w => exact .unknown
  | declared t =>
    obtain ⟨kept, declared⟩ := sound t rfl
    rw [← contains_emitted_eq d, Std.HashMap.contains_eq_isSome_getElem?,
      Option.isSome_iff_exists] at declared
    obtain ⟨text, found⟩ := declared
    rw [Meaning.name, found]
    exact .declared ((getElem?_emitted_eq_some_iff kept).mp found)

section Build

variable (d : Dialect) (s : Snapshot) (o : Options)

/-- What stands for a meaning in the declarations of a build. -/
def Dialect.reads (m : Meaning) (name : String) : Prop :=
  m.Reads d (.ofSnapshot s) (d.build (.ofSnapshot s) o).declarations name

/-- Each relation is declared for its operations, with fields that express its columns. -/
theorem forall₂_columns_express : ∀ sd ∈ (d.build (.ofSnapshot s) o).declarations.schemas,
    List.Forall₂ (fun r rd => (rd.id = r.id ∧ rd.rawName = r.name ∧ rd.kind = r.kind) ∧
      List.Forall₂ (fun operation decl => (decl.rawName = r.name ∧
          decl.origin = .relation r.kind operation) ∧
        List.Forall₂ (fun c f => f.Expresses (d.reads s o) c.name (operation.isOptional c)
          c.isNullable (s.columnMeaning o r c)) ((Index.ofSnapshot s).columns r.id) decl.fields)
        r.kind.operations rd.decls)
      ((Index.ofSnapshot s).relations sd.rawName) sd.relations := by
  refine d.forall_mem_build _ o fun p _ covers => covers.forall₂_relations d _ ?_
  intro r names operations
  refine ⟨⟨rfl, rfl, rfl⟩, ?_⟩
  rw [← operations, Dialect.declareRelation, List.forall₂_map_left_iff,
    List.forall₂_map_right_iff, List.forall₂_same]
  rintro ⟨operation, name⟩ -
  refine ⟨⟨rfl, rfl⟩, d.forall₂_relationFields _ r operation fun name c => ⟨rfl, rfl, ?_⟩⟩
  have meaning : Dialect.resolveColumn (.ofSnapshot s) (d.emitted (.ofSnapshot s) o) r c =
      s.columnMeaning o r c := by
    rw [Dialect.resolveColumn, contains_emitted_eq]
    rfl
  exact ⟨_, (sound_resolve _ _).reads d, by rw [meaning, Resolved.typeOrNull_eq_around]; rfl⟩

/-- Each composite is declared with fields that express its attributes. -/
theorem forall₂_attributes_express : ∀ sd ∈ (d.build (.ofSnapshot s) o).declarations.schemas,
    List.Forall₂ (fun t c => (c.rawName = t.name ∧ c.origin = .composite) ∧
      List.Forall₂ (fun attr f => f.Expresses (d.reads s o) attr.name false true
        (s.attributeMeaning o t attr)) t.attributes c.fields)
      ((Index.ofSnapshot s).composites sd.rawName) sd.composites := by
  refine d.forall_mem_build _ o fun p _ covers => covers.forall₂_composites d _ ?_
  intro t name
  refine ⟨⟨rfl, rfl⟩, d.forall₂_compositeFields _ t fun name attr => ⟨rfl, rfl, ?_⟩⟩
  have meaning : (Index.ofSnapshot s).resolveAttribute (d.emitted (.ofSnapshot s) o).contains t
      attr = s.attributeMeaning o t attr := by
    rw [contains_emitted_eq]
    rfl
  exact ⟨_, (sound_resolveAttribute _ _).reads d,
    by rw [meaning, Resolved.typeOrNull_eq_around]; rfl⟩

/-- The warnings about fields are those of the meanings. -/
theorem warnings_build_eq :
    (d.build (.ofSnapshot s) o).warnings =
      ((Index.ofSnapshot s).emittedNames o).flatMap fun schema =>
        (((Index.ofSnapshot s).composites schema).flatMap fun t =>
          t.attributes.filterMap fun attr => (s.attributeMeaning o t attr).warning?) ++
        ((Index.ofSnapshot s).relations schema).flatMap fun r =>
          ((Index.ofSnapshot s).columns r.id).filterMap fun c =>
            (s.columnMeaning o r c).warning? := by
  rw [d.warnings_build]
  simp only [Dialect.resolveColumn, contains_emitted_eq]
  rfl

end Build

/-! ## Two languages -/

/-- The types have one shape, with related names in the innermost places. -/
inductive TargetType.Alike (R : String → String → Prop) : TargetType → TargetType → Prop
  | named {name name' : String} (h : R name name') : Alike R (.named name) (.named name')
  | list {t t' : TargetType} (h : Alike R t t') : Alike R (.list t) (.list t')
  | nullable {t t' : TargetType} (h : Alike R t t') : Alike R (.nullable t) (.nullable t')

/-- The enumerations stand for one type, with the same labels in the same order. -/
structure EnumDecl.Agree (e e' : EnumDecl) : Prop where
  id : e.id = e'.id
  rawName : e.rawName = e'.rawName
  values : e.variants.map (·.value) = e'.variants.map (·.value)

section Agree

-- `R` says what stands for a meaning in the one and in the other language.
variable (R : Meaning → String → String → Prop)

/-- The fields have one raw name, one flag and types of one shape, and the names in the types stand
for the same meaning. -/
structure Field.Agree (m : Meaning) (f f' : Field) : Prop where
  rawName : f.rawName = f'.rawName
  isOptional : f.isOptional = f'.isOptional
  type : TargetType.Alike (R m) f.type f'.type

/-- The records stand for one composite or one operation of one relation. -/
structure RecordDecl.Agree {α : Type} (xs : List α) (meaning : α → Meaning) (r r' : RecordDecl) :
    Prop where
  rawName : r.rawName = r'.rawName
  origin : r.origin = r'.origin
  fields : Aligned (fun x f f' => Field.Agree R (meaning x) f f') xs r.fields r'.fields

variable (s : Snapshot) (o : Options)

/-- The declarations are those of one relation. -/
structure RelationDecls.Agree (r : KindedRelation) (rd rd' : RelationDecls) : Prop where
  id : rd.id = r.id ∧ rd'.id = r.id
  rawName : rd.rawName = rd'.rawName
  kind : rd.kind = rd'.kind
  decls : List.Forall₂ (RecordDecl.Agree R ((Index.ofSnapshot s).columns r.id)
    fun c => (s.columnMeaning o r c).meaning) rd.decls rd'.decls

/-- The schemas have the same declarations, one by one and in the same order. -/
structure SchemaDecls.Agree (sd sd' : SchemaDecls) : Prop where
  rawName : sd.rawName = sd'.rawName
  enums : List.Forall₂ EnumDecl.Agree sd.enums sd'.enums
  composites : Aligned (fun t c c' => RecordDecl.Agree R t.attributes
      (fun attr => (s.attributeMeaning o t attr).meaning) c c')
    ((Index.ofSnapshot s).composites sd.rawName) sd.composites sd'.composites
  relations : Aligned (RelationDecls.Agree R s o)
    ((Index.ofSnapshot s).relations sd.rawName) sd.relations sd'.relations

end Agree

section Agreement

theorem Resolved.alike_around {R : String → String → Prop} (v : Resolved) (nullable : Bool)
    {name name' : String} (h : R name name') :
    TargetType.Alike R (v.around nullable name) (v.around nullable name') := by
  have lists : TargetType.Alike R (.lists v.layers (.named name))
      (.lists v.layers (.named name')) := by
    induction v.layers with
    | zero => exact .named h
    | succ n ih => exact .list ih
  unfold around
  split
  · exact .nullable lists
  · exact lists

variable {P Q : Meaning → String → Prop}

/-- Fields that express one meaning agree. -/
theorem Field.Expresses.agree {f f' : Field} {rawName : String} {isOptional nullable : Bool}
    {v : Resolved} (h : f.Expresses P rawName isOptional nullable v)
    (h' : f'.Expresses Q rawName isOptional nullable v) :
    Field.Agree (fun m name name' => P m name ∧ Q m name') v.meaning f f' where
  rawName := h.rawName.trans h'.rawName.symm
  isOptional := h.isOptional.trans h'.isOptional.symm
  type := by
    obtain ⟨name, reads, type⟩ := h.type
    obtain ⟨name', reads', type'⟩ := h'.type
    rw [type, type']
    exact v.alike_around nullable ⟨reads, reads'⟩

variable (d d' : Dialect) (s : Snapshot) (o : Options)

/-- What stands for a meaning in the builds of two languages. -/
def readsBoth (m : Meaning) (name name' : String) : Prop :=
  d.reads s o m name ∧ d'.reads s o m name'

variable {sd sd' : SchemaDecls} (hsd : sd ∈ (d.build (.ofSnapshot s) o).declarations.schemas)
  (hsd' : sd' ∈ (d'.build (.ofSnapshot s) o).declarations.schemas)
  (name : sd.rawName = sd'.rawName)

include hsd hsd' name

theorem enums_agree : List.Forall₂ EnumDecl.Agree sd.enums sd'.enums := by
  have declares : ∀ (d : Dialect), ∀ sd ∈ (d.build (.ofSnapshot s) o).declarations.schemas,
      List.Forall₂ (fun t e => e.Declares t) ((Index.ofSnapshot s).enums sd.rawName) sd.enums :=
    fun d => d.forall_mem_build _ o fun _ _ covers => covers.forall₂_enums d _
  have both := aligned_of_forall₂ (declares d sd hsd) (name ▸ declares d' sd' hsd')
  apply both.forall₂.imp
  rintro e e' ⟨t, h, h'⟩
  exact ⟨h.id.trans h'.id.symm, h.rawName.trans h'.rawName.symm, h.labels.trans h'.labels.symm⟩

theorem composites_agree : Aligned (fun t c c' => RecordDecl.Agree (readsBoth d d' s o)
      t.attributes (fun attr => (s.attributeMeaning o t attr).meaning) c c')
    ((Index.ofSnapshot s).composites sd.rawName) sd.composites sd'.composites := by
  have both := aligned_of_forall₂ (forall₂_attributes_express d s o sd hsd)
    (name ▸ forall₂_attributes_express d' s o sd' hsd')
  apply both.imp
  rintro t c c' ⟨⟨⟨rawName, origin⟩, fields⟩, ⟨rawName', origin'⟩, fields'⟩
  refine ⟨rawName.trans rawName'.symm, origin.trans origin'.symm, ?_⟩
  exact (aligned_of_forall₂ fields fields').imp fun attr f f' ⟨h, h'⟩ => h.agree h'

theorem relations_agree : Aligned (RelationDecls.Agree (readsBoth d d' s o) s o)
    ((Index.ofSnapshot s).relations sd.rawName) sd.relations sd'.relations := by
  have both := aligned_of_forall₂ (forall₂_columns_express d s o sd hsd)
    (name ▸ forall₂_columns_express d' s o sd' hsd')
  apply both.imp
  rintro r rd rd' ⟨⟨⟨id, rawName, kind⟩, decls⟩, ⟨id', rawName', kind'⟩, decls'⟩
  refine ⟨⟨id, id'⟩, rawName.trans rawName'.symm, kind.trans kind'.symm, ?_⟩
  apply (aligned_of_forall₂ decls decls').forall₂.imp
  rintro decl decl' ⟨operation, ⟨⟨rawName, origin⟩, fields⟩, ⟨rawName', origin'⟩, fields'⟩
  refine ⟨rawName.trans rawName'.symm, origin.trans origin'.symm, ?_⟩
  exact (aligned_of_forall₂ fields fields').imp fun c f f' ⟨h, h'⟩ => h.agree h'

end Agreement

/-- Two languages declare the same entities of a snapshot, with the same fields in the same order,
whose types have the same shapes and mean the same; and they report the same warnings. -/
theorem generate_agree (s : Snapshot) (o : Options) (l l' : Language) :
    List.Forall₂ (SchemaDecls.Agree (readsBoth l.dialect l'.dialect s o) s o)
        (declare s { o with language := l }).declarations.schemas
        (declare s { o with language := l' }).declarations.schemas ∧
      (generate s { o with language := l }).warnings =
        (generate s { o with language := l' }).warnings := by
  constructor
  · have names : ∀ d : Dialect, (d.build (.ofSnapshot s) o).declarations.schemas.map (·.rawName) =
        (Index.ofSnapshot s).emittedNames o := fun d => d.rawName_schemas_build _ o
    apply (forall₂_of_map_eq ((names l.dialect).trans (names l'.dialect).symm)).imp
    rintro sd sd' ⟨⟨hsd, hsd'⟩, name⟩
    exact ⟨name, enums_agree _ _ s o hsd hsd' name, composites_agree _ _ s o hsd hsd' name,
      relations_agree _ _ s o hsd hsd' name⟩
  · have built : (declare s { o with language := l }).warnings =
        (declare s { o with language := l' }).warnings := by
      show (l.dialect.build (.ofSnapshot s) o).warnings =
        (l'.dialect.build (.ofSnapshot s) o).warnings
      rw [warnings_build_eq, warnings_build_eq]
    rw [generate, generate, built]

end CatalogTypes
