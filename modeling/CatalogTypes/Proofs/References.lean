import CatalogTypes.Proofs.GivenNames
import CatalogTypes.Proofs.Literals

/-!
# References tell declarations apart

Go and Python refer to a declaration by its name, Swift by the names of its schema and itself with
a dot between, and TypeScript by a path of quoted raw names. Each of them can be taken apart again:
generated names hold no dot, and a quoted name ends at its closing quote. What a language writes
around a reference for lists and null cannot be mistaken for a part of it either
(`Language.reference_of_typeText`).
-/

namespace CatalogTypes

open Text

/-! ## Targets -/

/-- A declaration that fields can refer to. -/
structure Target where
  kind : DeclKind
  path : DeclPath

namespace Target

def reference (d : Dialect) (t : Target) : String := d.reference t.kind t.path

/-- The text is that of a type made from the reference to `t`, by lists and null. -/
def WrittenAs (d : Dialect) (t : Target) (text : String) : Prop :=
  ∃ type : TargetType, type.base = t.reference d ∧ d.typeText type = text

/-- How far references tell declarations apart. In TypeScript they are paths of raw names, and two
types of a catalog can share theirs. -/
def Same : Language → Target → Target → Prop
  | .typescript, t, t' =>
    t.kind = t'.kind ∧ t.path.schemaRawName = t'.path.schemaRawName ∧
      t.path.rawName = t'.path.rawName
  | _, t, t' => t = t'

end Target

namespace SchemaDecls

def path (s : SchemaDecls) (rawName name : String) : DeclPath := ⟨s.rawName, s.name, rawName, name⟩

/-- The enumerations, then the composites. -/
def targets (s : SchemaDecls) : List Target :=
  s.enums.map (fun e => ⟨.enumeration, s.path e.rawName e.name⟩) ++
    s.composites.map fun c => ⟨.composite, s.path c.rawName c.name⟩

theorem mem_targets_iff {s : SchemaDecls} {t : Target} :
    t ∈ s.targets ↔ (∃ e ∈ s.enums, t = ⟨.enumeration, s.path e.rawName e.name⟩) ∨
      ∃ c ∈ s.composites, t = ⟨.composite, s.path c.rawName c.name⟩ := by
  simp only [targets, List.mem_append, List.mem_map, eq_comm]

theorem schemaName_of_mem_targets {s : SchemaDecls} {t : Target} (h : t ∈ s.targets) :
    t.path.schemaName = s.name := by
  obtain ⟨e, -, rfl⟩ | ⟨c, -, rfl⟩ := mem_targets_iff.mp h
  · rfl
  · rfl

theorem name_targets_sublist (s : SchemaDecls) :
    (s.targets.map (·.path.name)).Sublist s.typeNames := by
  have names : s.targets.map (·.path.name) =
      s.enums.map (·.name) ++ s.composites.map (·.name) := by
    simp [targets, path, Function.comp_def]
  rw [names, typeNames, records, List.map_append]
  exact (List.sublist_append_left _ _).append_left _

theorem Named.target {s : SchemaDecls} {P : String → Prop} (h : s.Named P) {t : Target}
    (ht : t ∈ s.targets) : P t.path.schemaName ∧ P t.path.name := by
  obtain ⟨e, he, rfl⟩ | ⟨c, hc, rfl⟩ := mem_targets_iff.mp ht
  · exact ⟨h.name, (h.enums e he).1⟩
  · exact ⟨h.name, (h.records c (List.mem_append_left _ hc)).1⟩

end SchemaDecls

def Declarations.targets (ds : Declarations) : List Target := ds.schemas.flatMap (·.targets)

/-- Different declarations have different references, and types made from the references to
different declarations have different texts. -/
structure Declarations.ReferencesDiffer (ds : Declarations) (language : Language) : Prop where
  distinct : language ≠ .typescript → (ds.targets.map (·.reference language.dialect)).Nodup
  references : ∀ t ∈ ds.targets, ∀ t' ∈ ds.targets,
    t.reference language.dialect = t'.reference language.dialect → t.Same language t'
  texts : ∀ t ∈ ds.targets, ∀ t' ∈ ds.targets, ∀ text,
    t.WrittenAs language.dialect text → t'.WrittenAs language.dialect text → t.Same language t'

/-! ## Names of targets -/

theorem Language.isShown_targets {language : Language} (h : language ≠ .typescript) (ix : Index)
    (o : Options) : ∀ t ∈ (language.dialect.build ix o).declarations.targets,
      IsShown t.path.schemaName ∧ IsShown t.path.name := by
  have shown : ∀ name, IsClean name → IsShown name := fun name clean c hc => .inl (clean c hc)
  have named : ∀ s ∈ (language.dialect.build ix o).declarations.schemas, s.Named IsShown := by
    cases language with
    | typescript => exact absurd rfl h
    | go => exact fun s hs => (Go.ensures.named ix o s hs).imp shown
    | swift => exact Swift.ensures.named ix o
    | python => exact fun s hs => (Python.ensures.named ix o s hs).imp shown
  intro t ht
  obtain ⟨s, hs, ht⟩ := List.mem_flatMap.mp ht
  exact (named s hs).target ht

/-! ## Names in types -/

/-- What a type of a field is made from: the type of a scalar, the type of every value, or the
reference to one of the declarations. -/
def Declarations.Offers (ds : Declarations) (d : Dialect) (name : String) : Prop :=
  (∃ scalar, name = d.scalarType scalar) ∨ name = d.anyType ∨
    ∃ t ∈ ds.targets, name = t.reference d

theorem Declarations.Offers.elim {ds : Declarations} {d : Dialect} {P : String → Prop}
    (scalar : ∀ scalar, P (d.scalarType scalar)) (any : P d.anyType)
    (reference : ∀ t ∈ ds.targets, P (t.reference d)) {name : String} (h : ds.Offers d name) :
    P name := by
  rcases h with ⟨s, rfl⟩ | rfl | ⟨t, ht, rfl⟩
  · exact scalar s
  · exact any
  · exact reference t ht

/-- What fields refer to a type by is the reference to a declaration in its schema. -/
theorem Refers.exists_target {d : Dialect} {s : Snapshot} {o : Options} {t : TypeDef}
    {text : String}
    (refers : Refers d (.ofSnapshot s) (d.build (.ofSnapshot s) o).declarations t text) :
    ∃ target ∈ (d.build (.ofSnapshot s) o).declarations.targets, target.reference d = text ∧
      target.path.schemaRawName = t.schema ∧ target.path.rawName = t.name := by
  obtain ⟨p, hp, refers⟩ := refers_build_iff.mp refers
  have covers := d.plan_covers (.ofSnapshot s) o p hp
  have schema := covers.schema_eq refers
  have declared : d.declareSchema (.ofSnapshot s) (d.emitted (.ofSnapshot s) o) p ∈
      (d.build (.ofSnapshot s) o).declarations.schemas := List.mem_map_of_mem hp
  rcases refers with ⟨e, he, rfl⟩ | ⟨name, hc, rfl⟩
  · refine ⟨⟨.enumeration, p.path e.rawName e.name⟩, List.mem_flatMap.mpr ⟨_, declared, ?_⟩, rfl,
      schema.symm, (covers.declares _ he).rawName⟩
    exact SchemaDecls.mem_targets_iff.mpr (.inl ⟨e, List.mem_map_of_mem he, rfl⟩)
  · refine ⟨⟨.composite, p.path t.name name⟩, List.mem_flatMap.mpr ⟨_, declared, ?_⟩, rfl,
      schema.symm, rfl⟩
    exact SchemaDecls.mem_targets_iff.mpr (.inr ⟨_, List.mem_map_of_mem hc, rfl⟩)

theorem Grounded.offers {d : Dialect} {s : Snapshot} {o : Options} {name : String}
    (h : Grounded d (.ofSnapshot s) (d.build (.ofSnapshot s) o).declarations name) :
    (d.build (.ofSnapshot s) o).declarations.Offers d name := by
  rcases h with scalar | any | ⟨t, refers⟩
  · exact .inl scalar
  · exact .inr (.inl any)
  · obtain ⟨target, ht, text, -⟩ := refers.exists_target
    exact .inr (.inr ⟨target, ht, text.symm⟩)

/-! ## References -/

/-- A quoted value is read to its end, whatever follows it. -/
theorem quote_append_inj {value value' : String} {rest rest' : List Char}
    (h : (quote value).toList ++ rest = (quote value').toList ++ rest') :
    value = value' ∧ rest = rest' := by
  simp only [toList_quote, List.cons_append, List.append_assoc, List.nil_append] at h
  obtain ⟨body, rest⟩ := (isToken_flatMap Json.isToken_escapeChar _).unique
    (isToken_flatMap Json.isToken_escapeChar _) (List.cons.inj h).2
  have reads := Json.reads_quote value.toList []
  rw [body, Json.reads_quote value'.toList []] at reads
  exact ⟨String.toList_inj.mp (Prod.mk.inj (Option.some.inj reads)).1.symm, rest⟩

theorem TypeScript.reference_append_inj {kind kind' : DeclKind} {path path' : DeclPath}
    {rest rest' : List Char}
    (h : (reference kind path).toList ++ rest = (reference kind' path').toList ++ rest') :
    kind = kind' ∧ path.schemaRawName = path'.schemaRawName ∧ path.rawName = path'.rawName := by
  simp only [reference, String.toList_append, List.append_assoc] at h
  obtain ⟨schema, h⟩ := quote_append_inj (List.append_cancel_left h)
  have h := List.append_cancel_left h
  obtain rfl : kind = kind' := by
    cases kind with
    | enumeration =>
      cases kind' with
      | enumeration => rfl
      | composite => simp [groupName] at h
    | composite =>
      cases kind' with
      | enumeration => simp [groupName] at h
      | composite => rfl
  obtain ⟨name, -⟩ := quote_append_inj (List.append_cancel_left (List.append_cancel_left h))
  exact ⟨rfl, schema, name⟩

theorem TypeScript.same_of_reference {t t' : Target}
    (h : t.reference dialect = t'.reference dialect) : t.Same .typescript t' := by
  have eq : reference t.kind t.path = reference t'.kind t'.path := h
  have chars : (reference t.kind t.path).toList ++ [] =
      (reference t'.kind t'.path).toList ++ [] := by rw [eq]
  exact reference_append_inj chars

/-- The dot after the name of the schema is the first one. -/
theorem Swift.reference_inj {path path' : DeclPath} (h : IsShown path.schemaName)
    (h' : IsShown path'.schemaName) (eq : reference path = reference path') :
    path.schemaName = path'.schemaName ∧ path.name = path'.name := by
  have cut : ∀ path : DeclPath, IsShown path.schemaName →
      cut? '.' (reference path).toList = some (path.schemaName.toList, path.name.toList) := by
    intro path shown
    refine cut?_eq_some_iff.mpr ⟨by simp [reference], ?_⟩
    exact shown.not_mem (by decide) (by decide)
  have pair := Option.some.inj ((cut path h).symm.trans ((congrArg _ (by rw [eq])).trans
    (cut path' h')))
  exact ⟨String.toList_inj.mp (Prod.mk.inj pair).1, String.toList_inj.mp (Prod.mk.inj pair).2⟩

theorem Go.nodup_references (ix : Index) (o : Options) :
    ((dialect.build ix o).declarations.targets.map (·.reference dialect)).Nodup := by
  have differ := Dialect.typesDiffer_build ix o .go
  rw [Declarations.targets, List.map_flatMap]
  refine differ.sublist (List.Sublist.flatMap_right _ fun s _ => ?_)
  exact s.name_targets_sublist.trans (List.sublist_append_left _ _)

theorem Python.nodup_references (ix : Index) (o : Options) :
    ((dialect.build ix o).declarations.targets.map (·.reference dialect)).Nodup := by
  have differ := Dialect.typesDiffer_build ix o .python
  rw [Declarations.targets, List.map_flatMap]
  exact differ.sublist (List.Sublist.flatMap_right _ fun s _ => s.name_targets_sublist)

theorem Swift.nodup_references (ix : Index) (o : Options) :
    ((dialect.build ix o).declarations.targets.map (·.reference dialect)).Nodup := by
  have shown := Language.isShown_targets (show Language.swift ≠ .typescript by decide) ix o
  have differ := Dialect.typesDiffer_build ix o .swift
  have schemas : ((dialect.build ix o).declarations.schemas.map (·.name)).Nodup := by
    rw [Dialect.schemas_build, List.map_map]
    exact Dialect.nodup_name_plan (Language.unnumbered .swift) ix o
  have mem : ∀ s ∈ (dialect.build ix o).declarations.schemas, ∀ t ∈ s.targets,
      t ∈ (dialect.build ix o).declarations.targets :=
    fun s hs t ht => List.mem_flatMap.mpr ⟨s, hs, ht⟩
  rw [Declarations.targets, List.map_flatMap, List.nodup_flatMap]
  constructor
  · intro s hs
    have names := (differ s hs).sublist s.name_targets_sublist
    refine List.Nodup.map_on (fun t ht t' ht' eq => ?_) names.of_map
    have same := (reference_inj (shown t (mem s hs t ht)).1 (shown t' (mem s hs t' ht')).1 eq).2
    exact List.inj_on_of_nodup_map names ht ht' same
  · refine (List.pairwise_map.mp schemas).imp_of_mem fun {s s'} hs hs' ne => ?_
    intro text h h'
    obtain ⟨t, ht, rfl⟩ := List.mem_map.mp h
    obtain ⟨t', ht', eq⟩ := List.mem_map.mp h'
    have same := (reference_inj (shown t' (mem s' hs' t' ht')).1 (shown t (mem s hs t ht)).1 eq).1
    rw [s.schemaName_of_mem_targets ht, s'.schemaName_of_mem_targets ht'] at same
    exact ne same.symm

/-! ## Texts of types -/

/-- Where lists and null are written by marks alone, all other characters are those of the
innermost name. -/
theorem filter_typeText {text : TargetType → String} {marks : List Char}
    (named : ∀ name, text (.named name) = name)
    (list : ∀ t, (text (.list t)).toList.filter (· ∉ marks) =
      (text t).toList.filter (· ∉ marks))
    (nullable : ∀ t, (text (.nullable t)).toList.filter (· ∉ marks) =
      (text t).toList.filter (· ∉ marks)) (t : TargetType) :
    (text t).toList.filter (· ∉ marks) = t.base.toList.filter (· ∉ marks) := by
  induction t with
  | named name => rw [named, TargetType.base]
  | list t ih => rw [list, ih, TargetType.base]
  | nullable t ih => rw [nullable, ih, TargetType.base]

theorem base_of_typeText {text : TargetType → String} {marks : List Char} {type type' : TargetType}
    (strip : ∀ t, (text t).toList.filter (· ∉ marks) = t.base.toList.filter (· ∉ marks))
    (plain : ∀ c ∈ marks, c ∉ type.base.toList) (plain' : ∀ c ∈ marks, c ∉ type'.base.toList)
    (eq : text type = text type') : type.base = type'.base := by
  have keep : ∀ {cs : List Char}, (∀ c ∈ marks, c ∉ cs) → cs.filter (· ∉ marks) = cs := by
    intro cs h
    refine List.filter_eq_self.mpr fun c hc => ?_
    simpa using fun mark => h c mark hc
  refine String.toList_inj.mp ?_
  rw [← keep plain, ← keep plain', ← strip, ← strip, eq]

theorem Go.strip_typeText (t : TargetType) :
    (typeText t).toList.filter (· ∉ ['[', ']', '*']) =
      t.base.toList.filter (· ∉ ['[', ']', '*']) := by
  refine filter_typeText (fun _ => rfl) (fun t => by simp [typeText]) (fun t => ?_) t
  rw [typeText]
  split
  · rfl
  · simp

theorem Swift.strip_typeText (t : TargetType) :
    (typeText t).toList.filter (· ∉ ['[', ']', '?']) =
      t.base.toList.filter (· ∉ ['[', ']', '?']) :=
  filter_typeText (fun _ => rfl) (fun t => by simp [typeText]) (fun t => by simp [typeText]) t

theorem Python.bracket_mem_typeText {type : TargetType} (h : ∀ name, type ≠ .named name) :
    '[' ∈ (typeText type).toList := by
  cases type with
  | named name => exact absurd rfl (h name)
  | list element => simp [typeText]
  | nullable inner => simp [typeText]

theorem Python.base_of_typeText {type type' : TargetType} (plain : '[' ∉ type.base.toList)
    (plain' : '[' ∉ type'.base.toList)
    (eq : (typeText type).toList = (typeText type').toList) : type.base = type'.base := by
  induction type generalizing type' with
  | named name =>
    cases type' with
    | named name' => exact String.toList_inj.mp eq
    | list _ | nullable _ =>
      refine absurd ?_ plain
      rw [TargetType.base, show name = typeText (.named name) from rfl, eq]
      exact bracket_mem_typeText (by simp)
  | list element ih =>
    cases type' with
    | named name' =>
      refine absurd ?_ plain'
      rw [TargetType.base, show name' = typeText (.named name') from rfl, ← eq]
      exact bracket_mem_typeText (by simp)
    | list element' => exact @ih element' plain plain' (by simpa [typeText] using eq)
    | nullable inner' => simp [typeText] at eq
  | nullable inner ih =>
    cases type' with
    | named name' =>
      refine absurd ?_ plain'
      rw [TargetType.base, show name' = typeText (.named name') from rfl, ← eq]
      exact bracket_mem_typeText (by simp)
    | list element' => simp [typeText] at eq
    | nullable inner' => exact @ih inner' plain plain' (by simpa [typeText] using eq)

/-- Only opening parentheses stand before the innermost name. -/
theorem TypeScript.typeText_eq (type : TargetType) :
    ∃ opens rest, (typeText type).toList = opens ++ type.base.toList ++ rest ∧
      ∀ c ∈ opens, c = '(' := by
  induction type with
  | named name => exact ⟨[], [], by simp [typeText, TargetType.base], by simp⟩
  | list element ih =>
    obtain ⟨opens, rest, text, parens⟩ := ih
    rw [typeText, TargetType.base]
    split
    · refine ⟨'(' :: opens, rest ++ [')', '[', ']'], by simp [text], ?_⟩
      exact List.forall_mem_cons.mpr ⟨rfl, parens⟩
    · exact ⟨opens, rest ++ ['[', ']'], by simp [text], parens⟩
  | nullable inner ih =>
    obtain ⟨opens, rest, text, parens⟩ := ih
    exact ⟨opens, rest ++ " | null".toList, by simp [typeText, TargetType.base, text], parens⟩

/-- A reference does not begin with a parenthesis. -/
theorem TypeScript.head_reference (kind : DeclKind) (path : DeclPath) :
    ∃ cs, (reference kind path).toList = 'D' :: cs := by
  simp [reference]

theorem TypeScript.same_of_typeText {t t' : Target} {text : String} (h : t.WrittenAs dialect text)
    (h' : t'.WrittenAs dialect text) : t.Same .typescript t' := by
  have drop : ∀ {t : Target}, t.WrittenAs dialect text → ∃ rest,
      text.toList.dropWhile (· == '(') = (reference t.kind t.path).toList ++ rest := by
    rintro t ⟨type, base, text⟩
    obtain ⟨opens, rest, chars, parens⟩ := typeText_eq type
    obtain ⟨cs, head⟩ := head_reference t.kind t.path
    have base : type.base = reference t.kind t.path := base
    refine ⟨rest, ?_⟩
    rw [← show typeText type = _ from text, chars, base, List.append_assoc,
      List.dropWhile_append_of_pos (by simpa using parens), head]
    exact List.dropWhile_cons_of_neg (by decide)
  obtain ⟨rest, chars⟩ := drop h
  obtain ⟨rest', chars'⟩ := drop h'
  exact reference_append_inj (chars.symm.trans chars')

/-! ## Languages -/

theorem Language.not_mem_reference {language : Language} (h : language ≠ .typescript) {t : Target}
    (shown : IsShown t.path.schemaName ∧ IsShown t.path.name) {c : Char}
    (hc : isNameChar c = false ∧ c ≠ '\x60' ∧ c ≠ '.') :
    c ∉ (t.reference language.dialect).toList := by
  have schemaName := shown.1.not_mem hc.1 hc.2.1
  have name := shown.2.not_mem hc.1 hc.2.1
  cases language with
  | typescript => exact absurd rfl h
  | go => exact name
  | swift =>
    show c ∉ (Swift.reference t.path).toList
    simp [Swift.reference, schemaName, name, hc.2.2]
  | python => exact name

/-- The reference in the text of a type can be told from what stands around it. -/
theorem Language.reference_of_typeText {language : Language} (h : language ≠ .typescript)
    {t t' : Target} (shown : IsShown t.path.schemaName ∧ IsShown t.path.name)
    (shown' : IsShown t'.path.schemaName ∧ IsShown t'.path.name) {text : String}
    (written : t.WrittenAs language.dialect text) (written' : t'.WrittenAs language.dialect text) :
    t.reference language.dialect = t'.reference language.dialect := by
  obtain ⟨type, base, text⟩ := written
  obtain ⟨type', base', text'⟩ := written'
  have eq := text.trans text'.symm
  have plain : ∀ c ∈ ['[', ']', '*', '?'], c ∉ type.base.toList ∧ c ∉ type'.base.toList := by
    intro c hc
    have mark : isNameChar c = false ∧ c ≠ '\x60' ∧ c ≠ '.' := by
      simp only [List.mem_cons, List.not_mem_nil, or_false] at hc
      rcases hc with rfl | rfl | rfl | rfl
      all_goals decide
    rw [base, base']
    exact ⟨not_mem_reference h shown mark, not_mem_reference h shown' mark⟩
  rw [← base, ← base']
  cases language with
  | typescript => exact absurd rfl h
  | go =>
    exact base_of_typeText Go.strip_typeText (fun c hc => (plain c (by grind)).1)
      (fun c hc => (plain c (by grind)).2) eq
  | swift =>
    exact base_of_typeText Swift.strip_typeText (fun c hc => (plain c (by grind)).1)
      (fun c hc => (plain c (by grind)).2) eq
  | python =>
    have bracket := plain '[' (by decide)
    exact Python.base_of_typeText bracket.1 bracket.2 (congrArg String.toList eq)

theorem Language.nodup_references {language : Language} (h : language ≠ .typescript) (ix : Index)
    (o : Options) : ((language.dialect.build ix o).declarations.targets.map
      (·.reference language.dialect)).Nodup := by
  cases language with
  | typescript => exact absurd rfl h
  | go => exact Go.nodup_references ix o
  | swift => exact Swift.nodup_references ix o
  | python => exact Python.nodup_references ix o

/-- Whatever characters the names of the snapshot have, a reference and a type made from it lead to
one declaration. -/
theorem declare_referencesDiffer (s : Snapshot) (o : Options) :
    (declare s o).declarations.ReferencesDiffer o.language := by
  by_cases h : o.language = .typescript
  · rw [declare, h]
    exact ⟨fun ne => absurd rfl ne, fun _ _ _ _ => TypeScript.same_of_reference,
      fun _ _ _ _ _ => TypeScript.same_of_typeText⟩
  · have distinct := Language.nodup_references h (.ofSnapshot s) o
    have shown := Language.isShown_targets h (.ofSnapshot s) o
    have same : ∀ t ∈ (declare s o).declarations.targets,
        ∀ t' ∈ (declare s o).declarations.targets,
        t.reference o.language.dialect = t'.reference o.language.dialect →
          t.Same o.language t' := by
      intro t ht t' ht' eq
      obtain rfl := List.inj_on_of_nodup_map distinct ht ht' eq
      cases hl : o.language with
      | typescript => exact absurd hl h
      | go | swift | python => rfl
    refine ⟨fun _ => distinct, same, fun t ht t' ht' text written written' => ?_⟩
    exact same t ht t' ht'
      (Language.reference_of_typeText h (shown t ht) (shown t' ht') written written')

end CatalogTypes
