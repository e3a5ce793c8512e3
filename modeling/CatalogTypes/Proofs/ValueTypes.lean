import CatalogTypes.Proofs.Cycles
import CatalogTypes.Proofs.Outline
import CatalogTypes.Proofs.References

/-!
# Value types do not hold themselves

A Swift value has its fields in place, so a structure cannot be among its own fields, directly or
through others; it can be there behind a list. The composites for which that would happen are
written as classes. The cycles are looked for in a graph of references, and the reference of a
composite is put together once more where the composite is written: `reference_injective` says that
this finds the composite again, and no other record.
-/

namespace CatalogTypes

open Text Layout

/-! ## Records in each other -/

/-- A record with the schema that declares it. -/
structure Declared where
  schema : SchemaDecls
  record : RecordDecl

def Declared.reference (x : Declared) : String :=
  Swift.reference (x.schema.path x.record.rawName x.record.name)

namespace Declarations

variable (ds : Declarations)

def Declares (x : Declared) : Prop := x.schema ∈ ds.schemas ∧ x.record ∈ x.schema.records

def IsComposite (x : Declared) : Prop := x.schema ∈ ds.schemas ∧ x.record ∈ x.schema.composites

/-- A field of `x` has the composite `y` as its type, perhaps as an optional one. What is in a list
is not held in place. -/
def Contains (x y : Declared) : Prop :=
  ds.IsComposite y ∧ ∃ f ∈ x.record.fields,
    f.type = .named y.reference ∨ f.type = .nullable (.named y.reference)

variable {ds}

theorem IsComposite.declares {x : Declared} (h : ds.IsComposite x) : ds.Declares x :=
  ⟨h.1, List.mem_append_left _ h.2⟩

end Declarations

namespace Swift

/-! ## Lines -/

/-- The line that opens a schema, and closes it as well if it has no declarations. -/
def schemaLine (access : String) (s : SchemaDecls) : String :=
  access ++ " enum " ++ s.name ++ if s.isEmpty then " \x7b\x7d" else " \x7b"

/-- The line that opens a record. -/
def recordLine (access : String) (isClass : Bool) (r : RecordDecl) : String :=
  "  " ++ (access ++ keyword isClass ++ r.name ++ ": " ++ conformances ++ identity r ++ " \x7b")

/-- The line opens a schema or a record. -/
def opens (access : Access) (line : String) : Bool :=
  begins (access.keyword ++ " enum ") line ||
    begins ("  " ++ access.keyword ++ keyword false) line ||
      begins ("  " ++ access.keyword ++ keyword true) line

end Swift

/-- A record is a class exactly if it is a composite that holds itself in place along some chain of
composites. All other records are structures, and none of these holds itself. -/
structure Declarations.BreaksCycles (ds : Declarations) (access : Access) (output : String)
    (isClass : Declared → Bool) : Prop where
  lines : ∃ lines, HasLines output lines ∧ lines.filter (Swift.opens access) =
    ds.schemas.flatMap fun s => Swift.schemaLine access.keyword s ::
      s.records.map fun r => Swift.recordLine access.keyword (isClass ⟨s, r⟩) r
  classes : ∀ x, ds.Declares x →
    (isClass x ↔ ds.IsComposite x ∧ Relation.TransGen ds.Contains x x)
  structures : ∀ x, ¬ Relation.TransGen
    (fun y z => ds.Contains y z ∧ (ds.Declares y ∧ isClass y = false) ∧
      ds.Declares z ∧ isClass z = false) x x

theorem Layout.filter_between {α : Type} {unit : String} {depth : Nat} {p : String → Bool}
    (blank : p "" = false) {f : α → List Item} {xs : List α} (h : ∀ x ∈ xs, Balanced (f x)) :
    (lines unit depth (Item.between [.blank] f xs)).1.filter p =
      xs.flatMap fun x => (lines unit depth (f x)).1.filter p := by
  fun_induction Item.between [.blank] f xs with
  | case1 => rfl
  | case2 x => simp
  | case3 x xs _ ih =>
    have rest := ih fun y hy => h y (List.mem_cons_of_mem _ hy)
    have separator : (lines unit depth [.blank]).1.filter p = [] := by
      show [""].filter p = []
      simp [blank]
    rw [((h x List.mem_cons_self).append (.blank .nil)).lines_append,
      (h x List.mem_cons_self).lines_append, List.filter_append, List.filter_append, separator,
      rest, List.append_nil, List.flatMap_cons]

/-- The type of an attribute is a name within lists, and nullable as a whole. -/
theorem AttributeType.shape {d : Dialect} {ix : Index} {ds : Declarations} {attr : Attribute}
    {type : TargetType} (h : AttributeType d ix ds attr type) :
    ∃ n name, type = .nullable (.lists n (.named name)) := by
  cases h with
  | missing => exact ⟨0, _, rfl⟩
  | scalar _ _ spells =>
    obtain ⟨-, -⟩ := spells
    exact ⟨_, _, rfl⟩
  | type => exact ⟨0, _, rfl⟩

namespace Swift

section Lines

variable (access : Access)

theorem opens_recordLine (isClass : Bool) (r : RecordDecl) :
    opens access (recordLine access.keyword isClass r) := by
  have begin : begins ("  " ++ access.keyword ++ keyword isClass)
      (recordLine access.keyword isClass r) := by
    have line : recordLine access.keyword isClass r = "  " ++ access.keyword ++ keyword isClass ++
        (r.name ++ ": " ++ conformances ++ identity r ++ " \x7b") := by
      simp only [recordLine, String.append_assoc]
    rw [line]
    exact begins_append ..
  cases isClass with
  | false => simp [opens, begin]
  | true => simp [opens, begin]

theorem opens_schemaLine (s : SchemaDecls) : opens access (schemaLine access.keyword s) := by
  have begin : begins (access.keyword ++ " enum ") (schemaLine access.keyword s) := by
    rw [schemaLine, String.append_assoc]
    exact begins_append ..
  simp [opens, begin]

/-- Lines inside of a declaration stand too deep to open one. -/
theorem not_opens_of_reaches {line : String} (h : Reaches "  " 2 line) :
    opens access line = false := by
  rcases h with rfl | ⟨text, rfl⟩
  · cases access
    all_goals decide
  · cases access
    all_goals simp [opens, begins, List.isPrefixOf, Access.keyword, keyword]

theorem filter_opens_body {body : List Item} (h : Balanced body) :
    (lines "  " 2 body).1.filter (opens access) = [] := by
  rw [List.filter_eq_nil_iff]
  intro line hl
  rw [not_opens_of_reaches access (h.reaches 2 line hl)]
  decide

/-- Of the lines of a declaration, only its first can open one. -/
theorem filter_opens_braces {body : List Item} (h : Balanced body) (header : String) :
    (lines "  " 1 [.braces header body]).1.filter (opens access) =
      [lineAt "  " 1 (header ++ " \x7b")].filter (opens access) := by
  have closing : opens access (lineAt "  " 1 "\x7d") = false := by
    cases access
    all_goals decide
  rw [lines_braces h, List.filter_append, List.filter_cons, filter_opens_body access h,
    List.filter_singleton, closing, List.filter_cons]
  simp

theorem filter_opens_enumeration (e : EnumDecl) :
    (lines "  " 1 [enumeration access.keyword e]).1.filter (opens access) = [] := by
  rw [enumeration, filter_opens_braces access (balanced_map fun _ _ => .line .nil),
    lineAt_one (by simp [String.append_assoc])]
  refine List.filter_cons_of_neg ?_
  cases access
  all_goals simp [opens, begins, List.isPrefixOf, Access.keyword, keyword]

theorem filter_opens_record (isClass : Bool) (r : RecordDecl) :
    (lines "  " 1 [record access.keyword isClass r]).1.filter (opens access) =
      [recordLine access.keyword isClass r] := by
  rw [record_eq, filter_opens_braces access ((balanced_lines _).append (balanced_extras ..)),
    lineAt_one (by simp [String.append_assoc])]
  exact List.filter_cons_of_pos (opens_recordLine access isClass r)

theorem filter_opens_pieces (cyclic : Std.HashSet String) (s : SchemaDecls) :
    (lines "  " 1 (Item.between [.blank] id (pieces access.keyword cyclic s))).1.filter
        (opens access) =
      s.records.map fun r =>
        recordLine access.keyword (cyclic.contains (s.name ++ "." ++ r.name)) r := by
  have blank : opens access "" = false := by
    cases access
    all_goals decide
  rw [filter_between blank (f := id) balanced_of_mem_pieces, pieces, List.flatMap_append,
    List.flatMap_map, List.flatMap_map]
  simp only [id, filter_opens_enumeration, filter_opens_record]
  rw [List.flatMap_eq_nil_iff.mpr fun _ _ => rfl, List.nil_append, List.map_eq_flatMap]

/-- The line of a schema and those of its records, in order. -/
theorem filter_opens_schema (cyclic : Std.HashSet String) (s : SchemaDecls) :
    (lines "  " 0 [schema access.keyword cyclic s]).1.filter (opens access) =
      schemaLine access.keyword s :: s.records.map fun r =>
        recordLine access.keyword (cyclic.contains (s.name ++ "." ++ r.name)) r := by
  have header := opens_schemaLine access s
  rw [schema]
  cases empty : s.isEmpty with
  | true =>
    have line : schemaLine access.keyword s =
        access.keyword ++ " enum " ++ s.name ++ " \x7b\x7d" := by
      rw [schemaLine, empty]
      rfl
    rw [line] at header ⊢
    have records : s.records = [] := by
      simp only [SchemaDecls.isEmpty, Bool.and_eq_true, List.isEmpty_iff] at empty
      simp [SchemaDecls.records, empty]
    show [lineAt "  " 0 (access.keyword ++ " enum " ++ s.name ++ " \x7b\x7d")].filter
      (opens access) = _
    rw [lineAt_zero, records, List.filter_cons_of_pos header]
    rfl
  | false =>
    have line : schemaLine access.keyword s =
        access.keyword ++ " enum " ++ s.name ++ " \x7b" := by
      rw [schemaLine, empty]
      rfl
    rw [line] at header ⊢
    have closing : opens access "\x7d" = false := by
      cases access
      all_goals decide
    show (lines "  " 0 [.braces (access.keyword ++ " enum " ++ s.name)
      (Item.between [.blank] id (pieces access.keyword cyclic s))]).1.filter (opens access) = _
    rw [lines_braces (balanced_pieces ..), lineAt_zero, lineAt_zero, List.filter_append,
      List.filter_cons_of_pos header, filter_opens_pieces,
      List.filter_cons_of_neg (by simp [closing]), List.filter_nil, List.append_nil]

/-- The lines of the text that open schemas and records. -/
theorem filter_opens_source (ds : Declarations) :
    (lines "  " 0 (source access ds)).1.filter (opens access) =
      ds.schemas.flatMap fun s => schemaLine access.keyword s :: s.records.map fun r =>
        recordLine access.keyword
          ((containment ds).cyclic.contains (s.name ++ "." ++ r.name)) r := by
  have imports : ∀ line ∈ ["import Foundation", "import Supabase", ""],
      opens access line = false := by
    cases access
    all_goals decide
  have schemas : (lines "  " 0 (ds.schemas.flatMap fun s =>
      [.blank, schema access.keyword (containment ds).cyclic s])).1.filter (opens access) =
        ds.schemas.flatMap fun s => schemaLine access.keyword s :: s.records.map fun r =>
          recordLine access.keyword
            ((containment ds).cyclic.contains (s.name ++ "." ++ r.name)) r := by
    rw [lines_flatMap fun s _ => .blank (balanced_schema ..), List.filter_flatMap]
    refine List.flatMap_congr fun s _ => ?_
    rw [← filter_opens_schema]
    exact List.filter_cons_of_neg (by simp [imports])
  rw [← schemas]
  show ("import Foundation" :: "import Supabase" :: (lines "  " 0 _).1).filter (opens access) = _
  rw [List.filter_cons_of_neg (by simp [imports]), List.filter_cons_of_neg (by simp [imports])]

end Lines

/-! ## References of records -/

section Build

variable {s : Snapshot} {o : Options} {ds : Declarations}
  (hds : ds = (dialect.build (.ofSnapshot s) o).declarations)
include hds

/-- Composites and relations of a schema have different names, and schemas as well, so the reference
of a record is that of no other record. -/
theorem reference_injective {x y : Declared} (hx : ds.Declares x) (hy : ds.Declares y)
    (eq : x.reference = y.reference) : x = y := by
  subst hds
  have named := Swift.ensures.named (.ofSnapshot s) o
  have schemas : ((dialect.build (.ofSnapshot s) o).declarations.schemas.map (·.name)).Nodup := by
    rw [Dialect.schemas_build, List.map_map]
    exact Dialect.nodup_name_plan (Language.unnumbered .swift) _ o
  obtain ⟨schemaName, name⟩ := reference_inj (named _ hx.1).name (named _ hy.1).name eq
  obtain ⟨schema, r⟩ := x
  obtain ⟨schema', r'⟩ := y
  obtain rfl : schema = schema' := List.inj_on_of_nodup_map schemas hx.1 hy.1 schemaName
  have names : (schema.records.map (·.name)).Nodup :=
    (Dialect.typesDiffer_build (.ofSnapshot s) o .swift schema hx.1).of_append_right
  obtain rfl : r = r' := List.inj_on_of_nodup_map names hx.2 hy.2 name
  rfl

/-- What an attribute holds in place is a reference, as it is or optional. -/
theorem mem_inPlace_iff {x : Declared} (hx : ds.IsComposite x) {f : Field}
    (hf : f ∈ x.record.fields) {name : String} :
    name ∈ inPlace f.type ↔ f.type = .named name ∨ f.type = .nullable (.named name) := by
  subst hds
  obtain ⟨t, -, -, fields⟩ :=
    exists_of_forall₂ (attributes_build dialect s o x.schema hx.1) x.record hx.2
  obtain ⟨attr, -, -, type⟩ := exists_of_forall₂ fields f hf
  obtain ⟨n, name', shape⟩ := ((type f.type).mp rfl).shape
  rw [shape]
  cases n with
  | zero => simp [TargetType.lists, inPlace, eq_comm]
  | succ n => simp [TargetType.lists, inPlace]

theorem edge_containment_iff {a b : String} :
    (containment ds).Edge a b ↔ ∃ x, ds.IsComposite x ∧ x.reference = a ∧
      ∃ f ∈ x.record.fields, b ∈ inPlace f.type := by
  have nodup : ((ds.schemas.flatMap fun s => s.composites.map fun c =>
      (reference ⟨s.rawName, s.name, c.rawName, c.name⟩,
        c.fields.flatMap (inPlace ·.type))).map Prod.fst).Nodup := by
    subst hds
    refine (Swift.nodup_references (.ofSnapshot s) o).sublist ?_
    rw [Declarations.targets, List.map_flatMap, List.map_flatMap]
    refine List.Sublist.flatMap_right _ fun s _ => ?_
    rw [SchemaDecls.targets, List.map_append, List.map_map, List.map_map, List.map_map]
    exact List.sublist_append_right _ _
  rw [containment, Graph.edge_ofList_iff nodup]
  simp only [List.mem_flatMap, List.mem_map, Prod.mk.injEq]
  constructor
  · rintro ⟨bs, ⟨schema, hs, c, hc, rfl, rfl⟩, hb⟩
    exact ⟨⟨schema, c⟩, ⟨hs, hc⟩, rfl, List.mem_flatMap.mp hb⟩
  · rintro ⟨⟨schema, c⟩, ⟨hs, hc⟩, rfl, hb⟩
    exact ⟨_, ⟨schema, hs, c, hc, rfl, rfl⟩, List.mem_flatMap.mpr hb⟩

theorem contains_iff_edge {x y : Declared} (hx : ds.IsComposite x) (hy : ds.IsComposite y) :
    ds.Contains x y ↔ (containment ds).Edge x.reference y.reference := by
  rw [edge_containment_iff hds]
  constructor
  · rintro ⟨-, f, hf, type⟩
    exact ⟨x, hx, rfl, f, hf, (mem_inPlace_iff hds hx hf).mpr type⟩
  · rintro ⟨x', hx', eq, f, hf, mem⟩
    obtain rfl := reference_injective hds hx'.declares hx.declares eq
    exact ⟨hy, f, hf, (mem_inPlace_iff hds hx hf).mp mem⟩

theorem transGen_edge {x y : Declared} (hx : ds.IsComposite x)
    (chain : Relation.TransGen ds.Contains x y) :
    ds.IsComposite y ∧ Relation.TransGen (containment ds).Edge x.reference y.reference := by
  induction chain with
  | single step => exact ⟨step.1, .single ((contains_iff_edge hds hx step.1).mp step)⟩
  | tail _ step ih => exact ⟨step.1, ih.2.tail ((contains_iff_edge hds ih.1 step.1).mp step)⟩

/-- Each node that an edge starts from is the reference of a composite, so a walk through the graph
is a chain of composites. -/
theorem transGen_contains {x : Declared} (hx : ds.IsComposite x) {b : String}
    (walk : Relation.TransGen (containment ds).Edge x.reference b) :
    ∀ y, ds.IsComposite y → y.reference = b → Relation.TransGen ds.Contains x y := by
  induction walk with
  | single edge =>
    rintro y hy rfl
    exact .single ((contains_iff_edge hds hx hy).mpr edge)
  | tail _ edge ih =>
    rintro y hy rfl
    obtain ⟨z, hz, rfl, -⟩ := (edge_containment_iff hds).mp edge
    exact (ih z hz rfl).tail ((contains_iff_edge hds hz hy).mpr edge)

/-- A record is found among the nodes on cycles exactly if it is a composite that holds itself. -/
theorem cyclic_contains_iff {x : Declared} (hx : ds.Declares x) :
    (containment ds).cyclic.contains x.reference ↔
      ds.IsComposite x ∧ Relation.TransGen ds.Contains x x := by
  rw [Graph.mem_cyclic_iff]
  constructor
  · intro walk
    obtain ⟨b, edge, -⟩ := Relation.TransGen.head'_iff.mp walk
    obtain ⟨y, hy, eq, -⟩ := (edge_containment_iff hds).mp edge
    obtain rfl := reference_injective hds hy.declares hx eq
    exact ⟨hy, transGen_contains hds hy walk y hy rfl⟩
  · rintro ⟨composite, chain⟩
    exact (transGen_edge hds composite chain).2

end Build

end Swift

/-- In Swift, no value type holds itself: the composites that would are classes, and nothing else
is. -/
theorem generate_breaksCycles (s : Snapshot) (o : Options) :
    ∃ isClass, (declare s { o with language := .swift }).declarations.BreaksCycles o.access
      (generate s { o with language := .swift }).output isClass := by
  let o' : Options := { o with language := .swift }
  let ds := (declare s o').declarations
  let isClass : Declared → Bool := fun x =>
    (Swift.containment ds).cyclic.contains x.reference
  have classes : ∀ x, ds.Declares x →
      (isClass x ↔ ds.IsComposite x ∧ Relation.TransGen ds.Contains x x) :=
    fun x hx => Swift.cyclic_contains_iff (s := s) (o := o') rfl hx
  refine ⟨isClass, ⟨⟨_, ?_, Swift.filter_opens_source o.access ds⟩, classes, ?_⟩⟩
  · exact hasLines_text (by decide) (Language.every_source .swift o.access s o')
  · intro x cycle
    have chain : Relation.TransGen ds.Contains x x := cycle.lift id fun _ _ step => step.1
    obtain ⟨y, first, -⟩ := Relation.TransGen.head'_iff.mp cycle
    obtain ⟨z, -, last⟩ := Relation.TransGen.tail'_iff.mp cycle
    have composite : ds.IsComposite x := last.1.1
    have isClass := (classes x composite.declares).mpr ⟨composite, chain⟩
    rw [first.2.1.2] at isClass
    cases isClass

end CatalogTypes
