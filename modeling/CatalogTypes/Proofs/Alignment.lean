import CatalogTypes.Proofs.Exported
import CatalogTypes.Proofs.Outline
import CatalogTypes.Proofs.References
import CatalogTypes.Proofs.WireValues
import Mathlib.Data.String.Basic

/-!
# Columns of fields and constants

The fields of a Go struct and the constants of an enumeration stand in columns, which are as wide as
the largest of their cells in bytes. Cells are filled up by characters, so the rows align whatever
the names are; but a column is as wide as its longest cell, the way gofmt has it, only as long as no
cell takes more bytes than the longest one has characters (`Go.Tabulated`).
-/

namespace CatalogTypes

open Text Layout

/-! ## Rows of cells -/

/-- The line consists of the cells. Each but the last is filled up with blanks to the width of its
column, and one blank more stands before the next. -/
def Tabular : List Nat → List String → String → Prop
  | [], [cell], line => line = cell
  | width :: widths, cell :: cells, line => ∃ blanks rest, cell.length + blanks = width ∧
      line = cell ++ String.ofList (List.replicate blanks ' ') ++ " " ++ rest ∧
        Tabular widths cells rest
  | _, _, _ => False

/-- The text does not begin with a blank, so it can be seen where it begins. -/
def IsVisible (text : String) : Prop := text.toList.head?.any (· ≠ ' ')

instance (text : String) : Decidable (IsVisible text) := inferInstanceAs (Decidable (_ = true))

section Tabular

variable {widths widths' : List Nat} {cells : List String} {line : String}

theorem IsVisible.append {text : String} (h : IsVisible text) (other : String) :
    IsVisible (text ++ other) := by
  obtain ⟨c, head, visible⟩ := (Option.any_eq_true _ _).mp h
  simp_all [IsVisible, List.head?_append]

theorem Tabular.length (h : Tabular widths cells line) : cells.length = widths.length + 1 := by
  induction widths generalizing cells line with
  | nil =>
    cases cells with
    | nil => cases h
    | cons cell cells =>
      cases cells with
      | nil => rfl
      | cons => cases h
  | cons width widths ih =>
    cases cells with
    | nil => cases h
    | cons cell cells =>
      obtain ⟨_, _, _, _, others⟩ := h
      rw [List.length_cons, List.length_cons, ih others]

/-- A row begins as its first cell does. -/
theorem Tabular.isVisible (h : Tabular widths cells line)
    (visible : ∀ cell ∈ cells, IsVisible cell) : IsVisible line := by
  cases cells with
  | nil => exact absurd h.length (by simp)
  | cons cell cells =>
    have first := visible cell List.mem_cons_self
    cases widths with
    | nil =>
      obtain rfl : cells = [] := by simpa using h.length
      exact (show line = cell from h) ▸ first
    | cons width widths =>
      obtain ⟨blanks, rest, -, rfl, -⟩ := h
      rw [String.append_assoc, String.append_assoc]
      exact first.append _

/-- Where the next text can be seen, the blanks before it can be counted. -/
theorem eq_of_blanks_append {m n : Nat} {a b : String} (ha : IsVisible a) (hb : IsVisible b)
    (h : List.replicate m ' ' ++ a.toList = List.replicate n ' ' ++ b.toList) : m = n ∧ a = b := by
  have rest : ∀ (k : Nat) {text : String}, IsVisible text →
      (List.replicate k ' ' ++ text.toList).dropWhile (· == ' ') = text.toList := by
    intro k text visible
    rw [List.dropWhile_append_of_pos fun c hc => by simp [List.eq_of_mem_replicate hc]]
    obtain ⟨c, head, other⟩ := (Option.any_eq_true _ _).mp visible
    obtain ⟨cs, chars⟩ := List.head?_eq_some_iff.mp head
    rw [chars]
    exact List.dropWhile_cons_of_neg (by simpa using other)
  have same : a = b := by
    rw [← String.toList_inj, ← rest m ha, ← rest n hb, h]
  subst same
  exact ⟨by simpa using congrArg List.length h, rfl⟩

/-- The widths of the columns can be read off a row. -/
theorem Tabular.unique (visible : ∀ cell ∈ cells, IsVisible cell) (h : Tabular widths cells line)
    (h' : Tabular widths' cells line) : widths = widths' := by
  have length : widths.length = widths'.length :=
    Nat.succ.inj (h.length.symm.trans h'.length)
  induction widths generalizing widths' cells line with
  | nil => exact (List.eq_nil_of_length_eq_zero length.symm).symm
  | cons width widths ih =>
    obtain ⟨width', widths', rfl⟩ := List.exists_cons_of_length_eq_add_one length.symm
    cases cells with
    | nil => cases h
    | cons cell cells =>
      obtain ⟨blanks, rest, rfl, rfl, others⟩ := h
      obtain ⟨blanks', rest', rfl, eq, others'⟩ := h'
      have later : ∀ cell ∈ cells, IsVisible cell := (List.forall_mem_cons.mp visible).2
      have chars : List.replicate (blanks + 1) ' ' ++ rest.toList =
          List.replicate (blanks' + 1) ' ' ++ rest'.toList := by
        simpa [List.replicate_succ'] using congrArg String.toList eq
      obtain ⟨same, rfl⟩ :=
        eq_of_blanks_append (others.isVisible later) (others'.isVisible later) chars
      rw [Nat.succ.inj same, ih later others others' (Nat.succ.inj length)]

end Tabular

/-! ## Widths -/

namespace Go

/-- The length of the longest text, in characters. -/
def longest (texts : List String) : Nat := (texts.map (·.length)).foldl max 0

theorem foldl_max_le_iff {ns : List Nat} {m n : Nat} :
    ns.foldl max m ≤ n ↔ m ≤ n ∧ ∀ k ∈ ns, k ≤ n := by
  induction ns generalizing m with
  | nil => simp
  | cons k ns ih =>
    rw [List.foldl_cons, ih, Nat.max_le, List.forall_mem_cons, and_assoc]

theorem columnWidth_le_iff {texts : List String} {n : Nat} :
    columnWidth texts ≤ n ↔ ∀ text ∈ texts, text.utf8ByteSize ≤ n := by
  simp [columnWidth, foldl_max_le_iff]

theorem longest_le_iff {texts : List String} {n : Nat} :
    longest texts ≤ n ↔ ∀ text ∈ texts, text.length ≤ n := by
  simp [longest, foldl_max_le_iff]

theorem length_le_utf8ByteSize (text : String) : text.length ≤ text.utf8ByteSize := by
  rw [← String.length_toList, ← String.utf8Len_toList]
  induction text.toList with
  | nil => simp
  | cons c cs ih =>
    have := c.utf8Size_pos
    rw [List.length_cons, String.utf8Len_cons]
    omega

theorem utf8ByteSize_of_ascii {text : String} (h : ∀ c ∈ text.toList, c.toNat < 0x80) :
    text.utf8ByteSize = text.length := by
  rw [← String.length_toList, ← String.utf8Len_toList]
  generalize text.toList = cs at h
  induction cs with
  | nil => rfl
  | cons c cs ih =>
    obtain ⟨ascii, others⟩ := List.forall_mem_cons.mp h
    have one : c.utf8Size = 1 := Char.utf8Size_eq_one_iff.mpr (Nat.le_of_lt_succ ascii)
    rw [List.length_cons, String.utf8Len_cons, ih others, one]

theorem longest_le_columnWidth (texts : List String) : longest texts ≤ columnWidth texts :=
  longest_le_iff.mpr fun text ht =>
    (length_le_utf8ByteSize text).trans (columnWidth_le_iff.mp le_rfl text ht)

/-- Both measures agree unless a text takes more bytes than the longest one has characters. -/
theorem longest_eq_columnWidth_iff {texts : List String} :
    longest texts = columnWidth texts ↔ ∀ text ∈ texts, text.utf8ByteSize ≤ longest texts := by
  rw [← columnWidth_le_iff]
  exact ⟨fun same => same.ge, fun le => le_antisymm (longest_le_columnWidth texts) le⟩

/-! ## Rows of declarations -/

/-- The cells of each row: a constant and its definition, or the name, type and tag of a field. -/
def cells : Decl → List (List String)
  | .enumeration e => e.variants.map fun v => [v.name, e.name ++ " = " ++ quote v.value]
  | .record r => r.fields.map fun f =>
      [f.name, typeText f.effectiveType, tag f.rawName (r.isWrite && f.isOptional)]

/-- The columns but the last. -/
def columns : Decl → List (List String)
  | .enumeration e => [e.variants.map (·.name)]
  | .record r => [r.fields.map (·.name), r.fields.map (typeText ·.effectiveType)]

/-- The lines of the variants or fields, not indented yet. -/
def rows : Decl → List String
  | .enumeration e => e.variants.map (variantText e)
  | .record r => r.fields.map (fieldText r)

/-- The lines of a declaration that has rows. -/
def block (d : Decl) : List String :=
  match d with
  | .enumeration e => ["type " ++ e.name ++ " string", "", "const ("] ++ indented ++ [")"]
  | .record r => ["type " ++ r.name ++ " struct \x7b"] ++ indented ++ ["\x7d"]
where
  indented : List String := (rows d).map ("\t" ++ ·)

/-- The cells of the declaration stand in columns, each as wide as the measure has it. -/
def Columnar (measure : List String → Nat) (d : Decl) : Prop :=
  List.Forall₂ (Tabular ((columns d).map measure)) (cells d) (rows d)

/-- The rows stand in the output, in columns that align. The columns are as wide as their longest
cells exactly if no cell takes more bytes than the longest one has characters, and so they are if
all of them are in ASCII. -/
structure Tabulated (d : Decl) (output : String) : Prop where
  appears : Appears (block d) output
  columnar : Columnar columnWidth d
  longest_iff : Columnar longest d ↔
    ∀ texts ∈ columns d, ∀ text ∈ texts, text.utf8ByteSize ≤ longest texts
  ascii : (∀ texts ∈ columns d, ∀ text ∈ texts, ∀ c ∈ text.toList, c.toNat < 0x80) →
    Columnar longest d

theorem block_eq {d : Decl} (h : d.members ≠ []) :
    block d = (entry d).header :: (entry d).body := by
  cases d with
  | enumeration e =>
    have filled : e.variants.isEmpty = false := by simpa [Decl.members] using h
    simp [block, block.indented, rows, entry, filled]
  | record r => simp [block, block.indented, rows, entry]

theorem appears_block {ds : Declarations} {d : Decl} (hd : d ∈ ds.listing) (h : d.members ≠ []) :
    Appears (block d) (render ds) := by
  refine appears_text ?_
  rw [lines_source, block_eq h, Outline.lines]
  have entry : (outline.entry d).header :: (outline.entry d).body <:+:
      outline.gap ++ (outline.entry d).header :: (outline.entry d).body :=
    (List.suffix_append _ _).isInfix
  have listed := List.infix_of_mem_flatten (List.mem_map_of_mem (f := fun d =>
    outline.gap ++ (outline.entry d).header :: (outline.entry d).body) hd)
  rw [← List.flatMap_def] at listed
  exact (entry.trans listed).trans (List.suffix_append _ _).isInfix

/-- A cell that is filled up begins a row, if its column is as wide as it takes. -/
theorem tabular_pad {texts : List String} {text : String} (ht : text ∈ texts) {widths : List Nat}
    {cells : List String} {rest : String} (h : Tabular widths cells rest) :
    Tabular (columnWidth texts :: widths) (text :: cells)
      (pad (columnWidth texts) text ++ " " ++ rest) := by
  have fits : text.length ≤ columnWidth texts :=
    (length_le_utf8ByteSize text).trans (columnWidth_le_iff.mp le_rfl text ht)
  exact ⟨columnWidth texts - text.length, rest, Nat.add_sub_of_le fits, rfl, h⟩

theorem columnar_columnWidth (d : Decl) : Columnar columnWidth d := by
  cases d with
  | enumeration e =>
    refine List.forall₂_map_left_iff.mpr (List.forall₂_map_right_iff.mpr (List.forall₂_same.mpr ?_))
    intro v hv
    have definition : Tabular [] [e.name ++ " = " ++ quote v.value]
        (e.name ++ " = " ++ quote v.value) := rfl
    have row := tabular_pad (List.mem_map_of_mem (f := (·.name)) hv) definition
    rwa [← String.append_assoc, ← String.append_assoc] at row
  | record r =>
    refine List.forall₂_map_left_iff.mpr (List.forall₂_map_right_iff.mpr (List.forall₂_same.mpr ?_))
    intro f hf
    have last : Tabular [] [tag f.rawName (r.isWrite && f.isOptional)]
        (tag f.rawName (r.isWrite && f.isOptional)) := rfl
    have type := tabular_pad (List.mem_map_of_mem (f := (typeText ·.effectiveType)) hf) last
    have row := tabular_pad (List.mem_map_of_mem (f := (·.name)) hf) type
    rwa [← String.append_assoc, ← String.append_assoc] at row

/-! ## Cells that can be seen -/

theorem isVisible_of_spells {name : String} (h : Language.go.Spells name) : IsVisible name := by
  have isName := h.isName (by decide)
  obtain ⟨c, head, -⟩ := (Option.any_eq_true _ _).mp isName.lead
  have char := isName.clean c (List.mem_of_head? head)
  have other : c ≠ ' ' := by
    rintro rfl
    exact absurd char (by decide)
  exact (Option.any_eq_true _ _).mpr ⟨c, head, decide_eq_true other⟩

theorem isVisible_typeText {t : TargetType} (h : IsVisible t.base) : IsVisible (typeText t) := by
  induction t with
  | named name => exact h
  | list element => exact IsVisible.append (by decide) _
  | nullable inner ih =>
    rw [typeText]
    split
    · exact ih h
    · exact IsVisible.append (by decide) _

theorem isVisible_tag (rawName : String) (omitEmpty : Bool) :
    IsVisible (tag rawName omitEmpty) := by
  unfold tag
  extract_lets value text
  split
  · simp [IsVisible, toList_quote]
  · rw [String.append_assoc]
    exact IsVisible.append (by decide) _

/-- Names and types are made of names that can be seen. -/
theorem isVisible_cells {s : Snapshot} {o : Options} {d : Decl}
    (hd : d ∈ (dialect.build (.ofSnapshot s) o).declarations.listing) :
    ∀ row ∈ cells d, ∀ cell ∈ row, IsVisible cell := by
  obtain ⟨sd, hsd, hd⟩ := List.mem_flatMap.mp hd
  have named := (ensures_spells.named (.ofSnapshot s) o sd hsd).imp fun _ => isVisible_of_spells
  rcases List.mem_append.mp hd with enum | record
  · obtain ⟨e, he, rfl⟩ := List.mem_map.mp enum
    obtain ⟨name, variants⟩ := named.enums e he
    intro row hrow
    obtain ⟨v, hv, rfl⟩ := List.mem_map.mp hrow
    have definition : IsVisible (e.name ++ " = " ++ quote v.value) := by
      rw [String.append_assoc]
      exact name.append _
    simp [variants v hv, definition]
  · obtain ⟨r, hr, rfl⟩ := List.mem_map.mp record
    obtain ⟨-, fields⟩ := named.records r hr
    intro row hrow
    obtain ⟨f, hf, rfl⟩ := List.mem_map.mp hrow
    have type : IsVisible (typeText f.effectiveType) := by
      refine isVisible_typeText ?_
      rw [f.base_effectiveType]
      refine (grounded_base dialect s o sd hsd r hr f hf).offers.elim ?_ (by decide) ?_
      · intro scalar
        cases scalar
        all_goals decide
      · intro t ht
        obtain ⟨sd', hsd', ht⟩ := List.mem_flatMap.mp ht
        exact isVisible_of_spells ((ensures_spells.named (.ofSnapshot s) o sd' hsd').target ht).2
    simp [fields f hf, type, isVisible_tag]

theorem cells_ne_nil {d : Decl} (h : d.members ≠ []) : cells d ≠ [] := by
  cases d with
  | enumeration e => simpa [cells, Decl.members] using h
  | record r => simpa [cells, Decl.members] using h

/-- Columns are as wide in one way only. -/
theorem Columnar.unique {measure measure' : List String → Nat} {d : Decl} (members : d.members ≠ [])
    (visible : ∀ row ∈ cells d, ∀ cell ∈ row, IsVisible cell) (h : Columnar measure d)
    (h' : Columnar measure' d) : (columns d).map measure = (columns d).map measure' := by
  obtain ⟨row, others, eq⟩ := List.exists_cons_of_ne_nil (cells_ne_nil members)
  rw [Columnar, eq] at h h'
  obtain ⟨line, lines, first, -, eq'⟩ := List.forall₂_cons_left_iff.mp h
  obtain ⟨line', lines', first', -, eq''⟩ := List.forall₂_cons_left_iff.mp h'
  obtain ⟨rfl, -⟩ := List.cons.inj (eq'.symm.trans eq'')
  exact first.unique (visible row (eq ▸ List.mem_cons_self)) first'

theorem columnar_longest_iff {d : Decl} (members : d.members ≠ [])
    (visible : ∀ row ∈ cells d, ∀ cell ∈ row, IsVisible cell) :
    Columnar longest d ↔
      ∀ texts ∈ columns d, ∀ text ∈ texts, text.utf8ByteSize ≤ longest texts := by
  simp only [← longest_eq_columnWidth_iff]
  constructor
  · intro h
    exact List.map_inj_left.mp (h.unique members visible (columnar_columnWidth d))
  · intro same
    rw [Columnar, List.map_inj_left.mpr same]
    exact columnar_columnWidth d

theorem tabulated {s : Snapshot} {o : Options} {d : Decl}
    (hd : d ∈ (dialect.build (.ofSnapshot s) o).declarations.listing) (members : d.members ≠ []) :
    Tabulated d (render (dialect.build (.ofSnapshot s) o).declarations) where
  appears := appears_block hd members
  columnar := columnar_columnWidth d
  longest_iff := columnar_longest_iff members (isVisible_cells hd)
  ascii plain := by
    refine (columnar_longest_iff members (isVisible_cells hd)).mpr fun texts ht text h => ?_
    rw [utf8ByteSize_of_ascii (plain texts ht text h)]
    exact longest_le_iff.mp le_rfl text h

end Go

/-- Every struct with fields and every block of constants stands in the output in columns. -/
structure Declarations.Tabulated (ds : Declarations) (output : String) : Prop where
  decls : ∀ d ∈ ds.listing, d.members ≠ [] → Go.Tabulated d output

/-- Rows align whatever the names are, and they stand as gofmt has them if these are in ASCII. -/
theorem Go.generate_tabulated (s : Snapshot) (o : Options) :
    (declare s { o with language := .go }).declarations.Tabulated
      (generate s { o with language := .go }).output where
  decls _ hd members := tabulated hd members

theorem Dialect.map_name_decls_build (d : Dialect) (ix : Index) (o : Options) :
    ∀ sd ∈ (d.build ix o).declarations.schemas, List.Forall₂ (fun r rd => ∀ decl ∈ rd.decls,
      decl.fields.map (·.name) = d.fieldNames ((ix.columns r.id).map (·.name)))
      (ix.relations sd.rawName) sd.relations := by
  refine d.forall_mem_build ix o fun p _ covers => covers.forall₂_relations d _ ?_
  intro r names _ decl hd
  obtain ⟨q, -, rfl⟩ := List.mem_map.mp hd
  exact d.map_name_relationFields ix _ r q.1

/-- A name is free as long as no other has been given out. -/
theorem Dialect.fieldNames_singleton (d : Dialect) (raw : String) :
    d.fieldNames [raw] = [d.escape (d.convention.fieldName raw)] := by
  have first : (d.claim .empty (d.convention.fieldName raw)).1 =
      d.escape (d.convention.fieldName raw) :=
    Registry.claim_of_free Std.HashSet.contains_empty
  rw [← first]
  rfl

theorem map_name_ofColumns (d : Dialect) (o : Options) (raw : String) :
    ∀ sd ∈ (d.build (.ofSnapshot (.ofColumns [raw])) o).declarations.schemas,
      ∀ r ∈ sd.records, r.fields.map (·.name) = [d.escape (d.convention.fieldName raw)] := by
  intro sd hsd r hr
  rcases List.mem_append.mp hr with composite | relation
  · obtain ⟨t, ht, -⟩ := exists_of_forall₂ (attributes_build d _ o sd hsd) r composite
    exact absurd (Index.mem_composites_iff.mp ht).1 (not_isFirst_nil _ t)
  · obtain ⟨rd, hrd, hdecl⟩ := List.mem_flatMap.mp relation
    obtain ⟨rel, hrel, names⟩ := exists_of_forall₂ (d.map_name_decls_build _ o sd hsd) rd hrd
    have first := (Index.mem_relations_iff.mp hrel).1
    obtain rfl : rel = ⟨⟨10, "public", "v"⟩, .view⟩ := List.mem_singleton.mp first.mem
    have columns := List.perm_singleton.mp (Index.columns_perm first.mem)
    rw [names r hdecl, columns, ← d.fieldNames_singleton]
    rfl

/-- The name of the only field takes two bytes, so two blanks stand behind it. -/
theorem Go.exists_not_columnar_longest :
    let ds := (declare (.ofColumns ["é"]) { language := .go }).declarations
    ∃ d ∈ ds.listing, d.members = ["É"] ∧
      Appears (block d) (generate (.ofColumns ["é"]) { language := .go }).output ∧
        ¬ Columnar longest d := by
  intro ds
  obtain ⟨sd, hsd, r, hr, -⟩ := exists_field_ofColumns dialect { language := .go }
    (List.mem_singleton_self "é") (by decide)
  have accented : dialect.escape (convention.fieldName "é") = "É" := by decide +kernel
  have names : r.fields.map (·.name) = ["É"] := by
    rw [map_name_ofColumns dialect { language := .go } "é" sd hsd r hr, ← accented]
    rfl
  have listed : .record r ∈ ds.listing := record_mem_listing hsd hr
  have members : (Decl.record r).members = ["É"] := names
  have shown := tabulated listed (by simp [members])
  refine ⟨_, listed, members, shown.appears, fun gofmt => ?_⟩
  have fits := shown.longest_iff.mp gofmt (r.fields.map (·.name)) List.mem_cons_self
  rw [names] at fits
  exact absurd fits (by decide)

end CatalogTypes
