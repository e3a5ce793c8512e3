import CatalogTypes.Proofs.LineFeeds

/-!
# The text as an outline

In Go and Python all declarations stand at the margin, one below the other. An `Outline` says how a
declaration looks there: the line at the margin that opens it, and the lines below. The lines of the
text are those of the outline and no others (`generate_written`), so a raw name or a label can
neither open a declaration nor add a line to one.
-/

namespace CatalogTypes

open Text Layout

/-! ## Declarations one by one -/

/-- A declaration of either kind. -/
inductive Decl where
  | enumeration (e : EnumDecl)
  | record (r : RecordDecl)

/-- The names of the variants or the fields. -/
def Decl.members : Decl → List String
  | enumeration e => e.variants.map (·.name)
  | record r => r.fields.map (·.name)

/-- Enumerations, then composites, then the declarations of relations. -/
def SchemaDecls.listing (s : SchemaDecls) : List Decl :=
  s.enums.map .enumeration ++ s.records.map .record

def Declarations.listing (ds : Declarations) : List Decl := ds.schemas.flatMap (·.listing)

theorem SchemaDecls.length_listing (s : SchemaDecls) : s.listing.length = s.count := by
  rw [listing, List.length_append, List.length_map, List.length_map, count]

theorem Declarations.length_listing (ds : Declarations) : ds.listing.length = ds.count := by
  obtain ⟨schemas⟩ := ds
  induction schemas with
  | nil => rfl
  | cons s schemas ih =>
    rw [listing, List.flatMap_cons, List.length_append, s.length_listing]
    exact congrArg (s.count + ·) ih

/-! ## Outlines -/

def begins (start line : String) : Bool := start.toList.isPrefixOf line.toList

theorem begins_iff {start line : String} : begins start line ↔ ∃ rest, line = start ++ rest := by
  rw [begins, List.isPrefixOf_iff_prefix]
  exact Go.toList_prefix_iff

theorem begins_append (start rest : String) : begins start (start ++ rest) :=
  begins_iff.mpr ⟨rest, rfl⟩

theorem filter_begins_eq_nil {start : String} {lines : List String}
    (h : ∀ line ∈ lines, begins start line = false) : lines.filter (begins start) = [] := by
  rw [List.filter_eq_nil_iff]
  intro line hl
  simp [h line hl]

/-- A declaration as the text shows it: a line at the margin, and the lines below it. -/
structure Entry where
  header : String
  body : List String

/-- How a language sets declarations one below the other. -/
structure Outline where
  /-- What a line has at its start that opens a declaration, and no other line has. -/
  start : String
  /-- The indentation of the lines for variants and fields. -/
  indentation : String
  /-- The indented lines of a declaration without variants or fields. -/
  filler : List String
  /-- The lines before all declarations. -/
  preamble : List String
  /-- The lines before each declaration. -/
  gap : List String
  entry : Decl → Entry

namespace Outline

variable (out : Outline)

def lines (ds : Declarations) : List String :=
  out.preamble ++ ds.listing.flatMap fun d =>
    out.gap ++ (out.entry d).header :: (out.entry d).body

/-- The rows are one indented line for each of the names, in order; without names, the filler. -/
inductive Rows : List String → List String → Prop
  | filler : Rows [] out.filler
  | members {names rows : List String} (ne : names ≠ [])
      (h : List.Forall₂ (fun name row => begins (out.indentation ++ name) row) names rows) :
      Rows names rows

/-- The lines are those of the outline. The lines that open declarations are found by their start,
one for each declaration, and the indented lines below them are one for each variant or field. -/
structure Fits (ds : Declarations) (lines : List String) : Prop where
  outlined : lines = out.lines ds
  headers : lines.filter (begins out.start) = ds.listing.map (out.entry · |>.header)
  count : (lines.filter (begins out.start)).length = ds.count
  rows : ∀ d ∈ ds.listing,
    out.Rows d.members ((out.entry d).body.filter (begins out.indentation))

/-- What makes an outline readable: the start and the indentation tell its lines apart. -/
structure Readable : Prop where
  header : ∀ d, begins out.start (out.entry d).header
  body : ∀ d, ∀ line ∈ (out.entry d).body, begins out.start line = false
  preamble : ∀ line ∈ out.preamble, begins out.start line = false
  gap : ∀ line ∈ out.gap, begins out.start line = false
  rows : ∀ d, out.Rows d.members ((out.entry d).body.filter (begins out.indentation))

/-- Lines with the indentation, between others without it. -/
theorem rows_of_map {α : Type} (f name : α → String) (row : ∀ x, ∃ rest, f x = name x ++ rest)
    (xs : List α) (before after : List String)
    (plain : ∀ line ∈ before ++ after, begins out.indentation line = false)
    (filler : xs = [] → out.filler = []) :
    out.Rows (xs.map name)
      ((before ++ xs.map (fun x => out.indentation ++ f x) ++ after).filter
        (begins out.indentation)) := by
  have all : (xs.map fun x => out.indentation ++ f x).filter (begins out.indentation) =
      xs.map fun x => out.indentation ++ f x := by
    rw [List.filter_eq_self]
    intro line hl
    obtain ⟨x, -, rfl⟩ := List.mem_map.mp hl
    exact begins_append ..
  rw [List.forall_mem_append] at plain
  rw [List.filter_append, List.filter_append, filter_begins_eq_nil plain.1,
    filter_begins_eq_nil plain.2, all,
    List.nil_append, List.append_nil]
  by_cases empty : xs = []
  · have rows : out.Rows [] out.filler := .filler
    rw [filler empty] at rows
    rw [empty, List.map_nil, List.map_nil]
    exact rows
  · refine .members (by simpa using empty) ?_
    rw [List.forall₂_map_left_iff, List.forall₂_map_right_iff, List.forall₂_same]
    intro x _
    obtain ⟨rest, eq⟩ := row x
    rw [eq, ← String.append_assoc]
    exact begins_append ..

variable {out}

theorem Readable.filter_lines (h : out.Readable) (ds : Declarations) :
    (out.lines ds).filter (begins out.start) = ds.listing.map (out.entry · |>.header) := by
  have entry : ∀ d, (out.gap ++ (out.entry d).header :: (out.entry d).body).filter
      (begins out.start) = [(out.entry d).header] := by
    intro d
    rw [List.filter_append, filter_begins_eq_nil h.gap, List.filter_cons_of_pos (h.header d),
      filter_begins_eq_nil (h.body d)]
    rfl
  rw [lines, List.filter_append, filter_begins_eq_nil h.preamble, List.nil_append,
    List.filter_flatMap, List.map_eq_flatMap]
  exact List.flatMap_congr fun d _ => entry d

theorem Readable.fits (h : out.Readable) (ds : Declarations) : out.Fits ds (out.lines ds) where
  outlined := rfl
  headers := h.filter_lines ds
  count := by rw [h.filter_lines, List.length_map, ds.length_listing]
  rows d _ := h.rows d

/-- Every declaration is laid out as the outline has it. -/
def Lays (out : Outline) (unit : String) (items : Decl → List Item) : Prop :=
  ∀ d, Balanced (items d) ∧
    (Layout.lines unit 0 (items d)).1 = out.gap ++ (out.entry d).header :: (out.entry d).body

section Lays

variable {unit : String} {items : Decl → List Item} (h : out.Lays unit items) {ds : Declarations}
  {f : SchemaDecls → List Item} (hf : ∀ s ∈ ds.schemas, f s = s.listing.flatMap items)
include hf

omit h in
theorem flatMap_listing : ds.schemas.flatMap f = ds.listing.flatMap items := by
  rw [Declarations.listing, List.flatMap_assoc]
  exact List.flatMap_congr hf

include h

theorem Lays.lines_listing :
    (Layout.lines unit 0 (ds.schemas.flatMap f)).1 = ds.listing.flatMap fun d =>
      out.gap ++ (out.entry d).header :: (out.entry d).body := by
  rw [flatMap_listing hf, lines_flatMap fun d _ => (h d).1]
  exact List.flatMap_congr fun d _ => (h d).2

theorem Lays.within {d : Decl} (hd : d ∈ ds.listing) :
    Within (items d) (ds.schemas.flatMap f) := by
  rw [flatMap_listing hf]
  exact within_flatMap hd fun d _ => (h d).1

end Lays

end Outline

/-! ## Go -/

namespace Go

/-- The line of a constant, not indented yet. -/
def variantText (e : EnumDecl) (v : Variant) : String :=
  pad (columnWidth (e.variants.map (·.name))) v.name ++ " " ++ e.name ++ " = " ++ quote v.value

def entry : Decl → Entry
  | .enumeration e => {
      header := "type " ++ e.name ++ " string"
      body := if e.variants.isEmpty then [] else
        ["", "const ("] ++ e.variants.map ("\t" ++ variantText e ·) ++ [")"] }
  | .record r => {
      header := "type " ++ r.name ++ " struct \x7b"
      body := r.fields.map ("\t" ++ fieldText r ·) ++ ["\x7d"] }

/-- Types and the constants of enumerations, tabbed. -/
def outline : Outline where
  start := "type "
  indentation := "\t"
  filler := []
  preamble := ["package database"]
  gap := [""]
  entry := entry

def items : Decl → List Item
  | .enumeration e => .blank :: enumeration e
  | .record r => [.blank, record r]

theorem schema_eq (s : SchemaDecls) : schema s = s.listing.flatMap items := by
  rw [SchemaDecls.listing, List.flatMap_append, List.flatMap_map, List.flatMap_map]
  rfl

theorem lines_rows {α : Type} (f : α → String) (ne : ∀ x, f x ≠ "") (xs : List α) :
    (lines "\t" 1 ((xs.map f).map .line)).1 = xs.map ("\t" ++ f ·) := by
  rw [lines_texts, List.map_map]
  exact List.map_congr_left fun x _ => lineAt_one (ne x)

theorem variantText_ne (e : EnumDecl) (v : Variant) : variantText e v ≠ "" := by
  intro h
  have chars := congrArg String.toList h
  simp [variantText] at chars

theorem fieldText_ne (r : RecordDecl) (f : Field) : fieldText r f ≠ "" := by
  intro h
  have chars := congrArg String.toList h
  simp [fieldText] at chars

theorem enumeration_eq (e : EnumDecl) :
    enumeration e = .line ("type " ++ e.name ++ " string") ::
      if e.variants.isEmpty then []
      else [.blank, .block "const (" ")" ((e.variants.map (variantText e)).map .line)] := by
  rw [List.map_map]
  rfl

theorem lays : outline.Lays "\t" items := by
  intro d
  cases d with
  | enumeration e =>
    refine ⟨.blank (balanced_enumeration e), ?_⟩
    have block : (lines "\t" 0
        [.block "const (" ")" ((e.variants.map (variantText e)).map .line)]).1 =
          ["const ("] ++ e.variants.map ("\t" ++ variantText e ·) ++ [")"] := by
      rw [lines_block (balanced_lines _), lines_rows _ (variantText_ne e), lineAt_zero, lineAt_zero]
      rfl
    rw [items, enumeration_eq]
    show "" :: lineAt "\t" 0 ("type " ++ e.name ++ " string") :: (lines "\t" 0 _).1 =
      "" :: ("type " ++ e.name ++ " string") :: if e.variants.isEmpty then [] else _
    rw [lineAt_zero]
    split
    · rfl
    · exact congrArg (fun rows => "" :: _ :: "" :: rows) block
  | record r =>
    refine ⟨.blank (balanced_record r), ?_⟩
    have header : "type " ++ r.name ++ " struct" ++ " \x7b" =
        "type " ++ r.name ++ " struct \x7b" := by
      simp [String.append_assoc]
    show "" :: (lines "\t" 0 [record r]).1 = _
    rw [record_eq, lines_braces (balanced_lines _), lines_rows (fieldText r) (fieldText_ne r),
      lineAt_zero, lineAt_zero, header]
    rfl

theorem readable : outline.Readable where
  header d := by
    cases d with
    | enumeration e => exact begins_iff.mpr ⟨_, String.append_assoc⟩
    | record r => exact begins_iff.mpr ⟨_, String.append_assoc⟩
  body d line hl := by
    cases d with
    | enumeration e =>
      simp only [outline, entry] at hl
      split at hl
      · cases hl
      · simp only [List.mem_append, List.mem_cons, List.mem_map, List.not_mem_nil, or_false] at hl
        rcases hl with ((rfl | rfl) | ⟨v, -, rfl⟩) | rfl
        · rfl
        · rfl
        · simp [begins, outline, List.isPrefixOf]
        · rfl
    | record r =>
      simp only [outline, entry, List.mem_append, List.mem_map, List.mem_singleton] at hl
      rcases hl with ⟨f, -, rfl⟩ | rfl
      · simp [begins, outline, List.isPrefixOf]
      · rfl
  preamble := by decide
  gap := by decide
  rows d := by
    have padded : ∀ width name, ∃ rest, pad width name = name ++ rest := fun _ _ => ⟨_, rfl⟩
    cases d with
    | enumeration e =>
      by_cases empty : e.variants = []
      · simp only [outline, entry, Decl.members, empty]
        exact .filler
      · have filled : e.variants.isEmpty = false := by simpa using empty
        simp only [outline, entry, filled, Bool.false_eq_true, if_false]
        refine outline.rows_of_map (variantText e) (·.name) ?_ _ _ _ (by decide) fun _ => rfl
        intro v
        obtain ⟨rest, eq⟩ := padded (columnWidth (e.variants.map (·.name))) v.name
        exact ⟨_, by simp only [variantText, eq, String.append_assoc]; rfl⟩
    | record r =>
      refine outline.rows_of_map (fieldText r) (·.name) ?_ _ [] _ (by decide) fun _ => rfl
      intro f
      obtain ⟨rest, eq⟩ := padded (columnWidth (r.fields.map (·.name))) f.name
      exact ⟨_, by simp only [fieldText, eq, String.append_assoc]; rfl⟩

theorem lines_source (ds : Declarations) :
    (lines "\t" 0 (source ds)).1 = outline.lines ds := by
  show lineAt "\t" 0 "package database" :: (lines "\t" 0 (ds.schemas.flatMap schema)).1 = _
  rw [lays.lines_listing fun s _ => schema_eq s, lineAt_zero]
  rfl

end Go

/-! ## Python -/

namespace Python

/-- The line of a member of an enumeration, not indented yet. -/
def variantText (v : Variant) : String := v.name ++ " = " ++ quote v.value

def classEntry (name base : String) (rows : List String) : Entry where
  header := "class " ++ name ++ "(" ++ base ++ "):"
  body := if rows.isEmpty then ["    pass"] else rows.map ("    " ++ ·)

def entry : Decl → Entry
  | .enumeration e => classEntry e.name "str, Enum" (e.variants.map variantText)
  | .record r => classEntry r.name (base r) (r.fields.map (fieldText r))

/-- Classes, none of them without a line. -/
def outline : Outline where
  start := "class "
  indentation := "    "
  filler := ["    pass"]
  preamble := [
    "from __future__ import annotations", "", "import datetime", "import uuid",
    "from enum import Enum", "from typing import Annotated, Any, Dict, List, Optional", "",
    "from pydantic import BaseModel, Field", "from typing_extensions import NotRequired, TypedDict"]
  gap := ["", ""]
  entry := entry

def items : Decl → List Item
  | .enumeration e => enumeration e
  | .record r => relationRecord r

theorem schema_eq {s : SchemaDecls} (h : ∀ c ∈ s.composites, c.isWrite = false) :
    schema s = s.listing.flatMap items := by
  have composites : s.composites.flatMap model = s.composites.flatMap relationRecord :=
    List.flatMap_congr fun c hc => by rw [relationRecord, h c hc]; rfl
  rw [SchemaDecls.listing, SchemaDecls.records, List.flatMap_append, List.flatMap_map,
    List.flatMap_map, List.flatMap_append, ← List.append_assoc, schema, composites]
  rfl

theorem variantText_ne (v : Variant) : variantText v ≠ "" := by
  intro h
  have chars := congrArg String.toList h
  simp [variantText] at chars

theorem fieldText_ne (r : RecordDecl) (f : Field) : fieldText r f ≠ "" := by
  intro h
  have chars := congrArg String.toList h
  unfold fieldText at chars
  split at chars
  all_goals simp at chars

theorem lines_classItems (name base : String) {rows : List String} (ne : ∀ row ∈ rows, row ≠ "") :
    (lines "    " 0 (classItems name base rows)).1 =
      ["", ""] ++ (classEntry name base rows).header :: (classEntry name base rows).body := by
  show "" :: "" :: lineAt "    " 0 ("class " ++ name ++ "(" ++ base ++ "):") ::
    (lines "    " 0 (.indent :: (if rows.isEmpty then ["pass"] else rows).map .line ++
      .dedent :: [])).1 = _
  rw [lines_indented (balanced_lines _), lines_texts, lineAt_zero]
  refine congrArg (fun body => "" :: "" :: _ :: body) ?_
  rw [classEntry]
  dsimp only
  split
  · rfl
  · rw [show (lines "    " 0 []).1 = [] from rfl, List.append_nil]
    exact List.map_congr_left fun row hr => lineAt_one (ne row hr)

theorem lays : outline.Lays "    " items := by
  intro d
  cases d with
  | enumeration e =>
    refine ⟨balanced_classItems .., lines_classItems _ _ fun row hr => ?_⟩
    obtain ⟨v, -, rfl⟩ := List.mem_map.mp hr
    exact variantText_ne v
  | record r =>
    refine ⟨balanced_relationRecord r, ?_⟩
    rw [items, relationRecord_eq]
    refine lines_classItems _ _ fun row hr => ?_
    obtain ⟨f, -, rfl⟩ := List.mem_map.mp hr
    exact fieldText_ne r f

theorem begins_classEntry (name base : String) (rows : List String) :
    begins "class " (classEntry name base rows).header := by
  rw [classEntry]
  simp only [String.append_assoc]
  exact begins_append ..

theorem not_begins_body (name base : String) (rows : List String) :
    ∀ line ∈ (classEntry name base rows).body, begins "class " line = false := by
  intro line hl
  rw [classEntry] at hl
  dsimp only at hl
  split at hl
  · rw [List.mem_singleton.mp hl]
    rfl
  · obtain ⟨row, -, rfl⟩ := List.mem_map.mp hl
    simp [begins, List.isPrefixOf]

theorem rows_classEntry {α : Type} (className base : String) (f name : α → String)
    (row : ∀ x, ∃ rest, f x = name x ++ rest) (xs : List α) :
    outline.Rows (xs.map name)
      ((classEntry className base (xs.map f)).body.filter (begins outline.indentation)) := by
  rw [classEntry]
  dsimp only
  cases xs with
  | nil => exact .filler
  | cons x xs =>
    have rows := outline.rows_of_map f name row (x :: xs) [] [] (by simp) fun h => by cases h
    rw [List.nil_append, List.append_nil] at rows
    rw [if_neg (by simp), List.map_map]
    exact rows

theorem readable : outline.Readable where
  header d := by
    cases d with
    | enumeration e => exact begins_classEntry ..
    | record r => exact begins_classEntry ..
  body d := by
    cases d with
    | enumeration e => exact not_begins_body _ _ _
    | record r => exact not_begins_body _ _ _
  preamble := by decide
  gap := by decide
  rows d := by
    cases d with
    | enumeration e =>
      refine rows_classEntry _ _ variantText (·.name) (fun v => ?_) e.variants
      exact ⟨_, String.append_assoc⟩
    | record r =>
      refine rows_classEntry _ _ (fieldText r) (·.name) (fun f => ?_) r.fields
      unfold fieldText
      split
      · exact ⟨_, String.append_assoc⟩
      · exact ⟨_, by simp only [String.append_assoc]; rfl⟩

theorem lines_source {ds : Declarations}
    (h : ∀ s ∈ ds.schemas, ∀ c ∈ s.composites, c.isWrite = false) :
    (lines "    " 0 (source ds)).1 = outline.lines ds := by
  rw [source, balanced_header.lines_append, lays.lines_listing fun s hs => schema_eq (h s hs)]
  rfl

end Python

/-! ## What is written -/

namespace Language

/-- How declarations stand in the languages that do not nest them. -/
def outline? : Language → Option Outline
  | typescript => none
  | go => some Go.outline
  | swift => none
  | python => some Python.outline

/-- The lines that are laid out for declarations. -/
def lines (language : Language) (access : Access) (ds : Declarations) : List String :=
  (Layout.lines language.unit 0 (language.source access ds)).1

theorem fits_lines (language : Language) (access : Access) {ds : Declarations}
    (h : ∀ s ∈ ds.schemas, ∀ c ∈ s.composites, c.isWrite = false) :
    ∀ out ∈ language.outline?, out.Fits ds (language.lines access ds) := by
  intro out hout
  cases language with
  | typescript => cases hout
  | go =>
    obtain rfl := Option.some.inj hout
    show Go.outline.Fits ds (Layout.lines "\t" 0 (Go.source ds)).1
    rw [Go.lines_source]
    exact Go.readable.fits ds
  | swift => cases hout
  | python =>
    obtain rfl := Option.some.inj hout
    show Python.outline.Fits ds (Layout.lines "    " 0 (Python.source ds)).1
    rw [Python.lines_source h]
    exact Python.readable.fits ds

end Language

/-- The lines of the output are those that were laid out, since no text breaks a line; where
declarations are not nested, they are those of the outline. -/
structure Declarations.Written (ds : Declarations) (language : Language) (access : Access)
    (output : String) : Prop where
  texts : Every (Lacks '\n') (language.source access ds)
  lines : HasLines output (language.lines access ds)
  outline : ∀ out ∈ language.outline?, out.Fits ds (language.lines access ds)

theorem isWrite_composites_build (d : Dialect) (s : Snapshot) (o : Options) :
    ∀ sd ∈ (d.build (.ofSnapshot s) o).declarations.schemas, ∀ c ∈ sd.composites,
      c.isWrite = false := by
  refine d.forall_mem_build _ o fun p _ covers c hc => ?_
  have declared := covers.forall₂_composites d (d.emitted (.ofSnapshot s) o)
    (R := fun _ c => c.origin = .composite) fun _ _ => rfl
  obtain ⟨t, -, origin⟩ := exists_of_forall₂ declared c hc
  rw [RecordDecl.isWrite, RecordDecl.operation?, origin]
  rfl

/-- Whatever characters the names and labels have, each line of the text is one that was laid out,
and each declaration has its line and the lines of its variants or fields. -/
theorem generate_written (s : Snapshot) (o : Options) :
    (declare s o).declarations.Written o.language o.access (generate s o).output where
  texts := o.language.every_source o.access s o
  lines := by
    rw [generate, Language.render_eq]
    exact hasLines_text o.language.lacks_unit (o.language.every_source o.access s o)
  outline := o.language.fits_lines o.access (isWrite_composites_build o.language.dialect s o)

end CatalogTypes
