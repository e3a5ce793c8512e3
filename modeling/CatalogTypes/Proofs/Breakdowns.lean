import CatalogTypes.Proofs.Alignment

/-!
# Columns that are too wide

Widths of columns have 16 bits. Where a name or a type in Go takes more bytes than that, there is no
source text, and generation breaks down; it breaks down on nothing else (`attempt_eq_error_iff`).
Casing shortens no word, so a long raw name is enough (`Go.tooWide_of_field`).
-/

namespace CatalogTypes

open Text

/-! ## Lengths of names -/

namespace Text

theorem length_le_lowerWord (word : List Char) : word.length ≤ (lowerWord word).length := by
  induction word with
  | nil => exact Nat.le_refl _
  | cons c cs ih =>
    have first : 0 < (if c = 'Σ' ∧ cs = [] then ['ς'] else lower c).length := by
      split
      · exact Nat.one_pos
      · exact List.length_pos_of_ne_nil (lower_ne_nil c)
    rw [lowerWord, List.length_append, List.length_cons]
    omega

theorem length_le_capitalize (word : List Char) : word.length ≤ (capitalize word).length := by
  cases word with
  | nil => exact Nat.le_refl _
  | cons c cs =>
    have first := List.length_pos_of_ne_nil (upper_ne_nil c)
    have others := length_le_lowerWord cs
    rw [capitalize, List.length_append, List.length_cons]
    omega

theorem length_flatten_le_capitalize (ws : List (List Char)) :
    ws.flatten.length ≤ (ws.flatMap capitalize).length := by
  induction ws with
  | nil => exact Nat.le_refl _
  | cons word ws ih =>
    rw [List.flatten_cons, List.flatMap_cons, List.length_append, List.length_append]
    exact Nat.add_le_add (length_le_capitalize word) ih

end Text

/-- How many letters and digits there are in a raw name. -/
def wordSize (raw : String) : Nat := (raw.toList.filter isAlphanumeric).length

theorem wordSize_le_pascal (raw : String) : wordSize raw ≤ (Casing.pascal.apply raw).length := by
  rw [wordSize, ← flatten_words, ← String.length_toList, Casing.toList_apply, Casing.spell]
  exact length_flatten_le_capitalize _

namespace Go

theorem wordSize_le_fieldName (raw : String) :
    wordSize raw ≤ (convention.fieldName raw).length := by
  have pascal := wordSize_le_pascal raw
  rw [Convention.fieldName_eq (by decide)]
  cases lead : lead? raw with
  | none =>
    have wordless : wordSize raw = 0 := by
      simpa [wordSize, lead?] using lead
    exact wordless ▸ Nat.zero_le _
  | some c =>
    rw [converted_of_some (by decide) lead]
    split
    · rw [String.length_append]
      exact Nat.le_add_left_of_le pascal
    · exact pascal

/-- Neither a number behind a name nor its escape makes it shorter. -/
theorem length_le_of_gives {base name : String} (h : dialect.Gives base name) :
    base.length ≤ name.length := by
  obtain ⟨n, rfl⟩ := h
  have numbered : base.length ≤ (Registry.candidate base n).length := by
    rw [← String.length_toList, ← String.length_toList, Registry.toList_candidate,
      List.length_append]
    exact Nat.le_add_right _ _
  show _ ≤ (if convention.isReserved _ then _ ++ "_" else _ : String).length
  split
  · rw [String.length_append]
    exact Nat.le_add_right_of_le numbered
  · exact numbered

/-! ## Columns of a source text -/

/-- A name or a type in one of the columns takes more bytes than widths can say. -/
def TooWide (ds : Declarations) : Prop :=
  ∃ d ∈ ds.listing, ∃ texts ∈ columns d, ∃ text ∈ texts, 65535 < text.utf8ByteSize

theorem columnWidth_le_maxWidth_iff {texts : List String} :
    columnWidth texts ≤ maxWidth ↔ ∀ text ∈ texts, ¬ 65535 < text.utf8ByteSize := by
  simp only [columnWidth_le_iff, Nat.not_lt]
  rfl

theorem fits_iff {ds : Declarations} : fits ds ↔ ¬ TooWide ds := by
  have enumeration : ∀ e, enumerationFits e ↔
      ∀ texts ∈ columns (.enumeration e), ∀ text ∈ texts, ¬ 65535 < text.utf8ByteSize := by
    intro e
    simp only [enumerationFits, decide_eq_true_eq, columnWidth_le_maxWidth_iff, columns,
      List.forall_mem_singleton]
  have record : ∀ r, recordFits r ↔
      ∀ texts ∈ columns (.record r), ∀ text ∈ texts, ¬ 65535 < text.utf8ByteSize := by
    intro r
    have names : (r.fields.map (row r.isWrite)).map (·.name) = r.fields.map (·.name) := by
      rw [List.map_map]
      rfl
    have types : (r.fields.map (row r.isWrite)).map (·.type) =
        r.fields.map (typeText ·.effectiveType) := by
      rw [List.map_map]
      rfl
    rw [recordFits, names, types, Bool.and_eq_true, decide_eq_true_eq, decide_eq_true_eq,
      columnWidth_le_maxWidth_iff, columnWidth_le_maxWidth_iff, columns, List.forall_mem_cons,
      List.forall_mem_singleton]
  simp only [fits, TooWide, List.all_eq_true, Bool.and_eq_true, enumeration, record,
    Declarations.listing, SchemaDecls.listing, not_exists, not_and, List.mem_flatMap,
    List.mem_append, List.mem_map, forall_exists_index, and_imp]
  constructor
  · rintro h d sd hsd (⟨e, he, rfl⟩ | ⟨r, hr, rfl⟩)
    · exact (h sd hsd).1 e he
    · exact (h sd hsd).2 r hr
  · intro h sd hsd
    exact ⟨fun e he => h _ sd hsd (.inl ⟨e, he, rfl⟩), fun r hr => h _ sd hsd (.inr ⟨r, hr, rfl⟩)⟩

/-- A field whose raw name has so many letters and digits has a name that is as long. -/
theorem tooWide_of_field {ds : Declarations} {sd : SchemaDecls} (hsd : sd ∈ ds.schemas)
    {r : RecordDecl} (hr : r ∈ sd.records) {f : Field} (hf : f ∈ r.fields)
    (named : dialect.NamesField f) (long : 65535 < wordSize f.rawName) : TooWide ds := by
  refine ⟨_, record_mem_listing hsd hr, _, List.mem_cons_self, _, List.mem_map_of_mem hf, ?_⟩
  calc 65535 < wordSize f.rawName := long
    _ ≤ (convention.fieldName f.rawName).length := wordSize_le_fieldName f.rawName
    _ ≤ f.name.length := length_le_of_gives named
    _ ≤ f.name.utf8ByteSize := length_le_utf8ByteSize f.name

end Go

/-! ## Generation -/

/-- What is asked for is source text in Go that cannot be laid out. -/
def BreaksDown (s : Snapshot) (o : Options) : Prop :=
  o.language = .go ∧ Go.TooWide (declare s o).declarations

section BreaksDown

variable {s : Snapshot} {o : Options}

theorem breakdown?_eq_none_iff :
    o.language.breakdown? (declare s o).declarations = none ↔ ¬ BreaksDown s o := by
  rw [BreaksDown]
  cases o.language with
  | go => simp [Language.breakdown?, ← Go.fits_iff]
  | typescript | swift | python => simp [Language.breakdown?]

theorem attempt_of_not_breaksDown (h : ¬ BreaksDown s o) : attempt s o = .ok (generate s o) := by
  rw [attempt, breakdown?_eq_none_iff.mpr h]

theorem attempt_of_breaksDown (h : BreaksDown s o) : attempt s o = .error .width := by
  rw [attempt]
  cases found : o.language.breakdown? (declare s o).declarations with
  | none => exact absurd h (breakdown?_eq_none_iff.mp found)
  | some b => rfl

/-- The only breakdown is that of a column in Go which is too wide. -/
theorem attempt_eq_error_iff {b : Breakdown} : attempt s o = .error b ↔ BreaksDown s o := by
  by_cases h : BreaksDown s o
  · exact iff_of_true (attempt_of_breaksDown h) h
  · rw [attempt_of_not_breaksDown h]
    exact iff_of_false (by simp) h

/-- Where it does not break down, generation gives the source text and the warnings. -/
theorem attempt_eq_ok_iff {g : Generated} :
    attempt s o = .ok g ↔ ¬ BreaksDown s o ∧ g = generate s o := by
  by_cases h : BreaksDown s o
  · simp [attempt_of_breaksDown h, h]
  · simp [attempt_of_not_breaksDown h, h, eq_comm]

end BreaksDown

theorem breaksDown_ofColumns {o : Options} {raw : String} (go : o.language = .go)
    (emits : (Snapshot.ofColumns [raw]).emits o "public") (long : 65535 < wordSize raw) :
    BreaksDown (.ofColumns [raw]) o := by
  refine ⟨go, ?_⟩
  obtain ⟨sd, hsd, r, hr, f, hf, rawName⟩ := exists_field_ofColumns o.language.dialect o
    (List.mem_singleton_self raw) emits
  have named := o.language.dialect.namesField_build _ o sd hsd r hr f hf
  rw [go] at named
  exact Go.tooWide_of_field hsd hr hf named (rawName.symm ▸ long)

theorem wordSize_replicate (n : Nat) : wordSize (String.ofList (List.replicate n 'a')) = n := by
  have letter : isAlphanumeric 'a' := by decide +kernel
  rw [wordSize, String.toList_ofList, List.filter_eq_self.mpr, List.length_replicate]
  intro c hc
  rwa [List.eq_of_mem_replicate hc]

/-- A name one letter too long. -/
def longName : String := String.ofList (List.replicate 65536 'a')

/-- A view that has a column of that name breaks down in Go. -/
theorem breaksDown_longName {o : Options} (go : o.language = .go)
    (emits : (Snapshot.ofColumns [longName]).emits o "public") :
    BreaksDown (.ofColumns [longName]) o :=
  breaksDown_ofColumns go emits (wordSize_replicate 65536 ▸ Nat.lt_succ_self 65535)

end CatalogTypes
