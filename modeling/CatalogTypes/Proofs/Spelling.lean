import CatalogTypes.Proofs.FreshNames
import CatalogTypes.Proofs.Plans
import CatalogTypes.Text.Cut

/-!
# The characters of generated names

Casing keeps letters and digits only, and no case mapping leads from a letter out of the letters of
ASCII and the characters above it. So a generated name holds no ASCII character that a target
language reads as punctuation, apart from the backticks around a reserved word.
-/

namespace CatalogTypes

open Text

/-- What casing leaves: ASCII letters and digits, and whatever lies above ASCII. -/
def isWordChar (c : Char) : Bool := c.isAlphanum || 0x80 ≤ c.toNat

def isNameChar (c : Char) : Bool := isWordChar c || c == '_'

theorem isWordChar_of_isAlphanumeric {c : Char} (h : isAlphanumeric c) : isWordChar c := by
  by_cases ascii : c.toNat < 0x80
  · rw [isAlphanumeric_of_ascii ascii] at h
    simp [isWordChar, h]
  · simp [isWordChar, Nat.not_lt.mp ascii]

theorem isWordChar_of_isDigit {c : Char} (h : c.isDigit) : isWordChar c := by
  simp [isWordChar, Char.isAlphanum, h]

theorem isNameChar_of_isWordChar {c : Char} (h : isWordChar c) : isNameChar c := by
  simp [isNameChar, h]

/-! ## Case mappings -/

namespace Text

/-- The run leads to characters above ASCII, or it maps a single character to a word character. -/
def CaseRun.Lands (run : CaseRun) : Prop :=
  0x80 ≤ run.first + run.offset ∧
      (run.last + run.offset < 0xD800 ∨
        0xDFFF < run.first + run.offset ∧ run.last + run.offset < 0x110000) ∨
    run.first = run.last ∧ isWordChar (Char.ofNat (run.first + run.offset).toNat)

instance (run : CaseRun) : Decidable run.Lands := inferInstanceAs (Decidable (_ ∨ _))

theorem lands_lowerRuns : ∀ run ∈ lowerRuns, run.Lands := by decide +kernel

theorem lands_upperRuns : ∀ run ∈ upperRuns, run.Lands := by decide +kernel

theorem isWordChar_lowerSpecial :
    ∀ entry ∈ lowerSpecial, ∀ n ∈ entry.2, isWordChar (Char.ofNat n) := by decide +kernel

theorem isWordChar_upperSpecial :
    ∀ entry ∈ upperSpecial, ∀ n ∈ entry.2, isWordChar (Char.ofNat n) := by decide +kernel

theorem isWordChar_ofNat {n : Nat} (h : 0x80 ≤ n) (valid : n.isValidChar) :
    isWordChar (Char.ofNat n) := by
  have value : (Char.ofNat n).toNat = n := by
    rw [Char.ofNat, dif_pos valid]
    rfl
  simp [isWordChar, value, h]

theorem CaseRun.of_image? {run : CaseRun} {n image : Nat} (h : run.image? n = some image) :
    run.first ≤ n ∧ n ≤ run.last ∧ image = (n + run.offset).toNat := by
  unfold image? at h
  split at h
  case isFalse => exact absurd h (by simp)
  case isTrue within =>
    simp only [Bool.and_eq_true, decide_eq_true_eq] at within
    exact ⟨within.1.1, within.1.2, (Option.some.inj h).symm⟩

/-- An image lies above ASCII, or it is the one image of its run. -/
theorem CaseRun.Lands.image {run : CaseRun} (h : run.Lands) {n image : Nat}
    (hn : run.image? n = some image) :
    0x80 ≤ image ∧ image.isValidChar ∨
      run.first = run.last ∧ image = (run.first + run.offset).toNat ∧
        isWordChar (Char.ofNat image) := by
  obtain ⟨first, last, rfl⟩ := of_image? hn
  rcases h with ⟨above, valid⟩ | ⟨single, h⟩
  · refine .inl ⟨by omega, ?_⟩
    rcases valid with valid | ⟨low, high⟩
    · exact .inl (by omega)
    · exact .inr ⟨by omega, by omega⟩
  · obtain rfl : n = run.first := by omega
    exact .inr ⟨single, rfl, h⟩

theorem CaseRun.Lands.toNat_image {run : CaseRun} (h : run.Lands) {n image : Nat}
    (hn : run.image? n = some image) : (Char.ofNat image).toNat = image := by
  have valid : image.isValidChar := by
    rcases h.image hn with ⟨-, valid⟩ | ⟨-, -, word⟩
    · exact valid
    · by_contra invalid
      rw [Char.ofNat, dif_neg invalid] at word
      exact absurd word (by decide)
  rw [Char.ofNat, dif_pos valid]
  rfl

theorem CaseRun.Lands.isWordChar {run : CaseRun} (h : run.Lands) {n image : Nat}
    (hn : run.image? n = some image) : isWordChar (Char.ofNat image) := by
  rcases h.image hn with ⟨above, valid⟩ | ⟨-, -, word⟩
  · exact isWordChar_ofNat above valid
  · exact word

/-- What holds of the characters of all runs and special cases and their images, and of a character
itself, holds of the character and its image. -/
theorem forall_mapCase {P : Nat → Char → Prop} {runs : List CaseRun}
    {special : List (Nat × List Nat)}
    (hruns : ∀ run ∈ runs, ∀ n image, run.image? n = some image → P n (Char.ofNat image))
    (hspecial : ∀ entry ∈ special, ∀ n ∈ entry.2, P entry.1 (Char.ofNat n)) {c : Char}
    (h : P c.toNat c) : ∀ d ∈ mapCase runs special c, P c.toNat d := by
  intro d hd
  unfold mapCase at hd
  split at hd
  · next image found =>
    obtain ⟨n, hn, rfl⟩ := List.mem_map.mp hd
    obtain ⟨_, _, rfl, -⟩ := List.lookup_eq_some_iff.mp found
    exact hspecial (c.toNat, image) (by simp) n hn
  · rw [List.mem_singleton] at hd
    cases found : runs.findSome? (·.image? c.toNat) with
    | none => simpa [hd, found] using h
    | some image =>
      obtain ⟨run, hrun, himage⟩ := List.exists_of_findSome?_eq_some found
      rw [hd, found]
      exact hruns run hrun _ image himage

theorem isWordChar_mapCase {runs : List CaseRun} {special : List (Nat × List Nat)}
    (hruns : ∀ run ∈ runs, run.Lands)
    (hspecial : ∀ entry ∈ special, ∀ n ∈ entry.2, isWordChar (Char.ofNat n)) {c : Char}
    (h : isWordChar c) : ∀ d ∈ mapCase runs special c, isWordChar d :=
  forall_mapCase (P := fun _ d => isWordChar d) (fun run hrun _ _ => (hruns run hrun).isWordChar)
    hspecial h

/-- What holds above ASCII holds of all images there, if it does of those that lead into ASCII. -/
theorem forall_mapCase_of_above {P : Char → Prop} {runs : List CaseRun}
    {special : List (Nat × List Nat)} (above : ∀ d : Char, 0x80 ≤ d.toNat → P d)
    (lands : ∀ run ∈ runs, run.Lands)
    (hsingle : ∀ run ∈ runs, run.first = run.last →
      P (Char.ofNat (run.first + run.offset).toNat))
    (hspecial : ∀ entry ∈ special, ∀ n ∈ entry.2, P (Char.ofNat n)) {c : Char}
    (hc : 0x80 ≤ c.toNat) : ∀ d ∈ mapCase runs special c, P d := by
  refine forall_mapCase (P := fun _ => P) (fun run hrun n image found => ?_) hspecial (above c hc)
  rcases (lands run hrun).image found with ⟨high, valid⟩ | ⟨single, rfl, -⟩
  · refine above _ ?_
    rwa [Char.ofNat, dif_pos valid]
  · exact hsingle run hrun single

theorem mapCase_ne_nil {runs : List CaseRun} {special : List (Nat × List Nat)}
    (hspecial : ∀ entry ∈ special, entry.2 ≠ []) (c : Char) : mapCase runs special c ≠ [] := by
  unfold mapCase
  split
  · next image found =>
    obtain ⟨_, _, table, -⟩ := List.lookup_eq_some_iff.mp found
    simpa using hspecial (c.toNat, image) (by simp [table])
  · simp

theorem forall_ascii {P : Char → Prop} (h : ∀ n < 0x80, P (Char.ofNat n)) {c : Char}
    (ascii : c.toNat < 0x80) : P c := by
  rw [← Char.ofNat_toNat c]
  exact h _ ascii

theorem forall_lower {P : Char → Prop} {c : Char} (ascii : c.toNat < 0x80 → P c.toLower)
    (above : 0x80 ≤ c.toNat → ∀ d ∈ mapCase lowerRuns lowerSpecial c, P d) :
    ∀ d ∈ lower c, P d := by
  unfold lower
  split
  · next h =>
    intro d hd
    rw [List.mem_singleton.mp hd]
    exact ascii h
  · next h => exact above (Nat.not_lt.mp h)

theorem forall_upper {P : Char → Prop} {c : Char} (ascii : c.toNat < 0x80 → P c.toUpper)
    (above : 0x80 ≤ c.toNat → ∀ d ∈ mapCase upperRuns upperSpecial c, P d) :
    ∀ d ∈ upper c, P d := by
  unfold upper
  split
  · next h =>
    intro d hd
    rw [List.mem_singleton.mp hd]
    exact ascii h
  · next h => exact above (Nat.not_lt.mp h)

theorem isWordChar_lower {c : Char} (h : isWordChar c) : ∀ d ∈ lower c, isWordChar d := by
  apply forall_lower
  · intro ascii
    exact forall_ascii (P := fun c => isWordChar c → isWordChar c.toLower) (by decide) ascii h
  · exact fun _ => isWordChar_mapCase lands_lowerRuns isWordChar_lowerSpecial h

theorem isWordChar_upper {c : Char} (h : isWordChar c) : ∀ d ∈ upper c, isWordChar d := by
  apply forall_upper
  · intro ascii
    exact forall_ascii (P := fun c => isWordChar c → isWordChar c.toUpper) (by decide) ascii h
  · exact fun _ => isWordChar_mapCase lands_upperRuns isWordChar_upperSpecial h

theorem lower_ne_nil (c : Char) : lower c ≠ [] := by
  unfold lower
  split
  · simp
  · exact mapCase_ne_nil (by decide) c

theorem upper_ne_nil (c : Char) : upper c ≠ [] := by
  unfold upper
  split
  · simp
  · exact mapCase_ne_nil (by decide +kernel) c

/-! ## Words -/

theorem mem_pieces {cs piece : List Char} (h : piece ∈ pieces cs) :
    ∀ c ∈ piece, isAlphanumeric c := by
  intro c hc
  simpa using not_of_mem_splitOnP h c hc

theorem isWordChar_of_mem_words {cs word : List Char} (h : word ∈ words cs) :
    ∀ c ∈ word, isWordChar c := by
  intro c hc
  obtain ⟨piece, hp, hword⟩ := List.mem_flatMap.mp h
  refine isWordChar_of_isAlphanumeric (mem_pieces hp c ?_)
  rw [← List.nil_append piece, ← List.reverse_nil, ← flatten_cut .fresh]
  exact List.mem_flatten_of_mem hword hc

theorem isWordChar_lowerWord {word : List Char} (h : ∀ c ∈ word, isWordChar c) :
    ∀ c ∈ lowerWord word, isWordChar c := by
  induction word with
  | nil => simp [lowerWord]
  | cons c cs ih =>
    intro d hd
    rcases List.mem_append.mp hd with hd | hd
    · split at hd
      · rw [List.mem_singleton.mp hd]
        decide
      · exact isWordChar_lower (h c List.mem_cons_self) d hd
    · exact ih (fun c hc => h c (List.mem_cons_of_mem _ hc)) d hd

theorem isWordChar_capitalize {word : List Char} (h : ∀ c ∈ word, isWordChar c) :
    ∀ c ∈ capitalize word, isWordChar c := by
  cases word with
  | nil => simp [capitalize]
  | cons c cs =>
    intro d hd
    rcases List.mem_append.mp hd with hd | hd
    · exact isWordChar_upper (h c List.mem_cons_self) d hd
    · exact isWordChar_lowerWord (fun c hc => h c (List.mem_cons_of_mem _ hc)) d hd

end Text

/-! ## Names -/

/-- A name made of name characters only. -/
def IsClean (name : String) : Prop := ∀ c ∈ name.toList, isNameChar c

instance (name : String) : Decidable (IsClean name) :=
  decidable_of_iff (name.toList.all isNameChar) (by simp [IsClean])

theorem IsClean.append {a b : String} (ha : IsClean a) (hb : IsClean b) : IsClean (a ++ b) := by
  intro c hc
  rw [String.toList_append, List.mem_append] at hc
  exact hc.elim (ha c) (hb c)

theorem isWordChar_pascal (raw : String) :
    ∀ c ∈ (Casing.pascal.apply raw).toList, isWordChar c := by
  intro c hc
  rw [Casing.toList_apply] at hc
  obtain ⟨word, hword, hc⟩ := List.mem_flatMap.mp hc
  exact isWordChar_capitalize (isWordChar_of_mem_words hword) c hc

theorem isClean_pascal (raw : String) : IsClean (Casing.pascal.apply raw) :=
  fun c hc => isNameChar_of_isWordChar (isWordChar_pascal raw c hc)

theorem isClean_typeName (raw : String) : IsClean (typeName raw) := by
  have clean := isClean_pascal raw
  have lead : IsClean "T" := by decide
  simp only [typeName]
  split
  · exact lead
  · split
    · exact lead.append clean
    · exact clean

theorem isClean_candidate {base : String} (h : IsClean base) (n : Nat) :
    IsClean (Registry.candidate base n) := by
  intro c hc
  rw [Registry.toList_candidate, List.mem_append] at hc
  rcases hc with hc | hc
  · exact h c hc
  · exact isNameChar_of_isWordChar (isWordChar_of_isDigit (Registry.isDigit_of_mem_suffix c hc))

/-- A name as it is written: backticks may stand around a reserved word. -/
def IsShown (name : String) : Prop := ∀ c ∈ name.toList, isNameChar c ∨ c = '\x60'

theorem isShown_escape {conv : Convention} (h : conv.escaping ≠ .quote) {name : String}
    (clean : IsClean name) : IsShown (conv.escape name) := by
  have shown : IsShown name := fun c hc => .inl (clean c hc)
  unfold Convention.escape
  cases hesc : conv.escaping with
  | backticks =>
    simp only
    split
    · intro c hc
      simp only [String.toList_append, List.mem_append, String.reduceToList, List.mem_singleton,
        or_assoc] at hc
      rcases hc with hc | hc | hc
      · exact .inr hc
      · exact shown c hc
      · exact .inr hc
    · exact shown
  | trailingUnderscore =>
    simp only
    split
    · exact fun c hc => .inl (clean.append (by decide : IsClean "_") c hc)
    · exact shown
  | quote => exact absurd hesc h

theorem IsShown.not_mem {name : String} (h : IsShown name) {c : Char}
    (hc : isNameChar c = false) (hb : c ≠ '\x60') : c ∉ name.toList := by
  intro mem
  rcases h c mem with name | backtick
  · simp [hc] at name
  · exact hb backtick

/-! ## Names of types -/

/-- The names of schemas and types are put together from the words of raw names. -/
structure Dialect.Clean (d : Dialect) : Prop where
  escaping : d.convention.escaping ≠ .quote
  namespaceName : ∀ schema, IsClean (d.namespaceName schema)
  enumName : ∀ schema name, IsClean (d.enumName schema name)
  compositeName : ∀ schema name, IsClean (d.compositeName schema name)

namespace Dialect.Clean

variable {d : Dialect} (h : d.Clean)
include h

theorem isShown_claim (reg : Registry) {base : String} (clean : IsClean base) :
    IsShown (d.claim reg base).1 := by
  obtain ⟨n, hn⟩ := reg.exists_claim_eq base d.escape
  rw [claim, hn]
  exact isShown_escape h.escaping (isClean_candidate clean n)

theorem isShown_claimType (reg : Registry) {base : String} (clean : IsClean base) :
    IsShown (d.claimType reg base).1 := by
  rw [claimType]
  split
  · exact h.isShown_claim reg clean
  · exact isShown_escape h.escaping clean

theorem isShown_name_plan (ix : Index) (o : Options) : ∀ p ∈ d.plan ix o, IsShown p.name := by
  refine forall_mem_mapThread (P := fun p : SchemaPlan => IsShown p.name) ?_ _ _
  intro names schema
  show IsShown (d.claim names.schemas (d.namespaceName schema)).1
  exact h.isShown_claim _ (h.namespaceName schema)

theorem isShown_nameEnum (schema : String) (types : Registry) (t : TypeDef) :
    IsShown (d.nameEnum schema types t).1.2.name := by
  show IsShown (d.claimType types (d.enumName schema t.name)).1
  exact h.isShown_claimType _ (h.enumName schema t.name)

theorem isShown_nameComposite (schema : String) (types : Registry) (t : TypeDef) :
    IsShown (d.nameComposite schema types t).1.2 := by
  show IsShown (d.claimType types (d.compositeName schema t.name)).1
  exact h.isShown_claimType _ (h.compositeName schema t.name)

theorem isShown_enums_plan (ix : Index) (o : Options) :
    ∀ p ∈ d.plan ix o, ∀ q ∈ p.enums, IsShown q.2.name := by
  refine forall_mem_mapThread (P := fun p : SchemaPlan => ∀ q ∈ p.enums, IsShown q.2.name) ?_ _ _
  intro names schema
  exact forall_mem_mapThread (P := fun q : TypeDef × EnumDecl => IsShown q.2.name)
    (h.isShown_nameEnum schema) _ _

theorem isShown_composites_plan (ix : Index) (o : Options) :
    ∀ p ∈ d.plan ix o, ∀ q ∈ p.composites, IsShown q.2 := by
  refine forall_mem_mapThread (P := fun p : SchemaPlan => ∀ q ∈ p.composites, IsShown q.2) ?_ _ _
  intro names schema
  exact forall_mem_mapThread (P := fun q : TypeDef × String => IsShown q.2)
    (h.isShown_nameComposite schema) _ _

end Dialect.Clean

end CatalogTypes
