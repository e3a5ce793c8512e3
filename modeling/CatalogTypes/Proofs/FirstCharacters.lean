import CatalogTypes.Proofs.GivenNames

/-!
# The first characters of names

Casing drops whatever stands before the first letter or digit of a raw name, so the converted name
begins with a case form of that character (`opens_apply`). A field name has a placeholder
instead if there is no such character, and something in front if it would begin with a digit.
-/

namespace CatalogTypes

open Text

theorem head?_append {name : String} (h : name ≠ "") (other : String) :
    (name ++ other).toList.head? = name.toList.head? := by
  rw [String.toList_append, List.head?_append_of_ne_nil _ (mt String.toList_eq_nil_iff.mp h)]

/-- The first letter or digit of a raw name. -/
def lead? (raw : String) : Option Char := raw.toList.find? isAlphanumeric

theorem lead?_eq_none_iff {raw : String} : lead? raw = none ↔ hasWords raw = false := by
  simp [lead?, hasWords]

theorem isAlphanumeric_of_lead? {raw : String} {c : Char} (h : lead? raw = some c) :
    isAlphanumeric c :=
  List.find?_some h

/-! ## Words -/

namespace Text

theorem flatten_pieces (cs : List Char) : (pieces cs).flatten = cs.filter isAlphanumeric := by
  unfold pieces
  induction cs with
  | nil => simp
  | cons c cs ih =>
    rw [List.splitOnP_cons_eq_if_modifyHead]
    by_cases h : isAlphanumeric c
    · obtain ⟨first, others, split⟩ :=
        List.exists_cons_of_ne_nil (List.splitOnP_ne_nil (!isAlphanumeric ·) cs)
      rw [split] at ih ⊢
      simpa [h] using ih
    · simpa [h] using ih

/-- No character is lost or moved, other than those that separate words. -/
theorem flatten_words (cs : List Char) : (words cs).flatten = cs.filter isAlphanumeric := by
  rw [← flatten_pieces, words, List.flatMap_def]
  induction pieces cs with
  | nil => rfl
  | cons piece others ih => simp [flatten_cut, ih]

/-- An uppercase letter can only end a word before it if there is one. -/
theorem ne_nil_of_mem_cut {streak : Streak} {word cs : List Char}
    (h : streak = .upper → word ≠ []) : ∀ w ∈ cut streak word cs, w ≠ [] := by
  fun_induction cut streak word cs with
  | case1 => simp
  | case2 _ word nonempty => simpa using nonempty
  | case3 => simp
  | case4 _ _ _ _ _ _ ih => exact List.forall_mem_cons.mpr ⟨by simp, ih (by simp)⟩
  | case5 _ _ _ _ _ _ upper ih =>
    exact List.forall_mem_cons.mpr ⟨by simpa using h upper.1, ih (by simp)⟩
  | case6 _ _ _ _ _ _ _ ih => exact ih (by simp)

theorem ne_nil_of_mem_words {cs : List Char} : ∀ word ∈ words cs, word ≠ [] := by
  intro word hw
  obtain ⟨piece, -, hw⟩ := List.mem_flatMap.mp hw
  exact ne_nil_of_mem_cut (by simp) word hw

theorem words_eq_cons {cs : List Char} {c : Char} (h : cs.find? isAlphanumeric = some c) :
    ∃ w ws, words cs = (c :: w) :: ws := by
  have first : (words cs).flatten.head? = some c := by rw [flatten_words, List.head?_filter, h]
  have nonempty : ∀ word ∈ words cs, word ≠ [] := ne_nil_of_mem_words
  cases found : words cs with
  | nil => simp [found] at first
  | cons word ws =>
    obtain ⟨d, w, rfl⟩ := List.exists_cons_of_ne_nil (nonempty word (by simp [found]))
    obtain rfl : d = c := by simpa [found] using first
    exact ⟨w, ws, rfl⟩

/-! ## Case forms -/

/-- The second character is what a case mapping makes of the first, or a part of it. -/
inductive Recased (c : Char) : Char → Prop
  | lower {d : Char} (h : d ∈ Text.lower c) : Recased c d
  | upper {d : Char} (h : d ∈ Text.upper c) : Recased c d
  | finalSigma (h : c = 'Σ') : Recased c 'ς'

theorem isDigit_of_above {c : Char} (h : 0x80 ≤ c.toNat) : c.isDigit = false := by
  have above : 57 < c.val := UInt32.lt_iff_toNat_lt.mpr (Nat.lt_of_lt_of_le (by decide) h)
  have digit : c.isDigit = (decide (48 ≤ c.val) && decide (c.val ≤ 57)) := rfl
  rw [digit, decide_eq_false (UInt32.not_le.mpr above), Bool.and_false]

theorem isDigit_lower (c : Char) : ∀ d ∈ lower c, d.isDigit = c.isDigit := by
  apply forall_lower
  · exact forall_ascii (P := fun c => c.toLower.isDigit = c.isDigit) (by decide)
  · intro above
    rw [isDigit_of_above above]
    exact forall_mapCase_of_above (P := fun d => d.isDigit = false) (fun _ => isDigit_of_above)
      lands_lowerRuns (by decide +kernel) (by decide +kernel) above

theorem isDigit_upper (c : Char) : ∀ d ∈ upper c, d.isDigit = c.isDigit := by
  apply forall_upper
  · exact forall_ascii (P := fun c => c.toUpper.isDigit = c.isDigit) (by decide)
  · intro above
    rw [isDigit_of_above above]
    exact forall_mapCase_of_above (P := fun d => d.isDigit = false) (fun _ => isDigit_of_above)
      lands_upperRuns (by decide +kernel) (by decide +kernel) above

namespace Recased

variable {c d : Char} (h : Recased c d)
include h

theorem isDigit_eq : d.isDigit = c.isDigit := by
  cases h with
  | lower h => exact isDigit_lower c d h
  | upper h => exact isDigit_upper c d h
  | finalSigma h => rw [h]; decide

theorem isWordChar (word : isWordChar c) : CatalogTypes.isWordChar d := by
  cases h with
  | lower h => exact isWordChar_lower word d h
  | upper h => exact isWordChar_upper word d h
  | finalSigma => decide

end Recased

end Text

/-! ## Converted names -/

namespace Text

/-- The text begins with a case form of the character. -/
def Opens (c : Char) (cs : List Char) : Prop := ∃ d ds, cs = d :: ds ∧ Recased c d

theorem Opens.append {c : Char} {cs : List Char} (h : Opens c cs) (others : List Char) :
    Opens c (cs ++ others) := by
  obtain ⟨d, ds, rfl, recased⟩ := h
  exact ⟨d, ds ++ others, rfl, recased⟩

theorem opens_of_forall {c : Char} {cs : List Char} (nonempty : cs ≠ [])
    (h : ∀ d ∈ cs, Recased c d) : Opens c cs := by
  obtain ⟨d, ds, rfl⟩ := List.exists_cons_of_ne_nil nonempty
  exact ⟨d, ds, rfl, h d List.mem_cons_self⟩

theorem opens_upper (c : Char) : Opens c (upper c) :=
  opens_of_forall (upper_ne_nil c) fun _ => .upper

theorem opens_lowerWord (c : Char) (w : List Char) : Opens c (lowerWord (c :: w)) := by
  rw [lowerWord]
  apply Opens.append
  split
  · next sigma => exact ⟨'ς', [], rfl, .finalSigma sigma.1⟩
  · exact opens_of_forall (lower_ne_nil c) fun _ => .lower

theorem opens_intercalate {c : Char} {word : List Char} (h : Opens c word)
    (others : List (List Char)) : Opens c (['_'].intercalate (word :: others)) := by
  by_cases last : others = []
  · rwa [last, List.intercalate_singleton]
  · rw [List.intercalate_cons_of_ne_nil last, List.append_assoc]
    exact h.append _

end Text

theorem opens_apply {casing : Casing} (h : casing ≠ .preserve) {raw : String} {c : Char}
    (lead : lead? raw = some c) : Opens c (casing.apply raw).toList := by
  obtain ⟨w, ws, words⟩ := words_eq_cons lead
  rw [Casing.toList_apply]
  cases casing with
  | lowerCamel =>
    rw [Casing.spell, words]
    exact (opens_lowerWord c w).append _
  | snake =>
    rw [Casing.spell, words]
    exact opens_intercalate (opens_lowerWord c w) _
  | pascal =>
    rw [Casing.spell, words]
    exact ((opens_upper c).append _).append _
  | upperSnake =>
    rw [Casing.spell, words]
    exact opens_intercalate ((opens_upper c).append _) _
  | preserve => exact absurd rfl h

/-- In Pascal case, the case form is the uppercase mapping. -/
theorem head?_pascal {raw : String} {c : Char} (lead : lead? raw = some c) :
    (Casing.pascal.apply raw).toList.head? = (upper c).head? := by
  obtain ⟨w, ws, words⟩ := words_eq_cons lead
  rw [Casing.toList_apply, Casing.spell, words, List.flatMap_cons, capitalize, List.append_assoc,
    List.head?_append_of_ne_nil _ (upper_ne_nil c)]

/-! ## Guarded names -/

/-- The words of a raw name, with something before them if they begin with a digit of ASCII, or else
a placeholder. Fields and variants get their names so. -/
def converted (casing : Casing) (digitLead placeholder raw : String) : String :=
  if hasWords raw then
    let name := casing.apply raw
    if name.toList.head?.any Char.isDigit then digitLead ++ name else name
  else placeholder

theorem Convention.fieldName_eq {conv : Convention} (h : conv.casing ≠ .preserve) (raw : String) :
    conv.fieldName raw = converted conv.casing conv.digitLead conv.placeholder raw := by
  unfold fieldName converted
  cases hasWords raw
  all_goals simp [h]

theorem Swift.variantName_eq (label : String) :
    Swift.variantName label = converted .lowerCamel "_" "value" label := by
  unfold Swift.variantName converted
  split
  · next words =>
    rw [Convention.fieldName_eq (by decide), converted, if_pos words]
    rfl
  · rfl

theorem Python.variantName_eq (label : String) :
    Python.variantName label = converted .upperSnake "VALUE_" "VALUE" label := rfl

theorem converted_of_none {raw : String} (lead : lead? raw = none) (casing : Casing)
    (digitLead placeholder : String) :
    converted casing digitLead placeholder raw = placeholder := by
  rw [converted, lead?_eq_none_iff.mp lead]
  rfl

/-- Whether the name is guarded can be told from the raw name. -/
theorem converted_of_some {casing : Casing} (h : casing ≠ .preserve) {raw : String} {c : Char}
    (lead : lead? raw = some c) (digitLead placeholder : String) :
    converted casing digitLead placeholder raw =
      if c.isDigit then digitLead ++ casing.apply raw else casing.apply raw := by
  have words : hasWords raw := by
    by_contra none
    simp [lead?_eq_none_iff.mpr (Bool.eq_false_iff.mpr none)] at lead
  obtain ⟨d, ds, name, recased⟩ := opens_apply h lead
  simp [converted, words, name, recased.isDigit_eq]

end CatalogTypes
