import CatalogTypes.Proofs.FirstCharacters
import Mathlib.Data.List.TakeWhile

/-!
# Names that begin with a numeral

Beyond ASCII, a character is a numeral if an odd number of boundaries stands at or below it
(`isNumeric_eq`). Case mappings lead from numerals to numerals and from letters to letters; that is
checked on the stretches between boundaries that they stay in (`keeps_lowerRuns`,
`keeps_upperRuns`). So a converted name begins with a numeral exactly if the first letter or digit
of its raw name is one and the guard, which looks for digits of ASCII, puts nothing before it.
-/

namespace CatalogTypes

open Text

namespace Text

/-! ## Boundaries -/

theorem le_iff_lt_length_takeWhile {bounds : List Nat} (h : bounds.Pairwise (· < ·)) {n i b : Nat}
    (hb : bounds[i]? = some b) : b ≤ n ↔ i < (bounds.takeWhile (· ≤ n)).length := by
  induction bounds generalizing i with
  | nil => simp at hb
  | cons x xs ih =>
    obtain ⟨below, h⟩ := List.pairwise_cons.mp h
    cases i with
    | zero =>
      obtain rfl : x = b := by simpa using hb
      by_cases hx : x ≤ n <;> simp [hx]
    | succ i =>
      have hb : xs[i]? = some b := hb
      by_cases hx : x ≤ n
      · simpa [hx] using ih h hb
      · have : x < b := below b (List.mem_of_getElem? hb)
        simp only [hx, decide_false, Bool.false_eq_true, not_false_eq_true,
          List.takeWhile_cons_of_neg, List.length_nil, Nat.not_lt_zero, iff_false]
        omega

namespace CharSet

/-- How many boundaries stand at or below a code point, provided they ascend. -/
def rank (s : CharSet) (n : Nat) : Nat := (s.boundaries.toList.takeWhile (· ≤ n)).length

def Ascends (s : CharSet) : Prop := s.boundaries.toList.IsChain (· < ·)

variable {s : CharSet}

theorem le_iff_lt_rank (h : s.Ascends) {n i b : Nat} (hb : s.boundaries[i]? = some b) :
    b ≤ n ↔ i < s.rank n := by
  rw [← Array.getElem?_toList] at hb
  exact le_iff_lt_length_takeWhile (List.isChain_iff_pairwise.mp h) hb

theorem rank_le_size (s : CharSet) (n : Nat) : s.rank n ≤ s.boundaries.size := by
  rw [← Array.length_toList]
  exact (List.takeWhile_prefix _).length_le

/-- Each probe halves the range that the rank can be in. -/
theorem countUpTo_eq (h : s.Ascends) {n bits found : Nat} (lower : found ≤ s.rank n)
    (upper : s.rank n < found + 1 <<< bits) : countUpTo s.boundaries n bits found = s.rank n := by
  induction bits generalizing found with
  | zero =>
    rw [Nat.shiftLeft_zero] at upper
    rw [countUpTo]
    omega
  | succ bits ih =>
    have half : 0 < 1 <<< bits := by
      rw [Nat.one_shiftLeft]
      exact Nat.two_pow_pos bits
    rw [Nat.shiftLeft_succ] at upper
    rw [countUpTo]
    cases hb : s.boundaries[found + 1 <<< bits - 1]? with
    | some b =>
      have probe := le_iff_lt_rank (n := n) h hb
      dsimp only
      by_cases below : b ≤ n
      · rw [if_pos below]
        exact ih (by omega) (by omega)
      · rw [if_neg below]
        exact ih lower (by omega)
    | none =>
      have size := rank_le_size s n
      have beyond := Array.getElem?_eq_none_iff.mp hb
      exact ih lower (by omega)

theorem contains_eq (h : s.Ascends) (c : Char) : s.contains c = (s.rank c.toNat % 2 == 1) := by
  rw [contains, countUpTo_eq h (Nat.zero_le _)]
  rw [Nat.zero_add, Nat.one_shiftLeft]
  exact Nat.lt_of_le_of_lt (rank_le_size s _) Nat.lt_log2_self

theorem rank_le_rank (s : CharSet) {m n : Nat} (h : m ≤ n) : s.rank m ≤ s.rank n := by
  have both : s.boundaries.toList.takeWhile (· ≤ m) =
      (s.boundaries.toList.takeWhile (· ≤ n)).takeWhile (· ≤ m) := by
    rw [List.takeWhile_takeWhile]
    congr 1
    funext b
    simp only [decide_eq_true_eq, decide_eq_decide]
    omega
  rw [rank, both]
  exact (List.takeWhile_prefix _).length_le

theorem rank_eq_of_le {s : CharSet} {first last n : Nat} (h : s.rank first = s.rank last)
    (lower : first ≤ n) (upper : n ≤ last) : s.rank n = s.rank first :=
  Nat.le_antisymm ((s.rank_le_rank upper).trans_eq h.symm) (s.rank_le_rank lower)

end CharSet

theorem ascends_numericSet : numericSet.Ascends := by
  unfold CharSet.Ascends
  decide +kernel

/-! ## Stretches -/

/-- Whether there is a numeral above ASCII at this code point. -/
def isNumeralAt (n : Nat) : Bool := numericSet.rank n % 2 == 1

/-- Code points that are all numerals or all not. -/
structure Stretch where
  first : Nat
  last : Nat
  numeral : Bool

def Stretch.Uniform (st : Stretch) : Prop :=
  numericSet.rank st.first = numericSet.rank st.last ∧ isNumeralAt st.first = st.numeral

instance (st : Stretch) : Decidable st.Uniform := inferInstanceAs (Decidable (_ ∧ _))

def Stretch.Spans (st : Stretch) (first last : Int) : Prop := st.first ≤ first ∧ last ≤ st.last

instance (st : Stretch) (first last : Int) : Decidable (st.Spans first last) :=
  inferInstanceAs (Decidable (_ ∧ _))

/-- The stretches that case mappings lead from or to. Of numerals, only the Roman have cases. -/
def stretches : List Stretch := [
  ⟨0x0, 0xB1, false⟩, ⟨0xB4, 0xB8, false⟩, ⟨0xBF, 0x65F, false⟩, ⟨0x109A, 0x1368, false⟩,
  ⟨0x137D, 0x16ED, false⟩, ⟨0x1C5A, 0x206F, false⟩, ⟨0x208A, 0x214F, false⟩,
  ⟨0x2150, 0x2182, true⟩, ⟨0x2183, 0x2184, false⟩, ⟨0x249C, 0x24E9, false⟩,
  ⟨0x2794, 0x2CFC, false⟩, ⟨0x2CFE, 0x3006, false⟩, ⟨0xA62A, 0xA6E5, false⟩,
  ⟨0xA6F0, 0xA82F, false⟩, ⟨0xAA5A, 0xABEF, false⟩, ⟨0xABFA, 0xFF0F, false⟩,
  ⟨0xFF1A, 0x10106, false⟩, ⟨0x103D6, 0x1049F, false⟩, ⟨0x104AA, 0x10857, false⟩,
  ⟨0x10BB0, 0x10CF9, false⟩, ⟨0x10D4A, 0x10E5F, false⟩, ⟨0x1173C, 0x118DF, false⟩,
  ⟨0x16D7A, 0x16E7F, false⟩, ⟨0x16E97, 0x16FF3, false⟩, ⟨0x1E8D0, 0x1E94F, false⟩]

theorem uniform_stretches : ∀ st ∈ stretches, st.Uniform := by decide +kernel

theorem Stretch.Uniform.isNumeralAt {st : Stretch} (h : st.Uniform) {n : Nat}
    (lower : st.first ≤ n) (upper : n ≤ st.last) : isNumeralAt n = st.numeral := by
  rw [← h.2, Text.isNumeralAt, CharSet.rank_eq_of_le h.1 lower upper]
  rfl

/-- No code point from `first` to `last` is a numeral unless all are, and all of the images too. -/
def Keeps (first last : Nat) (image image' : Int) : Prop :=
  ∃ st ∈ stretches, st.Spans first last ∧
    ∃ st' ∈ stretches, st'.Spans image image' ∧ st'.numeral = st.numeral

instance (first last : Nat) (image image' : Int) : Decidable (Keeps first last image image') :=
  inferInstanceAs (Decidable (∃ st ∈ stretches, _))

theorem Keeps.isNumeralAt {first last : Nat} {image image' : Int}
    (h : Keeps first last image image') {n m : Nat} (lower : first ≤ n) (upper : n ≤ last)
    (lower' : image ≤ m) (upper' : m ≤ image') : isNumeralAt m = isNumeralAt n := by
  obtain ⟨st, hst, spans, st', hst', spans', same⟩ := h
  unfold Stretch.Spans at spans spans'
  rw [(uniform_stretches st hst).isNumeralAt (n := n) (by omega) (by omega),
    (uniform_stretches st' hst').isNumeralAt (n := m) (by omega) (by omega), same]

theorem Keeps.nonneg {first last : Nat} {image image' : Int}
    (h : Keeps first last image image') : 0 ≤ image := by
  obtain ⟨-, -, -, st, -, spans, -⟩ := h
  exact Int.le_trans (Int.natCast_nonneg st.first) spans.1

theorem keeps_lowerRuns : ∀ run ∈ lowerRuns,
    Keeps run.first run.last (run.first + run.offset) (run.last + run.offset) := by decide +kernel

theorem keeps_upperRuns : ∀ run ∈ upperRuns,
    Keeps run.first run.last (run.first + run.offset) (run.last + run.offset) := by decide +kernel

theorem keeps_lowerSpecial : ∀ entry ∈ lowerSpecial, ∀ n ∈ entry.2,
    Keeps entry.1 entry.1 (Char.ofNat n).toNat (Char.ofNat n).toNat := by decide +kernel

theorem keeps_upperSpecial : ∀ entry ∈ upperSpecial, ∀ n ∈ entry.2,
    Keeps entry.1 entry.1 (Char.ofNat n).toNat (Char.ofNat n).toNat := by decide +kernel

theorem isNumeralAt_mapCase {runs : List CaseRun} {special : List (Nat × List Nat)}
    (lands : ∀ run ∈ runs, run.Lands)
    (hruns : ∀ run ∈ runs,
      Keeps run.first run.last (run.first + run.offset) (run.last + run.offset))
    (hspecial : ∀ entry ∈ special, ∀ n ∈ entry.2,
      Keeps entry.1 entry.1 (Char.ofNat n).toNat (Char.ofNat n).toNat) (c : Char) :
    ∀ d ∈ mapCase runs special c, isNumeralAt d.toNat = isNumeralAt c.toNat := by
  refine forall_mapCase (P := fun n d => isNumeralAt d.toNat = isNumeralAt n) ?_ ?_ rfl
  · intro run hrun n image found
    rw [(lands run hrun).toNat_image found]
    obtain ⟨first, last, rfl⟩ := CaseRun.of_image? found
    have keeps := hruns run hrun
    have nonneg := keeps.nonneg
    exact keeps.isNumeralAt first last (by omega) (by omega)
  · intro entry hentry n hn
    exact (hspecial entry hentry n hn).isNumeralAt le_rfl le_rfl (Int.le_refl _) (Int.le_refl _)

theorem isNumeralAt_of_ascii {n : Nat} (h : n < 0x80) : isNumeralAt n = false :=
  (uniform_stretches ⟨0x0, 0xB1, false⟩ (by simp [stretches])).isNumeralAt (Nat.zero_le n)
    (show n ≤ 0xB1 by omega)

theorem isNumeralAt_lower (c : Char) :
    ∀ d ∈ lower c, isNumeralAt d.toNat = isNumeralAt c.toNat := by
  apply forall_lower
  · intro ascii
    rw [isNumeralAt_of_ascii ascii, isNumeralAt_of_ascii]
    exact forall_ascii (P := fun c => c.toLower.toNat < 0x80) (by decide) ascii
  · exact fun _ => isNumeralAt_mapCase lands_lowerRuns keeps_lowerRuns keeps_lowerSpecial c

theorem isNumeralAt_upper (c : Char) :
    ∀ d ∈ upper c, isNumeralAt d.toNat = isNumeralAt c.toNat := by
  apply forall_upper
  · intro ascii
    rw [isNumeralAt_of_ascii ascii, isNumeralAt_of_ascii]
    exact forall_ascii (P := fun c => c.toUpper.toNat < 0x80) (by decide) ascii
  · exact fun _ => isNumeralAt_mapCase lands_upperRuns keeps_upperRuns keeps_upperSpecial c

theorem isNumeric_eq (c : Char) : isNumeric c = (c.isDigit || isNumeralAt c.toNat) := by
  unfold isNumeric
  split
  · next ascii => rw [isNumeralAt_of_ascii ascii, Bool.or_false]
  · next above =>
    rw [isDigit_of_above (Nat.not_lt.mp above), Bool.false_or,
      CharSet.contains_eq ascends_numericSet]
    rfl

theorem Recased.isNumeric_eq {c d : Char} (h : Recased c d) : isNumeric d = isNumeric c := by
  have same : isNumeralAt d.toNat = isNumeralAt c.toNat := by
    cases h with
    | lower h => exact isNumeralAt_lower c d h
    | upper h => exact isNumeralAt_upper c d h
    | finalSigma h => rw [h]; decide +kernel
  rw [Text.isNumeric_eq, Text.isNumeric_eq, h.isDigit_eq, same]

end Text

/-! ## Names -/

/-- The name begins with a numeral of some script. -/
def LeadsNumeral (name : String) : Prop := name.toList.head?.any isNumeric

instance (name : String) : Decidable (LeadsNumeral name) :=
  inferInstanceAs (Decidable (_ = true))

/-- The first letter or digit of the raw name is a numeral that the guard takes for a letter. -/
def EvadesGuard (raw : String) : Prop := ∃ c, lead? raw = some c ∧ isNumeric c ∧ ¬c.isDigit

theorem leadsNumeral_append {name : String} (h : name ≠ "") (other : String) :
    LeadsNumeral (name ++ other) ↔ LeadsNumeral name := by
  rw [LeadsNumeral, head?_append h, LeadsNumeral]

theorem leadsNumeral_converted_iff {casing : Casing} (h : casing ≠ .preserve)
    {digitLead placeholder : String} (hd : digitLead ≠ "" ∧ ¬LeadsNumeral digitLead)
    (hp : ¬LeadsNumeral placeholder) (raw : String) :
    LeadsNumeral (converted casing digitLead placeholder raw) ↔ EvadesGuard raw := by
  cases lead : lead? raw with
  | none => simpa [converted_of_none lead, EvadesGuard, lead] using hp
  | some c =>
    rw [converted_of_some h lead]
    split
    · next digit => simp [leadsNumeral_append hd.1, hd.2, EvadesGuard, lead, digit]
    · next digit =>
      obtain ⟨d, ds, chars, recased⟩ := opens_apply h lead
      simp [LeadsNumeral, EvadesGuard, chars, recased.isNumeric_eq, lead, digit]

theorem not_leadsNumeral_typeName (raw : String) : ¬LeadsNumeral (typeName raw) := by
  have letter : ¬LeadsNumeral "T" := by decide +kernel
  simp only [typeName]
  split
  · exact letter
  · next c cs chars =>
    split
    · exact fun numeral => letter ((leadsNumeral_append (by decide) _).mp numeral)
    · next numeric => simpa [LeadsNumeral, chars] using numeric

/-- The conventions that casing goes by. -/
def Convention.cased : List Convention := [Go.convention, Swift.convention, Python.convention]

theorem Convention.leadsNumeral_fieldName_iff {conv : Convention} (h : conv ∈ cased)
    (raw : String) : LeadsNumeral (conv.fieldName raw) ↔ EvadesGuard raw := by
  have casing : ∀ conv ∈ cased, conv.casing ≠ .preserve := by decide
  have leads : ∀ conv ∈ cased, conv.digitLead ≠ "" ∧ ¬LeadsNumeral conv.digitLead := by
    decide +kernel
  have placeholders : ∀ conv ∈ cased, ¬LeadsNumeral conv.placeholder := by decide +kernel
  rw [fieldName_eq (casing conv h)]
  exact leadsNumeral_converted_iff (casing conv h) (leads conv h) (placeholders conv h) raw

theorem Python.leadsNumeral_variantName_iff (label : String) :
    LeadsNumeral (variantName label) ↔ EvadesGuard label := by
  rw [variantName_eq]
  exact leadsNumeral_converted_iff (by decide) (by decide +kernel) (by decide +kernel) label

/-- Which names that are made of a raw name begin with a numeral. -/
structure LeadingNumerals (raw : String) : Prop where
  fields : ∀ conv ∈ Convention.cased, LeadsNumeral (conv.fieldName raw) ↔ EvadesGuard raw
  variants : LeadsNumeral (Python.variantName raw) ↔ EvadesGuard raw
  types : ¬LeadsNumeral (typeName raw)

theorem leadingNumerals (raw : String) : LeadingNumerals raw where
  fields _ h := Convention.leadsNumeral_fieldName_iff h raw
  variants := Python.leadsNumeral_variantName_iff raw
  types := not_leadsNumeral_typeName raw

/-- The Arabic digit three. -/
theorem leadsNumeral_arabic :
    (∀ conv ∈ Convention.cased, LeadsNumeral (conv.fieldName "\u0663")) ∧
      LeadsNumeral (Python.variantName "\u0663") := by
  have evades : EvadesGuard "\u0663" :=
    ⟨'\u0663', by decide +kernel, by decide +kernel, by decide⟩
  exact ⟨fun _ h => (Convention.leadsNumeral_fieldName_iff h _).mpr evades,
    (Python.leadsNumeral_variantName_iff _).mpr evades⟩

end CatalogTypes
