import Mathlib.Tactic.SplitIfs

/-!
# The order of texts is the order of their bytes

Texts are compared character by character. In UTF-8 a character with a larger code point has larger
bytes, and no character's bytes begin those of another, so comparing the bytes comes to the same.
-/

namespace CatalogTypes

namespace Text

/-- The bytes of a text in UTF-8. -/
def bytes (text : String) : List UInt8 := text.toUTF8.data.toList

theorem bytes_eq_flatMap (text : String) :
    bytes text = text.toList.flatMap String.utf8EncodeChar := by
  rw [bytes, String.toUTF8_eq_toByteArray, ← String.utf8Encode_toList, List.utf8Encode,
    List.toList_data_toByteArray]

/-- Where `x` and `y` differ first, `x` has the smaller byte. Neither of them begins with the
other. -/
inductive Departs : List UInt8 → List UInt8 → Prop
  | head {a b : UInt8} {x y : List UInt8} (h : a < b) : Departs (a :: x) (b :: y)
  | tail {a : UInt8} {x y : List UInt8} (h : Departs x y) : Departs (a :: x) (a :: y)

theorem not_departs_nil (x : List UInt8) : ¬ Departs x [] := by
  rintro ⟨⟩

theorem departs_cons_iff {a b : UInt8} {x y : List UInt8} :
    Departs (a :: x) (b :: y) ↔ a.toNat < b.toNat ∨ a.toNat = b.toNat ∧ Departs x y := by
  rw [← UInt8.lt_iff_toNat_lt, UInt8.toNat_inj]
  constructor
  · rintro (h | h)
    · exact .inl h
    · exact .inr ⟨rfl, h⟩
  · rintro (h | ⟨rfl, h⟩)
    · exact .head h
    · exact .tail h

/-- What follows a difference does not matter. -/
theorem Departs.append_lt {x y : List UInt8} (h : Departs x y) (u v : List UInt8) :
    x ++ u < y ++ v := by
  induction h with
  | head h => exact .rel h
  | tail _ ih => exact .cons ih

theorem val_toNat_lt (c : Char) : c.val.toNat < 0x110000 := by
  have valid : c.val.toNat < 0xd800 ∨ 0xdfff < c.val.toNat ∧ c.val.toNat < 0x110000 := c.valid
  omega

theorem departs_utf8EncodeChar {c d : Char} (h : c < d) :
    Departs (String.utf8EncodeChar c) (String.utf8EncodeChar d) := by
  have lt : c.val.toNat < d.val.toNat := h
  have bound := val_toNat_lt d
  unfold String.utf8EncodeChar
  generalize c.val.toNat = m at lt
  generalize d.val.toNat = n at lt bound
  -- The code points settle the lengths of both encodings; what is left is about their digits, which
  -- are taken off one by one.
  have two : ∀ k, k / 4096 = k / 64 / 64 := by omega
  have three : ∀ k, k / 262144 = k / 64 / 64 / 64 := by omega
  dsimp only
  split_ifs
  all_goals
    simp only [departs_cons_iff, not_departs_nil, UInt8.toNat_ofNat', and_false, or_false, two,
      three]
    omega

theorem flatMap_utf8EncodeChar_lt {cs ds : List Char} (h : cs < ds) :
    cs.flatMap String.utf8EncodeChar < ds.flatMap String.utf8EncodeChar := by
  induction h with
  | @nil d ds =>
    obtain ⟨b, x, hd⟩ := List.exists_cons_of_ne_nil (String.utf8EncodeChar_ne_nil (c := d))
    rw [List.flatMap_cons, hd]
    exact .nil
  | rel h =>
    rw [List.flatMap_cons, List.flatMap_cons]
    exact (departs_utf8EncodeChar h).append_lt _ _
  | cons _ ih =>
    rw [List.flatMap_cons, List.flatMap_cons]
    exact List.append_left_lt ih

/-- One text is before another exactly if its bytes are. -/
theorem lt_iff_bytes_lt {a b : String} : a < b ↔ bytes a < bytes b := by
  have mono : ∀ {a b : String}, a < b → bytes a < bytes b := by
    intro a b h
    rw [bytes_eq_flatMap, bytes_eq_flatMap]
    exact flatMap_utf8EncodeChar_lt h
  refine ⟨mono, fun h => ?_⟩
  by_cases hab : a < b
  · exact hab
  · by_cases hba : b < a
    · exact absurd (mono hba) (List.lt_asymm h)
    · obtain rfl : a = b := String.le_antisymm hba hab
      exact absurd h (List.lt_irrefl _)

end Text

end CatalogTypes
