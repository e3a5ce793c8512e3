import CatalogTypes.Proofs.Blocks

/-!
# The lines of a text

As long as no text among the items has a line feed, the text that is laid out falls apart into just
the lines that were written (`hasLines_text`). What holds of all texts among the items is kept by
`Every`, one lemma for each way of putting items together.
-/

namespace CatalogTypes

/-! ## Characters that a text lacks -/

/-- The text does not have the character. -/
def Lacks (c : Char) (text : String) : Prop := c ∉ text.toList

instance (c : Char) (text : String) : Decidable (Lacks c text) :=
  inferInstanceAs (Decidable (_ ∉ _))

section Lacks

variable {c : Char}

@[simp] theorem lacks_append {a b : String} : Lacks c (a ++ b) ↔ Lacks c a ∧ Lacks c b := by
  simp [Lacks]

theorem lacks_join {texts : List String} (h : ∀ text ∈ texts, Lacks c text) :
    Lacks c (String.join texts) := by
  intro mem
  rw [String.toList_join, List.mem_flatMap] at mem
  obtain ⟨text, ht, hc⟩ := mem
  exact h text ht hc

theorem lacks_intercalate {separator : String} {texts : List String} (hs : Lacks c separator)
    (h : ∀ text ∈ texts, Lacks c text) : Lacks c (separator.intercalate texts) := by
  induction texts with
  | nil => simp [Lacks]
  | cons text texts ih =>
    have first := h text List.mem_cons_self
    by_cases last : texts = []
    · rw [last, String.intercalate_singleton]
      exact first
    · rw [String.intercalate_cons_of_ne_nil last, lacks_append, lacks_append]
      exact ⟨⟨first, hs⟩, ih fun t ht => h t (List.mem_cons_of_mem _ ht)⟩

end Lacks

namespace Layout

/-! ## The texts among items -/

/-- The property holds of every text among the items, also inside of blocks. -/
inductive Every (P : String → Prop) : List Item → Prop
  | nil : Every P []
  | line {text : String} {rest : List Item} (h : P text) (others : Every P rest) :
      Every P (.line text :: rest)
  | blank {rest : List Item} (others : Every P rest) : Every P (.blank :: rest)
  | indent {rest : List Item} (others : Every P rest) : Every P (.indent :: rest)
  | dedent {rest : List Item} (others : Every P rest) : Every P (.dedent :: rest)
  | block {opening closing : String} {body rest : List Item} (first : P opening)
      (last : P closing) (inside : Every P body) (others : Every P rest) :
      Every P (.block opening closing body :: rest)

section Every

variable {P : String → Prop}

theorem Every.append {items items' : List Item} (h : Every P items) (h' : Every P items') :
    Every P (items ++ items') := by
  induction h with
  | nil => exact h'
  | line h _ ih => exact .line h ih
  | blank _ ih => exact .blank ih
  | indent _ ih => exact .indent ih
  | dedent _ ih => exact .dedent ih
  | block first last inside _ _ ih => exact .block first last inside ih

theorem every_flatMap {α : Type} {f : α → List Item} {xs : List α}
    (h : ∀ x ∈ xs, Every P (f x)) : Every P (xs.flatMap f) := by
  induction xs with
  | nil => exact .nil
  | cons x xs ih =>
    rw [List.flatMap_cons]
    exact (h x List.mem_cons_self).append (ih fun y hy => h y (List.mem_cons_of_mem _ hy))

theorem every_map {α : Type} {f : α → Item} {xs : List α} (h : ∀ x ∈ xs, Every P [f x]) :
    Every P (xs.map f) := by
  rw [List.map_eq_flatMap]
  exact every_flatMap h

theorem every_lines {texts : List String} (h : ∀ text ∈ texts, P text) :
    Every P (texts.map .line) :=
  every_map fun text ht => .line (h text ht) .nil

theorem every_between {α : Type} {separator : List Item} {f : α → List Item} {xs : List α}
    (hs : Every P separator) (h : ∀ x ∈ xs, Every P (f x)) :
    Every P (Item.between separator f xs) := by
  fun_induction Item.between separator f xs with
  | case1 => exact .nil
  | case2 x => exact h x List.mem_cons_self
  | case3 x xs _ ih =>
    exact ((h x List.mem_cons_self).append hs).append
      (ih fun y hy => h y (List.mem_cons_of_mem _ hy))

end Every

variable {unit : String} {c : Char}

theorem lacks_lineAt (hu : Lacks c unit) (depth : Nat) {text : String} (h : Lacks c text) :
    Lacks c (lineAt unit depth text) := by
  unfold lineAt
  split
  · simp [Lacks]
  · rw [lacks_append]
    refine ⟨lacks_join fun piece hp => ?_, h⟩
    rw [List.eq_of_mem_replicate hp]
    exact hu

/-- Lines have no characters but those of the texts and of their indentation. -/
theorem Every.lacks {items : List Item} (hu : Lacks c unit) (h : Every (Lacks c) items)
    (depth : Nat) : ∀ line ∈ (lines unit depth items).1, Lacks c line := by
  induction h generalizing depth with
  | nil => simp [lines]
  | line h _ ih => exact List.forall_mem_cons.mpr ⟨lacks_lineAt hu depth h, ih depth⟩
  | blank _ ih => exact List.forall_mem_cons.mpr ⟨by simp [Lacks], ih depth⟩
  | indent _ ih => exact ih (depth + 1)
  | dedent _ ih => exact ih (depth - 1)
  | block first last _ _ ihb ih =>
    simp only [lines, itemLines, List.cons_append, List.append_assoc, List.forall_mem_cons,
      List.forall_mem_append]
    exact ⟨lacks_lineAt hu _ first, ihb _, lacks_lineAt hu _ last, by simp, ih _⟩

/-! ## Texts that are cut at line feeds -/

/-- Cut at its line feeds, the text falls into the lines, and nothing comes after the last feed. -/
def HasLines (text : String) (lines : List String) : Prop :=
  (text.toList.splitOn '\n').map String.ofList = lines ++ [""]

theorem hasLines_join {lines : List String} (h : ∀ line ∈ lines, Lacks '\n' line) :
    HasLines (String.join (lines.map (· ++ "\n"))) lines := by
  unfold HasLines
  induction lines with
  | nil => rfl
  | cons line lines ih =>
    have first : Lacks '\n' line := h line List.mem_cons_self
    have text : (String.join ((line :: lines).map (· ++ "\n"))).toList =
        line.toList ++ '\n' :: (String.join (lines.map (· ++ "\n"))).toList := by
      simp [String.join_cons]
    rw [text, List.splitOn_append_cons_self_of_not_mem first, List.map_cons, String.ofList_toList,
      ih fun l hl => h l (List.mem_cons_of_mem _ hl), List.cons_append]

/-- The text consists of the lines that were laid out, if no text among the items breaks a line. -/
theorem hasLines_text (hu : Lacks '\n' unit) {items : List Item} (h : Every (Lacks '\n') items) :
    HasLines (text unit items) (lines unit 0 items).1 :=
  hasLines_join (h.lacks hu 0)

/-! ## Lines of balanced items -/

variable {depth : Nat}

theorem Balanced.lines_append {items : List Item} (h : Balanced items) (items' : List Item) :
    (lines unit depth (items ++ items')).1 =
      (lines unit depth items).1 ++ (lines unit depth items').1 := by
  rw [Layout.lines_append, h.depth]

theorem lines_flatMap {α : Type} {f : α → List Item} {xs : List α}
    (h : ∀ x ∈ xs, Balanced (f x)) :
    (lines unit depth (xs.flatMap f)).1 = xs.flatMap fun x => (lines unit depth (f x)).1 := by
  induction xs with
  | nil => rfl
  | cons x xs ih =>
    rw [List.flatMap_cons, (h x List.mem_cons_self).lines_append, List.flatMap_cons,
      ih fun y hy => h y (List.mem_cons_of_mem _ hy)]

theorem lines_texts (texts : List String) :
    (lines unit depth (texts.map .line)).1 = texts.map (lineAt unit depth) := by
  induction texts with
  | nil => rfl
  | cons text texts ih => exact congrArg (List.cons _) ih

theorem lines_braces {body : List Item} (h : Balanced body) (header : String) :
    (lines unit depth [.braces header body]).1 =
      lineAt unit depth (header ++ " \x7b") ::
        (lines unit (depth + 1) body).1 ++ [lineAt unit depth "\x7d"] := by
  rw [Item.braces, lines_block h]
  rfl

theorem lineAt_zero (text : String) : lineAt unit 0 text = text := by
  unfold lineAt
  split
  · next h => exact (String.isEmpty_iff.mp h).symm
  · simp

theorem lineAt_one {text : String} (h : text ≠ "") : lineAt unit 1 text = unit ++ text := by
  rw [lineAt, if_neg (by simpa using h)]
  simp

end Layout

end CatalogTypes
