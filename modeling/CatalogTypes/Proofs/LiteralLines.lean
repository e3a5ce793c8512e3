import CatalogTypes.Proofs.Lines
import CatalogTypes.Proofs.Literals

/-!
# String literals in laid out text

Indentation and line feeds have no quotes, so the literals of laid out items are those of their
texts, one after the other. `Values` lists them item by item, and `Values.literals` finds them in
the text.
-/

namespace CatalogTypes

open Text

/-! ## Literals in lines -/

section Literals

variable {read : StringReader} {values : List String}

theorem literals_of_lacks {text : String} (h : Lacks '"' text) : Literals read text.toList [] :=
  literals_of_not_mem h

theorem Literals.after {a b : String} (ha : Lacks '"' a) (h : Literals read b.toList values) :
    Literals read (a ++ b).toList values := by
  rw [String.toList_append]
  exact (literals_of_lacks ha).append h

theorem Literals.before {a b : String} (h : Literals read a.toList values) (hb : Lacks '"' b) :
    Literals read (a ++ b).toList values := by
  rw [String.toList_append, ← List.append_nil values]
  exact h.append (literals_of_lacks hb)

namespace Layout

/-- The lines as a piece of text. -/
def joined (lines : List String) : String := String.join (lines.map (· ++ "\n"))

theorem joined_append (lines lines' : List String) :
    joined (lines ++ lines') = joined lines ++ joined lines' := by
  rw [joined, List.map_append, String.join_append]
  rfl

theorem literals_joined_cons {line : String} {lines values' : List String}
    (h : Literals read line.toList values) (rest : Literals read (joined lines).toList values') :
    Literals read (joined (line :: lines)).toList (values ++ values') := by
  have feed : Literals read (line ++ "\n").toList values := h.before (by decide)
  rw [joined, List.map_cons, String.join_cons, String.toList_append]
  exact feed.append rest

theorem literals_joined_cons_of_lacks {line : String} {lines : List String} (h : Lacks '"' line)
    (rest : Literals read (joined lines).toList values) :
    Literals read (joined (line :: lines)).toList values :=
  literals_joined_cons (literals_of_lacks h) rest

theorem literals_lineAt {unit : String} (hu : Lacks '"' unit) (depth : Nat) {text : String}
    (h : Literals read text.toList values) :
    Literals read (lineAt unit depth text).toList values := by
  unfold lineAt
  split
  · next empty =>
    rw [String.isEmpty_iff.mp empty] at h
    exact h
  · refine h.after (lacks_join fun piece hp => ?_)
    rw [List.eq_of_mem_replicate hp]
    exact hu

/-- The values of the string literals among the items, in order. The lines around a block have
none. -/
inductive Values (read : StringReader) : List Item → List String → Prop
  | nil : Values read [] []
  | line {text : String} {rest : List Item} {values values' : List String}
      (h : Literals read text.toList values) (others : Values read rest values') :
      Values read (.line text :: rest) (values ++ values')
  | blank {rest : List Item} {values : List String} (others : Values read rest values) :
      Values read (.blank :: rest) values
  | indent {rest : List Item} {values : List String} (others : Values read rest values) :
      Values read (.indent :: rest) values
  | dedent {rest : List Item} {values : List String} (others : Values read rest values) :
      Values read (.dedent :: rest) values
  | block {opening closing : String} {body rest : List Item} {values values' : List String}
      (first : Lacks '"' opening) (last : Lacks '"' closing) (inside : Values read body values)
      (others : Values read rest values') :
      Values read (.block opening closing body :: rest) (values ++ values')

theorem Values.append {items items' : List Item} {values' : List String}
    (h : Values read items values) (h' : Values read items' values') :
    Values read (items ++ items') (values ++ values') := by
  induction h with
  | nil => exact h'
  | line h _ ih =>
    rw [List.append_assoc]
    exact .line h ih
  | blank _ ih => exact .blank ih
  | indent _ ih => exact .indent ih
  | dedent _ ih => exact .dedent ih
  | block first last inside _ _ ih =>
    rw [List.append_assoc]
    exact .block first last inside ih

/-- Where no text has a quote, there are no literals. -/
theorem values_of_every {items : List Item} (h : Every (Lacks '"') items) :
    Values read items [] := by
  induction h with
  | nil => exact .nil
  | line h _ ih => exact .line (literals_of_lacks h) ih
  | blank _ ih => exact .blank ih
  | indent _ ih => exact .indent ih
  | dedent _ ih => exact .dedent ih
  | block first last _ _ ihb ih => exact .block first last ihb ih

theorem values_lines {α : Type} {text value : α → String} {xs : List α}
    (h : ∀ x ∈ xs, Literals read (text x).toList [value x]) :
    Values read (xs.map fun x => .line (text x)) (xs.map value) := by
  induction xs with
  | nil => exact .nil
  | cons x xs ih =>
    exact .line (h x List.mem_cons_self) (ih fun y hy => h y (List.mem_cons_of_mem _ hy))

/-- Laying out items changes nothing about their literals. -/
theorem Values.literals {unit : String} (hu : Lacks '"' unit) {items : List Item}
    (h : Values read items values) (depth : Nat) :
    Literals read (joined (lines unit depth items).1).toList values := by
  induction h generalizing depth with
  | nil => exact .nil
  | line h _ ih => exact literals_joined_cons (literals_lineAt hu depth h) (ih depth)
  | blank _ ih => exact literals_joined_cons_of_lacks (by decide) (ih depth)
  | indent _ ih => exact ih (depth + 1)
  | dedent _ ih => exact ih (depth - 1)
  | block first last _ _ ihb ih =>
    simp only [lines, itemLines, List.cons_append, List.append_assoc, List.nil_append]
    refine literals_joined_cons_of_lacks (lacks_lineAt hu depth first) ?_
    rw [joined_append, String.toList_append]
    exact (ihb _).append (literals_joined_cons_of_lacks (lacks_lineAt hu _ last) (ih _))

end Layout

end Literals

/-! ## Parts of the text -/

namespace Layout

variable {unit : String} {depth : Nat}

/-- The lines stand together in the output. -/
def Appears (part : List String) (output : String) : Prop :=
  ∃ before after, output = joined (before ++ part ++ after)

theorem appears_text {part : List String} {items : List Item}
    (h : part <:+: (lines unit 0 items).1) : Appears part (text unit items) := by
  obtain ⟨before, after, eq⟩ := h
  exact ⟨before, after, by rw [eq]; rfl⟩

theorem Within.infix_lines {part items : List Item} (h : Within part items) :
    (lines unit depth part).1 <:+: (lines unit depth items).1 := by
  obtain ⟨before, after, rfl, balanced⟩ := h
  refine ⟨(lines unit depth before).1, (lines unit (lines unit depth part).2 after).1, ?_⟩
  rw [List.append_assoc before, balanced.lines_append, Layout.lines_append, List.append_assoc]

theorem infix_block {body : List Item} (h : Balanced body) (opening closing : String) :
    (lines unit (depth + 1) body).1 <:+: (lines unit depth [.block opening closing body]).1 := by
  rw [lines_block h]
  exact ⟨[_], _, rfl⟩

end Layout

end CatalogTypes
