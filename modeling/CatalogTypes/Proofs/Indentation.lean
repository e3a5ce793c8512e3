import CatalogTypes.Proofs.Blocks
import Mathlib.Data.List.Infix

/-!
# Blocks give back their indentation

Inside of a block, indents and dedents may come in any order in which a dedent has an indent before
it and all indents are taken back. `Emits` tells what is written then, line by line, with the number
of units in front of each: a block comes back to the depth at which it stands, and its lines are
deeper than that (`keepsDepth`). Outside of blocks there may be too many dedents; these do nothing.
-/

namespace CatalogTypes

def Item.isIndent : Item → Bool
  | .indent => true
  | _ => false

def Item.isDedent : Item → Bool
  | .dedent => true
  | _ => false

namespace Layout

/-! ## Closed blocks -/

/-- No dedent is without an indent before it, and in the end there are as many of both. -/
structure Closed (items : List Item) : Prop where
  never : ∀ start, start <+: items → start.countP Item.isDedent ≤ start.countP Item.isIndent
  even : items.countP Item.isDedent = items.countP Item.isIndent

instance (items : List Item) : Decidable (Closed items) :=
  decidable_of_iff
    ((∀ start ∈ items.inits, start.countP Item.isDedent ≤ start.countP Item.isIndent) ∧
      items.countP Item.isDedent = items.countP Item.isIndent) <| by
    simp only [List.mem_inits]
    exact ⟨fun ⟨never, even⟩ => ⟨never, even⟩, fun ⟨never, even⟩ => ⟨never, even⟩⟩

/-- The body of each block is closed, also inside of other blocks. -/
inductive ClosedBlocks : List Item → Prop
  | nil : ClosedBlocks []
  | line {text : String} {rest : List Item} (h : ClosedBlocks rest) :
      ClosedBlocks (.line text :: rest)
  | blank {rest : List Item} (h : ClosedBlocks rest) : ClosedBlocks (.blank :: rest)
  | indent {rest : List Item} (h : ClosedBlocks rest) : ClosedBlocks (.indent :: rest)
  | dedent {rest : List Item} (h : ClosedBlocks rest) : ClosedBlocks (.dedent :: rest)
  | block {opening closing : String} {body rest : List Item} (closed : Closed body)
      (inside : ClosedBlocks body) (h : ClosedBlocks rest) :
      ClosedBlocks (.block opening closing body :: rest)

/-- Items that begin at a depth never lead below a level. -/
def Above (level depth : Nat) (items : List Item) : Prop :=
  ∀ start, start <+: items →
    level + start.countP Item.isDedent ≤ depth + start.countP Item.isIndent

theorem Closed.above {items : List Item} (h : Closed items) (depth : Nat) :
    Above depth depth items :=
  fun start hs => Nat.add_le_add_left (h.never start hs) depth

section Above

variable {level depth : Nat} {item : Item} {items rest : List Item}

theorem Above.le (h : Above level depth items) : level ≤ depth := h [] List.nil_prefix

theorem Above.of_cons (h : Above level depth (item :: rest)) (hi : item.isIndent = false)
    (hd : item.isDedent = false) : Above level depth rest := by
  intro start hs
  have here := h (item :: start) (List.cons_prefix_cons.mpr ⟨rfl, hs⟩)
  rwa [List.countP_cons_of_neg (by simp [hd]), List.countP_cons_of_neg (by simp [hi])] at here

theorem Above.of_indent (h : Above level depth (.indent :: rest)) :
    Above level (depth + 1) rest := by
  intro start hs
  have here := h (.indent :: start) (List.cons_prefix_cons.mpr ⟨rfl, hs⟩)
  rw [List.countP_cons_of_neg (by decide), List.countP_cons_of_pos rfl] at here
  omega

theorem Above.of_dedent (h : Above level depth (.dedent :: rest)) :
    0 < depth ∧ Above level (depth - 1) rest := by
  have here : ∀ start, start <+: rest →
      level + (start.countP Item.isDedent + 1) ≤ depth + start.countP Item.isIndent := by
    intro start hs
    have here := h (.dedent :: start) (List.cons_prefix_cons.mpr ⟨rfl, hs⟩)
    rwa [List.countP_cons_of_pos rfl, List.countP_cons_of_neg (by decide)] at here
  have positive : 0 < depth := Nat.lt_of_lt_of_le (Nat.succ_pos level) (here [] List.nil_prefix)
  refine ⟨positive, fun start hs => ?_⟩
  have := here start hs
  omega

end Above

/-! ## Lines with their units -/

/-- A line as it is written: a number of units, and behind them its text. -/
structure IndentedLine where
  units : Nat
  text : String

namespace IndentedLine

def line (unit : String) (l : IndentedLine) : String :=
  String.join (List.replicate l.units unit) ++ l.text

/-- The line that a text makes at a depth. It carries no units if the text is empty. -/
def ofText (depth : Nat) (text : String) : IndentedLine := ⟨if text = "" then 0 else depth, text⟩

theorem line_ofText (unit : String) (depth : Nat) (text : String) :
    (ofText depth text).line unit = lineAt unit depth text := by
  by_cases h : text = ""
  · simp [ofText, line, h]
  · simp [ofText, line, lineAt, h]

theorem units_ofText_eq_zero (depth : Nat) (text : String) :
    (ofText depth text).text = "" → (ofText depth text).units = 0 :=
  fun empty => if_pos empty

theorem le_units_ofText {level depth : Nat} (le : level ≤ depth) (text : String) :
    (ofText depth text).text ≠ "" → level ≤ (ofText depth text).units :=
  fun h => Nat.le_trans le (Nat.le_of_eq (if_neg h).symm)

end IndentedLine

/-- From the depth on the left the items write the lines, and they leave the depth on the right. A
block leaves the depth that it found, at which its first and its last line stand; those between them
are deeper. -/
inductive Emits : (depth : Nat) → List Item → List IndentedLine → (depth' : Nat) → Prop
  | nil {depth : Nat} : Emits depth [] [] depth
  | line {depth depth' : Nat} {text : String} {rest : List Item} {emitted : List IndentedLine}
      (h : Emits depth rest emitted depth') :
      Emits depth (.line text :: rest) (.ofText depth text :: emitted) depth'
  | blank {depth depth' : Nat} {rest : List Item} {emitted : List IndentedLine}
      (h : Emits depth rest emitted depth') :
      Emits depth (.blank :: rest) (.ofText depth "" :: emitted) depth'
  | indent {depth depth' : Nat} {rest : List Item} {emitted : List IndentedLine}
      (h : Emits (depth + 1) rest emitted depth') :
      Emits depth (.indent :: rest) emitted depth'
  | dedent {depth depth' : Nat} {rest : List Item} {emitted : List IndentedLine}
      (h : Emits (depth - 1) rest emitted depth') :
      Emits depth (.dedent :: rest) emitted depth'
  | block {depth depth' : Nat} {opening closing : String} {body rest : List Item}
      {inner emitted : List IndentedLine} (inside : Emits (depth + 1) body inner (depth + 1))
      (deeper : ∀ l ∈ inner, l.text ≠ "" → depth < l.units)
      (h : Emits depth rest emitted depth') :
      Emits depth (.block opening closing body :: rest)
        (.ofText depth opening :: inner ++ .ofText depth closing :: emitted) depth'

section Emits

variable {unit : String} {depth depth' : Nat} {items : List Item} {emitted : List IndentedLine}

/-- These are the lines of the layout. -/
theorem Emits.lines_eq (h : Emits depth items emitted depth') :
    lines unit depth items = (emitted.map (·.line unit), depth') := by
  induction h with
  | nil => rfl
  | line _ ih =>
    rw [lines, itemLines, ih, List.map_cons, IndentedLine.line_ofText]
    rfl
  | blank _ ih =>
    rw [lines, itemLines, ih, List.map_cons, IndentedLine.line_ofText, lineAt_empty]
    rfl
  | indent _ ih => exact ih
  | dedent _ ih => exact ih
  | block _ _ _ ihb ih =>
    rw [lines, itemLines, ihb, Nat.add_sub_cancel, ih, List.map_append, List.map_cons,
      List.map_cons, IndentedLine.line_ofText, IndentedLine.line_ofText]
    simp

theorem Emits.units_eq_zero (h : Emits depth items emitted depth') :
    ∀ l ∈ emitted, l.text = "" → l.units = 0 := by
  have units := IndentedLine.units_ofText_eq_zero
  induction h with
  | nil => exact List.forall_mem_nil _
  | line _ ih => exact List.forall_mem_cons.mpr ⟨units _ _, ih⟩
  | blank _ ih => exact List.forall_mem_cons.mpr ⟨units _ _, ih⟩
  | indent _ ih => exact ih
  | dedent _ ih => exact ih
  | block _ _ _ ihb ih =>
    rw [List.cons_append, List.forall_mem_cons, List.forall_mem_append, List.forall_mem_cons]
    exact ⟨units _ _, ihb, units _ _, ih⟩

/-- As long as the items do not lead below a level, none of their dedents comes to nothing, and no
line is less deep. -/
theorem Emits.above {level : Nat} (h : Emits depth items emitted depth')
    (above : Above level depth items) :
    depth' + items.countP Item.isDedent = depth + items.countP Item.isIndent ∧
      ∀ l ∈ emitted, l.text ≠ "" → level ≤ l.units := by
  induction h with
  | nil => exact ⟨rfl, List.forall_mem_nil _⟩
  | line _ ih =>
    obtain ⟨ends, lines⟩ := ih (above.of_cons rfl rfl)
    exact ⟨ends, List.forall_mem_cons.mpr ⟨IndentedLine.le_units_ofText above.le _, lines⟩⟩
  | blank _ ih =>
    obtain ⟨ends, lines⟩ := ih (above.of_cons rfl rfl)
    exact ⟨ends, List.forall_mem_cons.mpr ⟨IndentedLine.le_units_ofText above.le _, lines⟩⟩
  | indent _ ih =>
    obtain ⟨ends, lines⟩ := ih above.of_indent
    refine ⟨?_, lines⟩
    rw [List.countP_cons_of_neg (by decide), List.countP_cons_of_pos rfl]
    omega
  | dedent _ ih =>
    obtain ⟨positive, rest⟩ := above.of_dedent
    obtain ⟨ends, lines⟩ := ih rest
    refine ⟨?_, lines⟩
    rw [List.countP_cons_of_pos rfl, List.countP_cons_of_neg (by decide)]
    omega
  | block _ deeper _ _ ih =>
    obtain ⟨ends, lines⟩ := ih (above.of_cons rfl rfl)
    refine ⟨ends, ?_⟩
    rw [List.cons_append, List.forall_mem_cons, List.forall_mem_append, List.forall_mem_cons]
    have edge := IndentedLine.le_units_ofText above.le
    refine ⟨edge _, fun l hl h => ?_, edge _, lines⟩
    exact Nat.le_trans above.le (Nat.le_of_lt (deeper l hl h))

theorem exists_emits (h : ClosedBlocks items) (depth : Nat) :
    ∃ emitted depth', Emits depth items emitted depth' := by
  induction h generalizing depth with
  | nil => exact ⟨[], depth, .nil⟩
  | line _ ih =>
    obtain ⟨emitted, depth', emits⟩ := ih depth
    exact ⟨_, depth', .line emits⟩
  | blank _ ih =>
    obtain ⟨emitted, depth', emits⟩ := ih depth
    exact ⟨_, depth', .blank emits⟩
  | indent _ ih =>
    obtain ⟨emitted, depth', emits⟩ := ih (depth + 1)
    exact ⟨emitted, depth', .indent emits⟩
  | dedent _ ih =>
    obtain ⟨emitted, depth', emits⟩ := ih (depth - 1)
    exact ⟨emitted, depth', .dedent emits⟩
  | block closed _ _ ihb ih =>
    obtain ⟨inner, depth₁, inside⟩ := ihb (depth + 1)
    obtain ⟨emitted, depth', emits⟩ := ih depth
    obtain ⟨back, deeper⟩ := inside.above (closed.above (depth + 1))
    rw [closed.even] at back
    obtain rfl : depth₁ = depth + 1 := Nat.add_right_cancel back
    exact ⟨_, depth', .block inside deeper emits⟩

end Emits

/-! ## Texts -/

theorem text_append (unit : String) (items items' : List Item) :
    ∃ added, text unit (items ++ items') = text unit items ++ added := by
  rw [text, lines_append, List.map_append, String.join_append]
  exact ⟨_, rfl⟩

theorem depth_replicate_dedent (unit : String) (depth n : Nat) :
    (lines unit depth (List.replicate n .dedent)).2 = depth - n := by
  induction n generalizing depth with
  | zero => rfl
  | succ n ih =>
    rw [List.replicate_succ, Nat.add_comm, Nat.sub_add_eq]
    exact ih (depth - 1)

/-- How items with closed blocks are indented. -/
structure KeepsDepth (unit : String) (items : List Item) : Prop where
  /-- The text consists of the lines that `Emits` tells of. -/
  emits : ∃ emitted depth, Emits 0 items emitted depth ∧ (lines unit 0 items).2 = depth ∧
    text unit items = String.join (emitted.map (·.line unit ++ "\n")) ∧
    ∀ l ∈ emitted, l.text = "" → l.units = 0
  grows : ∀ n, ∃ added, text unit (items.take (n + 1)) = text unit (items.take n) ++ added
  /-- At depth 0, dedents do nothing. -/
  surplus : ∀ n, (lines unit 0 (items ++ List.replicate n .dedent)).2 = (lines unit 0 items).2 - n

theorem keepsDepth (unit : String) {items : List Item} (closed : ClosedBlocks items) :
    KeepsDepth unit items := by
  constructor
  case emits =>
    obtain ⟨emitted, depth, emits⟩ := exists_emits closed 0
    refine ⟨emitted, depth, emits, congrArg Prod.snd emits.lines_eq, ?_, emits.units_eq_zero⟩
    rw [text, emits.lines_eq, List.map_map]
    rfl
  case grows =>
    intro n
    rw [← List.take_append_drop n (items.take (n + 1)), List.take_take]
    rw [Nat.min_eq_left (Nat.le_succ n)]
    exact text_append unit _ _
  case surplus =>
    intro n
    rw [lines_append]
    exact depth_replicate_dedent unit _ n

/-- A block with an indent of its own, behind an indent and before dedents that are too many. -/
theorem keepsDepth_nested :
    let items : List Item := [.indent,
      .block "a \x7b" "\x7d" [.line "b", .indent, .block "c" "d" [.line "e"], .dedent],
      .dedent, .dedent]
    ClosedBlocks items ∧ KeepsDepth "  " items := by
  intro items
  have inner : ClosedBlocks [.line "b", .indent, .block "c" "d" [.line "e"], .dedent] :=
    .line (.indent (.block (by decide) (.line .nil) (.dedent .nil)))
  have closed : ClosedBlocks items := .indent (.block (by decide) inner (.dedent (.dedent .nil)))
  exact ⟨closed, keepsDepth "  " closed⟩

/-- A block that opens with an empty line: this line carries no units, and the closing one does. -/
theorem emptyOpening_uneven :
    ClosedBlocks [.indent, .block "" "\x7d" []] ∧
      (lines "  " 0 [.indent, .block "" "\x7d" []]).1 = ["", "  \x7d"] ∧
      ¬ ∃ units, IndentedLine.line "  " ⟨units, ""⟩ = "" ∧
        IndentedLine.line "  " ⟨units, "\x7d"⟩ = "  \x7d" := by
  refine ⟨.indent (.block (by decide) .nil .nil), by decide, ?_⟩
  rintro ⟨units, opening, closing⟩
  cases units with
  | zero => exact absurd closing (by decide)
  | succ units => simp [IndentedLine.line, List.replicate_succ] at opening

end Layout

end CatalogTypes
