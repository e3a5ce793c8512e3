import CatalogTypes.Layout
import Mathlib.Data.List.Basic

/-!
# Blocks of lines

Laid out items keep their depth as long as every indent among them is taken back, and nothing they
write stands less deep. This is enough to find a block again in the lines of the whole text: its
opening line is followed by lines that are all deeper.
-/

namespace CatalogTypes.Layout

variable {unit : String}

/-! ## Depth -/

/-- Every indent is taken back by a later dedent, also inside of blocks. -/
inductive Balanced : List Item → Prop
  | nil : Balanced []
  | line {text : String} {rest : List Item} (h : Balanced rest) : Balanced (.line text :: rest)
  | blank {rest : List Item} (h : Balanced rest) : Balanced (.blank :: rest)
  | block {opening closing : String} {body rest : List Item} (inside : Balanced body)
      (h : Balanced rest) : Balanced (.block opening closing body :: rest)
  | indented {body rest : List Item} (inside : Balanced body) (h : Balanced rest) :
      Balanced (.indent :: body ++ .dedent :: rest)

theorem Balanced.append {items items' : List Item} (h : Balanced items) (h' : Balanced items') :
    Balanced (items ++ items') := by
  induction h with
  | nil => exact h'
  | line _ ih => exact .line ih
  | blank _ ih => exact .blank ih
  | block inside _ _ ih => exact .block inside ih
  | @indented body rest inside _ _ ih =>
    rw [List.append_assoc, List.cons_append]
    exact .indented inside ih

theorem Balanced.braces {body : List Item} (h : Balanced body) (header : String) :
    Balanced [.braces header body] :=
  .block h .nil

theorem balanced_flatMap {α : Type} {f : α → List Item} {xs : List α}
    (h : ∀ x ∈ xs, Balanced (f x)) : Balanced (xs.flatMap f) := by
  induction xs with
  | nil => exact .nil
  | cons x xs ih =>
    rw [List.flatMap_cons]
    exact (h x List.mem_cons_self).append (ih fun y hy => h y (List.mem_cons_of_mem _ hy))

theorem balanced_map {α : Type} {f : α → Item} {xs : List α} (h : ∀ x ∈ xs, Balanced [f x]) :
    Balanced (xs.map f) := by
  rw [List.map_eq_flatMap]
  exact balanced_flatMap h

theorem balanced_of_forall {items : List Item} (h : ∀ item ∈ items, Balanced [item]) :
    Balanced items := by
  rw [← List.map_id items]
  exact balanced_map h

theorem balanced_lines (texts : List String) : Balanced (texts.map .line) :=
  balanced_map fun _ _ => .line .nil

theorem balanced_between {α : Type} {separator : List Item} {f : α → List Item} {xs : List α}
    (hs : Balanced separator) (h : ∀ x ∈ xs, Balanced (f x)) :
    Balanced (Item.between separator f xs) := by
  fun_induction Item.between separator f xs with
  | case1 => exact .nil
  | case2 x => exact h x List.mem_cons_self
  | case3 x xs _ ih =>
    exact ((h x List.mem_cons_self).append hs).append
      (ih fun y hy => h y (List.mem_cons_of_mem _ hy))

/-- Balanced items end at the depth they began at. -/
theorem Balanced.depth {items : List Item} (h : Balanced items) (depth : Nat) :
    (lines unit depth items).2 = depth := by
  induction h generalizing depth with
  | nil => rfl
  | line _ ih => exact ih depth
  | blank _ ih => exact ih depth
  | block _ _ ihb ih =>
    simp only [lines, itemLines]
    rw [ihb, Nat.add_sub_cancel, ih]
  | indented _ _ ihb ih =>
    rw [lines_append]
    simp only [lines, itemLines]
    rw [ihb, Nat.add_sub_cancel, ih]

theorem lines_block {body : List Item} (h : Balanced body) (depth : Nat)
    (opening closing : String) (rest : List Item) :
    (lines unit depth (.block opening closing body :: rest)).1 =
      lineAt unit depth opening :: (lines unit (depth + 1) body).1 ++
        lineAt unit depth closing :: (lines unit depth rest).1 := by
  simp only [lines, itemLines]
  rw [h.depth, Nat.add_sub_cancel, List.append_assoc, List.singleton_append]

theorem lines_indented {body : List Item} (h : Balanced body) (depth : Nat) (rest : List Item) :
    (lines unit depth (.indent :: body ++ .dedent :: rest)).1 =
      (lines unit (depth + 1) body).1 ++ (lines unit depth rest).1 := by
  rw [lines_append]
  simp only [lines, itemLines]
  rw [h.depth, Nat.add_sub_cancel, List.nil_append, List.nil_append]

/-- The line is empty, or it is indented to the depth at least. -/
def Reaches (unit : String) (depth : Nat) (line : String) : Prop :=
  line = "" ∨ ∃ text, line = String.join (List.replicate depth unit) ++ text

theorem reaches_lineAt (unit : String) (depth : Nat) (text : String) :
    Reaches unit depth (lineAt unit depth text) := by
  unfold lineAt
  split
  · exact .inl rfl
  · exact .inr ⟨text, rfl⟩

theorem Reaches.of_succ {depth : Nat} {line : String} (h : Reaches unit (depth + 1) line) :
    Reaches unit depth line := by
  rcases h with h | ⟨text, rfl⟩
  · exact .inl h
  · refine .inr ⟨unit ++ text, ?_⟩
    rw [List.replicate_succ', String.join_append, String.append_assoc]
    simp

/-- Balanced items write no line that is less deep than they began. -/
theorem Balanced.reaches {items : List Item} (h : Balanced items) (depth : Nat) :
    ∀ line ∈ (lines unit depth items).1, Reaches unit depth line := by
  induction h generalizing depth with
  | nil => simp [lines]
  | line _ ih => exact List.forall_mem_cons.mpr ⟨reaches_lineAt .., ih depth⟩
  | blank _ ih => exact List.forall_mem_cons.mpr ⟨.inl rfl, ih depth⟩
  | block inside _ ihb ih =>
    rw [lines_block inside, List.forall_mem_append, List.forall_mem_cons, List.forall_mem_cons]
    exact ⟨⟨reaches_lineAt .., fun line hline => (ihb _ line hline).of_succ⟩,
      reaches_lineAt .., ih depth⟩
  | indented inside _ ihb ih =>
    rw [lines_indented inside, List.forall_mem_append]
    exact ⟨fun line hline => (ihb _ line hline).of_succ, ih depth⟩

/-! ## Blocks -/

/-- The `rows` come right after the innermost of the nested `headers`: each header is followed by
lines that are deeper, and the next header or the rows are among them. -/
inductive Holds (unit : String) : Nat → List String → List String → List String → Prop
  | rows {depth : Nat} (rows rest : List String) :
      Holds unit depth (rows.map (lineAt unit depth) ++ rest) [] rows
  | header {depth : Nat} (before : List String) {inner after : List String} {header : String}
      {headers rows : List String} (deeper : ∀ line ∈ inner, Reaches unit (depth + 1) line)
      (h : Holds unit (depth + 1) inner headers rows) :
      Holds unit depth (before ++ lineAt unit depth header :: inner ++ after) (header :: headers)
        rows

variable {depth : Nat} {headers rows : List String}

theorem holds_lines_append (rows : List String) (rest : List Item) :
    Holds unit depth (lines unit depth (rows.map .line ++ rest)).1 [] rows := by
  have texts : (lines unit depth (rows.map .line)).1 = rows.map (lineAt unit depth) := by
    induction rows with
    | nil => rfl
    | cons row rows ih => exact congrArg (List.cons _) ih
  rw [lines_append, texts]
  exact .rows ..

theorem holds_lines (rows : List String) :
    Holds unit depth (lines unit depth (rows.map .line)).1 [] rows := by
  rw [← List.append_nil (rows.map Item.line)]
  exact holds_lines_append rows []

theorem holds_nil (lines : List String) : Holds unit depth lines [] [] := .rows [] lines

/-- A line alone is a header with nothing below it. -/
theorem holds_line (text : String) : Holds unit depth (lines unit depth [.line text]).1 [text] [] :=
  .header [] (List.forall_mem_nil _) (holds_nil [])

theorem Holds.extend {lines : List String} {header : String} (before after : List String)
    (h : Holds unit depth lines (header :: headers) rows) :
    Holds unit depth (before ++ lines ++ after) (header :: headers) rows := by
  obtain _ | @⟨_, before', inner, after', _, _, _, deeper, h⟩ := h
  have lines : before ++ (before' ++ lineAt unit depth header :: inner ++ after') ++ after =
      (before ++ before') ++ lineAt unit depth header :: inner ++ (after' ++ after) := by
    simp only [List.append_assoc, List.cons_append]
  rw [lines]
  exact .header _ deeper h

theorem holds_block {body : List Item} {opening closing : String} (inside : Balanced body)
    (h : Holds unit (depth + 1) (lines unit (depth + 1) body).1 headers rows) :
    Holds unit depth (lines unit depth [.block opening closing body]).1 (opening :: headers)
      rows := by
  rw [lines_block inside]
  exact .header [] (inside.reaches (depth + 1)) h

theorem holds_braces {body : List Item} {header opening : String} (inside : Balanced body)
    (ho : header ++ " \x7b" = opening)
    (h : Holds unit (depth + 1) (lines unit (depth + 1) body).1 headers rows) :
    Holds unit depth (lines unit depth [.braces header body]).1 (opening :: headers) rows := by
  subst ho
  exact holds_block inside h

theorem holds_indented {body : List Item} {header : String} (inside : Balanced body)
    (h : Holds unit (depth + 1) (lines unit (depth + 1) body).1 headers rows) :
    Holds unit depth (lines unit depth (.line header :: .indent :: body ++ [.dedent])).1
      (header :: headers) rows := by
  rw [show (lines unit depth (.line header :: .indent :: body ++ [.dedent])).1 =
    lineAt unit depth header :: (lines unit depth (.indent :: body ++ [.dedent])).1 from rfl,
    lines_indented inside]
  exact .header [] (inside.reaches (depth + 1)) h

/-! ## Parts -/

/-- The part stands among the items, after balanced ones. -/
def Within (part items : List Item) : Prop :=
  ∃ before after, items = before ++ part ++ after ∧ Balanced before

theorem Within.refl (items : List Item) : Within items items := ⟨[], [], by simp, .nil⟩

theorem Within.trans {part items items' : List Item} (h : Within part items)
    (h' : Within items items') : Within part items' := by
  obtain ⟨before, after, rfl, hb⟩ := h
  obtain ⟨before', after', rfl, hb'⟩ := h'
  exact ⟨before' ++ before, after ++ after', by simp only [List.append_assoc], hb'.append hb⟩

theorem Within.append_left {part items : List Item} (h : Within part items) (before : List Item)
    (hb : Balanced before) : Within part (before ++ items) :=
  h.trans ⟨before, [], by simp, hb⟩

theorem Within.append_right {part items : List Item} (h : Within part items)
    (after : List Item) : Within part (items ++ after) :=
  h.trans ⟨[], after, by simp, .nil⟩

theorem within_flatMap {α : Type} {f : α → List Item} {xs : List α} {x : α} (hx : x ∈ xs)
    (h : ∀ x ∈ xs, Balanced (f x)) : Within (f x) (xs.flatMap f) := by
  obtain ⟨before, after, rfl⟩ := List.append_of_mem hx
  refine ⟨before.flatMap f, after.flatMap f, by simp, balanced_flatMap fun y hy => h y ?_⟩
  exact List.mem_append_left _ hy

theorem within_map {α : Type} {f : α → Item} {xs : List α} {x : α} (hx : x ∈ xs)
    (h : ∀ x ∈ xs, Balanced [f x]) : Within [f x] (xs.map f) := by
  rw [List.map_eq_flatMap]
  exact within_flatMap (f := fun x => [f x]) hx h

theorem within_between {α : Type} {separator : List Item} {f : α → List Item} {xs : List α}
    {x : α} (hx : x ∈ xs) (hs : Balanced separator) (h : ∀ x ∈ xs, Balanced (f x)) :
    Within (f x) (Item.between separator f xs) := by
  fun_induction Item.between separator f xs with
  | case1 => exact absurd hx List.not_mem_nil
  | case2 y =>
    rw [List.mem_singleton.mp hx]
    exact .refl _
  | case3 y ys _ ih =>
    rcases List.mem_cons.mp hx with rfl | hx
    · exact ((Within.refl _).append_right _).append_right _
    · exact (ih hx fun z hz => h z (List.mem_cons_of_mem _ hz)).append_left _
        ((h y List.mem_cons_self).append hs)

/-- What a part holds below a header, all the items hold. -/
theorem Within.holds {part items : List Item} (w : Within part items) {header : String}
    (h : Holds unit depth (lines unit depth part).1 (header :: headers) rows) :
    Holds unit depth (lines unit depth items).1 (header :: headers) rows := by
  obtain ⟨before, after, rfl, hb⟩ := w
  rw [List.append_assoc, lines_append, hb.depth, lines_append]
  rw [← List.append_assoc]
  exact h.extend _ _

/-- The text consists of lines in which the rows are found below the headers. -/
def Shows (unit : String) (headers rows : List String) (text : String) : Prop :=
  ∃ lines : List String, text = String.join (lines.map (· ++ "\n")) ∧
    Holds unit 0 lines headers rows

end CatalogTypes.Layout
