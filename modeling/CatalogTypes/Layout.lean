/-! # Indented source text -/

namespace CatalogTypes

/-- A piece of source text. -/
inductive Item where
  | line (text : String)
  | blank
  | indent
  | dedent
  /-- The body stands one level deeper than the opening and the closing line. -/
  | block (opening closing : String) (body : List Item)

namespace Layout

/-- A line at a depth. No line ends in indentation: an empty one stays empty. -/
def lineAt (unit : String) (depth : Nat) (text : String) : String :=
  if text.isEmpty then "" else String.join (List.replicate depth unit) ++ text

mutual

/-- The lines of an item at a depth, and the depth after it. A dedent at depth 0 does nothing. -/
def itemLines (unit : String) (depth : Nat) : Item → List String × Nat
  | .line text => ([lineAt unit depth text], depth)
  | .blank => ([""], depth)
  | .indent => ([], depth + 1)
  | .dedent => ([], depth - 1)
  | .block opening closing body =>
    let inner := lines unit (depth + 1) body
    (lineAt unit depth opening :: inner.1 ++ [lineAt unit (inner.2 - 1) closing], inner.2 - 1)

def lines (unit : String) (depth : Nat) : List Item → List String × Nat
  | [] => ([], depth)
  | item :: items =>
    let first := itemLines unit depth item
    let rest := lines unit first.2 items
    (first.1 ++ rest.1, rest.2)

end

/-- The text of the items, indented by `unit` for each level. Every line ends in a line feed. -/
def text (unit : String) (items : List Item) : String :=
  String.join ((lines unit 0 items).1.map (· ++ "\n"))

@[simp] theorem lineAt_empty (unit : String) (depth : Nat) : lineAt unit depth "" = "" := by
  simp [lineAt]

theorem lines_append (unit : String) (depth : Nat) (items items' : List Item) :
    lines unit depth (items ++ items') =
      ((lines unit depth items).1 ++ (lines unit (lines unit depth items).2 items').1,
        (lines unit (lines unit depth items).2 items').2) := by
  induction items generalizing depth with
  | nil => simp [lines]
  | cons item items ih => simp [lines, ih]

end Layout

/-- A block whose body stands in braces. -/
def Item.braces (header : String) (body : List Item) : Item :=
  .block (header ++ " \x7b") "\x7d" body

/-- Pieces of a text with a separator between each two. -/
def Item.between {α : Type} (separator : List Item) (f : α → List Item) : List α → List Item
  | [] => []
  | [x] => f x
  | x :: xs => f x ++ separator ++ between separator f xs

end CatalogTypes
