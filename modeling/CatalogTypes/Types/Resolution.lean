import CatalogTypes.Catalog.Index
import CatalogTypes.Dialect

/-! # What the names of types in a catalog denote -/

namespace CatalogTypes

/-! ## Array markers -/

/-- The element type of an array type: `text[]` and `_text` both denote arrays of `text`. A name
that ends in `[]` is not read by its underscore too, and an array needs a name for its elements. -/
def elementChars? (format : List Char) : Option (List Char) :=
  let element? :=
    if ['[', ']'].isSuffixOf format then some (format.take (format.length - 2))
    else match format with
      | '_' :: element => some element
      | _ => none
  element?.filter (!·.isEmpty)

def elementFormat? (format : String) : Option String :=
  (elementChars? format.toList).map String.ofList

theorem length_lt_of_elementChars? {format element : List Char}
    (h : elementChars? format = some element) : element.length < format.length := by
  obtain ⟨h, hne⟩ := Option.filter_eq_some_iff.mp h
  split at h
  · next hs =>
    have : element.length ≠ 0 := by simpa using hne
    have hlen : element.length = min (format.length - 2) format.length := by
      rw [← Option.some.inj h, List.length_take]
    omega
  · split at h
    · simp_all
    · simp at h

/-- Takes all array markers off: how many there are, and the name that is left. -/
def unwrapChars (format : List Char) : Nat × List Char :=
  match h : elementChars? format with
  | some element => let inner := unwrapChars element; (inner.1 + 1, inner.2)
  | none => (0, format)
termination_by format.length
decreasing_by exact length_lt_of_elementChars? h

/-! ## Meanings -/

/-- What the name of an element type denotes, in no language yet. -/
inductive Meaning where
  | builtin (s : Scalar)
  /-- An emitted enumeration or composite. -/
  | declared (t : TypeDef)
  /-- Nothing that has a type of its own; the warning tells why. -/
  | unknown (w : Warning)
deriving DecidableEq, Repr

/-- A meaning inside of as many lists as there are array markers. -/
structure Resolved where
  layers : Nat
  meaning : Meaning
deriving DecidableEq, Repr

def Meaning.warning? : Meaning → Option Warning
  | unknown w => some w
  | _ => none

def Resolved.warning? (r : Resolved) : Option Warning := r.meaning.warning?

namespace Resolved

/-- The type in a language. `reference?` tells how a field refers to an emitted type. -/
def type (d : Dialect) (reference? : ObjectId → Option String) (r : Resolved) : TargetType :=
  .lists r.layers <| .named <| match r.meaning with
    | .builtin s => d.scalarType s
    | .declared t => (reference? t.id).getD d.anyType
    | .unknown _ => d.anyType

def typeOrNull (d : Dialect) (reference? : ObjectId → Option String) (nullable : Bool)
    (r : Resolved) : TargetType :=
  if nullable then (r.type d reference?).orNull else r.type d reference?

end Resolved

namespace Index

variable (ix : Index) (isEmitted : ObjectId → Bool)

/-- What an enumeration or composite denotes. -/
def reference (t : TypeDef) : Meaning :=
  if isEmitted t.id then .declared t else .unknown (.excludedTypeReference t.schema t.name)

/-- What a name without array markers denotes, read in the schema `home`. -/
def meaning (home : Option String) (element : String) : Meaning :=
  match Scalar.ofFormat? element with
  | some s => .builtin s
  | none =>
    match (ix.typeNamed? element home).filter (!·.isScalar) with
    | some t => reference isEmitted t
    | none => .unknown (.unknownBaseType element)

def resolve (home : Option String) (format : String) : Resolved :=
  let (layers, element) := unwrapChars format.toList
  ⟨layers, ix.meaning isEmitted home (String.ofList element)⟩

/-- What an attribute of `composite` denotes. A scalar type is read by its name, in its own
schema. -/
def resolveAttribute (composite : TypeDef) (attr : Attribute) : Resolved :=
  match ix.type? attr.typeId with
  | some t => if t.isScalar then ix.resolve isEmitted (some t.schema) t.name
    else ⟨0, reference isEmitted t⟩
  | none =>
    ⟨0, .unknown (.unresolvedTypeReference attr.typeId
      (composite.schema ++ "." ++ composite.name) attr.name)⟩

end Index

end CatalogTypes
