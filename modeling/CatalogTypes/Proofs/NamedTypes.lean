import CatalogTypes.Proofs.Kept

/-!
# Which type a name denotes

A look-up by name finds the lowest id among the kept types that the name may mean
(`Snapshot.Picks`). A name with a dot is cut at the first one. So a schema whose own name has a dot
is cut in two, and its types are not found by their qualified names (`Snapshot.selects_iff`). Read
as a whole, a name denotes a type of just that name, in the preferred schema if it has one.
-/

namespace CatalogTypes

/-! ## Lowest ids -/

/-- In a strictly ascending list the first element found is the lowest. -/
theorem find?_eq_some_iff_of_pairwise {α : Type} {key : α → ObjectId} {xs : List α}
    (sorted : xs.Pairwise (key · < key ·)) {p : α → Bool} {x : α} :
    xs.find? p = some x ↔ x ∈ xs ∧ p x ∧ ∀ y ∈ xs, p y → key x ≤ key y := by
  induction xs with
  | nil => simp
  | cons y ys ih =>
    obtain ⟨lowest, sorted⟩ := List.pairwise_cons.mp sorted
    have above : ∀ z ∈ ys, ¬ key z ≤ key y := fun z hz => UInt32.not_le.mpr (lowest z hz)
    cases hy : p y with
    | true =>
      rw [List.find?_cons_of_pos hy, Option.some.injEq]
      constructor
      · rintro rfl
        refine ⟨List.mem_cons_self, hy, List.forall_mem_cons.mpr ⟨fun _ => UInt32.le_refl _, ?_⟩⟩
        exact fun z hz _ => UInt32.le_of_lt (lowest z hz)
      · rintro ⟨hx, -, least⟩
        rcases List.mem_cons.mp hx with rfl | hx
        · rfl
        · exact absurd (least y List.mem_cons_self hy) (above x hx)
    | false =>
      rw [List.find?_cons_of_neg (by simp [hy]), ih sorted]
      simp only [List.mem_cons, forall_eq_or_imp, hy, Bool.false_eq_true, false_implies, true_and]
      refine ⟨fun ⟨hx, rest⟩ => ⟨.inr hx, rest⟩, ?_⟩
      rintro ⟨rfl | hx, px, least⟩
      · simp [hy] at px
      · exact ⟨hx, px, least⟩

namespace Snapshot

variable (s : Snapshot)

/-- Among the kept types with the property, `t` has the lowest id. -/
structure Lowest (P : TypeDef → Prop) (t : TypeDef) : Prop where
  first : IsFirst (·.id) s.types t
  property : P t
  least : ∀ u, IsFirst (·.id) s.types u → P u → t.id ≤ u.id

def lowest? (p : TypeDef → Bool) : Option TypeDef :=
  (sortBy (compareOn (·.id)) s.keptTypes).find? p

variable {s} {p : TypeDef → Bool}

theorem lowest?_eq_some_iff {t : TypeDef} : s.lowest? p = some t ↔ s.Lowest (p ·) t := by
  have lt : (sortBy (compareOn (·.id)) s.keptTypes).Pairwise fun t u : TypeDef =>
      compareOn (·.id) t u = .lt := by
    refine sortBy_pairwise_lt s.nodup_keptTypes fun t ht u hu same => ?_
    exact eq_of_mem_keptTypes ht hu (by simpa [compareOn] using same)
  have sorted := lt.imp fun h => compare_id_eq_lt_iff.mp h
  rw [lowest?, find?_eq_some_iff_of_pairwise sorted]
  simp only [mem_sortBy, mem_keptTypes_iff]
  constructor
  · rintro ⟨first, property, least⟩
    exact ⟨first, property, least⟩
  · rintro ⟨first, property, least⟩
    exact ⟨first, property, least⟩

theorem lowest?_eq_none_iff :
    s.lowest? p = none ↔ ∀ u, IsFirst (·.id) s.types u → ¬ p u := by
  simp only [lowest?, List.find?_eq_none, mem_sortBy, mem_keptTypes_iff]

end Snapshot

/-! ## Look-up by name -/

/-- What `name` has before its first dot is the schema of `t`, and the rest is its own name. -/
def TypeDef.Qualifies (t : TypeDef) (name : String) : Prop :=
  name = t.schema ++ "." ++ t.name ∧ '.' ∉ t.schema.toList

instance (t : TypeDef) (name : String) : Decidable (t.Qualifies name) :=
  inferInstanceAs (Decidable (_ ∧ _))

theorem TypeDef.qualifies_iff_cut? {t : TypeDef} {name : String} :
    t.Qualifies name ↔ Text.cut? '.' name.toList = some (t.schema.toList, t.name.toList) := by
  rw [Text.cut?_eq_some_iff, Qualifies, ← String.toList_inj]
  simp only [String.toList_append, String.reduceToList, List.append_assoc, List.singleton_append]

namespace Index

variable {s : Snapshot} {name : String} {preferred : Option String} {t : TypeDef}

theorem find?_typesByName (name : String) (p : TypeDef → Bool) :
    ((ofSnapshot s).typesByName.get name).find? p = s.lowest? fun u => u.name == name && p u := by
  rw [ofSnapshot, Grouping.get_ofList, List.find?_filter]
  simp only [Snapshot.lowest?, Bool.decide_and, Bool.decide_eq_true]

theorem qualified?_eq :
    (ofSnapshot s).qualified? name = s.lowest? fun u => decide (u.Qualifies name) := by
  rw [qualified?]
  cases h : Text.cut? '.' name.toList with
  | none =>
    refine (Snapshot.lowest?_eq_none_iff.mpr fun u _ => ?_).symm
    simp [TypeDef.qualifies_iff_cut?, h]
  | some parts =>
    obtain ⟨schema, bare⟩ := parts
    refine (find?_typesByName _ _).trans (congrArg s.lowest? (funext fun u => ?_))
    rw [Bool.eq_iff_iff, Bool.and_eq_true, beq_iff_eq, beq_iff_eq, decide_eq_true_eq,
      TypeDef.qualifies_iff_cut?, h, Option.some.injEq, Prod.mk.injEq]
    constructor
    · rintro ⟨name, home⟩
      simp [name, home]
    · rintro ⟨rfl, rfl⟩
      simp

theorem named?_eq :
    (ofSnapshot s).named? name preferred =
      (s.lowest? fun u => u.name == name && preferred == some u.schema).or
        (s.lowest? (·.name == name)) := by
  have head : ((ofSnapshot s).typesByName.get name).head? = s.lowest? (·.name == name) := by
    rw [ofSnapshot, Grouping.get_ofList, List.head?_filter, Snapshot.lowest?]
  have home : (preferred.bind fun schema =>
      ((ofSnapshot s).typesByName.get name).find? (·.schema == schema)) =
        s.lowest? fun u => u.name == name && preferred == some u.schema := by
    cases preferred with
    | none => exact (Snapshot.lowest?_eq_none_iff.mpr (by simp)).symm
    | some schema =>
      refine (find?_typesByName _ _).trans (congrArg s.lowest? (funext fun u => ?_))
      rw [Option.some_beq_some, BEq.comm (a := schema)]
  rw [named?, ← head, ← home]

end Index

/-- The type that a name denotes: with the schema before its first dot if there is such a type, else
with just that name, in the preferred schema if that has one. -/
inductive Snapshot.Picks (s : Snapshot) (name : String) (preferred : Option String) :
    TypeDef → Prop
  | qualified {t : TypeDef} (lowest : s.Lowest (·.Qualifies name) t) : s.Picks name preferred t
  | preferred {t : TypeDef} (bare : ∀ u, IsFirst (·.id) s.types u → ¬ u.Qualifies name)
      (lowest : s.Lowest (fun u => u.name = name ∧ preferred = some u.schema) t) :
      s.Picks name preferred t
  | anywhere {t : TypeDef} (bare : ∀ u, IsFirst (·.id) s.types u → ¬ u.Qualifies name)
      (away : ∀ u, IsFirst (·.id) s.types u → ¬ (u.name = name ∧ preferred = some u.schema))
      (lowest : s.Lowest (·.name = name) t) : s.Picks name preferred t

namespace Index

variable {s : Snapshot} {name : String} {preferred : Option String} {t : TypeDef}

theorem typeNamed?_eq_some_iff :
    (ofSnapshot s).typeNamed? name preferred = some t ↔ s.Picks name preferred t := by
  rw [typeNamed?, qualified?_eq, named?_eq]
  simp only [Option.or_eq_some_iff, Snapshot.lowest?_eq_some_iff, Snapshot.lowest?_eq_none_iff,
    Bool.and_eq_true, beq_iff_eq, decide_eq_true_eq]
  constructor
  · rintro (lowest | ⟨bare, lowest | ⟨away, lowest⟩⟩)
    · exact .qualified lowest
    · exact .preferred bare lowest
    · exact .anywhere bare away lowest
  · rintro (lowest | ⟨bare, lowest⟩ | ⟨bare, away, lowest⟩)
    · exact .inl lowest
    · exact .inr ⟨bare, .inl lowest⟩
    · exact .inr ⟨bare, .inr ⟨away, lowest⟩⟩

theorem typeNamed?_eq_none_iff :
    (ofSnapshot s).typeNamed? name preferred = none ↔
      ∀ u, IsFirst (·.id) s.types u → ¬ u.Qualifies name ∧ u.name ≠ name := by
  rw [typeNamed?, qualified?_eq, named?_eq]
  simp only [Option.or_eq_none_iff, Snapshot.lowest?_eq_none_iff, Bool.and_eq_true, beq_iff_eq,
    decide_eq_true_eq]
  constructor
  · rintro ⟨bare, -, none⟩ u hu
    exact ⟨bare u hu, none u hu⟩
  · intro none
    exact ⟨fun u hu => (none u hu).1, fun u hu h => (none u hu).2 h.1, fun u hu => (none u hu).2⟩

end Index

/-! ## Qualified names -/

namespace Snapshot

variable (s : Snapshot) (preferred : Option String)

/-- The qualified name of `t` denotes the type with the lowest id among those of its schema that
share its name. -/
def Selects (t : TypeDef) : Prop :=
  ∃ u, (Index.ofSnapshot s).typeNamed? (t.schema ++ "." ++ t.name) preferred = some u ∧
    s.Lowest (fun v => v.schema = t.schema ∧ v.name = t.name) u

variable {s} {preferred} {t u : TypeDef}

theorem qualifies_fullName_iff (plain : '.' ∉ t.schema.toList) :
    u.Qualifies (t.schema ++ "." ++ t.name) ↔ u.schema = t.schema ∧ u.name = t.name := by
  have cut := TypeDef.qualifies_iff_cut?.mp (⟨rfl, plain⟩ : t.Qualifies _)
  rw [TypeDef.qualifies_iff_cut?, cut, Option.some.injEq, Prod.mk.injEq, String.toList_inj,
    String.toList_inj, eq_comm, eq_comm (a := t.name)]

theorem selects_of_plain (kept : IsFirst (·.id) s.types t) (plain : '.' ∉ t.schema.toList) :
    s.Selects preferred t := by
  have itself : t.Qualifies (t.schema ++ "." ++ t.name) := ⟨rfl, plain⟩
  cases h : (Index.ofSnapshot s).typeNamed? (t.schema ++ "." ++ t.name) preferred with
  | none => exact absurd itself (Index.typeNamed?_eq_none_iff.mp h t kept).1
  | some u =>
    refine ⟨u, h, ?_⟩
    rcases Index.typeNamed?_eq_some_iff.mp h with ⟨lowest⟩ | ⟨bare, -⟩ | ⟨bare, -, -⟩
    · simpa only [qualifies_fullName_iff plain] using lowest
    · exact absurd itself (bare t kept)
    · exact absurd itself (bare t kept)

/-- The qualified name of a type in a schema with a dot never denotes a type of that schema and
name: its first dot is one of the schema. -/
theorem Picks.ne_of_dot_mem (dot : '.' ∈ t.schema.toList)
    (picks : s.Picks (t.schema ++ "." ++ t.name) preferred u) :
    ¬ (u.schema = t.schema ∧ u.name = t.name) := by
  rintro ⟨home, name⟩
  have longer : u.name ≠ t.schema ++ "." ++ t.name := fun h => by
    have lengths := congrArg String.length (name.symm.trans h)
    have one : ".".length = 1 := rfl
    rw [String.length_append, String.length_append, one] at lengths
    omega
  rcases picks with ⟨lowest⟩ | ⟨-, lowest⟩ | ⟨-, -, lowest⟩
  · exact lowest.property.2 (home ▸ dot)
  · exact longer lowest.property.1
  · exact longer lowest.property

theorem selects_iff (kept : IsFirst (·.id) s.types t) :
    s.Selects preferred t ↔ '.' ∉ t.schema.toList := by
  refine ⟨?_, selects_of_plain kept⟩
  rintro ⟨u, picked, lowest⟩ dot
  exact (Index.typeNamed?_eq_some_iff.mp picked).ne_of_dot_mem dot lowest.property

end Snapshot

/-- What names denote in a snapshot. -/
structure Snapshot.Named (s : Snapshot) : Prop where
  /-- A qualified name denotes its type, unless the schema has a dot. -/
  selects : ∀ preferred t, IsFirst (·.id) s.types t →
    (s.Selects preferred t ↔ '.' ∉ t.schema.toList)
  picks : ∀ name preferred t,
    (Index.ofSnapshot s).typeNamed? name preferred = some t ↔ s.Picks name preferred t
  misses : ∀ name preferred, (Index.ofSnapshot s).typeNamed? name preferred = none ↔
    ∀ t, IsFirst (·.id) s.types t → ¬ t.Qualifies name ∧ t.name ≠ name

theorem Snapshot.typeNamed?_named (s : Snapshot) : s.Named where
  selects _ _ := selects_iff
  picks _ _ _ := Index.typeNamed?_eq_some_iff
  misses _ _ := Index.typeNamed?_eq_none_iff

/-- A snapshot with one type `c`, in the schema `a.b`. -/
def dottedSchema : Snapshot where
  schemas := [⟨1, "a.b"⟩]
  types := [.enumeration 7 "a.b" "c" ["x"]]

theorem dottedSchema_not_selects :
    ∃ t, IsFirst (·.id) dottedSchema.types t ∧
      (Index.ofSnapshot dottedSchema).typeNamed? (t.schema ++ "." ++ t.name) none = none ∧
      ¬ dottedSchema.Selects none t := by
  have kept : IsFirst (·.id) dottedSchema.types (.enumeration 7 "a.b" "c" ["x"]) :=
    ⟨[], [], rfl, by simp⟩
  refine ⟨_, kept, ?_, ?_⟩
  · refine Index.typeNamed?_eq_none_iff.mpr fun t ht => ?_
    obtain rfl : t = .enumeration 7 "a.b" "c" ["x"] := List.mem_singleton.mp ht.mem
    decide
  · rw [Snapshot.selects_iff kept, not_not]
    decide

end CatalogTypes
