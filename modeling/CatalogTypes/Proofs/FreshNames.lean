import CatalogTypes.Naming.Convention
import CatalogTypes.Naming.Registry
import Mathlib.Data.List.Nodup
import Mathlib.Data.List.Perm.Subperm

/-!
# Names given out are new

A claim tries candidates until one is free. The number of names taken bounds the tries, because the
finished candidates of a base differ from one another; `Registry.Grants` then records what any run
of claims gives out, and runs compose.
-/

namespace CatalogTypes

open Text

namespace Registry

/-! ## Candidates -/

/-- What a candidate has after its base. -/
def suffix : Nat → List Char
  | 0 => []
  | n + 1 => digits (n + 2)

theorem toList_candidate (base : String) (n : Nat) :
    (candidate base n).toList = base.toList ++ suffix n := by
  cases n <;> simp [candidate, suffix, decimal]

theorem digits_ne_nil (n : Nat) : digits n ≠ [] := by
  rw [digits]
  split <;> simp

theorem suffix_ne_nil {n : Nat} (h : n ≠ 0) : suffix n ≠ [] := by
  obtain ⟨n, rfl⟩ := Nat.exists_eq_succ_of_ne_zero h
  exact digits_ne_nil _

theorem suffix_injective {m n : Nat} (h : suffix m = suffix n) : m = n := by
  cases m with
  | zero =>
    cases n with
    | zero => rfl
    | succ n => exact absurd h.symm (suffix_ne_nil n.succ_ne_zero)
  | succ m =>
    cases n with
    | zero => exact absurd h (suffix_ne_nil m.succ_ne_zero)
    | succ n =>
      have := digits_injective h
      omega

theorem isDigit_digit {n : Nat} (h : n < 10) : (digit n).isDigit := by
  match n, h with
  | 0, _ | 1, _ | 2, _ | 3, _ | 4, _ | 5, _ | 6, _ | 7, _ | 8, _ | 9, _ => rfl

theorem isDigit_of_mem_digits {n : Nat} : ∀ c ∈ digits n, c.isDigit := by
  induction n using digits.induct with
  | case1 n h =>
    intro c hc
    rw [digits, if_pos h, List.mem_singleton] at hc
    exact hc ▸ isDigit_digit h
  | case2 n h ih =>
    intro c hc
    rw [digits, if_neg h, List.mem_append, List.mem_singleton] at hc
    rcases hc with hc | rfl
    · exact ih c hc
    · exact isDigit_digit (Nat.mod_lt n (by decide))

theorem isDigit_of_mem_suffix {n : Nat} : ∀ c ∈ suffix n, c.isDigit := by
  cases n with
  | zero => simp [suffix]
  | succ n => exact isDigit_of_mem_digits

theorem candidate_injective {base : String} {m n : Nat}
    (h : candidate base m = candidate base n) : m = n := by
  have h := congrArg String.toList h
  rw [toList_candidate, toList_candidate] at h
  exact suffix_injective (List.append_cancel_left h)

/-- A numbered candidate ends in a digit. -/
theorem exists_digit_of_candidate (base : String) {n : Nat} (h : n ≠ 0) :
    ∃ init c, (candidate base n).toList = init ++ [c] ∧ c.isDigit := by
  have hne := suffix_ne_nil h
  refine ⟨base.toList ++ (suffix n).dropLast, (suffix n).getLast hne, ?_,
    isDigit_of_mem_suffix _ (List.getLast_mem hne)⟩
  rw [toList_candidate, List.append_assoc, List.dropLast_append_getLast]

/-! ## Claims -/

/-- The finished candidates of a base differ. -/
def Separates (finish : String → String) : Prop :=
  ∀ base m n, finish (candidate base m) = finish (candidate base n) → m = n

section Search

variable {taken : Std.HashSet String} {base : String} {finish : String → String} {tries n : Nat}

theorem forall_lt_succ_iff :
    (∀ k < tries + 1, finish (candidate base (n + k)) ∈ taken) ↔
      finish (candidate base n) ∈ taken ∧
        ∀ k < tries, finish (candidate base (n + 1 + k)) ∈ taken := by
  simp only [Nat.forall_lt_succ_left, Nat.add_zero, Nat.add_right_comm n 1, ← Nat.add_assoc]

theorem search?_eq_none_iff : search? taken base finish tries n = none ↔
    ∀ k < tries, finish (candidate base (n + k)) ∈ taken := by
  induction tries generalizing n with
  | zero => simp [search?]
  | succ tries ih =>
    rw [forall_lt_succ_iff]
    by_cases h : finish (candidate base n) ∈ taken
    · rw [search?, if_pos (by simpa using h), ih, and_iff_right h]
    · rw [search?, if_neg (by simpa using h)]
      simp [h]

/-- What is found is the first free candidate. -/
theorem search?_spec {name : String} (h : search? taken base finish tries n = some name) :
    ∃ k < tries, name = finish (candidate base (n + k)) ∧ name ∉ taken ∧
      ∀ j < k, finish (candidate base (n + j)) ∈ taken := by
  induction tries generalizing n with
  | zero => cases h
  | succ tries ih =>
    by_cases used : finish (candidate base n) ∈ taken
    · rw [search?, if_pos (by simpa using used)] at h
      obtain ⟨k, hk, eq, free, before⟩ := ih h
      rw [Nat.add_right_comm, Nat.add_assoc] at eq
      exact ⟨k + 1, Nat.succ_lt_succ hk, eq, free, forall_lt_succ_iff.mpr ⟨used, before⟩⟩
    · rw [search?, if_neg (by simpa using used)] at h
      obtain rfl := Option.some.inj h
      exact ⟨0, tries.succ_pos, rfl, used, by simp⟩

end Search

section Claim

variable {finish : String → String} (separates : Separates finish)
include separates

/-- No more candidates are taken than there are names taken. -/
theorem le_size_of_taken {taken : Std.HashSet String} {base : String} {n k : Nat}
    (h : ∀ j < k, finish (candidate base (n + j)) ∈ taken) : k ≤ taken.size := by
  have nodup : ((List.range k).map fun j => finish (candidate base (n + j))).Nodup :=
    List.nodup_range.map fun i j same => Nat.add_left_cancel (separates base _ _ same)
  have subset : ((List.range k).map fun j => finish (candidate base (n + j))) ⊆ taken.toList := by
    intro name hname
    obtain ⟨j, hj, rfl⟩ := List.mem_map.mp hname
    exact Std.HashSet.mem_toList.mpr (h j (List.mem_range.mp hj))
  have le := (nodup.subperm subset).length_le
  rwa [List.length_map, List.length_range, Std.HashSet.length_toList] at le

/-- Beyond any candidates that are taken the first free one is found. -/
theorem search_spec {taken : Std.HashSet String} {base : String} {n : Nat}
    (h : ∀ j < n, finish (candidate base j) ∈ taken) :
    ∃ k, search taken base finish taken.size n = finish (candidate base k) ∧
      finish (candidate base k) ∉ taken ∧ ∀ j < k, finish (candidate base j) ∈ taken := by
  have first : ∃ k, search taken base finish taken.size n = finish (candidate base (n + k)) ∧
      finish (candidate base (n + k)) ∉ taken ∧
        ∀ j < k, finish (candidate base (n + j)) ∈ taken := by
    cases found : search? taken base finish taken.size n with
    | some name =>
      obtain ⟨k, -, rfl, free, before⟩ := search?_spec found
      exact ⟨k, by rw [search, found, Option.getD_some], free, before⟩
    | none =>
      have used := search?_eq_none_iff.mp found
      refine ⟨taken.size, by rw [search, found, Option.getD_none], fun last => ?_, used⟩
      have more := le_size_of_taken (k := taken.size + 1) separates fun j hj =>
        (Nat.lt_succ_iff_lt_or_eq.mp hj).elim (used j) fun eq => eq ▸ last
      exact absurd more (Nat.not_succ_le_self _)
  obtain ⟨k, found, free, before⟩ := first
  refine ⟨n + k, found, free, fun j hj => ?_⟩
  rcases Nat.lt_or_ge j n with less | ge
  · exact h j less
  · obtain ⟨i, rfl⟩ := Nat.exists_eq_add_of_le ge
    exact before i (by omega)

/-- A claim gives out the first candidate that is not taken. -/
theorem claim_spec (reg : Registry) (base : String) :
    ∃ k ≤ reg.taken.size, (reg.claim base finish).1 = finish (candidate base k) ∧
      finish (candidate base k) ∉ reg.taken ∧
        ∀ j < k, finish (candidate base j) ∈ reg.taken := by
  have first : ∃ k, (reg.claim base finish).1 = finish (candidate base k) ∧
      finish (candidate base k) ∉ reg.taken ∧
        ∀ j < k, finish (candidate base j) ∈ reg.taken := by
    cases found : search? reg.taken base finish reach 0 with
    | some name =>
      obtain ⟨k, -, rfl, free, before⟩ := search?_spec found
      simp only [Nat.zero_add] at free before
      exact ⟨k, by simp [claim, claim?, found], free, before⟩
    | none =>
      have used := search?_eq_none_iff.mp found
      simp only [Nat.zero_add] at used
      simpa [claim, claim?, found] using search_spec separates used
  obtain ⟨k, found, free, before⟩ := first
  exact ⟨k, le_size_of_taken (n := 0) separates (by simpa using before), found, free, before⟩

end Claim

theorem claim_snd (reg : Registry) (base : String) (finish : String → String) :
    (reg.claim base finish).2 = reg.insert (reg.claim base finish).1 := by
  cases found : search? reg.taken base finish reach 0 with
  | some name => simp [claim, claim?, found]
  | none => simp [claim, claim?, found]

/-- Whatever the finish, a claim gives out a finished candidate. -/
theorem exists_claim_eq (reg : Registry) (base : String) (finish : String → String) :
    ∃ n, (reg.claim base finish).1 = finish (candidate base n) := by
  have tried : ∀ {tries n : Nat} {name : String},
      search? reg.taken base finish tries n = some name → ∃ n, name = finish (candidate base n) :=
    fun found => (search?_spec found).imp' _ fun _ spec => spec.2.1
  cases found : search? reg.taken base finish reach 0 with
  | some name => simpa [claim, claim?, found] using tried found
  | none =>
    cases found' : search? reg.taken base finish reg.taken.size reach with
    | some name => simpa [claim, claim?, search, found, found'] using tried found'
    | none => exact ⟨reach + reg.taken.size, by simp [claim, claim?, search, found, found']⟩

/-! ## Runs of claims -/

/-- From `reg` to `reg'` the `names` are given out: they were free and differ, and they are taken
now, beside those that were. -/
structure Grants (reg : Registry) (names : List String) (reg' : Registry) : Prop where
  nodup : names.Nodup
  free : ∀ name ∈ names, name ∉ reg.taken
  taken : ∀ name, name ∈ reg'.taken ↔ name ∈ reg.taken ∨ name ∈ names

theorem Grants.append {reg reg' reg'' : Registry} {names names' : List String}
    (h : Grants reg names reg') (h' : Grants reg' names' reg'') :
    Grants reg (names ++ names') reg'' where
  nodup := h.nodup.append h'.nodup fun name hn hn' =>
    h'.free name hn' ((h.taken name).mpr (.inr hn))
  free := by
    intro name hn
    rcases List.mem_append.mp hn with hn | hn
    · exact h.free name hn
    · exact fun ht => h'.free name hn ((h.taken name).mpr (.inl ht))
  taken := by
    intro name
    rw [h'.taken, h.taken, List.mem_append, or_assoc]

theorem grants_claim {finish : String → String} (separates : Separates finish) (reg : Registry)
    (base : String) : Grants reg [(reg.claim base finish).1] (reg.claim base finish).2 where
  nodup := List.nodup_singleton _
  free := by
    intro name hn
    obtain ⟨k, -, found, free, -⟩ := claim_spec separates reg base
    rw [List.mem_singleton.mp hn, found]
    exact free
  taken := by
    intro name
    rw [List.mem_singleton, claim_snd, taken_insert, Std.HashSet.mem_insert, beq_iff_eq, or_comm,
      eq_comm]

/-- A run gives out what its steps give out, whatever else its state holds. -/
theorem grants_mapThread {σ α β : Type} {f : σ → α → β × σ} (reg : σ → Registry)
    (names : β → List String)
    (step : ∀ s x, Grants (reg s) (names (f s x).1) (reg (f s x).2)) (s : σ) (xs : List α) :
    Grants (reg s) ((mapThread f s xs).1.flatMap names) (reg (mapThread f s xs).2) := by
  induction xs generalizing s with
  | nil => exact ⟨List.nodup_nil, by simp [mapThread], by simp [mapThread]⟩
  | cons x xs ih => exact (step s x).append (ih _)

/-- A run whose steps give out a name each. -/
theorem grants_map_mapThread {σ α β : Type} {f : σ → α → β × σ} (reg : σ → Registry)
    (name : β → String)
    (step : ∀ s x, Grants (reg s) [name (f s x).1] (reg (f s x).2)) (s : σ) (xs : List α) :
    Grants (reg s) ((mapThread f s xs).1.map name) (reg (mapThread f s xs).2) := by
  rw [List.map_eq_flatMap]
  exact grants_mapThread reg _ step s xs

end Registry

/-! ## Escaped candidates -/

/-- No reserved word has a digit in it. -/
def Convention.Unnumbered (conv : Convention) : Prop :=
  ∀ word ∈ conv.reserved, ∀ c ∈ word.toList, c.isDigit = false

instance (conv : Convention) : Decidable conv.Unnumbered :=
  decidable_of_iff (conv.reserved.all fun word => word.toList.all fun c => !c.isDigit)
    (by simp [Convention.Unnumbered])

section Escaping

variable {conv : Convention}

theorem Convention.Unnumbered.not_isReserved (h : conv.Unnumbered) (base : String) {n : Nat}
    (hn : n ≠ 0) : conv.isReserved (Registry.candidate base n) = false := by
  rw [isReserved, Bool.eq_false_iff]
  intro reserved
  obtain ⟨init, c, hc, digit⟩ := Registry.exists_digit_of_candidate base hn
  have := h _ (by simpa using reserved) c (by simp [hc])
  simp [digit] at this

/-- A closing mark that is no digit cannot make a reserved candidate equal to another one. -/
theorem Convention.Unnumbered.marked_ne (h : conv.Unnumbered) {base : String} {m n : Nat}
    (hm : conv.isReserved (Registry.candidate base m)) (start : List Char) (mark : Char)
    (hmark : mark.isDigit = false) (hmn : m ≠ n) :
    start ++ (Registry.candidate base m).toList ++ [mark] ≠
      (Registry.candidate base n).toList := by
  intro heq
  have hm0 : m = 0 := by
    by_contra hm0
    simp [h.not_isReserved base hm0] at hm
  obtain ⟨init, c, hc, digit⟩ := Registry.exists_digit_of_candidate base (n := n) (by omega)
  rw [hc] at heq
  have := (List.append_inj' heq rfl).2
  simp_all

theorem not_isIdentifier_quote (value : String) : isIdentifier (quote value) = false := by
  rw [isIdentifier, toList_quote]
  rfl

theorem escapeChar_of_isDigit {c : Char} (h : c.isDigit) : escapeChar c = [c] := by
  have range : 48 ≤ c.toNat ∧ c.toNat ≤ 57 := by
    simpa [Char.isDigit, UInt32.le_iff_toNat_le] using h
  have ne : ∀ d : Char, d.toNat < 48 ∨ 57 < d.toNat → c ≠ d := by
    rintro d hd rfl
    omega
  unfold escapeChar
  rw [if_neg (ne _ (by decide)), if_neg (ne _ (by decide)), if_neg (ne _ (by decide)),
    if_neg (ne _ (by decide)), if_neg (ne _ (by decide)), if_neg (ne _ (by decide)),
    if_neg (ne _ (by decide)), if_neg (by omega)]

theorem flatMap_escapeChar_suffix (n : Nat) :
    (Registry.suffix n).flatMap escapeChar = Registry.suffix n := by
  have plain : ∀ c ∈ Registry.suffix n, escapeChar c = [c] := fun c hc =>
    escapeChar_of_isDigit (Registry.isDigit_of_mem_suffix c hc)
  rw [List.flatMap_congr plain]
  exact List.flatMap_singleton' _

theorem quote_candidate_injective {base : String} {m n : Nat}
    (h : quote (Registry.candidate base m) = quote (Registry.candidate base n)) : m = n := by
  have h := congrArg String.toList h
  rw [toList_quote, toList_quote, Registry.toList_candidate, Registry.toList_candidate,
    List.flatMap_append, List.flatMap_append, flatMap_escapeChar_suffix,
    flatMap_escapeChar_suffix] at h
  exact Registry.suffix_injective
    (List.append_cancel_left (List.append_cancel_right (List.cons.inj h).2))

/-- Whatever the escape, a base never runs out of candidates that can be told apart. -/
theorem Convention.Unnumbered.separates (h : conv.Unnumbered) :
    Registry.Separates conv.escape := by
  intro base m n heq
  by_contra hmn
  unfold escape at heq
  cases hesc : conv.escaping with
  | backticks =>
    simp only [hesc] at heq
    have chars := congrArg String.toList heq
    split_ifs at heq chars with hm hn hn
    · exact hmn (Registry.candidate_injective (by simpa [String.append_assoc] using heq))
    · exact h.marked_ne hm ['\x60'] '\x60' (by decide) hmn (by simpa using chars)
    · exact h.marked_ne hn ['\x60'] '\x60' (by decide) (Ne.symm hmn)
        (by simpa using chars.symm)
    · exact hmn (Registry.candidate_injective heq)
  | trailingUnderscore =>
    simp only [hesc] at heq
    have chars := congrArg String.toList heq
    split_ifs at heq chars with hm hn hn
    · exact hmn (Registry.candidate_injective (by simpa using heq))
    · exact h.marked_ne hm [] '_' (by decide) hmn (by simpa using chars)
    · exact h.marked_ne hn [] '_' (by decide) (Ne.symm hmn) (by simpa using chars.symm)
    · exact hmn (Registry.candidate_injective heq)
  | quote =>
    simp only [hesc] at heq
    split_ifs at heq with hm hn hn
    · exact hmn (quote_candidate_injective heq)
    · simp [← heq, not_isIdentifier_quote] at hn
    · simp [heq, not_isIdentifier_quote] at hm
    · exact hmn (Registry.candidate_injective heq)

end Escaping

end CatalogTypes
