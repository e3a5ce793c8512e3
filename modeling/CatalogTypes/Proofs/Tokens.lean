import CatalogTypes.Json.Skip
import CatalogTypes.Json.Value
import CatalogTypes.Proofs.FreshNames
import CatalogTypes.Proofs.Literals
import Mathlib.Data.List.TakeWhile

/-!
# The tokens of a JSON text

A text of a value is made of the tokens of the value, with blanks around them. What follows a value
begins with a comma or a closing bracket, or there is nothing more: so a number ends where its token
ends, and every scanner takes the tokens that it should.
-/

namespace CatalogTypes.Json

open Text (digits digitValue quote escapeChar)

/-! ## Values as tokens -/

namespace Value

mutual

/-- The tokens of a value, from first to last. -/
def tokens : Value → List (List Char)
  | null => [['n', 'u', 'l', 'l']]
  | boolean true => [['t', 'r', 'u', 'e']]
  | boolean false => [['f', 'a', 'l', 's', 'e']]
  | number n => [digits n]
  | text s => [(quote s).toList]
  | array xs => ['['] :: elementTokens xs ++ [[']']]
  | object members => ['\x7b'] :: memberTokens members ++ [['\x7d']]

def elementTokens : List Value → List (List Char)
  | [] => []
  | [x] => tokens x
  | x :: xs => tokens x ++ [','] :: elementTokens xs

def memberTokens : List (String × Value) → List (List Char)
  | [] => []
  | [member] => pairTokens member
  | member :: members => pairTokens member ++ [','] :: memberTokens members

def pairTokens : String × Value → List (List Char)
  | (name, x) => (quote name).toList :: [':'] :: tokens x

end

mutual

/-- The compact text has all tokens and no blanks. -/
theorem flatten_tokens (v : Value) : v.tokens.flatten = v.chars := by
  match v with
  | null => rfl
  | boolean true => rfl
  | boolean false => rfl
  | number n => simp [tokens, chars]
  | text s => simp [tokens, chars]
  | array xs => simp [tokens, chars, flatten_elementTokens xs]
  | object members => simp [tokens, chars, flatten_memberTokens members]

theorem flatten_elementTokens (xs : List Value) :
    (elementTokens xs).flatten = elementChars xs := by
  match xs with
  | [] => rfl
  | [x] => exact flatten_tokens x
  | x :: y :: xs =>
    have rest := flatten_elementTokens (y :: xs)
    simp [elementTokens, elementChars, flatten_tokens x, rest]

theorem flatten_memberTokens (members : List (String × Value)) :
    (memberTokens members).flatten = memberChars members := by
  match members with
  | [] => rfl
  | [member] => exact flatten_pairTokens member
  | member :: next :: members =>
    have rest := flatten_memberTokens (next :: members)
    simp [memberTokens, memberChars, flatten_pairTokens member, rest]

theorem flatten_pairTokens (member : String × Value) :
    (pairTokens member).flatten = pairChars member := by
  obtain ⟨name, x⟩ := member
  simp [pairTokens, pairChars, flatten_tokens x]

end

/-- The tokens of all elements but the first, with the commas before them. -/
def laterElements (xs : List Value) : List (List Char) := xs.flatMap fun x => [','] :: x.tokens

/-- The tokens of all members but the first, with the commas before them. -/
def laterMembers (members : List (String × Value)) : List (List Char) :=
  members.flatMap fun member => [','] :: pairTokens member

theorem pairTokens_eq (member : String × Value) :
    pairTokens member = (quote member.1).toList :: [':'] :: member.2.tokens := by
  rw [pairTokens]

theorem elementTokens_cons (x : Value) (xs : List Value) :
    elementTokens (x :: xs) = x.tokens ++ laterElements xs := by
  induction xs generalizing x with
  | nil => simp [elementTokens, laterElements]
  | cons y xs ih => simp [elementTokens, laterElements, ih y]

theorem memberTokens_cons (member : String × Value) (members : List (String × Value)) :
    memberTokens (member :: members) = pairTokens member ++ laterMembers members := by
  induction members generalizing member with
  | nil => simp [memberTokens, laterMembers]
  | cons next members ih => simp [memberTokens, laterMembers, ih next]

end Value

/-! ## Blanks -/

/-- The characters are those of the tokens, with any blanks around them. -/
inductive Spaced : List (List Char) → List Char → Prop
  | nil {blanks : List Char} (h : ∀ c ∈ blanks, isBlank c) : Spaced [] blanks
  | cons {blanks token : List Char} {ts : List (List Char)} {cs : List Char}
      (h : ∀ c ∈ blanks, isBlank c) (rest : Spaced ts cs) :
      Spaced (token :: ts) (blanks ++ (token ++ cs))

theorem Spaced.token {ts : List (List Char)} {cs : List Char} (token : List Char)
    (rest : Spaced ts cs) : Spaced (token :: ts) (token ++ cs) :=
  @Spaced.cons [] token ts cs (by simp) rest

/-- The text is one of the value. -/
def Value.Spells (v : Value) (text : String) : Prop := Spaced v.tokens text.toList

/-- The same blanks may stand before each token. -/
theorem spaced_flatMap {blanks : List Char} (h : ∀ c ∈ blanks, isBlank c) (ts : List (List Char)) :
    Spaced ts (ts.flatMap (blanks ++ ·)) := by
  induction ts with
  | nil => exact .nil (by simp)
  | cons t ts ih =>
    rw [List.flatMap_cons, List.append_assoc]
    exact .cons h ih

theorem Value.spells_compact (v : Value) : v.Spells v.compact := by
  have spaced := @spaced_flatMap [] (by simp) v.tokens
  rw [Spells, compact, String.toList_ofList, ← v.flatten_tokens]
  simpa using spaced

theorem Spaced.skip_nil {cs : List Char} (h : Spaced [] cs) : skipBlanks cs = [] := by
  cases h with
  | nil h => exact List.dropWhile_eq_nil_iff.mpr h

theorem Spaced.skip_cons {c : Char} {token cs : List Char} {ts : List (List Char)}
    (h : Spaced ((c :: token) :: ts) cs) (hc : isBlank c = false) :
    ∃ r, skipBlanks cs = c :: (token ++ r) ∧ Spaced ts r := by
  cases h with
  | cons h rest =>
    refine ⟨_, ?_, rest⟩
    rw [skipBlanks, List.dropWhile_append_of_pos h, List.cons_append,
      List.dropWhile_cons_of_neg (by simp [hc])]

/-- A string token is passed up to its end. -/
theorem Spaced.skip_quote {name : String} {ts : List (List Char)} {cs : List Char}
    (h : Spaced ((quote name).toList :: ts) cs) :
    ∃ r, skipBlanks cs = '"' :: (name.toList.flatMap escapeChar ++ '"' :: r) ∧ Spaced ts r := by
  have token : (quote name).toList = '"' :: (name.toList.flatMap escapeChar ++ ['"']) := by simp
  rw [token] at h
  obtain ⟨r, skipped, rest⟩ := h.skip_cons rfl
  refine ⟨r, ?_, rest⟩
  rw [skipped, List.append_assoc, List.singleton_append]

theorem text_quoted (cs rest : List Char) :
    text [] (cs.flatMap escapeChar ++ '"' :: rest) = .ok (cs, rest) :=
  text_flatMap_escapeChar [] cs rest

/-! ## Ends of values -/

/-- What may follow a value: a comma, a closing bracket or the end of the text. -/
def Follows (ts : List (List Char)) : Prop :=
  ∀ t ∈ ts.head?, t = [','] ∨ t = [']'] ∨ t = ['\x7d']

/-- The characters go on neither with a digit nor with what may stand in a number. -/
def EndsNumber (cs : List Char) : Prop :=
  ∀ c ∈ cs.head?, c.isDigit = false ∧ c ≠ '.' ∧ c ≠ 'e' ∧ c ≠ 'E'

theorem Follows.endsNumber {ts : List (List Char)} {cs : List Char} (h : Follows ts)
    (spaced : Spaced ts cs) : EndsNumber cs := by
  have blank : ∀ c, isBlank c → c.isDigit = false ∧ c ≠ '.' ∧ c ≠ 'e' ∧ c ≠ 'E' := by
    intro c hc
    simp only [isBlank, Bool.or_eq_true, decide_eq_true_eq] at hc
    rcases hc with ((rfl | rfl) | rfl) | rfl
    all_goals decide
  intro c hc
  cases spaced with
  | nil blanks => exact blank c (blanks c (List.mem_of_mem_head? hc))
  | @cons blanks token ts cs blanks' rest =>
    cases blanks with
    | cons b bs =>
      obtain rfl : b = c := by simpa using hc
      exact blank b (blanks' b List.mem_cons_self)
    | nil =>
      rcases h token rfl with rfl | rfl | rfl
      all_goals
        obtain rfl := by simpa using hc
        decide

theorem follows_nil : Follows [] := by simp [Follows]

theorem follows_cons {t : List Char} (h : t = [','] ∨ t = [']'] ∨ t = ['\x7d'])
    (ts : List (List Char)) : Follows (t :: ts) := by
  simpa [Follows] using h

theorem follows_laterElements (xs : List Value) (ts : List (List Char)) :
    Follows (Value.laterElements xs ++ [']'] :: ts) := by
  cases xs with
  | nil => exact follows_cons (by simp) ts
  | cons x xs => exact follows_cons (.inl rfl) _

theorem follows_laterMembers (members : List (String × Value)) (ts : List (List Char)) :
    Follows (Value.laterMembers members ++ ['\x7d'] :: ts) := by
  cases members with
  | nil => exact follows_cons (by simp) ts
  | cons x xs => exact follows_cons (.inl rfl) _

/-! ## Numbers -/

theorem digits_eq_zero_cons {n : Nat} {ds : List Char} (h : digits n = '0' :: ds) : ds = [] := by
  induction n using CatalogTypes.Text.digits.induct generalizing ds with
  | case1 n small =>
    rw [digits, if_pos small] at h
    exact (List.cons.inj h).2.symm
  | case2 n large ih =>
    rw [digits, if_neg large] at h
    obtain ⟨d, init, front⟩ := List.exists_cons_of_ne_nil (Registry.digits_ne_nil (n / 10))
    rw [front] at h
    obtain ⟨rfl, -⟩ := List.cons.inj h
    -- Then `n / 10` has a leading zero, so it is zero.
    have zero : digits (n / 10) = ['0'] := by rw [front, ih front]
    have value := Text.digitsValue_digits (n / 10)
    rw [zero] at value
    have : n / 10 = 0 := value.symm
    omega

theorem le_foldl_digits (ds : List Char) (k : Nat) :
    k ≤ ds.foldl (fun n d => 10 * n + digitValue d) k := by
  induction ds generalizing k with
  | nil => exact Nat.le_refl k
  | cons d ds ih => exact Nat.le_trans (by omega) (ih (10 * k + digitValue d))

theorem absorb_eq {ds : List Char} {k : Nat}
    (h : ds.foldl (fun n d => 10 * n + digitValue d) k ≤ maxSignificand) :
    absorb k ds = (ds.foldl (fun n d => 10 * n + digitValue d) k, []) := by
  induction ds generalizing k with
  | nil => rfl
  | cons d ds ih =>
    have fits := Nat.le_trans (le_foldl_digits ds (10 * k + digitValue d)) h
    rw [absorb]
    simp only [fits, if_true]
    exact ih h

theorem absorb_digits {n : Nat} (h : n ≤ maxSignificand) : absorb 0 (digits n) = (n, []) := by
  have value := Text.digitsValue_digits n
  rw [Text.digitsValue] at value
  rw [absorb_eq (by rwa [value]), value]

theorem EndsNumber.startsWithDigit {r : List Char} (h : EndsNumber r) :
    startsWithDigit r = false := by
  cases r with
  | nil => rfl
  | cons c r => simpa [Json.startsWithDigit] using (h c rfl).1

theorem spanDigits_append {ds r : List Char} (hd : ∀ c ∈ ds, c.isDigit) (hr : EndsNumber r) :
    spanDigits (ds ++ r) = (ds, r) := by
  have stop : r.takeWhile Char.isDigit = [] ∧ r.dropWhile Char.isDigit = r := by
    cases r with
    | nil => exact ⟨rfl, rfl⟩
    | cons c r => simp [(hr c rfl).1]
  rw [spanDigits, List.takeWhile_append_of_pos hd, List.dropWhile_append_of_pos hd, stop.1, stop.2,
    List.append_nil]

theorem whole_digits (n : Nat) {r : List Char} (hr : EndsNumber r) :
    whole (digits n ++ r) = .ok (digits n, r) := by
  obtain ⟨d, ds, eq⟩ := List.exists_cons_of_ne_nil (Registry.digits_ne_nil n)
  have hd : ∀ c ∈ digits n, c.isDigit := Registry.isDigit_of_mem_digits
  have span := spanDigits_append hd hr
  rw [eq] at span ⊢
  unfold whole
  split
  · next rest heq =>
    obtain ⟨rfl, rest⟩ := List.cons.inj heq
    obtain rfl := digits_eq_zero_cons eq
    obtain rfl : r = _ := rest
    rw [hr.startsWithDigit]
    rfl
  · have starts : startsWithDigit (d :: ds ++ r) := by
      simpa [startsWithDigit] using hd d (by simp [eq])
    rw [if_pos starts, span]

theorem fraction?_eq {r : List Char} (hr : EndsNumber r) : fraction? r = .ok (none, r) := by
  unfold fraction?
  split
  · exact absurd rfl (hr '.' rfl).2.1
  · rfl

theorem exponent?_eq {r : List Char} (hr : EndsNumber r) : exponent? r = .ok (none, r) := by
  cases r with
  | nil => rfl
  | cons c r => simp [exponent?, (hr c rfl).2.2]

theorem exists_digits (n : Nat) : ∃ d ds, digits n = d :: ds ∧ d.isDigit := by
  obtain ⟨d, ds, eq⟩ := List.exists_cons_of_ne_nil (Registry.digits_ne_nil n)
  have mem : d ∈ digits n := by simp [eq]
  exact ⟨d, ds, eq, Registry.isDigit_of_mem_digits d mem⟩

theorem ne_of_isDigit {d c : Char} (digit : d.isDigit) (other : c.isDigit = false) : d ≠ c := by
  rintro rfl
  exact absurd digit (by simp [other])

theorem numeral_digits (n : Nat) {r : List Char} (hr : EndsNumber r) :
    numeral (digits n ++ r) = .ok (⟨false, digits n, none, none⟩, r) := by
  obtain ⟨d, ds, eq, digit⟩ := exists_digits n
  have whole := whole_digits n hr
  unfold numeral
  split
  next negative s heq =>
  split at heq
  · next minus =>
    rw [eq] at minus
    exact absurd (List.cons.inj minus).1 (ne_of_isDigit digit rfl)
  · obtain ⟨rfl, rfl⟩ := Prod.mk.inj heq
    simp only [whole, fraction?_eq hr, exponent?_eq hr, bind, Except.bind, pure, Except.pure]

theorem atom_digits {n : Nat} (h : n ≤ maxSignificand) {r : List Char} (hr : EndsNumber r) :
    atom (digits n ++ r) = .ok (.number (.integer n), r) := by
  obtain ⟨d, ds, eq, digit⟩ := exists_digits n
  have numeral := numeral_digits n hr
  have number : (Numeral.mk false (digits n) none none).number r = .ok (.integer n) := by
    simp [Numeral.number, Numeral.integer?, absorb_digits h]
  rw [eq] at numeral number ⊢
  unfold atom
  split
  case h_1 heq => cases heq
  case h_6 heq =>
    obtain ⟨rfl, rest⟩ := List.cons.inj heq
    obtain rfl : ds ++ r = _ := rest
    rw [List.cons_append] at numeral
    rw [if_pos (.inr digit), numeral]
    exact bind_eq_ok.mpr ⟨_, rfl, bind_eq_ok.mpr ⟨_, number, rfl⟩⟩
  -- No other atom begins with a digit.
  all_goals next heq => exact absurd (List.cons.inj heq).1 (ne_of_isDigit digit rfl)

end CatalogTypes.Json
