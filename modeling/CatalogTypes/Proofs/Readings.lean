import CatalogTypes.Json.Record
import CatalogTypes.Proofs.Tokens
import Mathlib.Data.List.Forall2

/-!
# Readers take the tokens of a value

A reader takes a value if it reads every spacing of its tokens, up to the end of the last one,
whatever may follow. There is one lemma for each way in which readers are put together, apart from
those for records.
-/

namespace CatalogTypes.Json

open Text (quote escapeChar)

variable {α : Type}

/-- The reader reads the tokens of `v` as `x`, and leaves what comes after them. -/
def Reader.Takes (reader : Reader α) (x : α) (v : Value) : Prop :=
  ∀ ⦃ts : List (List Char)⦄ ⦃cs : List Char⦄, Follows ts → Spaced (v.tokens ++ ts) cs →
    ∃ r, reader.run cs = .ok (x, r) ∧ Spaced ts r

/-! ## First characters -/

/-- What every value begins with: neither a blank nor what ends or separates values. Only null
begins with the letter `n`. -/
structure Value.Starts (v : Value) (c : Char) : Prop where
  blank : isBlank c = false
  bracket : c ≠ ']'
  letter : c = 'n' → v = .null

theorem Value.exists_starts (v : Value) :
    ∃ c token ts, v.tokens = (c :: token) :: ts ∧ v.Starts c := by
  cases v with
  | null => exact ⟨_, _, _, rfl, rfl, by decide, fun _ => rfl⟩
  | boolean b =>
    cases b
    · exact ⟨_, _, _, rfl, rfl, by decide, by simp⟩
    · exact ⟨_, _, _, rfl, rfl, by decide, by simp⟩
  | number n =>
    obtain ⟨d, ds, eq, digit⟩ := exists_digits n
    have other : ∀ {c : Char}, c.isDigit = false → d ≠ c := ne_of_isDigit digit
    refine ⟨d, ds, [], by rw [tokens, eq], ?_, other rfl, fun h => absurd h (other rfl)⟩
    rw [Bool.eq_false_iff]
    intro blank
    simp only [isBlank, Bool.or_eq_true, decide_eq_true_eq] at blank
    rcases blank with ((h | h) | h) | h
    all_goals exact absurd h (other rfl)
  | text s =>
    exact ⟨_, _, _, by rw [tokens, Text.toList_quote, List.cons_append], rfl, by decide, by simp⟩
  | array xs => exact ⟨_, _, _, by rw [tokens, List.cons_append], rfl, by decide, by simp⟩
  | object members => exact ⟨_, _, _, by rw [tokens, List.cons_append], rfl, by decide, by simp⟩

/-- Blanks in front of a value are passed over, and its tokens are all still there. -/
theorem Value.skip {v : Value} {ts : List (List Char)} {cs : List Char}
    (h : Spaced (v.tokens ++ ts) cs) :
    ∃ c t, skipBlanks cs = c :: t ∧ v.Starts c ∧ Spaced (v.tokens ++ ts) (c :: t) := by
  obtain ⟨c, token, later, eq, starts⟩ := v.exists_starts
  rw [eq, List.cons_append] at h
  obtain ⟨r, skipped, rest⟩ := h.skip_cons starts.blank
  refine ⟨c, token ++ r, skipped, starts, ?_⟩
  rw [eq, List.cons_append]
  exact rest.token (c :: token)

/-! ## Atoms -/

/-- The value is one atom. Numbers that do not fit into 64 bits are read as something else. -/
inductive Value.IsAtom : Value → Atom → Prop
  | null : IsAtom .null .null
  | boolean (b : Bool) : IsAtom (.boolean b) (.boolean b)
  | number {n : Nat} (h : n ≤ maxSignificand) : IsAtom (.number n) (.number (.integer n))
  | text (s : String) : IsAtom (.text s) (.text s)

theorem Value.IsAtom.atom_eq {v : Value} {a : Atom} (h : v.IsAtom a) : ∃ c token,
    v.tokens = [c :: token] ∧ c ≠ '[' ∧ c ≠ '\x7b' ∧
      ∀ r, EndsNumber r → atom (c :: (token ++ r)) = .ok (a, r) := by
  cases h with
  | null => exact ⟨_, _, rfl, by decide, by decide, fun r _ => rfl⟩
  | boolean b =>
    cases b
    · exact ⟨_, _, rfl, by decide, by decide, fun r _ => rfl⟩
    · exact ⟨_, _, rfl, by decide, by decide, fun r _ => rfl⟩
  | @number n h =>
    obtain ⟨d, ds, eq, digit⟩ := exists_digits n
    refine ⟨d, ds, by rw [tokens, eq], ne_of_isDigit digit rfl, ne_of_isDigit digit rfl,
      fun r hr => ?_⟩
    rw [← List.cons_append, ← eq]
    exact atom_digits h hr
  | text s =>
    refine ⟨'"', s.toList.flatMap escapeChar ++ ['"'],
      by rw [tokens, Text.toList_quote, List.cons_append], by decide, by decide, fun r _ => ?_⟩
    rw [List.append_assoc, List.singleton_append]
    simp only [atom, text_quoted, bind, Except.bind, pure, Except.pure, String.ofList_toList]

theorem lead_atom {v : Value} {a : Atom} (h : v.IsAtom a) {ts : List (List Char)} {cs : List Char}
    (follows : Follows ts) (spaced : Spaced (v.tokens ++ ts) cs) :
    ∃ r, lead cs = .ok (.atom a, r) ∧ Spaced ts r := by
  obtain ⟨c, token, eq, array, object, scan⟩ := h.atom_eq
  obtain ⟨c', _, later, eq', starts⟩ := v.exists_starts
  rw [eq] at spaced eq'
  obtain rfl : c = c' := (List.cons.inj (List.cons.inj eq').1).1
  obtain ⟨r, skipped, rest⟩ := spaced.skip_cons starts.blank
  refine ⟨r, ?_, rest⟩
  unfold lead
  rw [skipped]
  split
  · next heq => exact absurd (List.cons.inj heq).1 array
  · next heq => exact absurd (List.cons.inj heq).1 object
  · rw [scan r (follows.endsNumber rest)]
    rfl

namespace Reader

theorem takes_ofAtom {expected : Expected} {accept : Atom → Except Cause α} {a : Atom} {x : α}
    {v : Value} (h : v.IsAtom a) (accepted : accept a = .ok x) :
    (ofAtom expected accept).Takes x v := by
  intro ts cs follows spaced
  obtain ⟨r, front, rest⟩ := lead_atom h follows spaced
  refine ⟨r, ?_, rest⟩
  simp only [ofAtom, front, accepted]

theorem takes_uint32 (n : UInt32) : uint32.Takes n (.number n.toNat) := by
  have fits : n.toNat ≤ maxSignificand := Nat.le_trans (Nat.le_of_lt n.toNat_lt) (by decide)
  refine takes_ofAtom (.number fits) ?_
  have bounds : (0 : Int) ≤ n.toNat ∧ (n.toNat : Int) < UInt32.size :=
    ⟨by omega, by exact_mod_cast n.toNat_lt⟩
  simp only [bounds, and_self, if_true, Int.toNat_natCast, UInt32.ofNat_toNat]

theorem takes_text (s : String) : text.Takes s (.text s) := takes_ofAtom (.text s) rfl

theorem takes_boolean (b : Bool) : boolean.Takes b (.boolean b) := takes_ofAtom (.boolean b) rfl

theorem Takes.map {β : Type} {reader : Reader α} {x : α} {v : Value} (h : reader.Takes x v)
    (f : α → β) : (reader.map f).Takes (f x) v := by
  intro ts cs follows spaced
  obtain ⟨r, run, rest⟩ := h follows spaced
  refine ⟨r, ?_, rest⟩
  simp only [Reader.map, run, Except.map]

theorem takes_null (reader : Reader α) : reader.orNull.Takes none .null := by
  intro ts cs _ spaced
  obtain ⟨r, skipped, rest⟩ := Spaced.skip_cons spaced rfl
  refine ⟨r, ?_, rest⟩
  simp only [orNull, skipped]
  rfl

theorem Takes.orNull {reader : Reader α} {x : α} {v : Value} (h : reader.Takes x v)
    (nonnull : v ≠ .null) : reader.orNull.Takes (some x) v := by
  intro ts cs follows spaced
  obtain ⟨c, t, skipped, starts, spaced⟩ := Value.skip spaced
  obtain ⟨r, run, rest⟩ := h follows spaced
  refine ⟨r, ?_, rest⟩
  simp only [Reader.orNull, skipped]
  split
  · next heq => exact absurd (starts.letter (List.cons.inj heq).1) nonnull
  · rw [run]
    rfl

theorem takes_oneOf {known : List (String × α)} {name : String} {x : α}
    (h : known.lookup name = some x) : (oneOf known).Takes x (.text name) := by
  intro ts cs _ spaced
  obtain ⟨r, skipped, rest⟩ := Spaced.skip_quote spaced
  refine ⟨r, ?_, rest⟩
  simp only [oneOf, skipped, text_quoted, variant, h, bind, Except.bind, pure, Except.pure,
    String.ofList_toList]

end Reader

/-! ## Arrays -/

theorem nextElement_done {first : Bool} {ts : List (List Char)} {cs : List Char}
    (h : Spaced ([']'] :: ts) cs) :
    ∃ r, nextElement first cs = .ok (.done r) ∧ Spaced ts r := by
  obtain ⟨r, skipped, rest⟩ := h.skip_cons rfl
  refine ⟨r, ?_, rest⟩
  simp only [nextElement, skipped, List.nil_append]

theorem nextElement_first {v : Value} {ts : List (List Char)} {cs : List Char}
    (h : Spaced (v.tokens ++ ts) cs) :
    ∃ t, nextElement true cs = .ok (.more t) ∧ Spaced (v.tokens ++ ts) t := by
  obtain ⟨c, t, skipped, starts, spaced⟩ := Value.skip h
  refine ⟨c :: t, ?_, spaced⟩
  unfold nextElement
  rw [skipped]
  split
  · next heq => cases heq
  · next heq => exact absurd (List.cons.inj heq).1 starts.bracket
  · next heq =>
    rw [← heq]
    rfl

theorem nextElement_later {v : Value} {ts : List (List Char)} {cs : List Char}
    (h : Spaced ([','] :: (v.tokens ++ ts)) cs) :
    ∃ t, nextElement false cs = .ok (.more t) ∧ Spaced (v.tokens ++ ts) t := by
  obtain ⟨r, comma, rest⟩ := h.skip_cons rfl
  obtain ⟨c, t, skipped, starts, spaced⟩ := Value.skip rest
  refine ⟨c :: t, ?_, spaced⟩
  unfold nextElement
  rw [comma]
  split
  · next heq => cases heq
  · next heq => exact absurd (List.cons.inj heq).1 (by decide)
  · next heq =>
    obtain ⟨rfl, rfl⟩ := List.cons.inj heq
    rw [if_neg (by decide), if_pos rfl, List.nil_append, skipped]
    split
    · next heq => cases heq
    · next heq => exact absurd (List.cons.inj heq).1 starts.bracket
    · rfl

section Elements

variable {reader : Reader α} {first : Bool} {xs : List α} {s : List Char}

theorem elements_done {r : List Char} (h : nextElement first s = .ok (.done r)) :
    elements reader first xs s = .ok (xs.reverse, r) := by
  rw [elements]
  split
  all_goals simp_all

theorem elements_more {t r : List Char} {x : α} (h : nextElement first s = .ok (.more t))
    (hr : reader.run t = .ok (x, r)) :
    elements reader first xs s = elements reader false (x :: xs) r := by
  rw [elements]
  split
  · next heq => simp [h] at heq
  · next heq => simp [h] at heq
  · next heq =>
    obtain rfl : t = _ := by simpa [h] using heq
    split
    · next heq => simp [hr] at heq
    · next heq =>
      obtain ⟨rfl, rfl⟩ : x = _ ∧ r = _ := by simpa [hr] using heq
      rfl

end Elements

theorem elements_later {reader : Reader α} {xs : List α} {vs : List Value}
    (h : List.Forall₂ reader.Takes xs vs) (done : List α) {ts : List (List Char)} {cs : List Char}
    (spaced : Spaced (Value.laterElements vs ++ [']'] :: ts) cs) :
    ∃ r, elements reader false done cs = .ok (done.reverse ++ xs, r) ∧ Spaced ts r := by
  induction h generalizing done cs with
  | nil =>
    obtain ⟨r, next, rest⟩ := nextElement_done spaced
    exact ⟨r, by rw [elements_done next, List.append_nil], rest⟩
  | @cons x v xs vs hx _ ih =>
    rw [Value.laterElements, List.flatMap_cons, List.append_assoc, List.cons_append] at spaced
    obtain ⟨t, next, spaced⟩ := nextElement_later spaced
    obtain ⟨r, run, spaced⟩ := hx (follows_laterElements vs ts) spaced
    obtain ⟨r', later, rest⟩ := ih (x :: done) spaced
    refine ⟨r', ?_, rest⟩
    rw [elements_more next run, later, List.reverse_cons, List.append_assoc, List.singleton_append]

theorem Reader.takes_list {reader : Reader α} {xs : List α} {vs : List Value}
    (h : List.Forall₂ reader.Takes xs vs) : reader.list.Takes xs (.array vs) := by
  intro ts cs _ spaced
  rw [Value.tokens, List.cons_append, List.cons_append, List.append_assoc] at spaced
  obtain ⟨s, skipped, spaced⟩ := spaced.skip_cons rfl
  have front : lead cs = .ok (.array, s) := by
    unfold lead
    rw [skipped]
    rfl
  simp only [Reader.list, front]
  cases h with
  | nil =>
    obtain ⟨r, next, rest⟩ := nextElement_done spaced
    exact ⟨r, elements_done next, rest⟩
  | @cons x v xs vs hx later =>
    rw [Value.elementTokens_cons, List.append_assoc] at spaced
    obtain ⟨t, next, spaced⟩ := nextElement_first spaced
    obtain ⟨r, run, spaced⟩ := hx (follows_laterElements vs ts) spaced
    obtain ⟨r', elements, rest⟩ := elements_later later [x] spaced
    exact ⟨r', by rw [elements_more next run, elements]; rfl, rest⟩

end CatalogTypes.Json
