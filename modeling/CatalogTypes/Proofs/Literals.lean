import CatalogTypes.Emit.Swift
import CatalogTypes.Json.Text
import CatalogTypes.Text.Cut
import Mathlib.Algebra.Group.Nat.Defs
import Mathlib.Tactic.SplitIfs

/-!
# String literals are read back

A value is written between double quotes by one of two escapers, and for both of them there is a
reader that takes the escapes back (`reads_quote`, `reads_literal`). What they write between the
quotes is a token: its end is found without knowing the value or what follows. `Literals` lists all
the values in a piece of text by reading it from quote to quote.
-/

namespace CatalogTypes

open Text

/-! ## Tokens -/

/-- What may stand between two quotes on one line: a quote or a backslash only behind a backslash,
and no control character below U+0020. -/
inductive IsToken : List Char → Prop
  | nil : IsToken []
  | plain {c : Char} {cs : List Char} (quote : c ≠ '"') (backslash : c ≠ '\\')
      (visible : 0x20 ≤ c.toNat) (rest : IsToken cs) : IsToken (c :: cs)
  | escape {c : Char} {cs : List Char} (visible : 0x20 ≤ c.toNat) (rest : IsToken cs) :
      IsToken ('\\' :: c :: cs)

theorem IsToken.append {body body' : List Char} (h : IsToken body) (h' : IsToken body') :
    IsToken (body ++ body') := by
  induction h with
  | nil => exact h'
  | plain quote backslash visible _ ih => exact .plain quote backslash visible ih
  | escape visible _ ih => exact .escape visible ih

theorem isToken_flatMap {f : Char → List Char} (h : ∀ c, IsToken (f c)) (cs : List Char) :
    IsToken (cs.flatMap f) := by
  induction cs with
  | nil => exact .nil
  | cons c cs ih => exact (h c).append ih

theorem IsToken.le_toNat {body : List Char} (h : IsToken body) : ∀ c ∈ body, 0x20 ≤ c.toNat := by
  induction h with
  | nil => simp
  | plain _ _ visible _ ih => exact List.forall_mem_cons.mpr ⟨visible, ih⟩
  | escape visible _ ih =>
    exact List.forall_mem_cons.mpr ⟨by decide, List.forall_mem_cons.mpr ⟨visible, ih⟩⟩

/-- A token ends at one place, whatever follows it. -/
theorem IsToken.unique {body body' rest rest' : List Char} (h : IsToken body)
    (h' : IsToken body') (eq : body ++ '"' :: rest = body' ++ '"' :: rest') :
    body = body' ∧ rest = rest' := by
  induction h generalizing body' with
  | nil =>
    cases h' with
    | nil => exact ⟨rfl, (List.cons.inj eq).2⟩
    | plain quote _ _ _ => exact absurd (List.cons.inj eq).1.symm quote
    | escape _ _ => exact absurd (List.cons.inj eq).1 (by decide)
  | plain quote backslash _ _ ih =>
    cases h' with
    | nil => exact absurd (List.cons.inj eq).1 quote
    | plain _ _ _ rest' =>
      obtain ⟨rfl, tail⟩ := List.cons.inj eq
      obtain ⟨rfl, last⟩ := ih rest' tail
      exact ⟨rfl, last⟩
    | escape _ _ => exact absurd (List.cons.inj eq).1 backslash
  | escape _ _ ih =>
    cases h' with
    | nil => exact absurd (List.cons.inj eq).1 (by decide)
    | plain _ backslash _ _ => exact absurd (List.cons.inj eq).1.symm backslash
    | escape _ rest' =>
      obtain ⟨rfl, tail⟩ := List.cons.inj (List.cons.inj eq).2
      obtain ⟨rfl, last⟩ := ih rest' tail
      exact ⟨rfl, last⟩

/-! ## Hexadecimal digits -/

theorem hexValue?_hexDigit : ∀ n < 16, Json.hexValue? (hexDigit n) = some n := by decide

theorem hexDigit_plain :
    ∀ n < 16, hexDigit n ≠ '"' ∧ hexDigit n ≠ '\\' ∧ hexDigit n ≠ '\x7d' ∧
      0x20 ≤ (hexDigit n).toNat := by decide

theorem isToken_hexDigit {n : Nat} (h : n < 16) {cs : List Char} (rest : IsToken cs) :
    IsToken (hexDigit n :: cs) := by
  obtain ⟨quote, backslash, -, visible⟩ := hexDigit_plain n h
  exact .plain quote backslash visible rest

theorem isToken_hexDigits (n : Nat) : IsToken (hexDigits n) := by
  induction n using hexDigits.induct with
  | case1 n h =>
    rw [hexDigits, if_pos h]
    exact isToken_hexDigit h .nil
  | case2 n h ih =>
    rw [hexDigits, if_neg h]
    exact ih.append (isToken_hexDigit (Nat.mod_lt n (by decide)) .nil)

theorem brace_not_mem_hexDigits (n : Nat) : '\x7d' ∉ hexDigits n := by
  induction n using hexDigits.induct with
  | case1 n h =>
    rw [hexDigits, if_pos h, List.mem_singleton]
    exact (hexDigit_plain n h).2.2.1.symm
  | case2 n h ih =>
    rw [hexDigits, if_neg h, List.mem_append, List.mem_singleton]
    rintro (mem | eq)
    · exact ih mem
    · exact (hexDigit_plain _ (Nat.mod_lt n (by decide))).2.2.1 eq.symm

theorem length_hexDigits_le {k n : Nat} (h : n < 16 ^ (k + 1)) :
    (hexDigits n).length ≤ k + 1 := by
  induction k generalizing n with
  | zero =>
    rw [hexDigits, if_pos (by simpa using h)]
    simp
  | succ k ih =>
    rw [hexDigits]
    split
    · simp
    · have := ih (n := n / 16) (by rw [Nat.pow_succ] at h; omega)
      simpa using this

/-! ## Strings of JSON -/

/-- How a language reads a string from behind its opening quote: its characters, and what follows
the closing quote. -/
abbrev StringReader := List Char → Option (List Char × List Char)

/-- The reader gets the value from the body of a literal, whatever follows the closing quote. -/
def StringReader.Reads (read : StringReader) (body value : List Char) : Prop :=
  ∀ rest, read (body ++ '"' :: rest) = some (value, rest)

namespace Json

/-- The strict reader of JSON strings. -/
def stringReader : StringReader := fun s => (text [] s).toOption

theorem isToken_escapeChar (c : Char) : IsToken (escapeChar c) := by
  have simple : ∀ e : Char, 0x20 ≤ e.toNat → IsToken ['\\', e] := fun e h => .escape h .nil
  unfold escapeChar
  split_ifs with quote backslash b t n f r control
  · exact simple _ (by decide)
  · exact simple _ (by decide)
  · exact simple _ (by decide)
  · exact simple _ (by decide)
  · exact simple _ (by decide)
  · exact simple _ (by decide)
  · exact simple _ (by decide)
  · refine .escape (by decide) (.plain (by decide) (by decide) (by decide) ?_)
    refine .plain (by decide) (by decide) (by decide) ?_
    exact isToken_hexDigit (by omega) (isToken_hexDigit (by omega) .nil)
  · exact .plain quote backslash (by omega) .nil

theorem escape_codePoint {c : Char} (h : c.toNat < 0x20) (s : List Char) :
    escape ('u' :: '0' :: '0' :: hexDigit (c.toNat / 16) :: hexDigit (c.toNat % 16) :: s) =
      .ok (c, s) := by
  have high := hexValue?_hexDigit (c.toNat / 16) (by omega)
  have low := hexValue?_hexDigit (c.toNat % 16) (by omega)
  have zero : hexValue? '0' = some 0 := by decide
  have unit : hexUnit ('0' :: '0' :: hexDigit (c.toNat / 16) :: hexDigit (c.toNat % 16) :: s) =
      .ok (c.toNat, s) := by
    have value : (0 * 16 + 0) * 256 + (c.toNat / 16 * 16 + c.toNat % 16) = c.toNat := by omega
    simp only [hexUnit, high, low, zero, Option.bind_eq_bind, Option.bind_some, value]
    rfl
  have noSurrogate : isLowSurrogate c.toNat = false ∧ isHighSurrogate c.toNat = false := by
    simp only [isLowSurrogate, isHighSurrogate, Bool.and_eq_false_iff, decide_eq_false_iff_not]
    omega
  simp only [escape, simpleEscape?, unit, ↓reduceIte]
  show (if isLowSurrogate c.toNat then _ else if isHighSurrogate c.toNat then _ else _) = _
  rw [noSurrogate.1, noSurrogate.2, Char.ofNat_toNat]
  rfl

theorem text_escape {e c : Char} {s r : List Char} (h : escape (e :: s) = .ok (c, r))
    (chars : List Char) : text chars ('\\' :: e :: s) = text (c :: chars) r := by
  rw [text]
  split
  · next h' => simp [h] at h'
  · next h' =>
    obtain ⟨rfl, rfl⟩ := Prod.mk.inj (Except.ok.inj (h.symm.trans h'))
    rfl

/-- The reader takes one escape back, and goes on. -/
theorem text_escapeChar (chars : List Char) (c : Char) (s : List Char) :
    text chars (escapeChar c ++ s) = text (c :: chars) s := by
  unfold escapeChar
  split_ifs with quote backslash b t n f r control
  · subst quote
    exact text_escape rfl chars
  · subst backslash
    exact text_escape rfl chars
  · subst b
    exact text_escape rfl chars
  · subst t
    exact text_escape rfl chars
  · subst n
    exact text_escape rfl chars
  · subst f
    exact text_escape rfl chars
  · subst r
    exact text_escape rfl chars
  · exact text_escape (escape_codePoint control s) chars
  · rw [List.singleton_append, text]
    · rw [if_neg control]
    · exact quote
    · exact backslash

theorem text_flatMap_escapeChar (chars cs rest : List Char) :
    text chars (cs.flatMap escapeChar ++ '"' :: rest) = .ok (chars.reverse ++ cs, rest) := by
  induction cs generalizing chars with
  | nil => rw [List.flatMap_nil, List.nil_append, text, List.append_nil]
  | cons c cs ih =>
    rw [List.flatMap_cons, List.append_assoc, text_escapeChar, ih, List.reverse_cons,
      List.append_assoc, List.singleton_append]

theorem reads_quote (cs : List Char) : stringReader.Reads (cs.flatMap escapeChar) cs := by
  intro rest
  rw [stringReader, text_flatMap_escapeChar]
  rfl

end Json

/-! ## Strings with code points in braces -/

namespace Swift

/-- The number that hexadecimal digits denote. -/
def hexNumber? (digits : List Char) : Option Nat :=
  digits.foldlM (fun n c => (Json.hexValue? c).map (16 * n + ·)) 0

/-- One to eight hexadecimal digits up to the closing brace, and the character of that number. -/
def codePoint? (s : List Char) : Option (Char × List Char) :=
  (cut? '\x7d' s).bind fun (digits, rest) =>
    (hexNumber? digits).bind fun n =>
      if 1 ≤ digits.length ∧ digits.length ≤ 8 ∧ n.isValidChar then some (Char.ofNat n, rest)
      else none

/-- An escape after its backslash. -/
def escape? (s : List Char) : Option (Char × List Char) :=
  match s with
  | '"' :: s => some ('"', s)
  | '\\' :: s => some ('\\', s)
  | 'n' :: s => some ('\n', s)
  | 'r' :: s => some ('\r', s)
  | 't' :: s => some ('\t', s)
  | '0' :: s => some ('\x00', s)
  | 'u' :: '\x7b' :: s => codePoint? s
  | _ => none

theorem length_lt_of_escape? {s r : List Char} {c : Char} (h : escape? s = some (c, r)) :
    r.length < s.length := by
  unfold escape? at h
  split at h
  case h_7 =>
    obtain ⟨⟨digits, rest⟩, hcut, hn⟩ := Option.bind_eq_some_iff.mp h
    obtain ⟨n, -, value⟩ := Option.bind_eq_some_iff.mp hn
    obtain ⟨rfl, -⟩ := cut?_eq_some_iff.mp hcut
    split at value
    · cases value
      simp only [List.length_cons, List.length_append]
      omega
    · cases value
  case h_8 => cases h
  all_goals
    cases h
    simp

/-- A string on one line. -/
def stringReader (s : List Char) : Option (List Char × List Char) :=
  match s with
  | [] => none
  | '"' :: s => some ([], s)
  | '\\' :: s =>
    match _h : escape? s with
    | none => none
    | some (c, r) => (stringReader r).map fun (cs, rest) => (c :: cs, rest)
  | c :: s =>
    if c = '\n' ∨ c = '\r' then none else (stringReader s).map fun (cs, rest) => (c :: cs, rest)
termination_by s.length
decreasing_by
  · have := length_lt_of_escape? _h
    simp only [List.length_cons]
    omega
  · simp

theorem isToken_bracedEscape (c : Char) : IsToken (bracedEscape (!isControl ·) c) := by
  have simple : ∀ e : Char, 0x20 ≤ e.toNat → IsToken ['\\', e] := fun e h => .escape h .nil
  unfold bracedEscape
  split_ifs with quote backslash n r t null visible
  · exact simple _ (by decide)
  · exact simple _ (by decide)
  · exact simple _ (by decide)
  · exact simple _ (by decide)
  · exact simple _ (by decide)
  · exact simple _ (by decide)
  · refine .plain quote backslash ?_ .nil
    simp only [isControl, Bool.not_eq_true', Bool.or_eq_false_iff, decide_eq_false_iff_not]
      at visible
    omega
  · refine .escape (by decide) (.plain (by decide) (by decide) (by decide) ?_)
    exact (isToken_hexDigits _).append (.plain (by decide) (by decide) (by decide) .nil)

theorem hexNumber?_hexDigits (n : Nat) : hexNumber? (hexDigits n) = some n := by
  induction n using hexDigits.induct with
  | case1 n h =>
    rw [hexDigits, if_pos h]
    simp [hexNumber?, hexValue?_hexDigit n h]
  | case2 n h ih =>
    have last := hexValue?_hexDigit (n % 16) (Nat.mod_lt n (by decide))
    have value : 16 * (n / 16) + n % 16 = n := Nat.div_add_mod n 16
    rw [hexNumber?] at ih
    rw [hexDigits, if_neg h, hexNumber?, List.foldlM_append, ih]
    simp [last, value]

theorem codePoint?_hexDigits (c : Char) (s : List Char) :
    codePoint? (hexDigits c.toNat ++ '\x7d' :: s) = some (c, s) := by
  have cut : cut? '\x7d' (hexDigits c.toNat ++ '\x7d' :: s) = some (hexDigits c.toNat, s) :=
    cut?_eq_some_iff.mpr ⟨rfl, brace_not_mem_hexDigits _⟩
  have valid : c.toNat.isValidChar := c.valid
  have nonempty : 1 ≤ (hexDigits c.toNat).length := by
    rw [hexDigits]
    split
    · simp
    · simp
  have short : (hexDigits c.toNat).length ≤ 8 := by
    refine length_hexDigits_le ?_
    rcases valid with h | ⟨-, h⟩
    · omega
    · omega
  rw [codePoint?, cut, Option.bind_some]
  dsimp only
  rw [hexNumber?_hexDigits, Option.bind_some, if_pos ⟨nonempty, short, valid⟩, Char.ofNat_toNat]

theorem stringReader_escape {e c : Char} {s r : List Char} (h : escape? (e :: s) = some (c, r)) :
    stringReader ('\\' :: e :: s) = (stringReader r).map fun (cs, rest) => (c :: cs, rest) := by
  rw [stringReader]
  split
  · next h' => simp [h] at h'
  · next h' =>
    obtain ⟨rfl, rfl⟩ := Prod.mk.inj (Option.some.inj (h.symm.trans h'))
    rfl

theorem stringReader_bracedEscape (plain : Char → Bool) (c : Char) (s : List Char) :
    stringReader (bracedEscape plain c ++ s) =
      (stringReader s).map fun (cs, rest) => (c :: cs, rest) := by
  unfold bracedEscape
  split_ifs with quote backslash n r t null visible
  · subst quote
    exact stringReader_escape rfl
  · subst backslash
    exact stringReader_escape rfl
  · subst n
    exact stringReader_escape rfl
  · subst r
    exact stringReader_escape rfl
  · subst t
    exact stringReader_escape rfl
  · subst null
    exact stringReader_escape rfl
  · rw [List.singleton_append, stringReader]
    · rw [if_neg (by simp [n, r])]
    · exact quote
    · exact backslash
  · have text : ['\\', 'u', '\x7b'] ++ hexDigits c.toNat ++ ['\x7d'] ++ s =
        '\\' :: 'u' :: '\x7b' :: (hexDigits c.toNat ++ '\x7d' :: s) := by simp
    rw [text]
    exact stringReader_escape (codePoint?_hexDigits c s)

theorem reads_literal (plain : Char → Bool) (cs : List Char) :
    StringReader.Reads stringReader (cs.flatMap (bracedEscape plain)) cs := by
  intro rest
  induction cs with
  | nil => rw [List.flatMap_nil, List.nil_append, stringReader]
  | cons c cs ih =>
    rw [List.flatMap_cons, List.append_assoc, stringReader_bracedEscape, ih]
    rfl

end Swift

/-! ## The literals of a text -/

/-- The values of the string literals in a piece of text, in order. Every literal is a token that
the reader takes for its value. -/
inductive Literals (read : StringReader) : List Char → List String → Prop
  | nil : Literals read [] []
  | other {c : Char} {cs : List Char} {values : List String} (h : c ≠ '"')
      (rest : Literals read cs values) : Literals read (c :: cs) values
  | literal {body : List Char} {value : String} {cs : List Char} {values : List String}
      (token : IsToken body) (reads : read.Reads body value.toList)
      (rest : Literals read cs values) :
      Literals read ('"' :: body ++ '"' :: cs) (value :: values)

section Literals

variable {read : StringReader} {cs cs' : List Char} {values values' : List String}

theorem Literals.append (h : Literals read cs values) (h' : Literals read cs' values') :
    Literals read (cs ++ cs') (values ++ values') := by
  induction h with
  | nil => exact h'
  | other h _ ih => exact .other h ih
  | @literal body value cs values token reads _ ih =>
    rw [List.append_assoc, List.cons_append]
    exact .literal token reads ih

theorem literals_of_not_mem (h : '"' ∉ cs) : Literals read cs [] := by
  induction cs with
  | nil => exact .nil
  | cons c cs ih =>
    rw [List.mem_cons, not_or] at h
    exact .other (Ne.symm h.1) (ih h.2)

/-- A text has one list of literals. -/
theorem Literals.unique (h : Literals read cs values) (h' : Literals read cs values') :
    values = values' := by
  induction h generalizing values' with
  | nil =>
    generalize eq : ([] : List Char) = none at h'
    cases h' with
    | nil => rfl
    | other _ _ => cases eq
    | literal _ _ _ => cases eq
  | @other c cs _ h _ ih =>
    generalize eq : c :: cs = text at h'
    cases h' with
    | nil => cases eq
    | other _ rest =>
      obtain ⟨rfl, rfl⟩ := List.cons.inj eq
      exact ih rest
    | literal _ _ _ => exact absurd (List.cons.inj eq).1 h
  | @literal body value cs _ token reads _ ih =>
    generalize eq : '"' :: body ++ '"' :: cs = text at h'
    cases h' with
    | nil => cases eq
    | other h _ => exact absurd (List.cons.inj eq).1.symm h
    | literal token' reads' rest =>
      obtain ⟨rfl, rfl⟩ := token.unique token' (List.cons.inj eq).2
      have same := (reads []).symm.trans (reads' [])
      obtain rfl := String.toList_inj.mp (Prod.mk.inj (Option.some.inj same)).1
      rw [ih rest]

end Literals

theorem literals_quote (value : String) :
    Literals Json.stringReader (quote value).toList [value] := by
  rw [toList_quote]
  exact .literal (isToken_flatMap Json.isToken_escapeChar _) (Json.reads_quote _) .nil

theorem Swift.toList_literal (value : String) :
    (literal value).toList =
      '"' :: value.toList.flatMap (bracedEscape (!isControl ·)) ++ ['"'] := by
  rw [literal, String.toList_ofList]

theorem Swift.literals_literal (value : String) :
    Literals stringReader (literal value).toList [value] := by
  rw [toList_literal]
  exact .literal (isToken_flatMap isToken_bracedEscape _) (reads_literal _ _) .nil

end CatalogTypes
