import CatalogTypes.Json.Fault

/-! # The parts of a JSON text

A scanner takes its part from the front of the characters that are left, and returns the rest.
-/

namespace CatalogTypes.Json

abbrev Scanner (α : Type) := List Char → Except Fault (α × List Char)

/-- A successful scan takes at least one character. -/
def Shortens {α : Type} (scan : Scanner α) : Prop :=
  ∀ ⦃s a r⦄, scan s = .ok (a, r) → r.length < s.length

theorem bind_eq_ok {ε α β : Type} {x : Except ε α} {f : α → Except ε β} {b : β} :
    (x >>= f) = .ok b ↔ ∃ a, x = .ok a ∧ f a = .ok b := by
  cases x <;> simp [bind, Except.bind]

theorem map_eq_ok {ε α β : Type} {x : Except ε α} {f : α → β} {b : β} :
    x.map f = .ok b ↔ ∃ a, x = .ok a ∧ f a = b := by
  cases x <;> simp [Except.map]

def isBlank (c : Char) : Bool := c = ' ' || c = '\t' || c = '\n' || c = '\r'

def skipBlanks (s : List Char) : List Char := s.dropWhile isBlank

theorem length_skipBlanks_le (s : List Char) : (skipBlanks s).length ≤ s.length :=
  (List.dropWhile_sublist _).length_le

/-! ## Literals -/

/-- The rest of a literal whose first letter has been read. -/
def literal (word : List Char) (s : List Char) : Except Fault (List Char) :=
  match word, s with
  | [], s => .ok s
  | _ :: _, [] => .error (.before .endInValue [])
  | w :: word, c :: s =>
    if c = w then literal word s else .error (.within .expectedLiteral (c :: s))

theorem length_le_of_literal {word s r : List Char} (h : literal word s = .ok r) :
    r.length ≤ s.length := by
  fun_induction literal word s with
  | case1 => simp_all
  | case2 => simp at h
  | case3 w word s ih => exact Nat.le_trans (ih h) (by simp)
  | case4 => simp at h

/-! ## Numbers -/

def spanDigits (s : List Char) : List Char × List Char :=
  (s.takeWhile Char.isDigit, s.dropWhile Char.isDigit)

def startsWithDigit (s : List Char) : Bool := s.head?.any Char.isDigit

theorem length_snd_spanDigits_le (s : List Char) : (spanDigits s).2.length ≤ s.length :=
  (List.dropWhile_sublist _).length_le

/-- The largest significand that is kept. -/
def maxSignificand : Nat := UInt64.size - 1

/-- Reads digits into a significand as long as it does not get too large; the digits from there on
are returned. -/
def absorb (significand : Nat) : List Char → Nat × List Char
  | [] => (significand, [])
  | d :: ds =>
    let more := 10 * significand + Text.digitValue d
    if more ≤ maxSignificand then absorb more ds else (significand, d :: ds)

/-- The digits of a number in three runs, the last with its sign. -/
structure Numeral where
  negative : Bool
  whole : List Char
  fraction : Option (List Char)
  exponent : Option (Bool × List Char)
deriving DecidableEq, Repr

namespace Numeral

/-- The value of an exponent's digits. When they exceed 31 bits, the digits after the one that does
it. -/
def exponentValue (n : Nat) : List Char → Nat ⊕ List Char
  | [] => .inl n
  | d :: ds =>
    let more := 10 * n + Text.digitValue d
    if more < 1 <<< 31 then exponentValue more ds else .inr ds

/-- Significand and decimal exponent of whole part and fraction. Digits that do not fit into the
significand are dropped. -/
def scaled (n : Numeral) : Nat × Int :=
  let (significand, dropped) := absorb 0 n.whole
  let fraction := n.fraction.getD []
  let (significand, dropped') := absorb significand fraction
  (significand, (dropped.length : Int) - (fraction.length - dropped'.length : Nat))

def real (negative : Bool) (significand : Nat) (exponent : Int) : Option Number :=
  (Double.ofDecimal? significand exponent).map (.real negative)

/-- A number without fraction and exponent that fits into 64 bits. Minus zero is no integer. -/
def integer? (n : Numeral) : Option Int :=
  match n.fraction, n.exponent, absorb 0 n.whole with
  | none, none, (significand, []) =>
    if !n.negative then some significand
    else if significand = 0 ∨ significand > 1 <<< 63 then none
    else some (-significand)
  | _, _, _ => none

/-- The number that the digits denote; `rest` follows them. A number that is too large is found out
at its end, or at the digit that makes its exponent too large. -/
def number (n : Numeral) (rest : List Char) : Except Fault Number :=
  match n.integer? with
  | some i => .ok (.integer i)
  | none =>
    let (significand, exponent) := n.scaled
    let inRange : Option Number → Except Fault Number
      | some x => .ok x
      | none => .error (.before .numberOutOfRange rest)
    match n.exponent with
    | none => inRange (real n.negative significand exponent)
    | some (negative, digits) =>
      match exponentValue 0 digits with
      | .inl e =>
        let exponent := if negative then exponent - e else exponent + e
        inRange (real n.negative significand exponent)
      | .inr later =>
        if significand = 0 ∨ negative then .ok (.real n.negative .zero)
        else .error (.before .numberOutOfRange (later ++ rest))

end Numeral

/-- A fraction after its point. -/
def fraction (s : List Char) : Except Fault (List Char × List Char) :=
  if startsWithDigit s then .ok (spanDigits s)
  else .error (.within (if s.isEmpty then .endInValue else .invalidNumber) s)

/-- An exponent after its letter: whether it is negative, and its digits. -/
def exponent (s : List Char) : Except Fault ((Bool × List Char) × List Char) :=
  let (negative, s) := match s with
    | '-' :: s => (true, s)
    | '+' :: s => (false, s)
    | s => (false, s)
  if startsWithDigit s then .ok ((negative, (spanDigits s).1), (spanDigits s).2)
  else .error (.within (if s.isEmpty then .endInValue else .invalidNumber) s)

/-- The whole part of a number. A leading zero stands alone. -/
def whole (s : List Char) : Except Fault (List Char × List Char) :=
  match s with
  | '0' :: s =>
    if startsWithDigit s then .error (.within .invalidNumber s) else .ok (['0'], s)
  | s =>
    if startsWithDigit s then .ok (spanDigits s)
    else .error (.within (if s.isEmpty then .endInValue else .invalidNumber) s)

/-- The fraction of a number, if there is one. -/
def fraction? (s : List Char) : Except Fault (Option (List Char) × List Char) :=
  match s with
  | '.' :: s => (fraction s).map fun (places, s) => (some places, s)
  | s => .ok (none, s)

/-- The exponent of a number, if there is one. -/
def exponent? (s : List Char) : Except Fault (Option (Bool × List Char) × List Char) :=
  match s with
  | c :: r =>
    if c = 'e' ∨ c = 'E' then (exponent r).map fun (power, s) => (some power, s)
    else .ok (none, c :: r)
  | [] => .ok (none, [])

/-- A number from its sign or first digit on. -/
def numeral (s : List Char) : Except Fault (Numeral × List Char) := do
  let (negative, s) := match s with
    | '-' :: s => (true, s)
    | s => (false, s)
  let (whole, s) ← whole s
  let (fraction, s) ← fraction? s
  let (exponent, s) ← exponent? s
  pure (⟨negative, whole, fraction, exponent⟩, s)

/-! ## Strings -/

/-- What a letter after a backslash stands for, `u` apart. -/
def simpleEscape? : Char → Option Char
  | '"' => some '"'
  | '\\' => some '\\'
  | '/' => some '/'
  | 'b' => some '\x08'
  | 'f' => some '\x0c'
  | 'n' => some '\n'
  | 'r' => some '\r'
  | 't' => some '\t'
  | _ => none

def hexValue? (c : Char) : Option Nat :=
  if c.isDigit then some (c.toNat - 48)
  else if 'a' ≤ c ∧ c ≤ 'f' then some (c.toNat - 87)
  else if 'A' ≤ c ∧ c ≤ 'F' then some (c.toNat - 55)
  else none

/-- Four hexadecimal digits. Four bytes are taken before they are looked at. -/
def hexUnit (s : List Char) : Except Fault (Nat × List Char) :=
  let taken? : Option (Nat × List Char) := do
    let a :: b :: c :: d :: r := s | none
    let high := (← hexValue? a) * 16 + (← hexValue? b)
    let low := (← hexValue? c) * 16 + (← hexValue? d)
    return (high * 256 + low, r)
  match taken? with
  | some taken => .ok taken
  | none =>
    if bytes s < 4 then .error (.before .endInString [])
    else .error ⟨.invalidEscape, bytes s - 4⟩

theorem length_lt_of_hexUnit : Shortens hexUnit := by
  intro s n r h
  simp only [hexUnit] at h
  split at h
  · next taken ht =>
    cases h
    split at ht
    · next a b c d r' =>
      obtain ⟨_, -, ht⟩ := Option.bind_eq_some_iff.mp ht
      obtain ⟨_, -, ht⟩ := Option.bind_eq_some_iff.mp ht
      obtain ⟨_, -, ht⟩ := Option.bind_eq_some_iff.mp ht
      obtain ⟨_, -, ht⟩ := Option.bind_eq_some_iff.mp ht
      cases ht
      simp only [List.length_cons]
      omega
    · simp at ht
  · split at h <;> simp at h

def isHighSurrogate (n : Nat) : Bool := 0xD800 ≤ n && n < 0xDC00

def isLowSurrogate (n : Nat) : Bool := 0xDC00 ≤ n && n < 0xE000

/-- The second half of a surrogate pair, with its escape, and the character of the pair. -/
def lowSurrogate (high : Nat) (s : List Char) : Except Fault (Char × List Char) :=
  match s with
  | [] => .error (.before .endInString [])
  | '\\' :: s =>
    match s with
    | [] => .error (.before .endInString [])
    | 'u' :: s => do
      let (low, s) ← hexUnit s
      if isLowSurrogate low then
        pure (Char.ofNat (0x10000 + (high - 0xD800) * 0x400 + (low - 0xDC00)), s)
      else .error (.before .loneSurrogate s)
    | s => .error (.within .unpairedSurrogate s)
  | s => .error (.within .unpairedSurrogate s)

/-- An escape after its backslash. -/
def escape (s : List Char) : Except Fault (Char × List Char) :=
  match s with
  | [] => .error (.before .endInString [])
  | c :: s =>
    match simpleEscape? c with
    | some x => .ok (x, s)
    | none =>
      if c = 'u' then do
        let (unit, s) ← hexUnit s
        if isLowSurrogate unit then .error (.before .loneSurrogate s)
        else if isHighSurrogate unit then lowSurrogate unit s
        else pure (Char.ofNat unit, s)
      else .error (.within .invalidEscape (c :: s))

/-- An escape of a text that is passed over: surrogates need not be in pairs. -/
def skipEscape (s : List Char) : Except Fault (List Char) :=
  match s with
  | [] => .error (.before .endInString [])
  | c :: s =>
    if (simpleEscape? c).isSome then .ok s
    else if c = 'u' then do
      let (_, s) ← hexUnit s
      pure s
    else .error (.within .invalidEscape (c :: s))

theorem length_lt_of_lowSurrogate (high : Nat) : Shortens (lowSurrogate high) := by
  intro s c r h
  unfold lowSurrogate at h
  split at h
  · simp at h
  · split at h
    · simp at h
    · obtain ⟨⟨low, s'⟩, hu, h⟩ := bind_eq_ok.mp h
      have := length_lt_of_hexUnit hu
      dsimp only at h
      split at h
      · simp only [pure, Except.pure, Except.ok.injEq, Prod.mk.injEq] at h
        simp only [List.length_cons, ← h.2]
        omega
      · simp at h
    · simp at h
  · simp at h

theorem length_lt_of_escape : Shortens escape := by
  intro s c r h
  unfold escape at h
  split at h
  · simp at h
  · split at h
    · cases h
      simp
    · split at h
      · obtain ⟨⟨unit, s'⟩, hu, h⟩ := bind_eq_ok.mp h
        have := length_lt_of_hexUnit hu
        dsimp only at h
        split at h
        · simp at h
        · split at h
          · have := length_lt_of_lowSurrogate _ h
            simp only [List.length_cons]
            omega
          · cases h
            simp only [List.length_cons]
            omega
      · simp at h

theorem length_lt_of_skipEscape {s r : List Char} (h : skipEscape s = .ok r) :
    r.length < s.length := by
  unfold skipEscape at h
  split at h
  · simp at h
  · split at h
    · cases h
      simp
    · split at h
      · obtain ⟨⟨unit, s'⟩, hu, h⟩ := bind_eq_ok.mp h
        have := length_lt_of_hexUnit hu
        cases h
        simp only [List.length_cons]
        omega
      · simp at h

end CatalogTypes.Json
