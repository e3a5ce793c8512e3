import CatalogTypes.Json.Text

/-! # Values that are passed over

A value that nobody asks for is only checked for its form: surrogates need not be in pairs, numbers
may be of any size, and brackets may be nested to any depth.
-/

namespace CatalogTypes.Json

/-- A string after its opening quote. -/
def skipText (s : List Char) : Except Fault (List Char) :=
  match s with
  | [] => .error (.before .endInString [])
  | '"' :: s => .ok s
  | '\\' :: s =>
    match _h : skipEscape s with
    | .error f => .error f
    | .ok r => skipText r
  | c :: s =>
    if c.toNat < 0x20 then .error (.before .controlCharacter (c :: s)) else skipText s
termination_by s.length
decreasing_by
  · have := length_lt_of_skipEscape _h
    simp only [List.length_cons]
    omega
  · simp

theorem length_lt_of_skipText {s r : List Char} (h : skipText s = .ok r) :
    r.length < s.length := by
  fun_induction skipText s with
  | case1 => simp at h
  | case2 => cases h; simp
  | case3 => simp at h
  | case4 s r' he ih =>
    have := ih h
    have := length_lt_of_skipEscape he
    simp only [List.length_cons]
    omega
  | case5 => simp at h
  | case6 c s _ _ _ ih =>
    have := ih h
    simp only [List.length_cons]
    omega

/-- A number from its sign or first digit on. One that the text cuts short is no number. -/
def skipNumber (s : List Char) : Except Fault (List Char) :=
  match numeral s with
  | .error f => .error ⟨.invalidNumber, f.left⟩
  | .ok (_, r) => .ok r

def skipAtom (s : List Char) : Except Fault (List Char) :=
  match s with
  | [] => .error (.within .endInValue [])
  | 'n' :: s => literal ['u', 'l', 'l'] s
  | 't' :: s => literal ['r', 'u', 'e'] s
  | 'f' :: s => literal ['a', 'l', 's', 'e'] s
  | '"' :: s => skipText s
  | c :: s =>
    if c = '-' ∨ c.isDigit then skipNumber (c :: s) else .error (.within .expectedValue (c :: s))

theorem length_lt_of_skipAtom {s r : List Char} (h : skipAtom s = .ok r) :
    r.length < s.length := by
  unfold skipAtom at h
  split at h
  · simp at h
  iterate 3
    · have := length_le_of_literal h
      simp only [List.length_cons]
      omega
  · have := length_lt_of_skipText h
    simp only [List.length_cons]
    omega
  · split at h
    · unfold skipNumber at h
      split at h
      · simp at h
      · next h' =>
        cases h
        exact length_lt_of_numeral h'
    · simp at h

/-- The colon after a key. -/
def colon (s : List Char) : Except Fault (List Char) :=
  match skipBlanks s with
  | ':' :: s => .ok s
  | [] => .error (.within .endInObject [])
  | s => .error (.within .expectedColon s)

theorem length_lt_of_colon {s r : List Char} (h : colon s = .ok r) : r.length < s.length := by
  have := length_skipBlanks_le s
  unfold colon at h
  split at h
  · next heq =>
    cases h
    simp only [heq, List.length_cons] at this
    omega
  · simp at h
  · simp at h

/-- A key with its colon. -/
def skipKey (s : List Char) : Except Fault (List Char) :=
  match skipBlanks s with
  | '"' :: s => skipText s >>= colon
  | [] => .error (.within .endInObject [])
  | s => .error (.within .keyNotString s)

theorem length_lt_of_skipKey {s r : List Char} (h : skipKey s = .ok r) : r.length < s.length := by
  have := length_skipBlanks_le s
  unfold skipKey at h
  split at h
  · next heq =>
    obtain ⟨t, h', h⟩ := bind_eq_ok.mp h
    have := length_lt_of_skipText h'
    have := length_lt_of_colon h
    simp only [heq, List.length_cons] at *
    omega
  · simp at h
  · simp at h

/-- The brackets around a value. -/
inductive Frame where
  | array
  | object
deriving DecidableEq, Repr

namespace Frame

def closing : Frame → Char
  | array => ']'
  | object => '\x7d'

def endCause : Frame → Cause
  | array => .endInArray
  | object => .endInObject

def commaCause : Frame → Cause
  | array => .expectedCommaInArray
  | object => .expectedCommaInObject

/-- What stands in front of a value in the frame. -/
def skipLead (f : Frame) (s : List Char) : Except Fault (List Char) :=
  match f with
  | array => .ok s
  | object => skipKey s

end Frame

theorem Frame.length_le_of_skipLead {f : Frame} {s r : List Char} (h : f.skipLead s = .ok r) :
    r.length ≤ s.length := by
  cases f with
  | array => cases h; exact Nat.le_refl _
  | object => exact Nat.le_of_lt (length_lt_of_skipKey h)

mutual

/-- Passes over a value and everything up to the end of the outermost of `frames`, which are open
around it. -/
def skipIn (frames : List Frame) (s : List Char) : Except Fault (List Char) :=
  match _hs : skipBlanks s with
  | '[' :: r => skipOn (.array :: frames) true r
  | '\x7b' :: r => skipOn (.object :: frames) true r
  | t =>
    match _ht : skipAtom t with
    | .error f => .error f
    | .ok r => skipOn frames false r
termination_by (s.length, 0)
decreasing_by
  all_goals
    have := length_skipBlanks_le s
    simp only [_hs, List.length_cons] at this
  · exact Prod.Lex.left _ _ (by omega)
  · exact Prod.Lex.left _ _ (by omega)
  · exact Prod.Lex.left _ _ (Nat.lt_of_lt_of_le (length_lt_of_skipAtom _ht) this)

/-- Passes over what follows a value, or the opening bracket of `frames` when `first` holds. -/
def skipOn (frames : List Frame) (first : Bool) (s : List Char) : Except Fault (List Char) :=
  match frames with
  | [] => .ok s
  | frame :: outer =>
    match _hs : skipBlanks s with
    | [] => .error (.within frame.endCause [])
    | c :: r =>
      if c = frame.closing then skipOn outer false r
      else if first then
        match _hl : frame.skipLead (c :: r) with
        | .error f => .error f
        | .ok t => skipIn (frame :: outer) t
      else if c = ',' then
        match _hl : frame.skipLead r with
        | .error f => .error f
        | .ok t => skipIn (frame :: outer) t
      else .error (.within frame.commaCause (c :: r))
termination_by (s.length, 1)
decreasing_by
  all_goals
    have := length_skipBlanks_le s
    simp only [_hs, List.length_cons] at this
  · exact Prod.Lex.left _ _ (by omega)
  · have := Frame.length_le_of_skipLead _hl
    simp only [List.length_cons] at this
    rcases Nat.lt_or_eq_of_le (show t.length ≤ s.length by omega) with h | h
    · exact Prod.Lex.left _ _ h
    · rw [h]; exact Prod.Lex.right _ (by omega)
  · have := Frame.length_le_of_skipLead _hl
    exact Prod.Lex.left _ _ (by omega)

end

/-- Passes over one value. -/
def skipValue (s : List Char) : Except Fault (List Char) := skipIn [] s

theorem length_of_skip (n : Nat) :
    (∀ (frames : List Frame) (s r : List Char), s.length < n → skipIn frames s = .ok r →
      r.length < s.length) ∧
    ∀ (frames : List Frame) (first : Bool) (s r : List Char), s.length < n →
      skipOn frames first s = .ok r → r.length ≤ s.length := by
  induction n with
  | zero => exact ⟨fun _ _ _ h => by omega, fun _ _ _ _ h => by omega⟩
  | succ n ih =>
    have hIn : ∀ (frames : List Frame) (s r : List Char), s.length < n + 1 →
        skipIn frames s = .ok r → r.length < s.length := by
      intro frames s r hn h
      have hs := length_skipBlanks_le s
      rw [skipIn] at h
      split at h
      iterate 2
        · next t heq =>
          simp only [heq, List.length_cons] at hs
          have := ih.2 _ _ t r (by omega) h
          omega
      · split at h
        · simp at h
        · next t ht =>
          have := length_lt_of_skipAtom ht
          have := ih.2 _ _ t r (by omega) h
          omega
    refine ⟨hIn, fun frames first s r hn h => ?_⟩
    have hs := length_skipBlanks_le s
    rw [skipOn.eq_def] at h
    split at h
    · cases h
      exact Nat.le_refl _
    · split at h
      · simp at h
      · next c t heq =>
        simp only [heq, List.length_cons] at hs
        split at h
        · have := ih.2 _ _ t r (by omega) h
          omega
        · split at h
          · split at h
            · simp at h
            · next u hu =>
              have := Frame.length_le_of_skipLead hu
              simp only [List.length_cons] at this
              have := hIn _ u r (by omega) h
              omega
          · split at h
            · split at h
              · simp at h
              · next u hu =>
                have := Frame.length_le_of_skipLead hu
                have := hIn _ u r (by omega) h
                omega
            · simp at h

theorem length_lt_of_skipValue {s r : List Char} (h : skipValue s = .ok r) :
    r.length < s.length :=
  (length_of_skip (s.length + 1)).1 [] s r (Nat.lt_succ_self _) h

end CatalogTypes.Json
