import CatalogTypes.Json.Scan

/-! # Strings and atoms of a JSON text -/

namespace CatalogTypes.Json

/-- The characters of a string after its opening quote, up to and with the closing one. Those
already read are given in reverse. -/
def text (chars s : List Char) : Except Fault (List Char × List Char) :=
  match s with
  | [] => .error (.before .endInString [])
  | '"' :: s => .ok (chars.reverse, s)
  | '\\' :: s =>
    match _h : escape s with
    | .error f => .error f
    | .ok (c, r) => text (c :: chars) r
  | c :: s =>
    if c.toNat < 0x20 then .error (.before .controlCharacter s) else text (c :: chars) s
termination_by s.length
decreasing_by
  · have := length_lt_of_escape _h
    simp only [List.length_cons]
    omega
  · simp

theorem length_lt_of_text (chars : List Char) : Shortens (text chars) := by
  intro s t r h
  fun_induction text chars s with
  | case1 => simp at h
  | case2 => cases h; simp
  | case3 => simp at h
  | case4 chars s c r' he ih =>
    have := ih h
    have := length_lt_of_escape he
    simp only [List.length_cons]
    omega
  | case5 => simp at h
  | case6 chars c s _ _ _ ih =>
    have := ih h
    simp only [List.length_cons]
    omega

/-- A string from its opening quote on. -/
def quoted (s : List Char) : Except Fault (List Char × List Char) :=
  match s with
  | '"' :: s => text [] s
  | s => .error (.within .expectedValue s)

/-- A value that is not made of other values, from its first character on. -/
def atom (s : List Char) : Except Fault (Atom × List Char) :=
  match s with
  | [] => .error (.within .endInValue [])
  | 'n' :: s => do
    let s ← literal ['u', 'l', 'l'] s
    pure (.null, s)
  | 't' :: s => do
    let s ← literal ['r', 'u', 'e'] s
    pure (.boolean true, s)
  | 'f' :: s => do
    let s ← literal ['a', 'l', 's', 'e'] s
    pure (.boolean false, s)
  | '"' :: s => do
    let (chars, s) ← text [] s
    pure (.text (String.ofList chars), s)
  | c :: s =>
    if c = '-' ∨ c.isDigit then do
      let (n, r) ← numeral (c :: s)
      let x ← n.number r
      pure (.number x, r)
    else .error (.within .expectedValue (c :: s))

/-! ## Progress -/

theorem length_lt_of_spanDigits {s : List Char} (h : startsWithDigit s) :
    (spanDigits s).2.length < s.length := by
  cases s with
  | nil => simp [startsWithDigit] at h
  | cons c s =>
    have hc : c.isDigit := by simpa [startsWithDigit] using h
    have := length_snd_spanDigits_le s
    simp only [spanDigits, List.dropWhile_cons, hc, if_true, List.length_cons] at this ⊢
    omega

theorem length_lt_of_whole : Shortens whole := by
  intro s ds r h
  unfold whole at h
  split at h
  · split at h
    · simp at h
    · cases h; simp
  · split at h
    · next hd => cases h; exact length_lt_of_spanDigits hd
    · simp at h

theorem length_lt_of_fraction : Shortens fraction := by
  intro s ds r h
  unfold fraction at h
  split at h
  · next hd => cases h; exact length_lt_of_spanDigits hd
  · simp at h

theorem length_lt_of_exponent : Shortens exponent := by
  intro s e r h
  unfold exponent at h
  have key : ∀ (negative : Bool) (t : List Char), t.length ≤ s.length →
      (if startsWithDigit t then
        Except.ok ((negative, (spanDigits t).1), (spanDigits t).2)
      else .error (Fault.within (if t.isEmpty then .endInValue else .invalidNumber) t)) =
        Except.ok (e, r) → r.length < s.length := by
    intro negative t ht h
    split at h
    · next hd =>
      cases h
      exact Nat.lt_of_lt_of_le (length_lt_of_spanDigits hd) ht
    · simp at h
  split at h
  next negative t heq =>
    refine key negative t ?_ h
    split at heq <;> cases heq <;> simp

theorem length_le_of_fraction? {s r : List Char} {places : Option (List Char)}
    (h : fraction? s = .ok (places, r)) : r.length ≤ s.length := by
  unfold fraction? at h
  split at h
  · obtain ⟨⟨ds, r'⟩, h', h⟩ := map_eq_ok.mp h
    have := length_lt_of_fraction h'
    cases h
    simp only [List.length_cons]
    omega
  · cases h
    exact Nat.le_refl _

theorem length_le_of_exponent? {s r : List Char} {power : Option (Bool × List Char)}
    (h : exponent? s = .ok (power, r)) : r.length ≤ s.length := by
  unfold exponent? at h
  split at h
  · split at h
    · obtain ⟨⟨e, r'⟩, h', h⟩ := map_eq_ok.mp h
      have := length_lt_of_exponent h'
      cases h
      simp only [List.length_cons]
      omega
    · cases h
      exact Nat.le_refl _
  · cases h
    exact Nat.le_refl _

theorem length_lt_of_numeral : Shortens numeral := by
  intro s n r h
  unfold numeral at h
  split at h
  next negative t heq =>
  have ht : t.length ≤ s.length := by split at heq <;> cases heq <;> simp
  obtain ⟨⟨ds, s₁⟩, h₁, h⟩ := bind_eq_ok.mp h
  obtain ⟨⟨places, s₂⟩, h₂, h⟩ := bind_eq_ok.mp h
  obtain ⟨⟨power, s₃⟩, h₃, h⟩ := bind_eq_ok.mp h
  have := length_lt_of_whole h₁
  have := length_le_of_fraction? h₂
  have := length_le_of_exponent? h₃
  simp only [pure, Except.pure, Except.ok.injEq, Prod.mk.injEq] at h
  rw [← h.2]
  omega

theorem length_lt_of_atom : Shortens atom := by
  intro s a r h
  have key : ∀ {word t : List Char} {b : Atom},
      (literal word t >>= fun s => pure (b, s)) = Except.ok (a, r) → r.length < t.length + 1 := by
    intro word t b h
    obtain ⟨s', h', h⟩ := bind_eq_ok.mp h
    have := length_le_of_literal h'
    simp only [pure, Except.pure, Except.ok.injEq, Prod.mk.injEq] at h
    rw [← h.2]
    omega
  unfold atom at h
  split at h
  · simp at h
  · exact key h
  · exact key h
  · exact key h
  · obtain ⟨⟨chars, s'⟩, h', h⟩ := bind_eq_ok.mp h
    have := length_lt_of_text _ h'
    simp only [pure, Except.pure, Except.ok.injEq, Prod.mk.injEq] at h
    simp only [List.length_cons, ← h.2]
    omega
  · split at h
    · obtain ⟨⟨n, r'⟩, h', h⟩ := bind_eq_ok.mp h
      have := length_lt_of_numeral h'
      dsimp only at h
      obtain ⟨x, _, h⟩ := bind_eq_ok.mp h
      simp only [pure, Except.pure, Except.ok.injEq, Prod.mk.injEq] at h
      rw [← h.2]
      exact this
    · simp at h

end CatalogTypes.Json
