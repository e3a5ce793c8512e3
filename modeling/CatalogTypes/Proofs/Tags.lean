import CatalogTypes.Emit.Go
import CatalogTypes.Proofs.Literals

/-!
# Tags are read back

The tag of a field is a string literal of Go, and in it stands a second one, which holds the key of
the field in JSON and its options. Both are read back (`readTag?_tag`): the field is never skipped,
not even when its raw name is a dash. A key ends at the first comma, so the raw name is the key
exactly if it has no comma (`keepsName_iff`).
-/

namespace CatalogTypes.Go

open Text

/-! ## String literals -/

/-- What a letter after a backslash stands for. -/
def simpleEscape? : Char → Option Char
  | 'a' => some '\x07'
  | 'b' => some '\x08'
  | 'f' => some '\x0c'
  | 'n' => some '\n'
  | 'r' => some '\r'
  | 't' => some '\t'
  | 'v' => some '\x0b'
  | '\\' => some '\\'
  | '"' => some '"'
  | _ => none

/-- The character that `n` hexadecimal digits denote. -/
def codePoint? (n : Nat) (s : List Char) : Option (Char × List Char) :=
  (Swift.hexNumber? (s.take n)).bind fun k =>
    if n ≤ s.length ∧ k.isValidChar then some (Char.ofNat k, s.drop n) else none

/-- An escape after its backslash. Escapes for single bytes need not make up a text, so they are
left out. -/
def escape? (s : List Char) : Option (Char × List Char) :=
  match s with
  | [] => none
  | 'u' :: s => codePoint? 4 s
  | 'U' :: s => codePoint? 8 s
  | c :: s => (simpleEscape? c).map (·, s)

theorem length_lt_of_escape? {s r : List Char} {c : Char} (h : escape? s = some (c, r)) :
    r.length < s.length := by
  have digits : ∀ {n : Nat} {t : List Char}, codePoint? n t = some (c, r) →
      r.length < t.length + 1 := by
    intro n t h
    obtain ⟨k, -, value⟩ := Option.bind_eq_some_iff.mp h
    split at value
    · cases value
      rw [List.length_drop]
      omega
    · cases value
  unfold escape? at h
  split at h
  · cases h
  · exact digits h
  · exact digits h
  · obtain ⟨_, -, h⟩ := Option.map_eq_some_iff.mp h
    cases h
    simp

/-- A string between double quotes, from behind the first of them. It stands on one line. -/
def stringReader (s : List Char) : Option (List Char × List Char) :=
  match s with
  | [] => none
  | '"' :: s => some ([], s)
  | '\\' :: s =>
    match _h : escape? s with
    | none => none
    | some (c, r) => (stringReader r).map fun (cs, rest) => (c :: cs, rest)
  | c :: s => if c = '\n' then none else (stringReader s).map fun (cs, rest) => (c :: cs, rest)
termination_by s.length
decreasing_by
  · have := length_lt_of_escape? _h
    simp only [List.length_cons]
    omega
  · simp

theorem stringReader_escape {e c : Char} {s r : List Char} (h : escape? (e :: s) = some (c, r)) :
    stringReader ('\\' :: e :: s) = (stringReader r).map fun (cs, rest) => (c :: cs, rest) := by
  rw [stringReader]
  split
  · next h' => simp [h] at h'
  · next h' =>
    obtain ⟨rfl, rfl⟩ := Prod.mk.inj (Option.some.inj (h.symm.trans h'))
    rfl

theorem escape?_codePoint {c : Char} (h : c.toNat < 0x20) (s : List Char) :
    escape? ('u' :: '0' :: '0' :: hexDigit (c.toNat / 16) :: hexDigit (c.toNat % 16) :: s) =
      some (c, s) := by
  have high := hexValue?_hexDigit (c.toNat / 16) (by omega)
  have low := hexValue?_hexDigit (c.toNat % 16) (by omega)
  have zero : Json.hexValue? '0' = some 0 := by decide
  have number : Swift.hexNumber? ['0', '0', hexDigit (c.toNat / 16), hexDigit (c.toNat % 16)] =
      some c.toNat := by
    have value : 16 * (c.toNat / 16) + c.toNat % 16 = c.toNat := Nat.div_add_mod _ _
    simp [Swift.hexNumber?, high, low, zero, value]
  show codePoint? 4 _ = _
  simp only [codePoint?, List.take_succ_cons, List.take_zero, number, Option.bind_some,
    List.length_cons, List.drop_succ_cons, List.drop_zero, Char.ofNat_toNat]
  rw [if_pos ⟨by omega, c.valid⟩]

/-- The escapes that are written stand for the same characters here as in JSON. -/
theorem stringReader_escapeChar (c : Char) (s : List Char) :
    stringReader (escapeChar c ++ s) =
      (stringReader s).map fun (cs, rest) => (c :: cs, rest) := by
  unfold escapeChar
  split_ifs with quote backslash b t n f r control
  · subst quote
    exact stringReader_escape rfl
  · subst backslash
    exact stringReader_escape rfl
  · subst b
    exact stringReader_escape rfl
  · subst t
    exact stringReader_escape rfl
  · subst n
    exact stringReader_escape rfl
  · subst f
    exact stringReader_escape rfl
  · subst r
    exact stringReader_escape rfl
  · exact stringReader_escape (escape?_codePoint control s)
  · rw [List.singleton_append, stringReader]
    · rw [if_neg n]
    · exact quote
    · exact backslash

theorem reads_quote (cs : List Char) :
    StringReader.Reads stringReader (cs.flatMap escapeChar) cs := by
  intro rest
  induction cs with
  | nil => rw [List.flatMap_nil, List.nil_append, stringReader]
  | cons c cs ih =>
    rw [List.flatMap_cons, List.append_assoc, stringReader_escapeChar, ih]
    rfl

/-- A string that ends where the text does. -/
def whole? (read : StringReader) (s : List Char) : Option (List Char) :=
  (read s).bind fun (value, rest) => if rest.isEmpty then some value else none

/-- The contents of a string literal: what stands between backticks is taken as it is. -/
def literal? : List Char → Option (List Char)
  | '\x60' :: s => whole? (cut? '\x60') s
  | '"' :: s => whole? stringReader s
  | _ => none

theorem whole?_of_reads {read : StringReader} {body value : List Char}
    (h : read.Reads body value) : whole? read (body ++ ['"']) = some value := by
  rw [whole?, h]
  rfl

theorem literal?_quote (value : String) : literal? (quote value).toList = some value.toList := by
  rw [toList_quote, List.cons_append]
  exact whole?_of_reads (reads_quote _)

theorem literal?_raw {value : List Char} (h : '\x60' ∉ value) :
    literal? ('\x60' :: (value ++ ['\x60'])) = some value := by
  have cut : cut? '\x60' (value ++ ['\x60']) = some (value, []) := cut?_eq_some_iff.mpr ⟨rfl, h⟩
  show whole? (cut? '\x60') _ = _
  rw [whole?, cut]
  rfl

/-! ## Keys -/

/-- What a tag says of a field: that it is skipped, or else its key and its options. -/
inductive FieldKey where
  | skipped
  | named (name : String) (options : List String)
deriving DecidableEq, Repr

namespace FieldKey

/-- What stands before the first comma, and the options behind it. -/
def parts (value : List Char) : String × List String :=
  match cut? ',' value with
  | none => (String.ofList value, [])
  | some (name, options) => (String.ofList name, (options.splitOn ',').map String.ofList)

/-- A single dash skips the field. -/
def ofValue (value : List Char) : FieldKey :=
  if value = ['-'] then .skipped else .named (parts value).1 (parts value).2

theorem parts_of_not_mem {value : List Char} (h : ',' ∉ value) :
    parts value = (String.ofList value, []) := by
  rw [parts, cut?_eq_none_iff.mpr h]

/-- One option more at the end. -/
theorem parts_append (value option : List Char) (h : ',' ∉ option) :
    parts (value ++ ',' :: option) =
      ((parts value).1, (parts value).2 ++ [String.ofList option]) := by
  by_cases comma : ',' ∈ value
  · obtain ⟨⟨name, options⟩, cut⟩ := Option.ne_none_iff_exists'.mp fun none =>
      cut?_eq_none_iff.mp none comma
    obtain ⟨rfl, plain⟩ := cut?_eq_some_iff.mp cut
    have cut' : cut? ',' (name ++ ',' :: options ++ ',' :: option) =
        some (name, options ++ ',' :: option) := cut?_eq_some_iff.mpr ⟨by simp, plain⟩
    rw [parts, parts, cut, cut']
    simp only [List.splitOn_append_cons_self, List.splitOn_eq_singleton h, List.map_append,
      List.map_cons, List.map_nil]
  · have cut : cut? ',' (value ++ ',' :: option) = some (value, option) :=
      cut?_eq_some_iff.mpr ⟨rfl, comma⟩
    rw [parts_of_not_mem comma, parts, cut]
    simp only [List.splitOn_eq_singleton h, List.map_cons, List.map_nil, List.nil_append]

theorem comma_not_mem_parts (value : List Char) : ',' ∉ (parts value).1.toList := by
  rw [parts]
  split
  · next h =>
    rw [String.toList_ofList]
    exact cut?_eq_none_iff.mp h
  · next h =>
    rw [String.toList_ofList]
    exact (cut?_eq_some_iff.mp h).2

end FieldKey

/-- The value under the name `json`, which is a string literal. -/
def jsonValue? : List Char → Option (List Char)
  | 'j' :: 's' :: 'o' :: 'n' :: ':' :: '"' :: s => whole? stringReader s
  | _ => none

def readTag? (tag : String) : Option FieldKey :=
  ((literal? tag.toList).bind jsonValue?).map FieldKey.ofValue

/-! ## Tags -/

/-- What the tag of a field holds. -/
def tagValue (rawName : String) (omitEmpty : Bool) : String :=
  if omitEmpty then rawName ++ ",omitempty"
  else if rawName == "-" then "-,"
  else rawName

theorem readTag?_tag (rawName : String) (omitEmpty : Bool) :
    readTag? (tag rawName omitEmpty) = some (.ofValue (tagValue rawName omitEmpty).toList) := by
  let text := "json:" ++ quote (tagValue rawName omitEmpty)
  have value : jsonValue? text.toList = some (tagValue rawName omitEmpty).toList := by
    rw [String.toList_append, toList_quote]
    exact whole?_of_reads (reads_quote _)
  have contents : literal? (tag rawName omitEmpty).toList = some text.toList := by
    show literal?
      (if text.toList.contains '\x60' then quote text else "`" ++ text ++ "`").toList = _
    split
    · exact literal?_quote text
    · next h =>
      rw [String.toList_append, String.toList_append]
      exact literal?_raw (by simpa using h)
  rw [readTag?, contents, Option.bind_some, value]
  rfl

/-- The options that a tag has beside those that the raw name makes up. A dash gets an empty one, as
it would skip the field without. -/
def addedOptions (rawName : String) (omitEmpty : Bool) : List String :=
  if omitEmpty then ["omitempty"] else if rawName = "-" then [""] else []

theorem mem_addedOptions_iff {rawName : String} {omitEmpty : Bool} :
    "omitempty" ∈ addedOptions rawName omitEmpty ↔ omitEmpty := by
  unfold addedOptions
  split_ifs with omitted
  all_goals simp_all

theorem ofValue_tagValue (rawName : String) (omitEmpty : Bool) :
    FieldKey.ofValue (tagValue rawName omitEmpty).toList =
      .named (FieldKey.parts rawName.toList).1
        ((FieldKey.parts rawName.toList).2 ++ addedOptions rawName omitEmpty) := by
  have named : ∀ option : String, ',' ∉ option.toList →
      FieldKey.ofValue (rawName ++ "," ++ option).toList =
        .named (FieldKey.parts rawName.toList).1
          ((FieldKey.parts rawName.toList).2 ++ [option]) := by
    intro option h
    have value : (rawName ++ "," ++ option).toList = rawName.toList ++ ',' :: option.toList := by
      simp
    have other : rawName.toList ++ ',' :: option.toList ≠ ['-'] := fun same =>
      absurd (List.mem_singleton.mp (same ▸ List.mem_append_right _ List.mem_cons_self)) (by decide)
    rw [value, FieldKey.ofValue, if_neg other, FieldKey.parts_append _ _ h, String.ofList_toList]
  unfold tagValue addedOptions
  split_ifs with omitted dash same same
  · rw [← named "omitempty" (by decide), String.append_assoc]
    rfl
  · rw [← named "" (by decide), eq_of_beq dash]
    rfl
  · exact absurd (eq_of_beq dash) same
  · exact absurd (beq_iff_eq.mpr same) dash
  · have other : rawName.toList ≠ ['-'] := fun h => same (String.toList_inj.mp h)
    rw [FieldKey.ofValue, if_neg other, List.append_nil]

/-- The tag names the field by its raw name, and it has the option `omitempty` just if that is asked
for. -/
def KeepsName (rawName : String) (omitEmpty : Bool) : Prop :=
  ∃ options, readTag? (tag rawName omitEmpty) = some (.named rawName options) ∧
    ("omitempty" ∈ options ↔ omitEmpty)

theorem keepsName_iff {rawName : String} {omitEmpty : Bool} :
    KeepsName rawName omitEmpty ↔ ',' ∉ rawName.toList := by
  rw [KeepsName, readTag?_tag, ofValue_tagValue]
  constructor
  · rintro ⟨options, read, -⟩ comma
    have name : (FieldKey.parts rawName.toList).1 = rawName := by simp_all
    exact FieldKey.comma_not_mem_parts rawName.toList (name.symm ▸ comma)
  · intro plain
    refine ⟨_, by rw [FieldKey.parts_of_not_mem plain, String.ofList_toList], ?_⟩
    rw [List.nil_append, mem_addedOptions_iff]

/-- No tag skips its field. The key that it gives is the raw name up to the first comma, and options
are whatever the raw name has behind that, besides what is asked for. So the raw name is kept
exactly if there is no comma in it. -/
theorem tag_readBack (rawName : String) (omitEmpty : Bool) :
    (∃ options,
      readTag? (tag rawName omitEmpty) =
        some (.named (FieldKey.parts rawName.toList).1 options) ∧
      ("omitempty" ∈ options ↔
        omitEmpty ∨ "omitempty" ∈ (FieldKey.parts rawName.toList).2)) ∧
    (KeepsName rawName omitEmpty ↔ ',' ∉ rawName.toList) := by
  refine ⟨⟨_, (readTag?_tag _ _).trans (congrArg some (ofValue_tagValue _ _)), ?_⟩, keepsName_iff⟩
  rw [List.mem_append, mem_addedOptions_iff, or_comm]

/-- A column `a,b` gets the key `a`. -/
theorem tag_cutsName :
    readTag? (tag "a,b" false) = some (.named "a" ["b"]) ∧ ¬ KeepsName "a,b" false := by
  refine ⟨?_, fun keeps => keepsName_iff.mp keeps (by decide)⟩
  rw [readTag?_tag]
  decide

end CatalogTypes.Go
