import CatalogTypes.Proofs.FreshNames
import CatalogTypes.Service.CommandLine

/-!
# Settings on the command line

A setting is an option together with its value, and `Setting.argument` writes it as one argument.
Reading takes such arguments one by one, each on its own (`ofArgument_argument`), so the order of
different options does not matter. What has been read of a list of settings is `Given.ofSettings`
at every point of the run (`readArguments_map_argument`); it turns into the configuration at the
end, unless an option that has one value comes twice.
-/

namespace CatalogTypes.Service

open Text

/-! ## Settings -/

/-- The name of a schema that a list between commas can hold. -/
abbrev ListedName := { name : String // ',' ∉ name.toList }

/-- An option and its value. -/
inductive Setting where
  | listen (address : String)
  /-- The address right behind the letter of the option. There `=` would be a sign between the two,
  and an empty address would be none at all. -/
  | listenShort (address : String) (attaches : ∃ c cs, address.toList = c :: cs ∧ c ≠ '=')
  | bodyLimit (leadingZeros : Nat) (limit : Fin UInt64.size)
  | excludeSchemas (first : ListedName) (others : List ListedName)
  | logLevel (level : String)

namespace Setting

/-- The setting as one argument. -/
def argument : Setting → String
  | listen address => "--listen=" ++ address
  | listenShort address _ => "-l" ++ address
  | bodyLimit leadingZeros limit =>
    "--body-limit=" ++ String.ofList (List.replicate leadingZeros '0') ++ decimal limit
  | excludeSchemas first others =>
    "--exclude-schema=" ++ ",".intercalate ((first :: others).map (·.val))
  | logLevel level => "--log-level=" ++ level

def address? : Setting → Option String
  | listen address | listenShort address _ => some address
  | _ => none

def limit? : Setting → Option Nat
  | bodyLimit _ limit => some limit
  | _ => none

def schemas : Setting → List String
  | excludeSchemas first others => (first :: others).map (·.val)
  | _ => []

def level? : Setting → Option String
  | logLevel level => some level
  | _ => none

def key : Setting → Key
  | listen _ | listenShort _ _ => .listen
  | bodyLimit _ _ => .bodyLimit
  | excludeSchemas _ _ => .excludeSchema
  | logLevel _ => .logLevel

/-- The value as it is written. -/
def text : Setting → String
  | listen address | listenShort address _ => address
  | bodyLimit leadingZeros limit =>
    String.ofList (List.replicate leadingZeros '0') ++ decimal limit
  | excludeSchemas first others => ",".intercalate ((first :: others).map (·.val))
  | logLevel level => level

end Setting

/-- What the settings ask for, whatever their order: schemas are excluded in the order in which they
appear, and what is not set is as by default. -/
def Config.ofSettings (xs : List Setting) : Config where
  listen := (xs.findSome? (·.address?)).getD (Config.listen {})
  bodyLimit := (xs.findSome? (·.limit?)).getD (Config.bodyLimit {})
  excluded := xs.flatMap (·.schemas)
  logLevel := (xs.findSome? (·.level?)).getD (Config.logLevel {})

/-- The options that have one value each, as often as they are set. -/
def singleKeys (xs : List Setting) : List Key := (xs.map (·.key)).filter (· ≠ .excludeSchema)

/-! ## Arguments one by one -/

theorem ofArgument_long (key : Key) (value : String) :
    Word.ofArgument ("--" ++ key.word ++ "=" ++ value) = .option key (some value) := by
  have cut : cut? '=' (key.word.toList ++ '=' :: value.toList) =
      some (key.word.toList, value.toList) := by
    refine cut?_eq_some_iff.mpr ⟨rfl, ?_⟩
    cases key
    all_goals decide
  have word : Word.ofLong (key.word.toList ++ '=' :: value.toList) = .option key (some value) := by
    simp only [Word.ofLong, cut, String.ofList_toList]
    cases key
    all_goals rfl
  have chars : ("--" ++ key.word ++ "=" ++ value).toList =
      '-' :: '-' :: (key.word.toList ++ '=' :: value.toList) := by
    simp
  rw [← word, Word.ofArgument, chars]
  cases key
  all_goals rfl

theorem ofArgument_short {address : String}
    (attaches : ∃ c cs, address.toList = c :: cs ∧ c ≠ '=') :
    Word.ofArgument ("-l" ++ address) = .option .listen (some address) := by
  obtain ⟨c, cs, eq, plain⟩ := attaches
  have chars : ("-l" ++ address).toList = '-' :: 'l' :: c :: cs := by simp [eq]
  have word : Word.ofArgument ("-l" ++ address) = Word.ofShort 'l' (c :: cs) := by
    rw [Word.ofArgument, chars]
    rfl
  rw [word, Word.ofShort, if_neg (by decide), if_pos rfl]
  · rw [← eq, String.ofList_toList]
  · exact List.cons_ne_nil c cs
  · exact fun _ h => plain (List.cons.inj h).1

theorem Setting.ofArgument_argument (x : Setting) :
    Word.ofArgument x.argument = .option x.key (some x.text) := by
  cases x with
  | listen address => exact ofArgument_long .listen address
  | listenShort address attaches => exact ofArgument_short attaches
  | bodyLimit leadingZeros limit =>
    have grouped : (bodyLimit leadingZeros limit).argument =
        "--body-limit=" ++ (bodyLimit leadingZeros limit).text := String.append_assoc
    rw [grouped]
    exact ofArgument_long .bodyLimit _
  | excludeSchemas first others => exact ofArgument_long .excludeSchema _
  | logLevel level => exact ofArgument_long .logLevel level

/-! ## Values -/

theorem parseLimit?_ofList {ds : List Char} (nonempty : ds ≠ [])
    (digits : ∀ d ∈ ds, d.isDigit) (fits : digitsValue ds < UInt64.size) :
    parseLimit? (String.ofList ds) = some (digitsValue ds) := by
  unfold parseLimit?
  extract_lets unsigned
  have same : unsigned = ds := by
    simp only [unsigned, String.toList_ofList]
    split
    · exact absurd (digits '+' List.mem_cons_self) (by decide)
    · rfl
  rw [same, if_pos]
  simpa [nonempty, fits] using digits

/-- Leading zeros count for nothing. -/
theorem digitsValue_replicate_append (n : Nat) (ds : List Char) :
    digitsValue (List.replicate n '0' ++ ds) = digitsValue ds := by
  induction n with
  | zero => rfl
  | succ n ih => exact ih

theorem parseLimit?_text (leadingZeros : Nat) (limit : Fin UInt64.size) :
    parseLimit? (Setting.bodyLimit leadingZeros limit).text = some limit.val := by
  have value : digitsValue (List.replicate leadingZeros '0' ++ digits limit) = limit := by
    rw [digitsValue_replicate_append, digitsValue_digits]
  have chars : (Setting.bodyLimit leadingZeros limit).text =
      String.ofList (List.replicate leadingZeros '0' ++ digits limit) := by
    rw [Setting.text, decimal, String.ofList_append]
  have nonempty : List.replicate leadingZeros '0' ++ digits limit ≠ [] :=
    List.append_ne_nil_of_right_ne_nil _ (Registry.digits_ne_nil _)
  have decimals : ∀ d ∈ List.replicate leadingZeros '0' ++ digits limit, d.isDigit := by
    intro d hd
    rcases List.mem_append.mp hd with hd | hd
    · rw [List.eq_of_mem_replicate hd]
      decide
    · exact Registry.isDigit_of_mem_digits d hd
  rw [chars, parseLimit?_ofList nonempty decimals (by rw [value]; exact limit.isLt), value]

theorem listParts_text (first : ListedName) (others : List ListedName) :
    listParts (Setting.excludeSchemas first others).text =
      (Setting.excludeSchemas first others).schemas := by
  have plain : ∀ name ∈ ((first :: others).map (·.val)).map (·.toList), ',' ∉ name := by
    intro name hname
    rw [List.map_map] at hname
    obtain ⟨listed, -, rfl⟩ := List.mem_map.mp hname
    exact listed.property
  rw [listParts, Setting.text, String.toList_intercalate]
  show (([','].intercalate _).splitOn ',').map _ = _
  rw [List.splitOn_intercalate ',' plain (by simp), List.map_map]
  simp [Function.comp_def, Setting.schemas]

/-! ## Runs -/

/-- The values that have been read of the settings. -/
def Given.ofSettings (xs : List Setting) : Given where
  listen := xs.findSome? (·.address?)
  bodyLimit := xs.findSome? (·.limit?)
  excluded := xs.flatMap (·.schemas)
  logLevel := xs.findSome? (·.level?)

theorem singleKeys_append (xs ys : List Setting) :
    singleKeys (xs ++ ys) = singleKeys xs ++ singleKeys ys := by
  simp [singleKeys]

theorem mem_singleKeys_iff {xs : List Setting} {key : Key} :
    key ∈ singleKeys xs ↔ key ∈ xs.map (·.key) ∧ key ≠ .excludeSchema := by
  simp [singleKeys]

/-- An option that has one value has it just if it is set. -/
theorem isSome_findSome?_iff {α : Type} {value? : Setting → Option α} {key : Key}
    (single : key ≠ .excludeSchema) (h : ∀ x, (value? x).isSome ↔ x.key = key)
    (xs : List Setting) : (xs.findSome? value?).isSome ↔ key ∈ singleKeys xs := by
  rw [List.findSome?_isSome_iff, mem_singleKeys_iff, and_iff_left single, List.mem_map]
  exact exists_congr fun x => and_congr_right fun _ => h x

theorem nodup_singleKeys_concat_iff (xs : List Setting) (x : Setting) :
    (singleKeys (xs ++ [x])).Nodup ↔ (singleKeys xs).Nodup ∧ x.key ∉ singleKeys xs := by
  rw [singleKeys_append]
  by_cases single : x.key ≠ .excludeSchema
  · have one : singleKeys [x] = [x.key] := List.filter_cons_of_pos (decide_eq_true single)
    rw [one, List.nodup_append_comm, List.singleton_append, List.nodup_cons, and_comm]
  · have none : singleKeys [x] = [] :=
      List.filter_cons_of_neg (fun h => single (of_decide_eq_true h))
    have absent : x.key ∉ singleKeys xs :=
      fun h => single (mem_singleKeys_iff.mp h).2
    rw [none, List.append_nil, and_iff_left absent]

/-- A first value stays when another setting follows. -/
theorem Given.ofSettings_concat (xs : List Setting) (x : Setting) :
    ofSettings (xs ++ [x]) =
      { listen := (ofSettings xs).listen.or x.address?
        bodyLimit := (ofSettings xs).bodyLimit.or x.limit?
        excluded := (ofSettings xs).excluded ++ x.schemas
        logLevel := (ofSettings xs).logLevel.or x.level? } := by
  simp [ofSettings, List.findSome?_append]

/-- One setting more is put beside those before it, unless its option has its one value already. -/
theorem Given.put_ofSettings (xs : List Setting) (x : Setting) :
    (ofSettings xs).put x.text x.key =
      if x.key ∈ singleKeys xs then .error .repeatedOption else .ok (ofSettings (xs ++ [x])) := by
  have listen : (ofSettings xs).listen.isSome ↔ Key.listen ∈ singleKeys xs :=
    isSome_findSome?_iff (by decide)
      (fun y => by cases y <;> simp [Setting.address?, Setting.key]) xs
  have limit : (ofSettings xs).bodyLimit.isSome ↔ Key.bodyLimit ∈ singleKeys xs :=
    isSome_findSome?_iff (by decide) (fun y => by cases y <;> simp [Setting.limit?, Setting.key]) xs
  have level : (ofSettings xs).logLevel.isSome ↔ Key.logLevel ∈ singleKeys xs :=
    isSome_findSome?_iff (by decide) (fun y => by cases y <;> simp [Setting.level?, Setting.key]) xs
  rw [ofSettings_concat]
  cases x with
  | listen address | listenShort address attaches =>
    refine ite_congr (propext listen) (fun _ => rfl) fun new => ?_
    have unset : (ofSettings xs).listen = none := by simpa using mt listen.mp new
    simp [unset, Setting.text, Setting.address?, Setting.limit?, Setting.schemas, Setting.level?]
  | bodyLimit leadingZeros n =>
    refine ite_congr (propext limit) (fun _ => rfl) fun new => ?_
    have unset : (ofSettings xs).bodyLimit = none := by simpa using mt limit.mp new
    rw [parseLimit?_text]
    simp [unset, Setting.address?, Setting.limit?, Setting.schemas, Setting.level?]
  | excludeSchemas first others =>
    have repeatable : (Setting.excludeSchemas first others).key ∉ singleKeys xs :=
      fun h => (mem_singleKeys_iff.mp h).2 rfl
    rw [if_neg repeatable, Setting.key, put, listParts_text]
    simp [Setting.address?, Setting.limit?, Setting.level?]
  | logLevel word =>
    refine ite_congr (propext level) (fun _ => rfl) fun new => ?_
    have unset : (ofSettings xs).logLevel = none := by simpa using mt level.mp new
    simp [unset, Setting.text, Setting.address?, Setting.limit?, Setting.schemas, Setting.level?]

/-- From any point of a run on, the settings that are left are read. -/
theorem readArguments_map_argument (done xs : List Setting) (h : (singleKeys done).Nodup) :
    readArguments (.ofSettings done) none (xs.map (·.argument)) =
      if (singleKeys (done ++ xs)).Nodup then .ok (.ofSettings (done ++ xs))
      else .error .repeatedOption := by
  induction xs generalizing done with
  | nil =>
    rw [List.append_nil, if_pos h]
    rfl
  | cons x xs ih =>
    have distinct : (singleKeys (done ++ [x])).Nodup ↔ x.key ∉ singleKeys done := by
      rw [nodup_singleKeys_concat_iff, and_iff_right h]
    rw [List.append_cons]
    rw [List.map_cons, readArguments, x.ofArgument_argument]
    show (Given.put _ _ _ >>= fun g => readArguments g none _) = _
    rw [Given.put_ofSettings]
    split
    · next before =>
      rw [singleKeys_append, if_neg fun all => distinct.mp all.of_append_left before]
      rfl
    · next new => exact ih (done ++ [x]) (distinct.mpr new)

/-- Whatever the order of the settings and the way in which each of them is written, they are read
as the configuration that they ask for. What is set twice is refused if it has one value. -/
theorem ofCommandLine_argument (program : String) (xs : List Setting) :
    Config.ofCommandLine (program :: xs.map (·.argument)) =
      if (singleKeys xs).Nodup then .ok (Config.ofSettings xs) else .error .repeatedOption := by
  have run := readArguments_map_argument [] xs List.nodup_nil
  rw [List.nil_append] at run
  show (readArguments (.ofSettings []) none (xs.map (·.argument))).map _ = _
  rw [run]
  split
  · rfl
  · rfl

end CatalogTypes.Service
